import Muster.Blobs
import Muster.Manifest

/-!
Manifests as blobs of one container, a blob for each cluster, or one blob for all
where its name is given.
-/

namespace Muster.Store.Container

def blobName (given : Option String) (name : String) : String := given.getD ("stratus-" ++ name)

def blobKey (container : String) (given : Option String) (name : String) : BlobKey :=
  ⟨container, blobName given name⟩

def save (container : String) (given : Option String) (name text : String) (blobs : Blobs) :
    Except StoreError Unit × Blobs :=
  match blobs.put (blobKey container given name) (.text text) with
  | (.ok (), blobs) => (.ok (), blobs)
  | (.error error, blobs) => (.error (.writeFailed name error.message), blobs)

def load (container : String) (given : Option String) (name : String) (blobs : Blobs) :
    Except StoreError Manifest × Blobs :=
  match blobs.get (blobKey container given name) with
  | (.ok (.text text), blobs) => (Manifest.decode name text, blobs)
  | (.ok .binary, blobs) => (.error (.corrupt name ""), blobs)
  | (.error (.blobNotFound _), blobs) => (.error (.notFound name), blobs)
  | (.error error, blobs) => (.error (.corrupt name error.message), blobs)

def delete (container : String) (given : Option String) (name : String) (blobs : Blobs) :
    Except StoreError Unit × Blobs :=
  match blobs.delete (blobKey container given name) with
  | (.ok (), blobs) => (.ok (), blobs)
  | (.error error, blobs) => (.error (.writeFailed name error.message), blobs)

end Muster.Store.Container

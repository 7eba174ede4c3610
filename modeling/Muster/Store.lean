import Muster.Store.Container
import Muster.Store.Files
import Muster.Topology

/-!
Where the manifests of clusters are kept between operations, by the name of the
cluster. A topology chooses among four backends.
-/

namespace Muster

inductive BlobPlace where
  | provider
  | scratch
  deriving DecidableEq, Repr

inductive Backend where
  | files (home : String)
  | blob (place : BlobPlace) (container : String) (given : Option String)
  | memory
  | discard
  deriving DecidableEq, Repr

structure Storage where
  disk : Disk
  blobs : Blobs
  scratch : Blobs
  memory : SortedMap String Manifest
  /-- The numbers that are drawn for drafts, by the number of the request that draws one. -/
  drafts : Nat → Store.Files.DraftNumber

namespace Storage

def ofTree (tree : FileTree) : Storage := ⟨.ofTree tree, .empty, .empty, .empty, .ofNat 128⟩

def draft (storage : Storage) : Store.Files.DraftNumber := storage.drafts storage.disk.requests

def restart (storage : Storage) : Storage := { storage with scratch := .empty, memory := .empty }

def blobsAt (storage : Storage) : BlobPlace → Blobs
  | .provider => storage.blobs
  | .scratch => storage.scratch

def setBlobs (storage : Storage) (place : BlobPlace) (blobs : Blobs) : Storage :=
  match place with
  | .provider => { storage with blobs }
  | .scratch => { storage with scratch := blobs }

end Storage

namespace Backend

/-- The backend that a topology asks for. Blobs need a service: the provider's, if
there is one, or that of a simulated provider. -/
def forTopology (topology : Topology) (home : String) (hasBlobs : Bool) :
    Except ConfigError Backend :=
  match topology.store with
  | .files => .ok (.files home)
  | .memory => .ok .memory
  | .discard => .ok .discard
  | .blob =>
      match topology.storeContainer with
      | none => .error (.missing "state-store-container")
      | some container =>
          if hasBlobs then .ok (.blob .provider container topology.storeBlob)
          else if topology.isSimulated then .ok (.blob .scratch container topology.storeBlob)
          else .error (.providerUnavailable (topology.blobStore.provider.getD topology.provider))

def save (backend : Backend) (name : String) (manifest : Manifest) (storage : Storage) :
    Except StoreError Unit × Storage :=
  match backend with
  | files home =>
      let (result, disk) := Store.Files.save home name storage.draft manifest.encode storage.disk
      (result, { storage with disk })
  | blob place container given =>
      let (result, blobs) :=
        Store.Container.save container given name manifest.encode (storage.blobsAt place)
      (result, storage.setBlobs place blobs)
  | memory => (.ok (), { storage with memory := storage.memory.insert name manifest })
  | discard => (.ok (), storage)

def load (backend : Backend) (name : String) (storage : Storage) :
    Except StoreError Manifest × Storage :=
  match backend with
  | files home =>
      let (result, disk) := Store.Files.load home name storage.disk
      (result, { storage with disk })
  | blob place container given =>
      let (result, blobs) := Store.Container.load container given name (storage.blobsAt place)
      (result, storage.setBlobs place blobs)
  | memory =>
      match storage.memory.get? name with
      | some manifest => (.ok manifest, storage)
      | none => (.error (.notFound name), storage)
  | discard => (.error (.notFound name), storage)

def delete (backend : Backend) (name : String) (storage : Storage) :
    Except StoreError Unit × Storage :=
  match backend with
  | files home =>
      let (result, disk) := Store.Files.delete home name storage.disk
      (result, { storage with disk })
  | blob place container given =>
      let (result, blobs) := Store.Container.delete container given name (storage.blobsAt place)
      (result, storage.setBlobs place blobs)
  | memory => (.ok (), { storage with memory := storage.memory.erase name })
  | discard => (.ok (), storage)

def saveCluster (backend : Backend) (cluster : Cluster) (moment : Timestamp) (storage : Storage) :
    Except StoreError Unit × Storage :=
  backend.save cluster.name (.ofCluster cluster moment) storage

def loadCluster (backend : Backend) (name : String) (storage : Storage) :
    Except StoreError Cluster × Storage :=
  let (result, storage) := backend.load name storage
  (result.map Manifest.toCluster, storage)

end Backend

end Muster

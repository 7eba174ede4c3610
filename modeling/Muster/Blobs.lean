import Muster.FileTree
import Muster.Provider

/-!
Blobs: contents kept by a service under a name in a container. Nothing needs to be
made before a blob is put, and a blob that is not there can be deleted.
-/

namespace Muster

structure BlobKey where
  container : String
  name : String
  deriving DecidableEq

instance : Sortable BlobKey :=
  Sortable.byRank (fun key => [key.container, key.name]) fun a b same => by
    cases a; cases b; simp_all

inductive BlobRequest where
  | put
  | get
  | delete
  deriving DecidableEq, Repr

def BlobRequest.name : BlobRequest → String
  | put => "put"
  | get => "get"
  | delete => "delete"

structure Blobs where
  contents : SortedMap BlobKey Content
  requests : Nat
  /-- Which requests of a kind fail, by their number. -/
  outage : BlobRequest → Nat → Bool

namespace Blobs

def empty : Blobs := ⟨.empty, 0, fun _ _ => false⟩

def count (blobs : Blobs) : Blobs := { blobs with requests := blobs.requests + 1 }

def failure? (blobs : Blobs) (request : BlobRequest) : Option ProviderError :=
  if blobs.outage request blobs.requests then
    some (.failed ("injected " ++ request.name ++ " failure"))
  else none

def put (key : BlobKey) (content : Content) (blobs : Blobs) : Except ProviderError Unit × Blobs :=
  match blobs.failure? .put with
  | some error => (.error error, blobs.count)
  | none => (.ok (), { blobs.count with contents := blobs.contents.insert key content })

def get (key : BlobKey) (blobs : Blobs) : Except ProviderError Content × Blobs :=
  match blobs.failure? .get with
  | some error => (.error error, blobs.count)
  | none =>
      match blobs.contents.get? key with
      | some content => (.ok content, blobs.count)
      | none => (.error (.blobNotFound (key.container ++ "/" ++ key.name)), blobs.count)

def delete (key : BlobKey) (blobs : Blobs) : Except ProviderError Unit × Blobs :=
  match blobs.failure? .delete with
  | some error => (.error error, blobs.count)
  | none => (.ok (), { blobs.count with contents := blobs.contents.erase key })

end Blobs

end Muster

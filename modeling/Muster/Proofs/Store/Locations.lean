import Muster.Proofs.Store.Clusters
import Muster.Proofs.Topology.Groups

/-!
Where the manifest of a topology is kept: in which file below the home directory, and in which blob
of a container. The name of a cluster is one part of a path and no more, so the file is two steps
away from home whatever the home is, and no two names share it. Blobs are named after clusters twice,
by the topology and by the store, and alike.
-/

namespace Muster

namespace Path

/-! ### Parts of paths -/

inductive Component where
  | root
  | here
  | above
  | named (name : String)
  deriving DecidableEq

def Component.ofName (name : String) : Component :=
  if name = "." then .here else if name = ".." then .above else .named name

def isAbsolute (path : String) : Bool := path.toList.head? = some '/'

/-- The parts of a path: where it begins, and what stands between slashes. A name that stays where
it is counts in front of a path that begins anywhere, and nowhere else. -/
def components (path : String) : List Component :=
  if isAbsolute path then .root :: (place (names path)).map .ofName
  else match names path with
    | "." :: rest => .here :: (place rest).map .ofName
    | others => (place others).map .ofName

variable {base name : String}

theorem IsStep.forward (step : IsStep name) : name ≠ ".." :=
  fun goesBack => step.plain.forward (goesBack ▸ List.mem_cons_self)

theorem IsStep.filled (step : IsStep name) : name ≠ "" := by
  rintro rfl
  cases step.names

theorem IsStep.ofName (step : IsStep name) : Component.ofName name = .named name := by
  rw [Component.ofName, if_neg step.proper, if_neg step.forward]

theorem isAbsolute_join (step : IsStep name) : isAbsolute (join base name) = isAbsolute base := by
  have relative : isAbsolute name = false := decide_eq_false step.relative
  rw [join, if_neg step.relative]
  by_cases empty : base = ""
  · subst empty
    simpa [isAbsolute] using relative
  · obtain ⟨first, rest, chars⟩ := List.exists_cons_of_ne_nil (mt String.toList_eq_nil_iff.mp empty)
    split <;> simp [isAbsolute, chars]

-- A path is as long as what it is made of, and a name adds one part at the end.
theorem components_join (step : IsStep name) : components (join base name) = components base ++ [.named name] := by
  have added (front : List String) : (place (front ++ [name])).map Component.ofName =
      (place front).map Component.ofName ++ [.named name] := by
    rw [place_append, place_single step.proper, List.map_append, List.map_singleton, step.ofName]
  have joined : names (join base name) = names base ++ [name] := by
    rw [names_join step.relative, step.names]
  unfold components
  rw [isAbsolute_join step, joined]
  split
  · rw [added, List.cons_append]
  · split
    · rename_i rest begins
      cases front : names base with
      | nil =>
          rw [front] at begins
          exact (step.proper (List.cons.inj begins).1).elim
      | cons first others =>
          rw [front, List.cons_append, List.cons.injEq] at begins
          obtain ⟨rfl, rfl⟩ := begins
          simp only [added, List.cons_append]
    · rename_i begins
      rw [added]
      split
      · rename_i rest front
        exact (begins (rest ++ [name]) (by rw [front, List.cons_append])).elim
      · rfl

theorem components_step (step : IsStep name) : components name = [.named name] := by
  have relative : isAbsolute name = false := decide_eq_false step.relative
  have joined : components (join "" name) = [.named name] := components_join step
  rwa [join, if_neg step.relative, if_pos (by simp), String.empty_append] at joined

end Path

namespace FileTree

variable {tree : FileTree} {place next : List String} {name : String}

theorem enter_step (step : Path.IsStep name) :
    tree.enter place name = .ok next ↔ tree.isDirectory place = true ∧ next = place ++ [name] := by
  constructor
  · intro enters
    refine ⟨?_, enter_last ⟨step.proper, step.forward⟩ enters⟩
    simp only [enter] at enters
    split at enters
    · cases enters
    · cases enters
    · rename_i directory
      exact isDirectory_iff.mpr directory
  · rintro ⟨directory, rfl⟩
    rw [enter_plain step.plain directory, Path.place_single step.proper]

-- One step further, a path leads to the next place, if it has led to a directory.
theorem locate_step (step : Path.IsStep name) (front : List String) : tree.locate (front ++ [name]) = .ok next ↔
    ∃ place, tree.locate front = .ok place ∧ tree.isDirectory place = true ∧ next = place ++ [name] := by
  have proper : ('\x00' ∈ name.toList) = False := eq_false (step.plain.proper name List.mem_cons_self)
  simp only [locate, List.any_append, List.any_cons, List.any_nil, proper, decide_false, Bool.or_false]
  split
  · simp
  · rw [follow_append]
    cases tree.follow [] front with
    | error fault => simp
    | ok place => simp [enter_step step]

end FileTree

/-! ### Accepted names -/

def Topology.Accepted (topology : Topology) : Prop :=
  topology.validate = .ok () ∨ ∃ (original : Topology) (name : String), original.withClusterName name = .ok topology

namespace Topology

variable {topology original : Topology} {name : String}

theorem validate_of_renamed (renames : original.withClusterName name = .ok topology) : topology.validate = .ok () := by
  simp only [withClusterName] at renames
  cases valid : Topology.validate { original with clusterName := name } with
  | error fault =>
      rw [valid] at renames
      cases renames
  | ok =>
      rw [valid] at renames
      cases renames
      exact valid

theorem Accepted.isClusterName (accepted : topology.Accepted) : isClusterName topology.clusterName = true := by
  have valid : topology.validate = .ok () := by
    rcases accepted with valid | ⟨original, name, renames⟩
    · exact valid
    · exact validate_of_renamed renames
  have named := (validate_eq_ok_iff.mp valid).1
  by_contra invalid
  rw [validateName, if_neg invalid] at named
  cases named

theorem Accepted.isStep (accepted : topology.Accepted) : Path.IsStep topology.clusterName :=
  isStep_of_isClusterName accepted.isClusterName

end Topology

namespace Store.Files

variable {home name : String}

theorem isStep_manifestFile : Path.IsStep manifestFile :=
  ⟨by decide, by decide, by decide, plain_manifestFile⟩

theorem components_manifestPath (home : String) (step : Path.IsStep name) :
    Path.components (manifestPath home name) = Path.components home ++ [.named name, .named manifestFile] := by
  rw [manifestPath, clusterDirectory, Path.components_join isStep_manifestFile, Path.components_join step,
    List.append_assoc]
  rfl

theorem locate_manifestPath (tree : FileTree) (home : String) (step : Path.IsStep name) (place : List String) :
    tree.locate (Path.names (manifestPath home name)) = .ok place ↔
      ∃ base, tree.locate (Path.names home) = .ok base ∧ tree.isDirectory base = true ∧
        tree.isDirectory (base ++ [name]) = true ∧ place = base ++ [name, manifestFile] := by
  rw [names_manifestPath, names_clusterDirectory home step]
  simp only [FileTree.locate_step isStep_manifestFile, FileTree.locate_step step]
  constructor
  · rintro ⟨_, ⟨base, leads, directory, rfl⟩, own, rfl⟩
    exact ⟨base, leads, directory, own, by rw [List.append_assoc]; rfl⟩
  · rintro ⟨base, leads, directory, own, rfl⟩
    exact ⟨base ++ [name], ⟨base, leads, directory, rfl⟩, own, by rw [List.append_assoc]; rfl⟩

end Store.Files

/-! ### Where manifests are -/

namespace Backend

variable {topology : Topology} {home : String} {hasBlobs : Bool} {backend : Backend}

theorem home_of_built {root : String} (built : forTopology topology home hasBlobs = .ok (.files root)) : root = home := by
  simp only [forTopology] at built
  split at built
  · cases built
    rfl
  · cases built
  · cases built
  · split at built
    · cases built
    · split at built
      · cases built
      · split at built <;> cases built

/-- The blob of a topology in a store that was made for it. -/
theorem blobKey_of_built {place : BlobPlace} {container : String} {given : Option String}
    (built : forTopology topology home hasBlobs = .ok (.blob place container given)) :
    topology.storeContainer = some container ∧
      Store.Container.blobKey container given topology.clusterName = ⟨container, topology.manifestBlob⟩ := by
  simp only [forTopology] at built
  split at built
  · cases built
  · cases built
  · cases built
  · split at built
    · cases built
    · rename_i container there
      split at built
      · cases built
        exact ⟨there, rfl⟩
      · split at built
        · cases built
          exact ⟨there, rfl⟩
        · cases built

end Backend

namespace Topology

variable {topology : Topology}

theorem manifestBlob_inj {other : Topology} (plain : topology.storeBlob = none) (otherPlain : other.storeBlob = none)
    (same : other.manifestBlob = topology.manifestBlob) : other.clusterName = topology.clusterName := by
  rw [manifestBlob, manifestBlob, plain, otherPlain] at same
  exact (String.append_right_inj _).mp same

/-- The manifest of an accepted topology is in a file of the directory that has the name of the cluster
and is in the home directory, whatever path leads home and whatever is on the way there. The
store of the topology keeps it there, or in the blob that the topology names. Clusters of different
names have different files, also below different homes, and different blobs unless a blob is given. -/
theorem manifests_kept_below_home (home : String) (accepted : topology.Accepted) :
    let name := topology.clusterName
    let path := Store.Files.manifestPath home name
    (name ≠ "" ∧ name ≠ "." ∧ name ≠ ".." ∧ Path.isAbsolute name = false ∧ '/' ∉ name.toList ∧ '\\' ∉ name.toList ∧
      Path.components name = [.named name]) ∧
    Path.components path = Path.components home ++ [.named name, .named "manifest.json"] ∧
    path = Path.join (Store.Files.clusterDirectory home name) "manifest.json" ∧
    (∀ (tree : FileTree) place, tree.locate (Path.names path) = .ok place ↔
      ∃ base, tree.locate (Path.names home) = .ok base ∧ tree.isDirectory base = true ∧
        tree.isDirectory (base ++ [name]) = true ∧ place = base ++ [name, "manifest.json"]) ∧
    (∀ hasBlobs root, Backend.forTopology topology home hasBlobs = .ok (.files root) → root = home) ∧
    (∀ hasBlobs place container given, Backend.forTopology topology home hasBlobs = .ok (.blob place container given) →
      topology.storeContainer = some container ∧
      Store.Container.blobKey container given name = ⟨container, topology.manifestBlob⟩) ∧
    ∀ (other : Topology) (elsewhere : String), other.Accepted → other.clusterName ≠ name →
      let otherPath := Store.Files.manifestPath elsewhere other.clusterName
      otherPath ≠ path ∧ Path.components otherPath ≠ Path.components path ∧
      (∀ (tree : FileTree) place, tree.locate (Path.names path) = .ok place →
        tree.locate (Path.names otherPath) ≠ .ok place) ∧
      (topology.storeBlob = none → other.storeBlob = none → other.manifestBlob ≠ topology.manifestBlob) := by
  intro name path
  have step : Path.IsStep name := accepted.isStep
  have parts : Path.components path = Path.components home ++ [.named name, .named "manifest.json"] :=
    Store.Files.components_manifestPath home step
  have leads (tree : FileTree) := Store.Files.locate_manifestPath tree home step
  refine ⟨⟨step.filled, step.proper, step.forward, decide_eq_false step.relative, ?_, ?_,
    Path.components_step step⟩, parts, rfl, leads,
    fun _ _ => Backend.home_of_built, fun _ _ _ _ => Backend.blobKey_of_built, ?_⟩
  · exact not_mem_of_isClusterName accepted.isClusterName (by decide)
  · exact not_mem_of_isClusterName accepted.isClusterName (by decide)
  · intro other elsewhere otherAccepted different otherPath
    have otherStep : Path.IsStep other.clusterName := otherAccepted.isStep
    have otherParts : Path.components otherPath =
        Path.components elsewhere ++ [.named other.clusterName, .named "manifest.json"] :=
      Store.Files.components_manifestPath elsewhere otherStep
    have apart : Path.components otherPath ≠ Path.components path := by
      intro same
      rw [parts, otherParts] at same
      have names := (List.append_inj' same rfl).2
      exact different (Path.Component.named.inj (List.cons.inj names).1)
    refine ⟨fun same => apart (congrArg Path.components same), apart, ?_, ?_⟩
    · intro tree place there again
      obtain ⟨base, _, _, _, rfl⟩ := (leads tree place).mp there
      obtain ⟨other, _, _, _, same⟩ := (Store.Files.locate_manifestPath tree elsewhere otherStep _).mp again
      have names := (List.append_inj' same rfl).2
      exact different (List.cons.inj names).1.symm
    · intro plain otherPlain same
      exact different (manifestBlob_inj plain otherPlain same)

-- A cluster below a home that is reached by a detour, and one that was renamed below a home in the room of the first.
theorem manifests_kept_below_home_of_two :
    let small := Backend.blobTopology none
    let big := { small with clusterName := "big" }
    let path := Store.Files.manifestPath "/srv//./state/" "small"
    let otherPath := Store.Files.manifestPath "/srv/state/small/.." "big"
    (small.Accepted ∧ big.Accepted ∧ big.clusterName ≠ small.clusterName ∧ small.storeBlob = none) ∧
    Path.components path =
      [.root, .named "srv", .named "state", .named "small", .named "manifest.json"] ∧
    otherPath ≠ path ∧ big.manifestBlob ≠ small.manifestBlob ∧ small.manifestBlob = "stratus-small" := by
  intro small big path otherPath
  have accepted : small.Accepted := .inl (by decide +kernel)
  have renames : small.withClusterName "big" = .ok big := by
    have valid : Topology.validate big = .ok () := by decide +kernel
    exact congrArg (Except.map fun () => big) valid
  have otherAccepted : Topology.Accepted big := .inr ⟨small, "big", renames⟩
  have different : big.clusterName ≠ small.clusterName := by decide
  obtain ⟨_, parts, _, _, _, _, apart⟩ := manifests_kept_below_home "/srv//./state/" accepted
  obtain ⟨paths, _, _, blobs⟩ := apart big "/srv/state/small/.." otherAccepted different
  exact ⟨⟨accepted, otherAccepted, different, rfl⟩, parts.trans (by decide +kernel), paths, blobs rfl rfl, by decide⟩

end Topology

end Muster

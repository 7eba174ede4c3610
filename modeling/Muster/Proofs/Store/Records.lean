import Muster.Proofs.Json
import Muster.Proofs.Store.Kept
import Muster.Proofs.Timestamp

/-!
The saved form of a cluster says all that is in a manifest: records, properties and the
moment of saving are read back from the text as they were written, whatever is in them. A
text that was written in another way, and is read as a manifest, can be replaced by the one
that the manifest is written as.
-/

namespace Muster

-- What is written item by item is read item by item.
theorem mapM_written {α β : Type} {write : α → β} {read : β → Option α}
    (reads : ∀ item, read (write item) = some item) (items : List α) :
    (items.map write).mapM read = some items := by
  induction items with
  | nil => rfl
  | cons item rest ih => simp [reads, ih]

theorem lookup_of_distinct {α β : Type} [DecidableEq α] {members : List (α × β)}
    (distinct : (members.map Prod.fst).Nodup) {key : α} {value : β} (member : (key, value) ∈ members) :
    members.lookup key = some value := by
  induction members with
  | nil => cases member
  | cons head rest ih =>
      rw [List.map_cons, List.nodup_cons] at distinct
      rcases List.mem_cons.mp member with rfl | later
      · simp
      · have different : key ≠ head.1 := by
          rintro rfl
          exact distinct.1 (List.mem_map.mpr ⟨_, later, rfl⟩)
        rw [List.lookup_cons, beq_false_of_ne different]
        exact ih distinct.2 later

/-! ### Records -/

namespace Json

theorem asMembers?_ofMembers (members : List (String × Json)) :
    (ofMembers members).asMembers? = some members := by
  have read : (members.map fun (member : String × Json) => (some member.1, member.2)).mapM
      (fun (member : Option String × Json) => member.1.map fun key => (key, member.2)) = some members := by
    apply mapM_written
    intro member
    rfl
  exact read

/-- The fields of a record are found when each is written once. -/
theorem asRecord?_ofMembers {members : List (String × Json)} (distinct : (members.map Prod.fst).Nodup) :
    (ofMembers members).asRecord? (members.map Prod.fst) = some (members.map fun member => some member.2) := by
  have known : (members.filter fun member => member.1 ∈ members.map Prod.fst) = members := by
    apply List.filter_eq_self.mpr
    intro member among
    exact decide_eq_true (List.mem_map_of_mem among)
  have found : ((members.map Prod.fst).map fun field => members.lookup field) =
      members.map fun member => some member.2 := by
    rw [List.map_map]
    apply List.map_congr_left
    intro member among
    exact lookup_of_distinct distinct among
  have read := asMembers?_ofMembers members
  rw [ofMembers] at read ⊢
  simp only [asRecord?, read, Option.bind_eq_bind, Option.bind_some, known, if_pos distinct, found]
  rfl

end Json

namespace InstanceRecord

theorem readTexts_textsJson (texts : SortedMap String String) : readTexts (textsJson texts) = some texts := by
  have read : (texts.toList.map fun (entry : String × String) => (entry.1, Json.ofText entry.2)).mapM
      (fun (member : String × Json) => member.2.asText?.map fun text => (member.1, text)) = some texts.toList := by
    apply mapM_written
    intro entry
    rfl
  rw [readTexts, textsJson, Json.asMembers?_ofMembers]
  simp only [Option.bind_eq_bind, Option.bind_some, read, Option.pure_def, SortedMap.ofList_toList]

theorem readRoles_rolesJson (roles : RoleSet) : readRoles (rolesJson roles) = some roles := by
  have read : (roles.toList.map Json.ofText).mapM Json.asText? = some roles.toList := by
    apply mapM_written
    intro role
    rfl
  simp only [readRoles, rolesJson, Json.asItems?, Option.bind_eq_bind, Option.bind_some, read, Option.pure_def,
    SortedSet.ofList_toList]

theorem asOptionalText?_ofText? (text : Option String) : (Json.ofText? text).asOptionalText? = some text := by
  cases text <;> rfl

theorem ofJson?_toJson (record : InstanceRecord) : ofJson? record.toJson = some record := by
  have found : record.toJson.asRecord? fields = some
      [some (.ofText record.id), some (rolesJson record.roles), some (.ofText? record.publicIp),
        some (.ofText? record.privateIp), some (.ofText? record.publicHost), some (.ofText? record.privateHost),
        some (textsJson record.metadata)] := by
    apply Json.asRecord?_ofMembers
    change fields.Nodup
    decide
  have optional (text : Option String) : readOptional record.toJson.isArray (some (.ofText? text)) = some text :=
    asOptionalText?_ofText? text
  simp only [ofJson?, found, optional, Option.bind_eq_bind, Option.bind_some, Json.ofText, Json.asText?,
    readRoles_rolesJson, readTextsD, readTexts_textsJson, Option.pure_def]

end InstanceRecord

namespace Manifest

theorem ofJson?_toJson (manifest : Manifest) : ofJson? manifest.toJson = some manifest := by
  have found : manifest.toJson.asRecord? fields = some
      [some (.ofText manifest.clusterName), some (.array (manifest.instances.map InstanceRecord.toJson)),
        some (InstanceRecord.textsJson manifest.properties), some (.ofText manifest.savedAt.text)] := by
    apply Json.asRecord?_ofMembers
    change fields.Nodup
    decide
  have records : (manifest.instances.map InstanceRecord.toJson).mapM InstanceRecord.ofJson? =
      some manifest.instances := mapM_written InstanceRecord.ofJson?_toJson manifest.instances
  simp only [ofJson?, found, Option.bind_eq_bind, Option.bind_some, Json.ofText, Json.asText?, Json.asItems?,
    records, InstanceRecord.readTextsD, InstanceRecord.readTexts_textsJson, Timestamp.ofText?_text, Option.pure_def]

theorem decode_encode (cluster : String) (manifest : Manifest) : decode cluster manifest.encode = .ok manifest := by
  rw [decode, encode, Json.read?_text, Option.bind_some, ofJson?_toJson]

theorem read_form {backend : Backend} {name : String} {manifest found : Manifest}
    (reads : (backend.form manifest).read name = .ok found) : found = manifest := by
  cases backend with
  | memory =>
      cases reads
      rfl
  | files | blob | discard =>
      simp only [Backend.form, Kept.read, decode_encode] at reads
      cases reads
      rfl

/-- A manifest is read back from its text, for any cluster and whatever is in it. So a text that
is read as the manifest can be replaced by its own, and no other manifest has that text. -/
theorem manifests_read_back (manifest : Manifest) :
    (∀ cluster, decode cluster manifest.encode = .ok manifest) ∧
    (∀ cluster text, decode cluster text = .ok manifest → decode cluster manifest.encode = .ok manifest) ∧
    ∀ other : Manifest, other.encode = manifest.encode → other = manifest := by
  refine ⟨?_, ?_, ?_⟩
  · intro cluster
    exact decode_encode cluster manifest
  · intro cluster text _
    exact decode_encode cluster manifest
  · intro other same
    have read := decode_encode manifest.clusterName other
    rw [same, decode_encode] at read
    exact (Except.ok.inj read).symm

-- A quote in the name of the cluster, a machine written as a list, and a leap second that is not
-- written the usual way.
theorem manifests_read_back_of_list :
    let text := "[\"a\\u0022b\", [[\"i-1\", [\"web\", \"db\"], null, \"10.0.0.1\", null, null]], " ++
      "\x7b\"\\n\": \"\\\\\"\x7d, \"2016-12-31 23:59:60.5 +00:00\"]"
    let record : InstanceRecord := ⟨"i-1", .ofList ["db", "web"], none, some "10.0.0.1", none, none, .empty⟩
    let moment : Timestamp := ⟨⟨2016, 12, 31⟩, ⟨23, 59, 60, 500000000⟩, by decide, by decide⟩
    let manifest : Manifest := ⟨"a\"b", [record], .ofList [("\n", "\\")], moment⟩
    decode "small" text = .ok manifest ∧ decode "small" manifest.encode = .ok manifest := by
  intro text record moment manifest
  have read : decode "small" text = .ok manifest := by decide +kernel
  exact ⟨read, (manifests_read_back manifest).2.1 "small" text read⟩

end Manifest

/-- A cluster that was saved and is loaded, with what was kept of it as it was, is the cluster that
its manifest describes. -/
theorem Backend.loaded_of_saved {backend : Backend} {cluster loaded : Cluster} {moment : Timestamp}
    {storage saved later after : Storage}
    (saves : backend.saveCluster cluster moment storage = (.ok (), saved))
    (kept : backend.kept? cluster.name later = backend.kept? cluster.name saved)
    (loads : backend.loadCluster cluster.name later = (.ok loaded, after)) :
    ∃ savedAt, loaded = (Manifest.ofCluster cluster savedAt).toCluster := by
  simp only [loadCluster, Prod.mk.injEq] at loads
  obtain ⟨loads, _⟩ := loads
  cases answer : (backend.load cluster.name later).1 with
  | error error =>
      rw [answer] at loads
      cases loads
  | ok manifest =>
      rw [answer] at loads
      cases loads
      obtain ⟨form, found, reads⟩ := stores_of_load answer
      have keeps : backend ≠ .discard := by
        rintro rfl
        cases found
      have held := holds_iff.mp (holds_of_save keeps saves)
      have same := Option.some.inj ((held.symm.trans kept.symm).trans found)
      rw [← same] at reads
      exact ⟨_, congrArg Manifest.toCluster (Manifest.read_form reads)⟩

end Muster

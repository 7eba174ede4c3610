import Muster.Proofs.Lifecycle.Steps

/-!
Which ports the settings of a role list. The entries stand between commas; an entry with nothing but blanks lists
nothing, and one that is neither blank nor a port is refused by its own text.
-/

namespace Muster.Handler.Scripted

variable {text entry : List Char} {port : UInt16} {topology : Topology} {role : String}

def SpellsPort (text : List Char) (port : UInt16) : Prop :=
  ∃ digits, (text = digits ∨ text = '+' :: digits) ∧ digits ≠ [] ∧ (∀ c ∈ digits, c.isDigit = true) ∧
    Text.decimalValue digits = port.toNat

def portEntries (topology : Topology) (role : String) : List (List Char) :=
  match topology.roleProperty? role "ports" with
  | none => []
  | some text => ((text.toList.splitOn ',').map Text.trimChars).filter fun entry => !entry.isEmpty

/-! ### Entries -/

theorem sign_cases (text : List Char) :
    let digits := if text.head? = some '+' then text.tail else text
    text = digits ∨ text = '+' :: digits := by
  intro digits
  by_cases signed : text.head? = some '+'
  · obtain ⟨rest, rfl⟩ := List.head?_eq_some_iff.mp signed
    exact .inr rfl
  · exact .inl (if_neg signed).symm

theorem readPort_sound (read : readPort text = some port) : SpellsPort text port := by
  have parts := sign_cases text
  simp only [readPort] at read parts
  generalize (if text.head? = some '+' then text.tail else text) = digits at read parts
  split at read
  · cases read
  · rename_i numeric
    split at read
    · rename_i fits
      obtain rfl := Option.some.inj read
      have numeric : digits ≠ [] ∧ ∀ c ∈ digits, c.isDigit = true := by simpa using numeric
      exact ⟨digits, parts, numeric.1, numeric.2, (UInt16.toNat_ofNat_of_lt' fits).symm⟩
    · cases read

theorem readPort_of_spells (spells : SpellsPort text port) : readPort text = some port := by
  obtain ⟨digits, parts, nonempty, numeric, value⟩ := spells
  have stripped : (if text.head? = some '+' then text.tail else text) = digits := by
    rcases parts with rfl | rfl
    · refine if_neg fun signed => ?_
      obtain ⟨rest, rfl⟩ := List.head?_eq_some_iff.mp signed
      cases numeric '+' List.mem_cons_self
    · rfl
  have accepted : ¬ (digits.isEmpty || !digits.all Char.isDigit) = true := by simpa [nonempty] using numeric
  have fits : port.toNat < 65536 := port.toNat_lt
  simp only [readPort, stripped]
  rw [if_neg accepted, value, if_pos fits, UInt16.ofNat_toNat]

/-! ### Lists -/

def checkPort (role : String) (entry : List Char) : Except ConfigError UInt16 :=
  match readPort entry with
  | some port => .ok port
  | none => .error (.invalid ("roles." ++ role ++ ".properties.ports") ("'" ++ .ofList entry ++ "' is not a port"))

theorem checkPort_eq_ok_iff : checkPort role entry = .ok port ↔ SpellsPort entry port := by
  unfold checkPort
  constructor
  · intro read
    split at read
    · rename_i found
      cases read
      exact readPort_sound found
    · cases read
  · intro spells
    rw [readPort_of_spells spells]

theorem ports_eq (topology : Topology) (role : String) :
    ports topology role = (portEntries topology role).mapM (checkPort role) := by
  have key : "roles." ++ role ++ ".properties." ++ portsKey = "roles." ++ role ++ ".properties.ports" := by
    rw [show ".properties.ports" = ".properties." ++ portsKey by decide, ← String.append_assoc]
  unfold ports portEntries readPorts checkPort
  rw [key, show portsKey = "ports" from rfl]
  cases topology.roleProperty? role "ports" <;> rfl

theorem mem_ports {listed : List UInt16} (read : ports topology role = .ok listed) :
    port ∈ listed ↔ ∃ entry ∈ portEntries topology role, SpellsPort entry port := by
  rw [ports_eq, mapM_eq_ok] at read
  have same : port ∈ listed ↔ Except.ok port ∈ listed.map (Except.ok (ε := ConfigError)) := by simp
  simp only [same, ← read, List.mem_map, checkPort_eq_ok_iff]

theorem ports_eq_error {error : ConfigError} (fails : ports topology role = .error error) :
    ∃ entry ∈ portEntries topology role, (∀ port, ¬ SpellsPort entry port) ∧
      error = .invalid ("roles." ++ role ++ ".properties.ports") ("'" ++ .ofList entry ++ "' is not a port") := by
  rw [ports_eq] at fails
  obtain ⟨entry, member, refused⟩ := mapM_eq_error fails
  refine ⟨entry, member, fun port spells => ?_, ?_⟩
  · cases refused.symm.trans (checkPort_eq_ok_iff.mpr spells)
  · unfold checkPort at refused
    split at refused
    · cases refused
    · cases refused
      rfl

theorem exists_ports_iff : (∃ listed, ports topology role = .ok listed) ↔
    ∀ entry ∈ portEntries topology role, ∃ port, SpellsPort entry port := by
  constructor
  · rintro ⟨listed, read⟩ entry member
    rw [ports_eq, mapM_eq_ok] at read
    have found : checkPort role entry ∈ listed.map .ok := read ▸ List.mem_map_of_mem member
    obtain ⟨port, _, same⟩ := List.mem_map.mp found
    exact ⟨port, checkPort_eq_ok_iff.mp same.symm⟩
  · intro all
    cases read : ports topology role with
    | ok listed => exact ⟨listed, rfl⟩
    | error refused =>
        obtain ⟨entry, member, unreadable, _⟩ := ports_eq_error read
        obtain ⟨port, spells⟩ := all entry member
        exact (unreadable port spells).elim

end Muster.Handler.Scripted

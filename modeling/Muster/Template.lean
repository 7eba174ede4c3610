import Muster.ConfigError
import Muster.Text.Blank
import Muster.Text.Digits

/-!
The compact notation for groups of machines: `3 datanode+tasktracker, 1
namenode`. A counted list holds entries between commas, an entry is a number
and a role list, a role list holds names between plus signs. Blanks may stand
around an entry and must stand after its number.

Reading takes as much as fits. A separator that no element follows is left
unread, and so is all after it; a text is accepted when nothing is left, and a
refusal names the text from the place where reading stopped.
-/

namespace Muster.Template

/-- What was read and what is left, or what was left where reading stopped. -/
abbrev Reading (α : Type) := Except (List Char) (α × List Char)

def isSeparatingBlank (c : Char) : Bool := c = ' ' || c = '\t' || c = '\r' || c = '\n'

def isRoleChar (c : Char) : Bool := c.isAlphanum || c = '-' || c = '_' || c = '.'

def countLimit : Nat := 4294967295

def skipBlanks (text : List Char) : List Char := text.dropWhile isSeparatingBlank

def readRole (text : List Char) : Reading String :=
  match text.takeWhile isRoleChar with
  | [] => .error text
  | name => .ok (.ofList name, text.dropWhile isRoleChar)

def moreRoles : List Char → List String × List Char
  | '+' :: rest =>
      match rest.takeWhile isRoleChar with
      | [] => ([], '+' :: rest)
      | name =>
          let more := moreRoles (rest.dropWhile isRoleChar)
          (.ofList name :: more.1, more.2)
  | text => ([], text)
termination_by text => text.length
decreasing_by
  have := (List.dropWhile_suffix (p := isRoleChar) (l := rest)).length_le
  simp only [List.length_cons]
  omega

def readRoles (text : List Char) : Reading RoleSet :=
  match readRole text with
  | .error stopped => .error stopped
  | .ok (role, rest) =>
      let more := moreRoles rest
      .ok (.ofList (role :: more.1), more.2)

def readCount (text : List Char) : Reading Nat :=
  match text.takeWhile Char.isDigit with
  | [] => .error text
  | digits =>
      if Text.decimalValue digits ≤ countLimit then .ok (Text.decimalValue digits, text.dropWhile Char.isDigit)
      else .error text

def readEntry (text : List Char) : Reading (UInt32 × RoleSet) :=
  match readCount (skipBlanks text) with
  | .error stopped => .error stopped
  | .ok (count, rest) =>
      match rest with
      | [] => .error []
      | c :: tail =>
          if isSeparatingBlank c then
            match readRoles (skipBlanks tail) with
            | .error stopped => .error stopped
            | .ok (roles, after) => .ok ((.ofNat count, roles), skipBlanks after)
          else .error rest

theorem length_dropWhile_le {α : Type} (p : α → Bool) (list : List α) :
    (list.dropWhile p).length ≤ list.length :=
  (List.dropWhile_suffix p).length_le

theorem length_moreRoles_le (text : List Char) : (moreRoles text).2.length ≤ text.length := by
  fun_induction moreRoles text with
  | case1 => simp
  | case2 rest more _ ih =>
      have := length_dropWhile_le isRoleChar rest
      have shorter : more.2.length ≤ _ := ih
      simp only [List.length_cons]
      omega
  | case3 => simp

theorem length_readRoles_le {text rest : List Char} {roles : RoleSet}
    (read : readRoles text = .ok (roles, rest)) : rest.length ≤ text.length := by
  unfold readRoles readRole at read
  split at read
  · cases read
  · rename_i first after found
    split at found
    · cases found
    · cases found
      cases read
      exact Nat.le_trans (length_moreRoles_le _) (length_dropWhile_le _ _)

theorem length_readCount_le {text rest : List Char} {count : Nat}
    (read : readCount text = .ok (count, rest)) : rest.length ≤ text.length := by
  unfold readCount at read
  split at read
  · cases read
  · split at read
    · cases read; exact length_dropWhile_le _ _
    · cases read

theorem length_readEntry_le {text rest : List Char} {entry : UInt32 × RoleSet}
    (read : readEntry text = .ok (entry, rest)) : rest.length ≤ text.length := by
  unfold readEntry at read
  split at read
  · cases read
  · rename_i count middle found
    have counted := length_readCount_le found
    have skipped : (skipBlanks text).length ≤ text.length := length_dropWhile_le _ _
    split at read
    · cases read
    · rename_i c tail
      split at read
      · split at read
        · cases read
        · rename_i roles after named
          cases read
          have role := length_readRoles_le named
          have inner : (skipBlanks tail).length ≤ tail.length := length_dropWhile_le _ _
          have outer : (skipBlanks after).length ≤ after.length := length_dropWhile_le _ _
          simp only [List.length_cons] at counted
          omega
      · cases read

def moreEntries : List Char → List (UInt32 × RoleSet) × List Char
  | ',' :: rest =>
      match _read : readEntry rest with
      | .error _ => ([], ',' :: rest)
      | .ok (entry, after) =>
          let more := moreEntries after
          (entry :: more.1, more.2)
  | text => ([], text)
termination_by text => text.length
decreasing_by
  have := length_readEntry_le _read
  simp only [List.length_cons]
  omega

def readEntries (text : List Char) : Reading (List (UInt32 × RoleSet)) :=
  match readEntry text with
  | .error stopped => .error stopped
  | .ok (entry, rest) =>
      let more := moreEntries rest
      .ok (entry :: more.1, more.2)

def complete {α : Type} (reading : Reading α) : Except (List Char) α :=
  match reading with
  | .error stopped => .error stopped
  | .ok (value, []) => .ok value
  | .ok (_, rest) => .error rest

def counted (text : String) : Except ConfigError (List (UInt32 × RoleSet)) :=
  if Text.allBlank text then .error (.template text "at least one entry is required")
  else
    match complete (readEntries text.toList) with
    | .error stopped =>
        .error (.template text ("unexpected input at '" ++ .ofList stopped ++ "'"))
    | .ok entries => .ok entries

def readRoleList (text : List Char) : Reading RoleSet :=
  match readRoles (skipBlanks text) with
  | .error stopped => .error stopped
  | .ok (roles, rest) => .ok (roles, skipBlanks rest)

def roles (text : String) : Except ConfigError RoleSet :=
  match complete (readRoleList text.toList) with
  | .error stopped => .error (.template text ("illegal role name at '" ++ .ofList stopped ++ "'"))
  | .ok set => .ok set

end Muster.Template

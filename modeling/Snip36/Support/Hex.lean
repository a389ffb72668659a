import Mathlib

/-!
# Support — numbers in hexadecimal, and JSON values

`hexOf` writes a number the way `{:#x}` does, with no leading zero; `hexNat?` reads it back
(`hexNat?_hexOf`).  `Json` is a JSON value, an object as its list of fields, and `Json.compact` its
text.
-/

namespace Support

/-! ### Hexadecimal -/

/-- `format!("{:#x}", n)`. -/
def hexOf (n : ℕ) : String := String.ofList ('0' :: 'x' :: Nat.toDigits 16 n)

/-- The value of a hexadecimal digit. -/
def hexDigit? (c : Char) : Option ℕ :=
  if '0' ≤ c ∧ c ≤ '9' then some (c.toNat - '0'.toNat)
  else if 'a' ≤ c ∧ c ≤ 'f' then some (c.toNat - 'a'.toNat + 10)
  else if 'A' ≤ c ∧ c ≤ 'F' then some (c.toNat - 'A'.toNat + 10)
  else none

/-- The number of some hexadecimal digits. -/
def hexDigits? (cs : List Char) : Option ℕ :=
  cs.foldlM (fun n c => (hexDigit? c).map fun d => 16 * n + d) 0

/-- The number of a hexadecimal text with its prefix. -/
def hexNat? (s : String) : Option ℕ :=
  match s.toList with
  | '0' :: 'x' :: c :: cs => hexDigits? (c :: cs)
  | _ => none

theorem hexDigit?_digitChar : ∀ d < 16, hexDigit? (Nat.digitChar d) = some d := by decide

/-- The digits of a number are read back as the number. -/
theorem hexDigits?_toDigits (n : ℕ) : hexDigits? (Nat.toDigits 16 n) = some n := by
  induction n using Nat.strong_induction_on with
  | _ n ih =>
      rw [Nat.toDigits_eq_if (by norm_num)]
      by_cases h : n < 16
      · rw [if_pos h]
        simp [hexDigits?, hexDigit?_digitChar n h]
      · have hlast := hexDigit?_digitChar (n % 16) (Nat.mod_lt n (by norm_num))
        have hinit := ih (n / 16) (Nat.div_lt_self (by omega) (by norm_num))
        rw [if_neg h, hexDigits?, List.foldlM_append]
        rw [hexDigits?] at hinit
        rw [hinit]
        simp [hlast, Nat.div_add_mod]

/-- **A number is read back from its hexadecimal text.** -/
theorem hexNat?_hexOf (n : ℕ) : hexNat? (hexOf n) = some n := by
  have hdigits := hexDigits?_toDigits n
  obtain ⟨c, cs, hcs⟩ := List.exists_cons_of_ne_nil (Nat.toDigits_ne_nil : Nat.toDigits 16 n ≠ [])
  rw [hcs] at hdigits
  simp only [hexNat?, hexOf, String.toList_ofList, hcs]
  exact hdigits

theorem hexOf_injective : Function.Injective hexOf := by
  intro n m h
  have hread := hexNat?_hexOf n
  rw [h, hexNat?_hexOf] at hread
  exact (Option.some.inj hread).symm

/-- What holds of the sixteen digits holds of those of a number. -/
theorem forall_mem_toDigits {p : Char → Prop} (hdigit : ∀ d < 16, p (Nat.digitChar d)) (n : ℕ) :
    ∀ c ∈ Nat.toDigits 16 n, p c := by
  induction n using Nat.strong_induction_on with
  | _ n ih =>
      rw [Nat.toDigits_eq_if (by norm_num)]
      by_cases h : n < 16
      · rw [if_pos h]
        intro c hc
        obtain rfl := List.mem_singleton.mp hc
        exact hdigit n h
      · rw [if_neg h]
        intro c hc
        rcases List.mem_append.mp hc with hc | hc
        · exact ih (n / 16) (Nat.div_lt_self (by omega) (by norm_num)) c hc
        · obtain rfl := List.mem_singleton.mp hc
          exact hdigit _ (Nat.mod_lt n (by norm_num))

/-! ### JSON -/

/-- A JSON value.  A number that is not an integer is kept as its text. -/
inductive Json where
  | null
  | bool (b : Bool)
  | num (n : ℤ)
  | float (text : String)
  | str (s : String)
  | arr (elems : List Json)
  | obj (fields : List (String × Json))

/-- The field of an object. -/
def Json.field (key : String) : Json → Option Json
  | .obj fields => fields.lookup key
  | _ => none

@[simp] theorem Json.field_cons (key k : String) (v : Json) (fields : List (String × Json)) :
    Json.field key (.obj ((k, v) :: fields))
      = if key = k then some v else Json.field key (.obj fields) := by
  by_cases h : key = k
  · simp [Json.field, List.lookup, h]
  · simp [Json.field, List.lookup, h, beq_false_of_ne h]

@[simp] theorem Json.field_nil (key : String) : Json.field key (.obj []) = none := rfl

/-- An object without one of its fields. -/
def Json.withoutField (key : String) : Json → Json
  | .obj fields => .obj (fields.filter fun f => f.1 ≠ key)
  | v => v

/-- The text of a string. -/
def Json.text : Json → Option String
  | .str s => some s
  | _ => none

/-- The elements of an array. -/
def Json.elems : Json → Option (List Json)
  | .arr elems => some elems
  | _ => none

/-- The texts of an array of strings. -/
def Json.strings (v : Json) : Option (List String) := v.elems.bind fun elems => elems.mapM Json.text

@[simp] theorem Json.strings_arr_str (texts : List String) :
    Json.strings (.arr (texts.map .str)) = some texts := by
  have h : ∀ texts : List String, (texts.map Json.str).mapM Json.text = some texts := by
    intro texts
    induction texts with
    | nil => rfl
    | cons text texts ih => rw [List.map_cons, List.mapM_cons, ih]; rfl
  exact h texts

/-- Whether a value is `null`. -/
def Json.isNull : Json → Bool
  | .null => true
  | _ => false

/-! ### The text of a JSON value -/

/-- A character in a JSON string. -/
def escapeChar (c : Char) : List Char :=
  if c = '"' then ['\\', '"']
  else if c = '\\' then ['\\', '\\']
  else if c = '\n' then ['\\', 'n']
  else if c = '\r' then ['\\', 'r']
  else if c = '\t' then ['\\', 't']
  else if c.toNat = 8 then ['\\', 'b']
  else if c.toNat = 12 then ['\\', 'f']
  else if c.toNat < 32 then
    ['\\', 'u', '0', '0', Nat.digitChar (c.toNat / 16), Nat.digitChar (c.toNat % 16)]
  else [c]

/-- A JSON string. -/
def quoted (s : String) : String := String.ofList ('"' :: s.toList.flatMap escapeChar ++ ['"'])

mutual

/-- The compact text of a JSON value. -/
def Json.compact : Json → String
  | .null => "null"
  | .bool b => if b then "true" else "false"
  | .num n => toString n
  | .float text => text
  | .str s => quoted s
  | .arr elems => "[" ++ ",".intercalate (compactElems elems) ++ "]"
  | .obj fields => "\x7b" ++ ",".intercalate (compactFields fields) ++ "\x7d"

/-- The texts of some elements. -/
def compactElems : List Json → List String
  | [] => []
  | v :: vs => v.compact :: compactElems vs

/-- The texts of some fields. -/
def compactFields : List (String × Json) → List String
  | [] => []
  | (key, v) :: fields => (quoted key ++ ":" ++ v.compact) :: compactFields fields

end

end Support

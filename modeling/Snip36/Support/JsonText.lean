import Snip36.Support.FirstMatch
import Snip36.Support.Hex

/-!
# Support — the texts of JSON values

`Json.IsValue` is what a JSON value of the source is: the text of a number that is not an integer
looks like one, and the keys of an object are in order.  `Json.induction` is induction on a value.

`compact_injective`: a value is told by its compact text.  The texts are a prefix code
(`chars_append_inj`): where a value ends, its text tells.

`split_unique`: a text and a value with a colon between them are told by the whole.  A scan of the
text of a value (`Scan`) shows why: a colon in it stands inside brackets or inside a string, and what
follows it there is not the text of a value.
-/

namespace Support

/-! ### Values -/

/-- A character of a number. -/
def isNumberChar (c : Char) : Bool :=
  c.isDigit || c == '-' || c == '+' || c == '.' || c == 'e'

/-- The text of a number that is not an integer. -/
structure IsFloatText (text : String) : Prop where
  chars : ∀ c ∈ text.toList, isNumberChar c = true
  marked : '.' ∈ text.toList ∨ 'e' ∈ text.toList

/-- What a JSON value of the source is. -/
inductive Json.IsValue : Json → Prop where
  | null : IsValue .null
  | bool (b : Bool) : IsValue (.bool b)
  | num (n : ℤ) : IsValue (.num n)
  | float {text : String} (h : IsFloatText text) : IsValue (.float text)
  | str (s : String) : IsValue (.str s)
  | arr {elems : List Json} (h : ∀ v ∈ elems, IsValue v) : IsValue (.arr elems)
  | obj {fields : List (String × Json)} (hkeys : (fields.map Prod.fst).Pairwise (· < ·))
      (h : ∀ f ∈ fields, IsValue f.2) : IsValue (.obj fields)

theorem Json.IsValue.elem {elems : List Json} (h : (Json.arr elems).IsValue) :
    ∀ v ∈ elems, v.IsValue := by
  cases h with
  | arr h => exact h

theorem Json.IsValue.field {fields : List (String × Json)} (h : (Json.obj fields).IsValue) :
    ∀ f ∈ fields, f.2.IsValue := by
  cases h with
  | obj _ h => exact h

theorem Json.IsValue.of_field {v w : Json} {key : String} (h : v.IsValue)
    (hfield : v.field key = some w) : w.IsValue := by
  cases v with
  | obj fields =>
      obtain ⟨before, after, rfl, -⟩ := List.lookup_eq_some_iff.mp hfield
      exact h.field (key, w) (by simp)
  | _ => cases hfield

/-- Induction on a value. -/
@[elab_as_elim]
theorem Json.induction {motive : Json → Prop} (null : motive .null)
    (bool : ∀ b, motive (.bool b)) (num : ∀ n, motive (.num n))
    (float : ∀ text, motive (.float text)) (str : ∀ s, motive (.str s))
    (arr : ∀ elems, (∀ v ∈ elems, motive v) → motive (.arr elems))
    (obj : ∀ fields : List (String × Json), (∀ f ∈ fields, motive f.2) → motive (.obj fields)) :
    ∀ v, motive v
  | .null => null
  | .bool b => bool b
  | .num n => num n
  | .float text => float text
  | .str s => str s
  | .arr elems => arr elems fun v _ => induction null bool num float str arr obj v
  | .obj fields => obj fields fun f _ => induction null bool num float str arr obj f.2
termination_by v => sizeOf v
decreasing_by
  · have := List.sizeOf_lt_of_mem ‹v ∈ elems›
    simp_wf
    omega
  · obtain ⟨key, v⟩ := f
    have hmem := List.sizeOf_lt_of_mem ‹(key, v) ∈ fields›
    rw [Prod.mk.sizeOf_spec] at hmem
    simp_wf
    omega

/-! ### Numbers -/

/-- What follows a value: nothing, or no character of a number. -/
abbrev Ends (cs : List Char) : Prop := Stops isNumberChar cs

/-- The characters of an integer. -/
theorem toList_int (n : ℤ) :
    (toString n).toList = if 0 ≤ n then Nat.toDigits 10 n.toNat
      else '-' :: Nat.toDigits 10 (-n).toNat := by
  rw [Int.toString_eq_repr, Int.repr_eq_if]
  split
  · rw [Nat.toList_repr]
  · rw [String.toList_append, Nat.toList_repr]
    rfl

theorem isDigit_or_of_mem_int {n : ℤ} {c : Char} (h : c ∈ (toString n).toList) :
    c.isDigit = true ∨ c = '-' := by
  have hdigit : ∀ k, c ∈ Nat.toDigits 10 k → c.isDigit = true :=
    fun k => Nat.isDigit_of_mem_toDigits (by norm_num) (by norm_num)
  rw [toList_int] at h
  split at h
  · exact .inl (hdigit _ h)
  · exact (List.mem_cons.mp h).elim .inr fun h => .inl (hdigit _ h)

theorem isNumberChar_of_mem_int {n : ℤ} {c : Char} (h : c ∈ (toString n).toList) :
    isNumberChar c = true := by
  rcases isDigit_or_of_mem_int h with h | rfl
  · simp [isNumberChar, h]
  · rfl

theorem toDigits_ten_injective {m n : ℕ} (h : Nat.toDigits 10 m = Nat.toDigits 10 n) : m = n := by
  rw [← Nat.ofDigitChars_ten_toDigits (n := m), h, Nat.ofDigitChars_ten_toDigits]

/-- An integer is told by its text. -/
theorem toString_int_injective {m n : ℤ} (h : toString m = toString n) : m = n := by
  have hminus : ∀ k, '-' ∉ Nat.toDigits 10 k := fun k hmem =>
    absurd (Nat.isDigit_of_mem_toDigits (by norm_num) (by norm_num) hmem) (by decide)
  have hlist := congrArg String.toList h
  rw [toList_int, toList_int] at hlist
  by_cases hm : 0 ≤ m
  · by_cases hn : 0 ≤ n
    · rw [if_pos hm, if_pos hn] at hlist
      have := toDigits_ten_injective hlist
      omega
    · rw [if_pos hm, if_neg hn] at hlist
      exact absurd (hlist ▸ List.mem_cons_self) (hminus _)
  · by_cases hn : 0 ≤ n
    · rw [if_neg hm, if_pos hn] at hlist
      exact absurd (hlist ▸ List.mem_cons_self) (hminus _)
    · rw [if_neg hm, if_neg hn] at hlist
      have := toDigits_ten_injective (List.cons.inj hlist).2
      omega

/-! ### Strings -/

/-- The first character of a JSON string, and what follows it. -/
def readChar : List Char → Option (Char × List Char)
  | '\\' :: 'n' :: cs => some ('\n', cs)
  | '\\' :: 'r' :: cs => some ('\r', cs)
  | '\\' :: 't' :: cs => some ('\t', cs)
  | '\\' :: 'b' :: cs => some (Char.ofNat 8, cs)
  | '\\' :: 'f' :: cs => some (Char.ofNat 12, cs)
  | '\\' :: 'u' :: _ :: _ :: x :: y :: cs => do
      let x ← hexDigit? x
      let y ← hexDigit? y
      some (Char.ofNat (16 * x + y), cs)
  | '\\' :: c :: cs => some (c, cs)
  | c :: cs => some (c, cs)
  | [] => none

/-- A character is read back. -/
theorem readChar_escapeChar (c : Char) (cs : List Char) :
    readChar (escapeChar c ++ cs) = some (c, cs) := by
  rw [escapeChar]
  split_ifs with hquote hbackslash hn hr ht h8 h12 hcontrol
  · subst hquote; rfl
  · subst hbackslash; rfl
  · subst hn; rfl
  · subst hr; rfl
  · subst ht; rfl
  · rw [← Char.ofNat_toNat c, h8]; rfl
  · rw [← Char.ofNat_toNat c, h12]; rfl
  · have hhigh := hexDigit?_digitChar (c.toNat / 16) (by omega)
    have hlow := hexDigit?_digitChar (c.toNat % 16) (by omega)
    have hchar : Char.ofNat (16 * (c.toNat / 16) + c.toNat % 16) = c := by
      rw [Nat.div_add_mod, Char.ofNat_toNat]
    change (do
      let x ← hexDigit? (Nat.digitChar (c.toNat / 16))
      let y ← hexDigit? (Nat.digitChar (c.toNat % 16))
      some (Char.ofNat (16 * x + y), cs)) = _
    rw [hhigh, hlow]
    simp only [Option.bind_eq_bind, Option.bind_some, hchar]
  · rw [List.singleton_append, readChar]
    all_goals
      intros
      exact hbackslash ‹_›

theorem head_escapeChar (c : Char) (cs : List Char) : (escapeChar c ++ cs).head? ≠ some '"' := by
  rw [escapeChar]
  repeat' split
  all_goals simp_all

/-- Where a JSON string ends, its text tells. -/
theorem escaped_append_inj :
    ∀ {cs ds s t : List Char},
      cs.flatMap escapeChar ++ '"' :: s = ds.flatMap escapeChar ++ '"' :: t → cs = ds ∧ s = t
  | [], [], _, _, h => ⟨rfl, (List.cons.inj h).2⟩
  | [], d :: ds, s, t, h => by
      rw [List.flatMap_cons, List.append_assoc] at h
      exact absurd (congrArg List.head? h).symm (head_escapeChar d _)
  | c :: cs, [], s, t, h => by
      rw [List.flatMap_cons, List.append_assoc] at h
      exact absurd (congrArg List.head? h) (head_escapeChar c _)
  | c :: cs, d :: ds, s, t, h => by
      rw [List.flatMap_cons, List.flatMap_cons, List.append_assoc, List.append_assoc] at h
      have hread := congrArg readChar h
      rw [readChar_escapeChar, readChar_escapeChar] at hread
      obtain ⟨rfl, hrest⟩ := Prod.mk.inj (Option.some.inj hread)
      obtain ⟨rfl, rfl⟩ := escaped_append_inj hrest
      exact ⟨rfl, rfl⟩

theorem toList_quoted (s : String) :
    (quoted s).toList = '"' :: (s.toList.flatMap escapeChar ++ ['"']) := by
  rw [quoted, String.toList_ofList, List.cons_append]

theorem quoted_append_inj {a b : String} {s t : List Char}
    (h : (quoted a).toList ++ s = (quoted b).toList ++ t) : a = b ∧ s = t := by
  rw [toList_quoted, toList_quoted, List.cons_append, List.cons_append, List.append_assoc,
    List.append_assoc] at h
  obtain ⟨hchars, rfl⟩ := escaped_append_inj (List.cons.inj h).2
  exact ⟨String.toList_injective hchars, rfl⟩

/-! ### Lists -/

/-- Some texts with a comma before each, up to a closing bracket. -/
def closedTail (close : Char) : List (List Char) → List Char
  | [] => [close]
  | text :: texts => ',' :: (text ++ closedTail close texts)

/-- Some texts with commas between them, up to a closing bracket. -/
def closedList (close : Char) : List (List Char) → List Char
  | [] => [close]
  | text :: texts => text ++ closedTail close texts

theorem intercalate_append (close : Char) :
    ∀ texts : List (List Char), [','].intercalate texts ++ [close] = closedList close texts
  | [] => rfl
  | [text] => by simp [closedList, closedTail]
  | text :: text' :: texts => by
      have hrest := intercalate_append close (text' :: texts)
      rw [closedList, closedTail]
      rw [closedList] at hrest
      rw [List.intercalate_cons_cons, ← hrest]
      simp

section Lists

variable {α : Type} {text : α → List Char} {valid : α → Prop} {close : Char}

/-- Where a text ends, what follows it tells. -/
def SelfDelimiting (text : α → List Char) (valid : α → Prop) (a : α) : Prop :=
  ∀ {b : α} {s t : List Char}, valid b → Ends s → Ends t → text a ++ s = text b ++ t →
    a = b ∧ s = t

theorem ends_closedTail (hclose : isNumberChar close = false) (texts : List (List Char))
    (s : List Char) : Ends (closedTail close texts ++ s) := by
  cases texts with
  | nil => exact stops_cons hclose s
  | cons text texts => exact stops_cons rfl _

theorem closedTail_append_inj (hclose : isNumberChar close = false) (hcomma : close ≠ ',') :
    ∀ {as bs : List α} {s t : List Char}, (∀ a ∈ as, SelfDelimiting text valid a) →
      (∀ b ∈ bs, valid b) →
      closedTail close (as.map text) ++ s = closedTail close (bs.map text) ++ t →
      as = bs ∧ s = t
  | [], [], _, _, _, _, h => ⟨rfl, (List.cons.inj h).2⟩
  | [], _ :: _, _, _, _, _, h => absurd (List.cons.inj h).1 hcomma
  | _ :: _, [], _, _, _, _, h => absurd (List.cons.inj h).1.symm hcomma
  | a :: as, b :: bs, s, t, has, hbs, h => by
      rw [List.map_cons, List.map_cons, closedTail, closedTail, List.cons_append, List.cons_append,
        List.append_assoc, List.append_assoc] at h
      obtain ⟨rfl, hrest⟩ := has a List.mem_cons_self (hbs b List.mem_cons_self)
        (ends_closedTail hclose _ s) (ends_closedTail hclose _ t) (List.cons.inj h).2
      obtain ⟨rfl, rfl⟩ := closedTail_append_inj hclose hcomma
        (fun a' ha' => has a' (List.mem_cons_of_mem _ ha'))
        (fun b' hb' => hbs b' (List.mem_cons_of_mem _ hb')) hrest
      exact ⟨rfl, rfl⟩

theorem closedList_append_inj (hclose : isNumberChar close = false) (hcomma : close ≠ ',')
    (hhead : ∀ a, valid a → ∀ s, (text a ++ s).head? ≠ some close) {as bs : List α}
    {s t : List Char} (has : ∀ a ∈ as, SelfDelimiting text valid a) (has' : ∀ a ∈ as, valid a)
    (hbs : ∀ b ∈ bs, valid b)
    (h : closedList close (as.map text) ++ s = closedList close (bs.map text) ++ t) :
    as = bs ∧ s = t := by
  cases as with
  | nil =>
      cases bs with
      | nil => exact ⟨rfl, (List.cons.inj h).2⟩
      | cons b bs =>
          rw [List.map_nil, List.map_cons, closedList, closedList, List.append_assoc] at h
          exact absurd (congrArg List.head? h).symm (hhead b (hbs b List.mem_cons_self) _)
  | cons a as =>
      cases bs with
      | nil =>
          rw [List.map_nil, List.map_cons, closedList, closedList, List.append_assoc] at h
          exact absurd (congrArg List.head? h) (hhead a (has' a List.mem_cons_self) _)
      | cons b bs =>
          rw [List.map_cons, List.map_cons, closedList, closedList, List.append_assoc,
            List.append_assoc] at h
          obtain ⟨rfl, hrest⟩ := has a List.mem_cons_self (hbs b List.mem_cons_self)
            (ends_closedTail hclose _ s) (ends_closedTail hclose _ t) h
          obtain ⟨rfl, rfl⟩ := closedTail_append_inj hclose hcomma
            (fun a' ha' => has a' (List.mem_cons_of_mem _ ha'))
            (fun b' hb' => hbs b' (List.mem_cons_of_mem _ hb')) hrest
          exact ⟨rfl, rfl⟩

end Lists

/-! ### Texts of values -/

/-- The characters of the text of a value. -/
def Json.chars (v : Json) : List Char := v.compact.toList

/-- The characters of a field. -/
def fieldChars (f : String × Json) : List Char := (quoted f.1).toList ++ ':' :: f.2.chars

theorem chars_null : Json.null.chars = ['n', 'u', 'l', 'l'] := rfl

theorem chars_true : (Json.bool true).chars = ['t', 'r', 'u', 'e'] := rfl

theorem chars_false : (Json.bool false).chars = ['f', 'a', 'l', 's', 'e'] := rfl

theorem chars_num (n : ℤ) : (Json.num n).chars = (toString n).toList := by
  rw [Json.chars, Json.compact]

theorem chars_float (text : String) : (Json.float text).chars = text.toList := by
  rw [Json.chars, Json.compact]

theorem chars_str (s : String) : (Json.str s).chars = (quoted s).toList := by
  rw [Json.chars, Json.compact]

theorem compactElems_eq (elems : List Json) : compactElems elems = elems.map Json.compact := by
  induction elems with
  | nil => rfl
  | cons v elems ih => rw [compactElems, ih, List.map_cons]

theorem map_toList_compactFields (fields : List (String × Json)) :
    (compactFields fields).map String.toList = fields.map fieldChars := by
  induction fields with
  | nil => rfl
  | cons f fields ih =>
      rw [compactFields, List.map_cons, ih, List.map_cons, fieldChars, Json.chars]
      simp

theorem chars_arr (elems : List Json) :
    (Json.arr elems).chars = '[' :: closedList ']' (elems.map Json.chars) := by
  rw [Json.chars, Json.compact, String.toList_append, String.toList_append,
    String.toList_intercalate, compactElems_eq, List.map_map, ← intercalate_append]
  rfl

theorem chars_obj (fields : List (String × Json)) :
    (Json.obj fields).chars = '{' :: closedList '}' (fields.map fieldChars) := by
  rw [Json.chars, Json.compact, String.toList_append, String.toList_append,
    String.toList_intercalate, map_toList_compactFields, ← intercalate_append]
  rfl

/-- The kind of a value. -/
def Json.kind : Json → ℕ
  | .null => 0
  | .bool _ => 1
  | .num _ | .float _ => 2
  | .str _ => 3
  | .arr _ => 4
  | .obj _ => 5

/-- The kind of value that a character starts. -/
def startKind (c : Char) : ℕ :=
  if isNumberChar c then 2
  else if c = 'n' then 0
  else if c = 't' ∨ c = 'f' then 1
  else if c = '"' then 3
  else if c = '[' then 4
  else if c = '{' then 5
  else 6

/-- The first character tells the kind. -/
theorem exists_startKind {v : Json} (h : v.IsValue) :
    ∃ c cs, v.chars = c :: cs ∧ startKind c = v.kind := by
  cases h with
  | null => exact ⟨_, _, chars_null, rfl⟩
  | bool b =>
      cases b with
      | true => exact ⟨_, _, chars_true, rfl⟩
      | false => exact ⟨_, _, chars_false, rfl⟩
  | num n =>
      have hne : (toString n).toList ≠ [] := by
        rw [toList_int]
        split
        · exact Nat.toDigits_ne_nil
        · exact List.cons_ne_nil _ _
      obtain ⟨c, cs, hcs⟩ := List.exists_cons_of_ne_nil hne
      exact ⟨c, cs, (chars_num n).trans hcs,
        if_pos (isNumberChar_of_mem_int (hcs ▸ List.mem_cons_self))⟩
  | @float text h =>
      have hne : text.toList ≠ [] := h.marked.elim List.ne_nil_of_mem List.ne_nil_of_mem
      obtain ⟨c, cs, hcs⟩ := List.exists_cons_of_ne_nil hne
      exact ⟨c, cs, (chars_float text).trans hcs, if_pos (h.chars c (hcs ▸ List.mem_cons_self))⟩
  | str s => exact ⟨_, _, (chars_str s).trans (toList_quoted s), rfl⟩
  | arr h => exact ⟨_, _, chars_arr _, rfl⟩
  | obj hkeys h => exact ⟨_, _, chars_obj _, rfl⟩

theorem kind_eq_of_append_eq {v w : Json} {s t : List Char} (hv : v.IsValue) (hw : w.IsValue)
    (h : v.chars ++ s = w.chars ++ t) : v.kind = w.kind := by
  obtain ⟨c, cs, hcs, hc⟩ := exists_startKind hv
  obtain ⟨d, ds, hds, hd⟩ := exists_startKind hw
  rw [hcs, hds, List.cons_append, List.cons_append] at h
  rw [← hc, ← hd, (List.cons.inj h).1]

/-- No value starts with a bracket that closes. -/
theorem head_chars_ne {v : Json} (hv : v.IsValue) {close : Char} (hclose : startKind close = 6)
    (s : List Char) : (v.chars ++ s).head? ≠ some close := by
  obtain ⟨c, cs, hcs, hc⟩ := exists_startKind hv
  rw [hcs]
  intro heq
  obtain rfl := Option.some.inj heq
  rw [hclose] at hc
  cases v <;> cases hc

/-- An integer is not the text of another number. -/
theorem int_ne_float {n : ℤ} {text : String} (h : IsFloatText text) :
    (toString n).toList ≠ text.toList := by
  intro heq
  have hmem : '.' ∈ (toString n).toList ∨ 'e' ∈ (toString n).toList := heq ▸ h.marked
  rcases hmem with hmem | hmem
  · exact absurd (isDigit_or_of_mem_int hmem) (by decide)
  · exact absurd (isDigit_or_of_mem_int hmem) (by decide)

/-- Where a number ends, its text tells. -/
theorem num_append_inj {v w : Json} {s t : List Char} (hv : v.IsValue) (hw : w.IsValue)
    (hkind : v.kind = 2) (hkind' : w.kind = 2) (hs : Ends s) (ht : Ends t)
    (h : v.chars ++ s = w.chars ++ t) : v = w ∧ s = t := by
  have hint : ∀ (n : ℤ), ∀ c ∈ (toString n).toList, isNumberChar c = true :=
    fun n c => isNumberChar_of_mem_int
  cases hv with
  | num n =>
      cases hw with
      | num m =>
          rw [chars_num, chars_num] at h
          obtain ⟨htext, rfl⟩ := append_inj_of_stops (hint n) (hint m) hs ht h
          exact ⟨congrArg Json.num (toString_int_injective (String.toList_injective htext)), rfl⟩
      | float hfloat =>
          rw [chars_num, chars_float] at h
          exact absurd (append_inj_of_stops (hint n) hfloat.chars hs ht h).1 (int_ne_float hfloat)
      | _ => cases hkind'
  | float hfloat =>
      cases hw with
      | num m =>
          rw [chars_num, chars_float] at h
          exact absurd (append_inj_of_stops hfloat.chars (hint m) hs ht h).1.symm
            (int_ne_float hfloat)
      | float hfloat' =>
          rw [chars_float, chars_float] at h
          obtain ⟨htext, rfl⟩ := append_inj_of_stops hfloat.chars hfloat'.chars hs ht h
          exact ⟨congrArg Json.float (String.toList_injective htext), rfl⟩
      | _ => cases hkind'
  | _ => cases hkind

/-- **Where a value ends, its text tells.** -/
theorem chars_append_inj (v : Json) : v.IsValue → SelfDelimiting Json.chars Json.IsValue v := by
  induction v using Json.induction with
  | null =>
      intro hv w s t hw _ _ h
      have hkind := kind_eq_of_append_eq hv hw h
      cases w with
      | null => exact ⟨rfl, List.append_cancel_left h⟩
      | _ => cases hkind
  | bool b =>
      intro hv w s t hw _ _ h
      have hkind := kind_eq_of_append_eq hv hw h
      cases w with
      | bool b' =>
          by_cases hb : b = b'
          · subst hb
            exact ⟨rfl, List.append_cancel_left h⟩
          · cases b <;> cases b' <;> simp [chars_true, chars_false] at h hb
      | _ => cases hkind
  | num n =>
      intro hv w s t hw hs ht h
      exact num_append_inj hv hw rfl (kind_eq_of_append_eq hv hw h).symm hs ht h
  | float text =>
      intro hv w s t hw hs ht h
      exact num_append_inj hv hw rfl (kind_eq_of_append_eq hv hw h).symm hs ht h
  | str a =>
      intro hv w s t hw _ _ h
      have hkind := kind_eq_of_append_eq hv hw h
      cases w with
      | str b =>
          rw [chars_str, chars_str] at h
          obtain ⟨rfl, rfl⟩ := quoted_append_inj h
          exact ⟨rfl, rfl⟩
      | _ => cases hkind
  | arr elems ih =>
      intro hv w s t hw _ _ h
      have hkind := kind_eq_of_append_eq hv hw h
      cases w with
      | arr elems' =>
          rw [chars_arr, chars_arr, List.cons_append, List.cons_append] at h
          obtain ⟨rfl, rfl⟩ := closedList_append_inj rfl (by decide)
            (fun v hv => head_chars_ne hv rfl) (fun v hmem => ih v hmem (hv.elem v hmem)) hv.elem
            hw.elem (List.cons.inj h).2
          exact ⟨rfl, rfl⟩
      | _ => cases hkind
  | obj fields ih =>
      intro hv w s t hw _ _ h
      have hkind := kind_eq_of_append_eq hv hw h
      cases w with
      | obj fields' =>
          rw [chars_obj, chars_obj, List.cons_append, List.cons_append] at h
          have hfield : ∀ f ∈ fields,
              SelfDelimiting fieldChars (fun f : String × Json => f.2.IsValue) f := by
            rintro ⟨key, v⟩ hmem ⟨key', w⟩ s t hw hs ht heq
            rw [fieldChars, fieldChars, List.append_assoc, List.append_assoc] at heq
            obtain ⟨hkey, hrest⟩ := quoted_append_inj heq
            obtain ⟨hvalue, rfl⟩ :=
              ih (key, v) hmem (hv.field (key, v) hmem) hw hs ht (List.cons.inj hrest).2
            exact ⟨Prod.ext hkey hvalue, rfl⟩
          have hhead : ∀ f : String × Json, f.2.IsValue →
              ∀ s, (fieldChars f ++ s).head? ≠ some '}' := by
            intro f _ s heq
            rw [fieldChars, toList_quoted] at heq
            cases heq
          obtain ⟨rfl, rfl⟩ := closedList_append_inj rfl (by decide) hhead hfield hv.field hw.field
            (List.cons.inj h).2
          exact ⟨rfl, rfl⟩
      | _ => cases hkind

/-- **A value is told by its compact text.** -/
theorem compact_injective {v w : Json} (hv : v.IsValue) (hw : w.IsValue)
    (h : v.compact = w.compact) : v = w := by
  have hnone : Ends [] := fun c hc => by cases hc
  have hchars : v.chars ++ [] = w.chars ++ [] := by rw [Json.chars, Json.chars, h]
  exact (chars_append_inj v hv hw hnone hnone hchars).1

/-! ### Colons -/

/-- Where a scan of the text of a value is: outside of strings or inside one, in so many brackets. -/
inductive Scan where
  | outside (depth : ℕ)
  | inside (depth : ℕ)
  | escaped (depth : ℕ)

/-- The next character.  A colon and a closing bracket stand inside brackets only. -/
def Scan.step : Scan → Char → Option Scan
  | .outside depth, c =>
      if c = '"' then some (.inside depth)
      else if c = '[' ∨ c = '{' then some (.outside (depth + 1))
      else if c = ']' ∨ c = '}' then
        if depth = 0 then none else some (.outside (depth - 1))
      else if c = ':' then if depth = 0 then none else some (.outside depth)
      else if c = '\\' then none
      else some (.outside depth)
  | .inside depth, c =>
      if c = '"' then some (.outside depth)
      else if c = '\\' then some (.escaped depth)
      else some (.inside depth)
  | .escaped depth, _ => some (.inside depth)

/-- Some characters. -/
def Scan.run : Scan → List Char → Option Scan
  | state, [] => some state
  | state, c :: cs => (state.step c).bind (run · cs)

namespace Scan

theorem run_append (state : Scan) (cs ds : List Char) :
    state.run (cs ++ ds) = (state.run cs).bind (run · ds) := by
  induction cs generalizing state with
  | nil => rfl
  | cons c cs ih =>
      rw [List.cons_append, run, run]
      cases state.step c with
      | none => rfl
      | some next => exact ih next

theorem run_append_of {state next : Scan} {cs : List Char} (h : state.run cs = some next)
    (ds : List Char) : state.run (cs ++ ds) = next.run ds := by
  rw [run_append, h]
  rfl

/-- The characters that a scan outside of strings stops at. -/
def isMark (c : Char) : Bool :=
  c == '"' || c == '[' || c == '{' || c == ']' || c == '}' || c == ':' || c == '\\'

/-- Characters that a scan passes by. -/
theorem run_plain (depth : ℕ) {cs : List Char} (h : ∀ c ∈ cs, isMark c = false) :
    (outside depth).run cs = some (.outside depth) := by
  induction cs with
  | nil => rfl
  | cons c cs ih =>
      have hc := h c List.mem_cons_self
      have hstep : (outside depth).step c = some (.outside depth) := by
        simp only [isMark, Bool.or_eq_false_iff, beq_eq_false_iff_ne] at hc
        simp [step, hc]
      rw [run, hstep]
      exact ih fun d hd => h d (List.mem_cons_of_mem c hd)

theorem run_number (depth : ℕ) {cs : List Char} (h : ∀ c ∈ cs, isNumberChar c = true) :
    (outside depth).run cs = some (.outside depth) := by
  refine run_plain depth fun c hc => ?_
  by_contra hmark
  have hnumber := h c hc
  simp only [isMark, Bool.not_eq_false, Bool.or_eq_true, beq_iff_eq] at hmark
  rcases hmark with (((((rfl | rfl) | rfl) | rfl) | rfl) | rfl) | rfl
  all_goals exact absurd hnumber (by decide)

theorem run_escapeChar (depth : ℕ) (c : Char) :
    (inside depth).run (escapeChar c) = some (.inside depth) := by
  have hdigit : ∀ n < 16, (inside depth).step (Nat.digitChar n) = some (.inside depth) := by
    intro n hn
    have hquote : Nat.digitChar n ≠ '"' ∧ Nat.digitChar n ≠ '\\' := by
      revert n
      decide
    rw [step, if_neg hquote.1, if_neg hquote.2]
  rw [escapeChar]
  split_ifs with hquote hbackslash hn hr ht h8 h12 hcontrol
  all_goals try rfl
  · change ((inside depth).step (Nat.digitChar (c.toNat / 16))).bind (fun state =>
      (state.step (Nat.digitChar (c.toNat % 16))).bind some) = _
    rw [hdigit (c.toNat / 16) (by omega), Option.bind_some, hdigit (c.toNat % 16) (by omega)]
    rfl
  · simp [run, step, hquote, hbackslash]

theorem run_quoted (depth : ℕ) (s : String) :
    (outside depth).run (quoted s).toList = some (.outside depth) := by
  have hchars : ∀ cs : List Char,
      (inside depth).run (cs.flatMap escapeChar) = some (.inside depth) := by
    intro cs
    induction cs with
    | nil => rfl
    | cons c cs ih => rw [List.flatMap_cons, run_append_of (run_escapeChar depth c), ih]
  rw [toList_quoted]
  exact run_append_of (hchars s.toList) ['"']

/-- A list of texts ends where its brackets do. -/
theorem run_closedList {close : Char} (hclose : close = ']' ∨ close = '}') (depth : ℕ) :
    ∀ {texts : List (List Char)},
      (∀ text ∈ texts, (outside (depth + 1)).run text = some (.outside (depth + 1))) →
      (outside (depth + 1)).run (closedTail close texts) = some (.outside depth) ∧
        (outside (depth + 1)).run (closedList close texts) = some (.outside depth)
  | [], _ => by
      rcases hclose with rfl | rfl
      · exact ⟨rfl, rfl⟩
      · exact ⟨rfl, rfl⟩
  | text :: texts, h => by
      have htext := h text List.mem_cons_self
      have htail := (run_closedList hclose depth
        fun text' htext' => h text' (List.mem_cons_of_mem text htext')).1
      have hlist : (outside (depth + 1)).run (text ++ closedTail close texts)
          = some (.outside depth) := by
        rw [run_append_of htext, htail]
      exact ⟨hlist, hlist⟩

/-- **A scan of a value ends where it began.** -/
theorem run_chars (v : Json) :
    v.IsValue → ∀ depth, (outside depth).run v.chars = some (.outside depth) := by
  induction v using Json.induction with
  | null => exact fun _ depth => run_plain depth (by simp [chars_null, isMark])
  | bool b =>
      intro _ depth
      cases b with
      | true => exact run_plain depth (by simp [chars_true, isMark])
      | false => exact run_plain depth (by simp [chars_false, isMark])
  | num n =>
      intro _ depth
      rw [chars_num]
      exact run_number depth fun c => isNumberChar_of_mem_int
  | float text =>
      intro h depth
      cases h with
      | float h =>
          rw [chars_float]
          exact run_number depth h.chars
  | str s =>
      intro _ depth
      rw [chars_str]
      exact run_quoted depth s
  | arr elems ih =>
      intro h depth
      rw [chars_arr]
      refine (run_closedList (.inl rfl) depth fun text htext => ?_).2
      obtain ⟨v, hv, rfl⟩ := List.mem_map.mp htext
      exact ih v hv (h.elem v hv) (depth + 1)
  | obj fields ih =>
      intro h depth
      rw [chars_obj]
      refine (run_closedList (.inr rfl) depth fun text htext => ?_).2
      obtain ⟨f, hf, rfl⟩ := List.mem_map.mp htext
      rw [fieldChars, run_append_of (run_quoted (depth + 1) f.1)]
      -- the colon of a field stands inside its brackets
      exact ih f hf (h.field f hf) (depth + 1)

/-- One scan is outside of strings where the other is inside one. -/
def Opposite : Scan → Scan → Prop
  | .outside _, .inside _ => True
  | .inside _, .outside _ => True
  | _, _ => False

theorem Opposite.step {s t s' t' : Scan} (h : Opposite s t) {c : Char}
    (hs : s.step c = some s') (ht : t.step c = some t') : Opposite s' t' := by
  cases s <;> cases t <;> first | exact h.elim | skip
  all_goals
    simp only [Scan.step] at hs ht
    split_ifs at hs ht
    all_goals first
      | exact absurd ‹c = '\\'› (by grind)
      | (obtain rfl := Option.some.inj hs; obtain rfl := Option.some.inj ht; trivial)

theorem Opposite.run {s t s' t' : Scan} (h : Opposite s t) {cs : List Char}
    (hs : s.run cs = some s') (ht : t.run cs = some t') : Opposite s' t' := by
  induction cs generalizing s t with
  | nil =>
      obtain rfl := Option.some.inj hs
      obtain rfl := Option.some.inj ht
      exact h
  | cons c cs ih =>
      obtain ⟨u, hu, hs⟩ := Option.bind_eq_some_iff.mp hs
      obtain ⟨w, hw, ht⟩ := Option.bind_eq_some_iff.mp ht
      exact ih (h.step hu hw) hs ht

end Scan

/-- What follows a colon inside the text of a value is not the text of a value. -/
theorem chars_ne_append_colon {v w : Json} (hv : v.IsValue) (hw : w.IsValue) (cs : List Char) :
    v.chars ≠ cs ++ ':' :: w.chars := by
  intro h
  have hrun := Scan.run_chars v hv 0
  rw [h, Scan.run_append] at hrun
  obtain ⟨state, -, hrest⟩ := Option.bind_eq_some_iff.mp hrun
  have hinside : ∀ depth, (Scan.inside depth).run w.chars ≠ some (.outside 0) :=
    fun depth hinside =>
      Scan.Opposite.run (s := .inside depth) (t := .outside 0) trivial hinside
        (Scan.run_chars w hw 0)
  cases state with
  | outside depth =>
      cases depth with
      | zero => cases hrest
      | succ depth =>
          have hout := (Scan.run_chars w hw (depth + 1)).symm.trans hrest
          cases hout
  | inside depth => exact hinside depth hrest
  | escaped depth => exact hinside depth hrest

/-- **A text and a value with a colon between them are told by the whole.** -/
theorem split_unique {a b : String} {v w : Json} (hv : v.IsValue) (hw : w.IsValue)
    (h : a ++ ":" ++ v.compact = b ++ ":" ++ w.compact) : a = b ∧ v = w := by
  have hlist : a.toList ++ ':' :: v.chars = b.toList ++ ':' :: w.chars := by
    have := congrArg String.toList h
    simpa [String.toList_append, Json.chars] using this
  have hsame : a.toList = b.toList ∧ v.chars = w.chars := by
    rcases List.append_eq_append_iff.mp hlist with ⟨cs, hb, hrest⟩ | ⟨cs, ha, hrest⟩
    · cases cs with
      | nil => exact ⟨by rw [hb, List.append_nil], (List.cons.inj hrest).2⟩
      | cons c cs => exact absurd (List.cons.inj hrest).2 (chars_ne_append_colon hv hw cs)
    · cases cs with
      | nil => exact ⟨by rw [ha, List.append_nil], (List.cons.inj hrest).2.symm⟩
      | cons c cs => exact absurd (List.cons.inj hrest).2 (chars_ne_append_colon hw hv cs)
  exact ⟨String.toList_injective hsame.1,
    compact_injective hv hw (String.toList_injective hsame.2)⟩

end Support

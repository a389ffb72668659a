import Snip36.CoinFlip.Deployment
import Snip36.Support.FirstMatch

/-!
# Playground — reading the output of `sncast`

Two functions read the number after a key.  `fund::parse_hex` takes the first number on the first
line that has the key and a number; `coinflip::parse_hex` takes the number that follows the first
key after which, behind colons and white space only, there is one.

`agrees_iff`: both read the same, and a number after the key, exactly when the first number on that
line reads like the one that follows that key, or when there is neither.
-/

namespace Snip36.Playground
open Support CoinFlip

/-! ### The parsers -/

/-- The keys that are looked for. -/
inductive SncastKey where
  | contractAddress
  | transactionHash

/-- The text of a key. -/
def SncastKey.text : SncastKey → String
  | .contractAddress => "contract_address"
  | .transactionHash => "transaction_hash"

/-- A line without the carriage return at its end. -/
def withoutReturn (line : List Char) : List Char :=
  if line.getLast? = some '\r' then line.dropLast else line

/-- The lines of a text, after the beginning of the first one. -/
def linesFrom (line : List Char) : List Char → List (List Char)
  | [] => if line = [] then [] else [line]
  | c :: cs => if c = '\n' then withoutReturn line :: linesFrom [] cs else linesFrom (line ++ [c]) cs

/-- `str::lines`. -/
def lines (text : String) : List (List Char) := linesFrom [] text.toList

/-- `0x[0-9a-fA-F]+` at the beginning. -/
def hexAt : List Char → Option String
  | '0' :: 'x' :: cs =>
      let digits := cs.takeWhile isHexChar
      if digits ≠ [] then some (String.ofList ('0' :: 'x' :: digits)) else none
  | _ => none

/-- `re.is_match(line)`. -/
def hasKey (key : String) (line : List Char) : Bool :=
  line.tails.any fun cs => (afterKey key.toList cs).isSome

/-- `fund::parse_hex`. -/
def parseHex (key text : String) : Option String :=
  (lines text).findSome? fun line =>
    if hasKey key line then line.tails.findSome? hexAt else none

/-! ### Keys and numbers -/

/-- A key, in any case, with spaces for underscores or none. -/
def IsKey (key k : List Char) : Prop :=
  List.Forall₂ (fun a c => a.toLower = c.toLower ∨ (a = '_' ∧ c = ' ')) key k

/-- A number, with one of some marks. -/
def IsNumber (marks h : List Char) : Prop :=
  ∃ mark ∈ marks, ∃ digits, digits ≠ [] ∧ (∀ c ∈ digits, isHexChar c = true) ∧
    h = '0' :: mark :: digits

/-- A number at the beginning, with no digit after it. -/
def NumberAt (marks cs h : List Char) : Prop :=
  ∃ rest, cs = h ++ rest ∧ IsNumber marks h ∧ Stops isHexChar rest

/-- The key at the beginning. -/
def KeyAt (key : String) (cs rest : List Char) : Prop :=
  ∃ k, cs = k ++ rest ∧ IsKey key.toList k

/-- The key at the beginning and a number after it, behind colons and white space only. -/
def KeyedAt (key : String) (cs : List Char) (h : String) : Prop :=
  ∃ separators rest, KeyAt key cs (separators ++ rest) ∧ separators ≠ [] ∧
    (∀ c ∈ separators, isSeparator c = true) ∧ NumberAt ['x', 'X'] rest h.toList

/-- The key somewhere in a line, and a number somewhere. -/
def Marked (key : String) (line : List Char) : Prop :=
  ¬ Nowhere (KeyAt key) line ∧ ¬ Nowhere (fun cs (h : String) => NumberAt ['x'] cs h.toList) line

/-- A number after the key. -/
def NumberAfterKey (key text h : String) : Prop :=
  ∃ before k between rest, text.toList = before ++ (k ++ (between ++ rest)) ∧
    IsKey key.toList k ∧ NumberAt ['x'] rest h.toList

/-- Both parsers read the same, and what they read is a number after the key. -/
structure Agrees (key text : String) : Prop where
  after : ∀ h, parseHex key text = some h ∨ CoinFlip.parseHex key text = some h →
    NumberAfterKey key text h
  same : parseHex key text = CoinFlip.parseHex key text

/-- The first number on the first line that has the key and a number reads like the number that
follows the first key that one follows, or there are neither. -/
def OneReading (key text : String) : Prop :=
  (∃ h, (∃ before line after, lines text = before ++ line :: after ∧
      (∀ other ∈ before, ¬ Marked key other) ∧ ¬ Nowhere (KeyAt key) line ∧
      FirstAt (fun cs (h : String) => NumberAt ['x'] cs h.toList) line h) ∧
    FirstAt (KeyedAt key) text.toList h) ∨
  ((∀ line ∈ lines text, ¬ Marked key line) ∧ Nowhere (KeyedAt key) text.toList)

/-! ### What is matched -/

theorem afterKey_eq_some {key cs rest : List Char} :
    afterKey key cs = some rest ↔ ∃ k, cs = k ++ rest ∧ IsKey key k := by
  induction key generalizing cs with
  | nil =>
      rw [afterKey]
      constructor
      · intro h
        exact ⟨[], Option.some.inj h, .nil⟩
      · rintro ⟨k, rfl, hkey⟩
        rw [List.forall₂_nil_left_iff.mp hkey, List.nil_append]
  | cons a key ih =>
      cases cs with
      | nil =>
          rw [afterKey]
          refine iff_of_false (by simp) ?_
          rintro ⟨k, hk, hkey⟩
          rw [(List.append_eq_nil_iff.mp hk.symm).1] at hkey
          cases hkey
      | cons c cs =>
          rw [afterKey]
          split
          · next hc =>
              rw [ih]
              constructor
              · rintro ⟨k, rfl, hkey⟩
                exact ⟨c :: k, rfl, .cons hc hkey⟩
              · rintro ⟨k, hk, hkey⟩
                cases hkey with
                | cons _ hkey =>
                    obtain ⟨rfl, rfl⟩ := List.cons.inj hk
                    exact ⟨_, rfl, hkey⟩
          · next hc =>
              refine iff_of_false (by simp) ?_
              rintro ⟨k, hk, hkey⟩
              cases hkey with
              | cons hc' _ =>
                  obtain ⟨rfl, rfl⟩ := List.cons.inj hk
                  exact hc hc'

/-- A mark and digits make a number, up to the first character that is no digit. -/
theorem numberAt_iff {marks : List Char} {mark : Char} {cs : List Char} {h : String} :
    NumberAt marks ('0' :: mark :: cs) h.toList ↔
      mark ∈ marks ∧ cs.takeWhile isHexChar ≠ [] ∧
        String.ofList ('0' :: mark :: cs.takeWhile isHexChar) = h := by
  constructor
  · rintro ⟨rest, hcs, ⟨mark', hmark, digits, hne, hdigits, hh⟩, hstops⟩
    rw [hh, List.cons_append, List.cons_append] at hcs
    obtain ⟨rfl, hrest⟩ := List.cons.inj (List.cons.inj hcs).2
    rw [hrest, (takeWhile_of_stops hdigits hstops).1]
    exact ⟨hmark, hne, by rw [← hh, String.ofList_toList]⟩
  · rintro ⟨hmark, hne, rfl⟩
    rw [String.toList_ofList]
    refine ⟨cs.dropWhile isHexChar, ?_, ⟨mark, hmark, _, hne, ?_, rfl⟩, stops_dropWhile _ _⟩
    · rw [List.cons_append, List.cons_append, List.takeWhile_append_dropWhile]
    · exact fun c hc => List.all_eq_true.mp List.all_takeWhile c hc

theorem hexAt_eq_some {cs : List Char} {h : String} :
    hexAt cs = some h ↔ NumberAt ['x'] cs h.toList := by
  rw [hexAt.eq_def]
  split
  · rw [numberAt_iff]
    simp
  · next hother =>
      refine iff_of_false (by simp) ?_
      rintro ⟨rest, rfl, ⟨mark, hmark, digits, -, -, hh⟩, -⟩
      obtain rfl := List.mem_singleton.mp hmark
      exact hother (digits ++ rest) (by rw [hh]; rfl)

theorem hasKey_iff {key : String} {line : List Char} :
    hasKey key line = true ↔ ¬ Nowhere (KeyAt key) line := by
  rw [hasKey, List.any_eq_true]
  constructor
  · rintro ⟨cs, hcs, hkey⟩ hnone
    obtain ⟨before, rfl⟩ := (List.mem_tails cs line).mp hcs
    obtain ⟨rest, hrest⟩ := Option.isSome_iff_exists.mp hkey
    exact hnone before cs rest rfl (afterKey_eq_some.mp hrest)
  · intro h
    rw [Nowhere] at h
    push Not at h
    obtain ⟨before, after, rest, rfl, hkey⟩ := h
    exact ⟨after, (List.mem_tails _ _).mpr (List.suffix_append before after),
      Option.isSome_iff_exists.mpr ⟨rest, afterKey_eq_some.mpr hkey⟩⟩

/-- What a number begins with is no separator. -/
theorem stops_of_numberAt {marks cs h : List Char} (hnumber : NumberAt marks cs h) :
    Stops isSeparator cs := by
  obtain ⟨rest, rfl, ⟨mark, -, digits, -, -, rfl⟩, -⟩ := hnumber
  intro c hc
  obtain rfl := Option.some.inj hc
  rfl

/-- What `coinflip::parse_hex` reads behind the separators. -/
theorem numberBehind_iff {cs : List Char} {h : String} :
    (match cs with
      | '0' :: x :: cs =>
          let digits := cs.takeWhile isHexChar
          if (x = 'x' ∨ x = 'X') ∧ digits ≠ [] then some (String.ofList ('0' :: x :: digits))
          else none
      | _ => none) = some h ↔ NumberAt ['x', 'X'] cs h.toList := by
  split
  · rw [numberAt_iff]
    simp [and_assoc]
  · next hother =>
      refine iff_of_false (by simp) ?_
      rintro ⟨rest, rfl, ⟨mark, -, digits, -, -, hh⟩, -⟩
      exact hother mark (digits ++ rest) (by rw [hh]; rfl)

/-- What `coinflip::parse_hex` matches at a place. -/
theorem keyedAt_iff {key : String} {cs : List Char} {h : String} :
    (do
      let rest ← afterKey key.toList cs
      guard (rest.head?.any isSeparator)
      match rest.dropWhile isSeparator with
      | '0' :: x :: cs =>
          let digits := cs.takeWhile isHexChar
          if (x = 'x' ∨ x = 'X') ∧ digits ≠ [] then some (String.ofList ('0' :: x :: digits))
          else none
      | _ => none) = some h ↔ KeyedAt key cs h := by
  simp only [Option.bind_eq_bind, Option.bind_eq_some_iff, Option.guard_eq_some']
  constructor
  · rintro ⟨rest, hrest, -, hhead, hnumber⟩
    refine ⟨rest.takeWhile isSeparator, rest.dropWhile isSeparator, ?_, ?_,
      fun c hc => List.all_eq_true.mp List.all_takeWhile c hc, numberBehind_iff.mp hnumber⟩
    · rw [List.takeWhile_append_dropWhile]
      exact afterKey_eq_some.mp hrest
    · cases rest with
      | nil => cases hhead
      | cons c rest =>
          have hc : isSeparator c = true := hhead
          rw [List.takeWhile_cons_of_pos hc]
          exact List.cons_ne_nil _ _
  · rintro ⟨separators, rest, hkey, hne, hseparators, hnumber⟩
    refine ⟨separators ++ rest, afterKey_eq_some.mpr hkey, (), ?_, ?_⟩
    · obtain ⟨c, separators, rfl⟩ := List.exists_cons_of_ne_nil hne
      exact hseparators c List.mem_cons_self
    · rw [(takeWhile_of_stops hseparators (stops_of_numberAt hnumber)).2]
      exact numberBehind_iff.mpr hnumber

/-! ### What each parser reads -/

/-- **What `coinflip::parse_hex` reads**: the number that follows the first key that one
follows. -/
theorem coinFlip_parseHex_eq {key text : String} :
    (∀ h, CoinFlip.parseHex key text = some h ↔ FirstAt (KeyedAt key) text.toList h) ∧
      (CoinFlip.parseHex key text = none ↔ Nowhere (KeyedAt key) text.toList) :=
  findSome?_tails (fun _ _ => keyedAt_iff) text.toList

/-- The first number in a line that has the key. -/
theorem numberInLine_eq {key : String} {line : List Char} :
    (∀ h, (if hasKey key line then line.tails.findSome? hexAt else none) = some h ↔
        ¬ Nowhere (KeyAt key) line ∧
          FirstAt (fun cs (h : String) => NumberAt ['x'] cs h.toList) line h) ∧
      ((if hasKey key line then line.tails.findSome? hexAt else none) = none ↔
        ¬ Marked key line) := by
  have hfind := findSome?_tails (f := hexAt) (fun _ _ => hexAt_eq_some) line
  rw [Marked, ← hasKey_iff, ← hfind.2]
  by_cases hkey : hasKey key line
  · simp [hkey, hfind.1]
  · simp [hkey]

/-- **What `fund::parse_hex` reads**: the first number on the first line that has the key and a
number. -/
theorem parseHex_eq {key text : String} :
    (∀ h, parseHex key text = some h ↔
        ∃ before line after, lines text = before ++ line :: after ∧
          (∀ other ∈ before, ¬ Marked key other) ∧ ¬ Nowhere (KeyAt key) line ∧
          FirstAt (fun cs (h : String) => NumberAt ['x'] cs h.toList) line h) ∧
      (parseHex key text = none ↔ ∀ line ∈ lines text, ¬ Marked key line) := by
  rw [parseHex, List.findSome?_eq_none_iff]
  refine ⟨fun h => ?_, forall₂_congr fun line _ => numberInLine_eq.2⟩
  rw [List.findSome?_eq_some_iff]
  refine exists_congr fun before => exists_congr fun line => exists_congr fun after => ?_
  rw [numberInLine_eq.1]
  refine and_congr_right fun _ => ?_
  rw [and_comm]
  exact and_congr_left fun _ => forall₂_congr fun other _ => numberInLine_eq.2

/-! ### The parsers together -/

/-- A number that both parsers read is one after the key. -/
theorem numberAfterKey_of_read {key text h : String} {line : List Char}
    (hline : FirstAt (fun cs (h : String) => NumberAt ['x'] cs h.toList) line h)
    (hkeyed : FirstAt (KeyedAt key) text.toList h) : NumberAfterKey key text h := by
  obtain ⟨-, -, -, ⟨-, -, hmarked, -⟩, -⟩ := hline
  obtain ⟨before, after, htext, ⟨separators, rest, ⟨k, rfl, hkey⟩, -, -, hnumber⟩, -⟩ := hkeyed
  obtain ⟨behind, rfl, -, hstops⟩ := hnumber
  exact ⟨before, k, separators, _, htext, hkey, behind, rfl, hmarked, hstops⟩

/-- **When the parsers agree, and on a number after the key**: when the first number on the first
line that has the key and a number reads like the one that follows the first key that one follows,
or there are neither. -/
theorem agrees_iff (key : SncastKey) (text : String) :
    Agrees key.text text ↔ OneReading key.text text := by
  constructor
  · rintro ⟨-, hsame⟩
    cases hfund : parseHex key.text text with
    | none =>
        exact .inr ⟨parseHex_eq.2.mp hfund, coinFlip_parseHex_eq.2.mp (hsame ▸ hfund)⟩
    | some h =>
        exact .inl ⟨h, (parseHex_eq.1 h).mp hfund, (coinFlip_parseHex_eq.1 h).mp (hsame ▸ hfund)⟩
  · rintro (⟨h, hline, hkeyed⟩ | ⟨hlines, hnowhere⟩)
    · have hfund := (parseHex_eq.1 h).mpr hline
      have hcoinFlip := (coinFlip_parseHex_eq.1 h).mpr hkeyed
      obtain ⟨_, line, _, -, -, -, hfirst⟩ := hline
      refine ⟨?_, hfund.trans hcoinFlip.symm⟩
      rintro h' (hread | hread)
      · obtain rfl := Option.some.inj (hfund.symm.trans hread)
        exact numberAfterKey_of_read hfirst hkeyed
      · obtain rfl := Option.some.inj (hcoinFlip.symm.trans hread)
        exact numberAfterKey_of_read hfirst hkeyed
    · have hfund : parseHex key.text text = none := parseHex_eq.2.mpr hlines
      have hcoinFlip := coinFlip_parseHex_eq.2.mpr hnowhere
      refine ⟨?_, hfund.trans hcoinFlip.symm⟩
      rintro h' (hread | hread)
      · exact absurd (hfund.symm.trans hread) (by simp)
      · exact absurd (hcoinFlip.symm.trans hread) (by simp)

/-- A number before the key on its line, where the parsers read different ones. -/
theorem not_agrees_sample :
    ¬ Agrees SncastKey.contractAddress.text "class_hash: 0x1, contract_address: 0x2" := by
  rintro ⟨-, hsame⟩
  have hfund : parseHex SncastKey.contractAddress.text "class_hash: 0x1, contract_address: 0x2"
      = some "0x1" := by decide +kernel
  have hcoinFlip : CoinFlip.parseHex SncastKey.contractAddress.text
      "class_hash: 0x1, contract_address: 0x2" = some "0x2" := by decide +kernel
  rw [hfund, hcoinFlip] at hsame
  exact absurd hsame (by decide)

end Snip36.Playground

import Mathlib

/-!
# Support — base64

The standard alphabet, with padding.  `encode` takes three bytes at a time, and `decode?` four
characters; it accepts canonical texts alone: whole groups, padding at the end, and no bits under
the padding.

`decode?_encode`: what is encoded is decoded.  `mem_encode`: a text has characters of the alphabet
and padding alone.
-/

namespace Support.Base64

/-- The characters of the values below 64. -/
def alphabet : List Char :=
  "ABCDEFGHIJKLMNOPQRSTUVWXYZabcdefghijklmnopqrstuvwxyz0123456789+/".toList

/-- The character of a value. -/
def symbol (n : ℕ) : Char := alphabet.getD n '='

/-- The value of a character. -/
def value? (c : Char) : Option ℕ := alphabet.idxOf? c

/-- The text of some bytes. -/
def encode : List UInt8 → List Char
  | [] => []
  | [a] => [symbol (a.toNat / 4), symbol (a.toNat % 4 * 16), '=', '=']
  | [a, b] => [symbol (a.toNat / 4), symbol (a.toNat % 4 * 16 + b.toNat / 16),
      symbol (b.toNat % 16 * 4), '=']
  | a :: b :: c :: bytes =>
      symbol (a.toNat / 4) :: symbol (a.toNat % 4 * 16 + b.toNat / 16)
        :: symbol (b.toNat % 16 * 4 + c.toNat / 64) :: symbol (c.toNat % 64) :: encode bytes

/-- The bytes of a text. -/
def decode? : List Char → Option (List UInt8)
  | [] => some []
  | [w, x, '=', '='] => do
      let w ← value? w
      let x ← value? x
      if x % 16 = 0 then some [UInt8.ofNat (w * 4 + x / 16)] else none
  | [w, x, y, '='] => do
      let w ← value? w
      let x ← value? x
      let y ← value? y
      if y % 4 = 0 then some [UInt8.ofNat (w * 4 + x / 16), UInt8.ofNat (x % 16 * 16 + y / 4)]
      else none
  | w :: x :: y :: z :: cs => do
      let w ← value? w
      let x ← value? x
      let y ← value? y
      let z ← value? z
      let bytes ← decode? cs
      some (UInt8.ofNat (w * 4 + x / 16) :: UInt8.ofNat (x % 16 * 16 + y / 4)
        :: UInt8.ofNat (y % 4 * 64 + z) :: bytes)
  | _ => none

theorem value?_symbol : ∀ n < 64, value? (symbol n) = some n := by decide +kernel

theorem symbol_ne_pad : ∀ n < 64, symbol n ≠ '=' := by decide +kernel

theorem symbol_mem : ∀ n < 64, symbol n ∈ '=' :: alphabet := by decide +kernel

theorem ofNat_eq {n : ℕ} {byte : UInt8} (h : n = byte.toNat) : UInt8.ofNat n = byte := by
  rw [h, UInt8.ofNat_toNat]

/-- A whole group of four characters. -/
theorem decode?_group {w x y z : ℕ} (hw : w < 64) (hx : x < 64) (hy : y < 64) (hz : z < 64)
    (cs : List Char) :
    decode? (symbol w :: symbol x :: symbol y :: symbol z :: cs)
      = (decode? cs).map fun bytes => UInt8.ofNat (w * 4 + x / 16)
          :: UInt8.ofNat (x % 16 * 16 + y / 4) :: UInt8.ofNat (y % 4 * 64 + z) :: bytes := by
  have hpad : symbol z ≠ '=' := symbol_ne_pad z hz
  rw [decode?]
  · rw [value?_symbol w hw, value?_symbol x hx, value?_symbol y hy, value?_symbol z hz]
    cases decode? cs <;> rfl
  · rintro - heq -
    exact hpad heq
  · rintro heq -
    exact hpad heq

/-- **What is encoded is decoded.** -/
theorem decode?_encode : ∀ bytes : List UInt8, decode? (encode bytes) = some bytes
  | [] => rfl
  | [a] => by
      have ha := a.toNat_lt
      have hfirst : UInt8.ofNat (a.toNat / 4 * 4 + a.toNat % 4 * 16 / 16) = a :=
        ofNat_eq (by omega)
      have hrest : a.toNat % 4 * 16 % 16 = 0 := by omega
      rw [encode, decode?, value?_symbol _ (by omega), value?_symbol _ (by omega)]
      simp only [Option.bind_eq_bind, Option.bind_some, hrest, if_true, hfirst]
  | [a, b] => by
      have ha := a.toNat_lt
      have hb := b.toNat_lt
      have hpad := symbol_ne_pad (b.toNat % 16 * 4) (by omega)
      have hfirst : UInt8.ofNat (a.toNat / 4 * 4 + (a.toNat % 4 * 16 + b.toNat / 16) / 16) = a :=
        ofNat_eq (by omega)
      have hsecond : UInt8.ofNat ((a.toNat % 4 * 16 + b.toNat / 16) % 16 * 16
          + b.toNat % 16 * 4 / 4) = b := ofNat_eq (by omega)
      have hrest : b.toNat % 16 * 4 % 4 = 0 := by omega
      rw [encode, decode?]
      · rw [value?_symbol _ (by omega), value?_symbol _ (by omega), value?_symbol _ (by omega)]
        simp only [Option.bind_eq_bind, Option.bind_some, hrest, if_true, hfirst, hsecond]
      · exact hpad
  | a :: b :: c :: bytes => by
      have ha := a.toNat_lt
      have hb := b.toNat_lt
      have hc := c.toNat_lt
      have hfirst : UInt8.ofNat (a.toNat / 4 * 4 + (a.toNat % 4 * 16 + b.toNat / 16) / 16) = a :=
        ofNat_eq (by omega)
      have hsecond : UInt8.ofNat ((a.toNat % 4 * 16 + b.toNat / 16) % 16 * 16
          + (b.toNat % 16 * 4 + c.toNat / 64) / 4) = b := ofNat_eq (by omega)
      have hthird : UInt8.ofNat ((b.toNat % 16 * 4 + c.toNat / 64) % 4 * 64 + c.toNat % 64) = c :=
        ofNat_eq (by omega)
      rw [encode, decode?_group (by omega) (by omega) (by omega) (by omega), decode?_encode bytes,
        Option.map_some, hfirst, hsecond, hthird]

/-- A text has characters of the alphabet and padding alone. -/
theorem mem_encode : ∀ {bytes : List UInt8} {c : Char}, c ∈ encode bytes → c ∈ '=' :: alphabet
  | [], _, h => absurd h List.not_mem_nil
  | [a], _, h => by
      have ha := a.toNat_lt
      simp only [encode, List.mem_cons, List.not_mem_nil, or_false] at h
      rcases h with rfl | rfl | rfl | rfl
      · exact symbol_mem _ (by omega)
      · exact symbol_mem _ (by omega)
      · exact List.mem_cons_self
      · exact List.mem_cons_self
  | [a, b], _, h => by
      have ha := a.toNat_lt
      have hb := b.toNat_lt
      simp only [encode, List.mem_cons, List.not_mem_nil, or_false] at h
      rcases h with rfl | rfl | rfl | rfl
      · exact symbol_mem _ (by omega)
      · exact symbol_mem _ (by omega)
      · exact symbol_mem _ (by omega)
      · exact List.mem_cons_self
  | a :: b :: c :: bytes, _, h => by
      have ha := a.toNat_lt
      have hb := b.toNat_lt
      have hc := c.toNat_lt
      rw [encode] at h
      simp only [List.mem_cons] at h
      rcases h with rfl | rfl | rfl | rfl | h
      · exact symbol_mem _ (by omega)
      · exact symbol_mem _ (by omega)
      · exact symbol_mem _ (by omega)
      · exact symbol_mem _ (by omega)
      · exact mem_encode h

end Support.Base64

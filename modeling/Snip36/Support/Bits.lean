import Mathlib

/-!
# Support — packed words and big-endian bytes

Two machine words packed into a wider one by a shift and an `or` are the digits of a number
(`toNat_pack`), so a packed word determines its parts.  `beNat` reads bytes as a big-endian
number, and `beBytes` reads them back, but for zeros in front (`beBytes_beNat`).
-/

namespace Support

/-- Bytes as a big-endian number. -/
def beNat (bytes : List UInt8) : ℕ := bytes.foldl (fun n byte => n * 256 + byte.toNat) 0

/-- The bytes of a text in UTF-8. -/
def utf8Bytes (s : String) : List UInt8 := s.toList.flatMap String.utf8EncodeChar

theorem foldl_lt {bytes : List UInt8} {n k : ℕ} (h : n < 256 ^ k) :
    bytes.foldl (fun n byte => n * 256 + byte.toNat) n < 256 ^ (k + bytes.length) := by
  induction bytes generalizing n k with
  | nil => simpa using h
  | cons byte bytes ih =>
      have hbyte : byte.toNat < 256 := byte.toNat_lt
      have hstep : n * 256 + byte.toNat < 256 ^ (k + 1) := by
        rw [pow_succ]
        omega
      have hrest := ih hstep
      rwa [List.length_cons, Nat.add_comm bytes.length, ← Nat.add_assoc]

theorem beNat_lt (bytes : List UInt8) : beNat bytes < 256 ^ bytes.length := by
  have h : (0 : ℕ) < 256 ^ 0 := by norm_num
  simpa [beNat] using foldl_lt h

theorem foldl_eq (bytes : List UInt8) (n : ℕ) :
    bytes.foldl (fun n byte => n * 256 + byte.toNat) n = n * 256 ^ bytes.length + beNat bytes := by
  induction bytes generalizing n with
  | nil => simp [beNat]
  | cons byte bytes ih =>
      rw [beNat, List.foldl_cons, List.foldl_cons, ih, ih (0 * 256 + byte.toNat), List.length_cons,
        pow_succ]
      ring

/-- The first byte is the highest digit. -/
theorem beNat_cons (byte : UInt8) (bytes : List UInt8) :
    beNat (byte :: bytes) = byte.toNat * 256 ^ bytes.length + beNat bytes := by
  rw [beNat, List.foldl_cons, foldl_eq, Nat.zero_mul, Nat.zero_add]

theorem beNat_eq_ofDigits (bytes : List UInt8) :
    beNat bytes = Nat.ofDigits 256 (bytes.reverse.map UInt8.toNat) := by
  induction bytes with
  | nil => rfl
  | cons byte bytes ih =>
      rw [beNat_cons, ih, List.reverse_cons, List.map_append, Nat.ofDigits_append, List.length_map,
        List.length_reverse, List.map_singleton, Nat.ofDigits_singleton]
      ring

/-- The bytes of a number, the highest first. -/
def beBytes (n : ℕ) : List UInt8 := (Nat.digits 256 n).reverse.map UInt8.ofNat

/-- **Bytes are read back from their number**, when the first of them is not zero. -/
theorem beBytes_beNat {bytes : List UInt8} (h : bytes.head? ≠ some 0) :
    beBytes (beNat bytes) = bytes := by
  have hlt : ∀ d ∈ bytes.reverse.map UInt8.toNat, d < 256 := by
    intro d hd
    obtain ⟨byte, -, rfl⟩ := List.mem_map.mp hd
    exact byte.toNat_lt
  have hlast : ∀ hne : bytes.reverse.map UInt8.toNat ≠ [],
      (bytes.reverse.map UInt8.toNat).getLast hne ≠ 0 := by
    intro hne hzero
    cases bytes with
    | nil => exact hne rfl
    | cons byte bytes =>
        have hbyte : byte.toNat = 0 := by simpa using hzero
        exact h (congrArg some (UInt8.toNat_inj.mp hbyte))
  rw [beBytes, beNat_eq_ofDigits, Nat.digits_ofDigits 256 (by norm_num) _ hlt hlast,
    ← List.map_reverse, List.reverse_reverse, List.map_map]
  simp [Function.comp_def]

/-- Bytes that start with no zero are told by their number. -/
theorem beNat_inj {as bs : List UInt8} (ha : as.head? ≠ some 0) (hb : bs.head? ≠ some 0)
    (h : beNat as = beNat bs) : as = bs := by
  rw [← beBytes_beNat ha, h, beBytes_beNat hb]

/-- The `k` lowest bytes of a number, the highest first. -/
def lowBytes : ℕ → ℕ → List UInt8
  | 0, _ => []
  | k + 1, n => lowBytes k (n / 256) ++ [UInt8.ofNat (n % 256)]

theorem length_lowBytes (k n : ℕ) : (lowBytes k n).length = k := by
  induction k generalizing n with
  | zero => rfl
  | succ k ih => rw [lowBytes, List.length_append, ih, List.length_singleton]

/-- The lowest bytes are the last. -/
theorem lowBytes_add (j k n : ℕ) :
    lowBytes (j + k) n = lowBytes j (n / 256 ^ k) ++ lowBytes k n := by
  induction k generalizing n with
  | zero => simp [lowBytes]
  | succ k ih =>
      rw [← Nat.add_assoc, lowBytes, ih, lowBytes, Nat.div_div_eq_div_mul, ← pow_succ',
        List.append_assoc]

theorem beNat_append_singleton (bytes : List UInt8) (byte : UInt8) :
    beNat (bytes ++ [byte]) = beNat bytes * 256 + byte.toNat := by
  rw [beNat, List.foldl_append]
  rfl

/-- The lowest bytes are those of the number modulo a power of the base. -/
theorem beNat_lowBytes (k n : ℕ) : beNat (lowBytes k n) = n % 256 ^ k := by
  induction k generalizing n with
  | zero => simp [lowBytes, beNat, Nat.mod_one]
  | succ k ih =>
      have hbyte : (UInt8.ofNat (n % 256)).toNat = n % 256 := by
        rw [UInt8.toNat_ofNat']
        omega
      rw [lowBytes, beNat_append_singleton, ih, hbyte, pow_succ', Nat.mod_mul]
      ring

/-- ASCII characters take one byte each. -/
theorem length_utf8Bytes {s : String} (h : ∀ c ∈ s.toList, c.toNat < 128) :
    (utf8Bytes s).length = s.length := by
  have hsize : ∀ c ∈ s.toList, (String.utf8EncodeChar c).length = 1 := by
    intro c hc
    rw [String.length_utf8EncodeChar, Char.utf8Size_eq_one_iff]
    exact UInt32.le_iff_toNat_le.mpr (Nat.le_of_lt_succ (h c hc))
  rw [utf8Bytes, List.length_flatMap, List.map_congr_left hsize]
  simp [String.length_toList]

theorem utf8Bytes_injective : Function.Injective utf8Bytes := by
  intro s s' h
  have hencode : s.toList.utf8Encode = s'.toList.utf8Encode := congrArg List.toByteArray h
  rw [String.utf8Encode_toList, String.utf8Encode_toList] at hencode
  exact String.toByteArray_inj.mp hencode

/-- A shifted word and a word below the shift are digits of the packed word. -/
theorem toNat_pack {v w : ℕ} (hvw : v ≤ w) (high : BitVec w) (low : BitVec v)
    (hhigh : high.toNat * 2 ^ v < 2 ^ w) :
    ((high <<< v) ||| low.setWidth w).toNat = high.toNat * 2 ^ v + low.toNat := by
  have hlow : low.toNat < 2 ^ v := low.isLt
  have hlow' : low.toNat < 2 ^ w := hlow.trans_le (Nat.pow_le_pow_right (by norm_num) hvw)
  rw [BitVec.toNat_or, BitVec.toNat_shiftLeft, BitVec.toNat_setWidth, Nat.mod_eq_of_lt hlow',
    Nat.shiftLeft_eq, Nat.mod_eq_of_lt hhigh, ← Nat.shiftLeft_eq,
    ← Nat.shiftLeft_add_eq_or_of_lt hlow]

/-- Two digits in one base are determined by their number. -/
theorem digits_inj {base a b x y : ℕ} (hx : x < base) (hy : y < base)
    (h : a * base + x = b * base + y) : a = b ∧ x = y := by
  have hpos : 0 < base := (Nat.zero_le x).trans_lt hx
  have hdiv := congrArg (· / base) h
  have hmod := congrArg (· % base) h
  simp only [Nat.add_comm _ x, Nat.add_comm _ y,
    Nat.add_mul_div_right _ _ hpos, Nat.add_mul_mod_self_right, Nat.div_eq_of_lt hx,
    Nat.div_eq_of_lt hy, Nat.mod_eq_of_lt hx, Nat.mod_eq_of_lt hy, Nat.zero_add] at hdiv hmod
  exact ⟨hdiv, hmod⟩

end Support

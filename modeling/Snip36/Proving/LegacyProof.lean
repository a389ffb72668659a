import Snip36.Streams.Outcomes
import Snip36.Support.Base64

/-!
# Proving — legacy proofs

A legacy proof is a list of felts as hexadecimal texts.  `cairo_serde_to_base64` keeps the lowest
32 bits of each, as four bytes, and encodes the bytes; `decode_proof_base64` decodes them, with
whitespace around the text.

`cairoSerdeToBase64_packs`: it succeeds exactly when every text is a felt, and every felt has its
four bytes at its place.  So felts below `2 ^ 32` are read back (`unpackU32s`).
-/

namespace Snip36.Proving
open Support Signing Streams

/-! ### Packing -/

/-- `ProofError`. -/
inductive ProofError where
  | base64Decode (msg : String)
  | invalidFelt (msg : String)
  | invalidJson (msg : String)
  deriving DecidableEq

/-- `decode_proof_base64`, with the text of the decoder's error. -/
def decodeProofBase64 (errorText : String → String) (b64 : String) :
    Except ProofError (List UInt8) :=
  let text := trim b64
  okOr (Base64.decode? text.toList) (.base64Decode (errorText text))

/-- `encode_proof_base64`. -/
def encodeProofBase64 (bytes : List UInt8) : String := String.ofList (Base64.encode bytes)

/-- `to_bytes_be`, of a felt. -/
def toBytesBe (felt : Felt) : List UInt8 := lowBytes 32 felt.val

/-- The loop body of `cairo_serde_to_base64`. -/
def packFelt (fh : FeltHex) (packed : List UInt8) (feltHex : String) :
    Except ProofError (List UInt8) := do
  let felt ← (fh.fromHex feltHex).mapError fun e => .invalidFelt (feltHex ++ ": " ++ e)
  let bytes := toBytesBe felt
  let u32Val := BitVec.ofNat 32 (beNat
    [bytes.getD 28 0, bytes.getD 29 0, bytes.getD 30 0, bytes.getD 31 0])
  pure (packed ++ lowBytes 4 u32Val.toNat)

/-- `cairo_serde_to_base64`. -/
def cairoSerdeToBase64 (fh : FeltHex) (felts : List String) : Except ProofError String := do
  let packed ← felts.foldlM (packFelt fh) []
  pure (encodeProofBase64 packed)

/-! ### Trimming -/

/-- Whitespace around a text without whitespace is trimmed. -/
theorem trim_append {before text after : String}
    (hbefore : ∀ c ∈ before.toList, isWhitespace c = true)
    (htext : ∀ c ∈ text.toList, isWhitespace c = false)
    (hafter : ∀ c ∈ after.toList, isWhitespace c = true) :
    trim (before ++ text ++ after) = text := by
  have hstart : (before ++ text ++ after).toList.dropWhile isWhitespace
      = (text.toList ++ after.toList).dropWhile isWhitespace := by
    rw [String.toList_append, String.toList_append, List.append_assoc,
      List.dropWhile_append_of_pos hbefore]
  have hend : ∀ cs : List Char, (∀ c ∈ cs, isWhitespace c = false) →
      cs.reverse.dropWhile isWhitespace = cs.reverse := by
    intro cs hcs
    cases hrev : cs.reverse with
    | nil => rfl
    | cons c rest =>
        have hc : isWhitespace c = false :=
          hcs c (List.mem_reverse.mp (hrev ▸ List.mem_cons_self))
        rw [List.dropWhile_cons_of_neg (by simp [hc])]
  have htrim : ((text.toList ++ after.toList).dropWhile isWhitespace).reverse.dropWhile isWhitespace
      = text.toList.reverse := by
    cases hcs : text.toList with
    | nil => rw [List.nil_append, List.dropWhile_eq_nil_iff.mpr hafter]; rfl
    | cons c cs =>
        have hc : isWhitespace c = false := htext c (hcs ▸ List.mem_cons_self)
        rw [List.cons_append, List.dropWhile_cons_of_neg (by simp [hc]), ← List.cons_append,
          List.reverse_append, List.dropWhile_append_of_pos
            fun c hc => hafter c (List.mem_reverse.mp hc)]
        exact hend (c :: cs) (hcs ▸ htext)
  rw [trim, trimEndMatches, String.toList_ofList, hstart, htrim, List.reverse_reverse,
    String.ofList_toList]

/-- An encoded text has no whitespace. -/
theorem not_isWhitespace_of_mem_encode {bytes : List UInt8} {c : Char}
    (h : c ∈ Base64.encode bytes) : isWhitespace c = false := by
  have halphabet : (('=' :: Base64.alphabet).all fun c => !isWhitespace c) = true := by
    decide +kernel
  simpa using List.all_eq_true.mp halphabet c (Base64.mem_encode h)

/-- **What is encoded is decoded**, with whitespace around it. -/
theorem decodeProofBase64_encode {errorText : String → String} {before after : String}
    (hbefore : ∀ c ∈ before.toList, isWhitespace c = true)
    (hafter : ∀ c ∈ after.toList, isWhitespace c = true) (bytes : List UInt8) :
    decodeProofBase64 errorText (before ++ encodeProofBase64 bytes ++ after) = .ok bytes := by
  have htext : ∀ c ∈ (encodeProofBase64 bytes).toList, isWhitespace c = false := by
    intro c hc
    rw [encodeProofBase64, String.toList_ofList] at hc
    exact not_isWhitespace_of_mem_encode hc
  rw [decodeProofBase64, trim_append hbefore htext hafter]
  simp only [encodeProofBase64, String.toList_ofList, Base64.decode?_encode]
  rfl

/-! ### Groups of four bytes -/

/-- The four bytes of a felt. -/
def feltGroup (felt : Felt) : List UInt8 := lowBytes 4 (felt.val % 2 ^ 32)

/-- The lowest bytes of a felt are taken. -/
theorem packFelt_eq_ok {fh : FeltHex} {packed packed' : List UInt8} {feltHex : String} :
    packFelt fh packed feltHex = .ok packed' ↔
      ∃ felt, fh.fromHex feltHex = .ok felt ∧ packed' = packed ++ feltGroup felt := by
  have hlow : ∀ felt : Felt, [(toBytesBe felt).getD 28 0, (toBytesBe felt).getD 29 0,
      (toBytesBe felt).getD 30 0, (toBytesBe felt).getD 31 0] = lowBytes 4 felt.val := by
    intro felt
    rw [toBytesBe, lowBytes_add 28 4]
    have hlen := length_lowBytes 28 (felt.val / 256 ^ 4)
    simp only [List.getD_eq_getElem?_getD, List.getElem?_append_right, hlen, Nat.le_refl,
      show 28 ≤ 29 by norm_num, show 28 ≤ 30 by norm_num, show 28 ≤ 31 by norm_num]
    rfl
  have hgroup : ∀ felt : Felt, (BitVec.ofNat 32 (beNat (lowBytes 4 felt.val))).toNat
      = felt.val % 2 ^ 32 := by
    intro felt
    rw [BitVec.toNat_ofNat, beNat_lowBytes, show (256 : ℕ) ^ 4 = 2 ^ 32 by norm_num, Nat.mod_mod]
  rw [packFelt, bind_eq_ok]
  simp only [mapError_eq_ok, hlow, hgroup, feltGroup, pure_eq_ok, eq_comm (b := packed')]

/-- The loop appends the group of every felt. -/
theorem foldlM_packFelt_eq_ok {fh : FeltHex} :
    ∀ {felts : List String} {packed packed' : List UInt8},
      felts.foldlM (packFelt fh) packed = .ok packed' ↔
        ∃ values, List.Forall₂ (fun feltHex felt => fh.fromHex feltHex = .ok felt) felts values ∧
          packed' = packed ++ values.flatMap feltGroup
  | [], packed, packed' => by
      rw [List.foldlM_nil, pure_eq_ok]
      constructor
      · rintro rfl
        exact ⟨[], .nil, (List.append_nil _).symm⟩
      · rintro ⟨values, hvalues, rfl⟩
        rw [List.forall₂_nil_left_iff.mp hvalues]
        exact (List.append_nil _).symm
  | feltHex :: felts, packed, packed' => by
      rw [List.foldlM_cons, bind_eq_ok]
      constructor
      · rintro ⟨packed₁, h₁, h⟩
        obtain ⟨felt, hfelt, rfl⟩ := packFelt_eq_ok.mp h₁
        obtain ⟨values, hvalues, rfl⟩ := foldlM_packFelt_eq_ok.mp h
        refine ⟨felt :: values, .cons hfelt hvalues, ?_⟩
        rw [List.flatMap_cons, List.append_assoc]
      · rintro ⟨values, hvalues, rfl⟩
        obtain ⟨felt, values', hfelt, hvalues', rfl⟩ := List.forall₂_cons_left_iff.mp hvalues
        refine ⟨_, packFelt_eq_ok.mpr ⟨felt, hfelt, rfl⟩, ?_⟩
        refine foldlM_packFelt_eq_ok.mpr ⟨values', hvalues', ?_⟩
        rw [List.flatMap_cons, List.append_assoc]

/-- Groups of four bytes as numbers. -/
def unpackU32s : List UInt8 → List ℕ
  | a :: b :: c :: d :: bytes => beNat [a, b, c, d] :: unpackU32s bytes
  | _ => []

/-- What the bytes of some felts are. -/
structure Packs (values : List Felt) (bytes : List UInt8) : Prop where
  length : bytes.length = 4 * values.length
  group : ∀ (i : ℕ) felt, values[i]? = some felt → (bytes.drop (4 * i)).take 4 = feltGroup felt
  unpack : unpackU32s bytes = values.map fun felt => felt.val % 2 ^ 32
  inverse : (∀ felt ∈ values, felt.val < 2 ^ 32) →
    (unpackU32s bytes).map Felt.ofNat = values

theorem length_feltGroup (felt : Felt) : (feltGroup felt).length = 4 := length_lowBytes 4 _

theorem unpackU32s_flatMap (values : List Felt) :
    unpackU32s (values.flatMap feltGroup) = values.map fun felt => felt.val % 2 ^ 32 := by
  induction values with
  | nil => rfl
  | cons felt values ih =>
      obtain ⟨a, b, c, d, hgroup⟩ : ∃ a b c d, feltGroup felt = [a, b, c, d] := ⟨_, _, _, _, rfl⟩
      have hvalue : beNat [a, b, c, d] = felt.val % 2 ^ 32 := by
        rw [← hgroup, feltGroup, beNat_lowBytes, show (256 : ℕ) ^ 4 = 2 ^ 32 by norm_num,
          Nat.mod_mod]
      rw [List.flatMap_cons, hgroup, List.map_cons, ← ih, ← hvalue]
      rfl

theorem packs_flatMap (values : List Felt) : Packs values (values.flatMap feltGroup) where
  length := by
    rw [List.length_flatMap, List.map_congr_left fun felt _ => length_feltGroup felt]
    simp [Nat.mul_comm]
  group i felt hi := by
    induction values generalizing i with
    | nil => cases hi
    | cons value values ih =>
        rw [List.flatMap_cons]
        cases i with
        | zero =>
            obtain rfl : value = felt := Option.some.inj hi
            rw [Nat.mul_zero, List.drop_zero, List.take_left' (length_feltGroup value)]
        | succ i =>
            have hskip : 4 * (i + 1) = (feltGroup value).length + 4 * i := by
              rw [length_feltGroup]
              ring
            rw [hskip, List.drop_length_add_append]
            exact ih i hi
  unpack := unpackU32s_flatMap values
  inverse hlt := by
    rw [unpackU32s_flatMap, List.map_map]
    conv_rhs => rw [← List.map_id values]
    refine List.map_congr_left fun felt hfelt => ?_
    rw [Function.comp_apply, Nat.mod_eq_of_lt (hlt felt hfelt)]
    exact Fin.ofNat_val_eq_self felt

/-- **Legacy proofs are packed by position**: exactly when every text is a felt, and the bytes that
are decoded are the groups of the felts. -/
theorem cairoSerdeToBase64_packs (fh : FeltHex) (errorText : String → String)
    (felts : List String) :
    ((∃ b64, cairoSerdeToBase64 fh felts = .ok b64) ↔
        ∀ feltHex ∈ felts, ∃ felt, fh.fromHex feltHex = .ok felt) ∧
      ∀ b64, cairoSerdeToBase64 fh felts = .ok b64 → ∃ values bytes,
        List.Forall₂ (fun feltHex felt => fh.fromHex feltHex = .ok felt) felts values ∧
        Packs values bytes ∧
        ∀ before after : String, (∀ c ∈ before.toList, isWhitespace c = true) →
          (∀ c ∈ after.toList, isWhitespace c = true) →
          decodeProofBase64 errorText (before ++ b64 ++ after) = .ok bytes := by
  have hspec : ∀ b64, cairoSerdeToBase64 fh felts = .ok b64 ↔ ∃ values,
      List.Forall₂ (fun feltHex felt => fh.fromHex feltHex = .ok felt) felts values ∧
        encodeProofBase64 (values.flatMap feltGroup) = b64 := by
    intro b64
    rw [cairoSerdeToBase64, bind_eq_ok]
    constructor
    · rintro ⟨packed, hpacked, hb64⟩
      obtain ⟨values, hvalues, rfl⟩ := foldlM_packFelt_eq_ok.mp hpacked
      exact ⟨values, hvalues, pure_eq_ok.mp hb64⟩
    · rintro ⟨values, hvalues, rfl⟩
      exact ⟨_, foldlM_packFelt_eq_ok.mpr ⟨values, hvalues, rfl⟩, rfl⟩
  refine ⟨⟨?_, fun h => ?_⟩, fun b64 hb64 => ?_⟩
  · rintro ⟨b64, hb64⟩ feltHex hmem
    obtain ⟨values, hvalues, -⟩ := (hspec b64).mp hb64
    obtain ⟨felt, -, hfelt⟩ := exists_right_of_forall₂ hvalues hmem
    exact ⟨felt, hfelt⟩
  · obtain ⟨values, hvalues⟩ := exists_forall₂ h
    exact ⟨_, (hspec _).mpr ⟨values, hvalues, rfl⟩⟩
  · obtain ⟨values, hvalues, rfl⟩ := (hspec b64).mp hb64
    exact ⟨values, _, hvalues, packs_flatMap values, fun before after hbefore hafter =>
      decodeProofBase64_encode hbefore hafter _⟩

/-- The third felt has a bit above the lowest 32 alone. -/
theorem cairoSerdeToBase64_packs_sample :
    ∃ b64 bytes, cairoSerdeToBase64 sampleHex ["0x1", "0xff", "0x100000000"] = .ok b64 ∧
      decodeProofBase64 id (" " ++ b64 ++ "\n") = .ok bytes ∧ bytes.length = 12 ∧
      unpackU32s bytes = [1, 255, 0] := by
  obtain ⟨haccepts, hpacks⟩ :=
    cairoSerdeToBase64_packs sampleHex id ["0x1", "0xff", "0x100000000"]
  have h₁ : sampleHex.fromHex "0x1" = .ok 1 := sampleHex.fromHex_fmtFelt 1
  have h₂ : sampleHex.fromHex "0xff" = .ok 0xff := sampleHex.fromHex_fmtFelt 0xff
  have h₃ : sampleHex.fromHex "0x100000000" = .ok 0x100000000 :=
    sampleHex.fromHex_fmtFelt 0x100000000
  obtain ⟨b64, hb64⟩ := haccepts.mpr (by simp [h₁, h₂, h₃])
  obtain ⟨values, bytes, hvalues, hbytes, hdecode⟩ := hpacks b64 hb64
  obtain ⟨f₁, _, hf₁, hvalues₁, rfl⟩ := List.forall₂_cons_left_iff.mp hvalues
  obtain ⟨f₂, _, hf₂, hvalues₂, rfl⟩ := List.forall₂_cons_left_iff.mp hvalues₁
  obtain ⟨f₃, _, hf₃, hvalues₃, rfl⟩ := List.forall₂_cons_left_iff.mp hvalues₂
  obtain rfl := List.forall₂_nil_left_iff.mp hvalues₃
  obtain rfl := Except.ok.inj (h₁.symm.trans hf₁)
  obtain rfl := Except.ok.inj (h₂.symm.trans hf₂)
  obtain rfl := Except.ok.inj (h₃.symm.trans hf₃)
  have hbefore : (" ".toList.all isWhitespace) = true := by decide +kernel
  have hafter : ("\n".toList.all isWhitespace) = true := by decide +kernel
  refine ⟨b64, bytes, hb64, hdecode " " "\n" (List.all_eq_true.mp hbefore)
    (List.all_eq_true.mp hafter), hbytes.length, ?_⟩
  rw [hbytes.unpack]
  decide

end Snip36.Proving

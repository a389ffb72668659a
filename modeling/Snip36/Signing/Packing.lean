import Snip36.Signing.Hash

/-!
# Signing — packed resources

`concat_resource` packs the name of a resource, an amount and a price into one felt, through a
`u64`, a `u128` and a product in the field.

`concatResource_exact`: for a name of at most seven ASCII characters no stage loses anything, so the
felt is the number with the three as digits.  They are read back from it, and it tells them apart.
Both crates pack alike.
-/

namespace Snip36.Signing
open Support

namespace Core

/-- `resource_name_felt` of the core crate. -/
def resourceNameFelt (name : String) : BitVec 64 :=
  let bytes := utf8Bytes name
  let len := min bytes.length 7
  let buf := List.replicate (8 - len) 0 ++ bytes.take len
  BitVec.ofNat 64 (beNat buf)

/-- `concat_resource` of the core crate. -/
def concatResource (maxAmount : BitVec 64) (maxPrice : BitVec 128) (resourceName : String) : Felt :=
  let name := (resourceNameFelt resourceName).setWidth 128
  let high := (name <<< 64) ||| maxAmount.setWidth 128
  let low := maxPrice
  let highFelt := Felt.ofNat high.toNat
  let shift := Felt.ofNat (2 ^ 64) ^ 2
  highFelt * shift + Felt.ofNat low.toNat

theorem concatResource_eq : concatResource = Signing.concatResource := rfl

end Core

/-! ### Names -/

/-- A name of a resource: at most seven ASCII characters. -/
structure IsResourceName (name : String) : Prop where
  ascii : ∀ c ∈ name.toList, c.toNat < 128
  le : name.length ≤ 7

/-- The number of a name. -/
def nameNat (name : String) : ℕ := beNat (utf8Bytes name)

theorem IsResourceName.nameNat_lt {name : String} (h : IsResourceName name) :
    nameNat name < 2 ^ 56 := by
  have hlen : (utf8Bytes name).length ≤ 7 := (length_utf8Bytes h.ascii).trans_le h.le
  calc nameNat name < 256 ^ (utf8Bytes name).length := beNat_lt _
    _ ≤ 256 ^ 7 := Nat.pow_le_pow_right (by norm_num) hlen
    _ = 2 ^ 56 := by norm_num

/-- A name is not cut. -/
theorem IsResourceName.toNat_resourceNameFelt {name : String} (h : IsResourceName name) :
    (resourceNameFelt name).toNat = nameNat name := by
  have hlen : min (utf8Bytes name).length 7 = (utf8Bytes name).length :=
    min_eq_left ((length_utf8Bytes h.ascii).trans_le h.le)
  have hlt := h.nameNat_lt
  rw [resourceNameFelt, foldl_replicate_zero, hlen, List.take_length, BitVec.toNat_ofNat]
  exact Nat.mod_eq_of_lt (hlt.trans (by norm_num))

/-! ### Exactness -/

/-- The name, the amount and the price, as digits of a number. -/
def packedNat (name : String) (maxAmount : BitVec 64) (maxPrice : BitVec 128) : ℕ :=
  nameNat name * 2 ^ 192 + maxAmount.toNat * 2 ^ 128 + maxPrice.toNat

/-- The bytes of the name in a packed resource. -/
def packedName (packed : Felt) : List UInt8 := beBytes (packed.val / 2 ^ 192)

/-- The amount in a packed resource. -/
def packedAmount (packed : Felt) : BitVec 64 := BitVec.ofNat 64 (packed.val / 2 ^ 128)

/-- The price in a packed resource. -/
def packedPrice (packed : Felt) : BitVec 128 := BitVec.ofNat 128 packed.val

/-- Every stage of the packing of a resource is exact. -/
structure PackedExactly (maxAmount : BitVec 64) (maxPrice : BitVec 128) (name : String)
    (packed : Felt) : Prop where
  /-- No bit is shifted out of the `u128`, and none is set twice. -/
  high : ((((resourceNameFelt name).setWidth 128 : BitVec 128) <<< 64)
      ||| maxAmount.setWidth 128).toNat = nameNat name * 2 ^ 64 + maxAmount.toNat
  /-- The product in the field does not wrap, nor does the sum. -/
  lt_prime : (nameNat name * 2 ^ 64 + maxAmount.toNat) * 2 ^ 128 + maxPrice.toNat < feltPrime
  val : packed.val = packedNat name maxAmount maxPrice
  number : packed.val / 2 ^ 192 = nameNat name
  nameBytes : (utf8Bytes name).head? ≠ some 0 → packedName packed = utf8Bytes name
  amount : packedAmount packed = maxAmount
  price : packedPrice packed = maxPrice

/-- A packed resource is read back. -/
theorem packedExactly_concatResource (maxAmount : BitVec 64) (maxPrice : BitVec 128) {name : String}
    (h : IsResourceName name) :
    PackedExactly maxAmount maxPrice name (concatResource maxAmount maxPrice name) := by
  have hname := h.nameNat_lt
  have hamount := maxAmount.isLt
  have hprice := maxPrice.isLt
  have hprime : feltPrime = 2 ^ 251 + 17 * 2 ^ 192 + 1 := rfl
  have hval : (concatResource maxAmount maxPrice name).val = packedNat name maxAmount maxPrice := by
    rw [val_concatResource, h.toNat_resourceNameFelt, packedNat]
    ring
  have hdiv : (concatResource maxAmount maxPrice name).val / 2 ^ 192 = nameNat name := by
    rw [hval, packedNat]
    omega
  refine ⟨?_, by omega, hval, hdiv, fun hnul => ?_, ?_, ?_⟩
  · have hwide : ((resourceNameFelt name).setWidth 128).toNat = nameNat name := by
      rw [BitVec.toNat_setWidth, h.toNat_resourceNameFelt, Nat.mod_eq_of_lt (by omega)]
    rw [toNat_pack (by norm_num) _ _ (by rw [hwide]; omega), hwide]
  · rw [packedName, hdiv, nameNat, beBytes_beNat hnul]
  · refine BitVec.eq_of_toNat_eq ?_
    rw [packedAmount, BitVec.toNat_ofNat, hval, packedNat]
    omega
  · refine BitVec.eq_of_toNat_eq ?_
    rw [packedPrice, BitVec.toNat_ofNat, hval, packedNat]
    omega

/-- **Packing is exact and tells resources apart**, in both crates. -/
theorem concatResource_exact :
    (∀ maxAmount maxPrice name, IsResourceName name →
      PackedExactly maxAmount maxPrice name (concatResource maxAmount maxPrice name) ∧
        Core.concatResource maxAmount maxPrice name = concatResource maxAmount maxPrice name) ∧
    ∀ maxAmount maxPrice name maxAmount' maxPrice' name',
      IsResourceName name → IsResourceName name' →
      (utf8Bytes name).head? ≠ some 0 → (utf8Bytes name').head? ≠ some 0 →
      concatResource maxAmount maxPrice name = concatResource maxAmount' maxPrice' name' →
      name = name' ∧ maxAmount = maxAmount' ∧ maxPrice = maxPrice' := by
  constructor
  · intro maxAmount maxPrice name h
    exact ⟨packedExactly_concatResource maxAmount maxPrice h, by rw [Core.concatResource_eq]⟩
  · intro maxAmount maxPrice name maxAmount' maxPrice' name' h h' hnul hnul' heq
    have hp := packedExactly_concatResource maxAmount maxPrice h
    have hp' := packedExactly_concatResource maxAmount' maxPrice' h'
    rw [← heq] at hp'
    exact ⟨utf8Bytes_injective ((hp.nameBytes hnul).symm.trans (hp'.nameBytes hnul')),
      hp.amount.symm.trans hp'.amount, hp.price.symm.trans hp'.price⟩

/-- The names that are packed. -/
theorem isResourceName_l1Data : IsResourceName "L1_DATA" where
  ascii := by
    have h : ("L1_DATA".toList.all fun c => c.toNat < 128) = true := by decide
    exact fun c hc => of_decide_eq_true (List.all_eq_true.mp h c hc)
  le := by decide

theorem concatResource_exact_l1Data :
    PackedExactly (BitVec.allOnes 64) (BitVec.allOnes 128) "L1_DATA"
        (concatResource (BitVec.allOnes 64) (BitVec.allOnes 128) "L1_DATA") ∧
      concatResource 1 2 "L1_DATA" ≠ concatResource 1 3 "L1_DATA" := by
  refine ⟨(concatResource_exact.1 _ _ _ isResourceName_l1Data).1, fun heq => ?_⟩
  have hnul : (utf8Bytes "L1_DATA").head? ≠ some 0 := by decide
  obtain ⟨-, -, hprice⟩ := concatResource_exact.2 _ _ _ _ _ _ isResourceName_l1Data
    isResourceName_l1Data hnul hnul heq
  exact absurd hprice (by decide)

end Snip36.Signing

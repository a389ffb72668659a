import Snip36.Support.Bits

/-!
# Field elements and keys

A `Felt` is an element of the prime field of order `2²⁵¹ + 17·2¹⁹² + 1`.  Contract addresses and
storage keys are Patricia keys: felts below `2²⁵¹`.  A Patricia key carries its bound, so that
`PatriciaKey.tryFrom` is the only way from a felt to a key (`tryFrom_key`).

The wrappers `ClassHash`, `CompiledClassHash`, `Nonce` and `HashOutput` hold a felt and nothing
else.
-/

namespace Snip36
open Support

/-- The order of the field. -/
def feltPrime : ℕ := 2 ^ 251 + 17 * 2 ^ 192 + 1

instance : NeZero feltPrime := ⟨by norm_num [feltPrime]⟩

abbrev Felt := Fin feltPrime

instance : LawfulBEq Felt := inferInstance

abbrev ClassHash := Felt
abbrev CompiledClassHash := Felt
abbrev Nonce := Felt
abbrev HashOutput := Felt

/-- `Felt::from`, of an unsigned integer. -/
def Felt.ofNat (n : ℕ) : Felt := Fin.ofNat feltPrime n

/-- `Felt::from_bytes_be_slice`. -/
def Felt.fromBytesBeSlice (bytes : List UInt8) : Felt := Felt.ofNat (beNat bytes)

/-- `Felt::from_bytes_be`, of 32 bytes. -/
def Felt.fromBytesBe (bytes : List UInt8) : Felt := Felt.ofNat (beNat bytes)

theorem Felt.val_ofNat {n : ℕ} (h : n < feltPrime) : (Felt.ofNat n).val = n :=
  Nat.mod_eq_of_lt h

/-- The keys of a Patricia tree are below this bound. -/
def patriciaKeyUpperBound : ℕ := 2 ^ 251

/-- A felt that is a key of a Patricia tree. -/
structure PatriciaKey where
  key : Felt
  key_lt : key.val < patriciaKeyUpperBound

abbrev ContractAddress := PatriciaKey
abbrev StorageKey := PatriciaKey

namespace PatriciaKey

theorem key_injective : Function.Injective key := by
  rintro ⟨a, ha⟩ ⟨b, hb⟩ rfl
  rfl

instance : LinearOrder PatriciaKey := LinearOrder.lift' key key_injective

/-- `ContractAddress::try_from`. -/
def tryFrom (f : Felt) : Except String PatriciaKey :=
  if h : f.val < patriciaKeyUpperBound then .ok ⟨f, h⟩
  else .error "Out of range [0x0, 0x800000000000000000000000000000000000000000000000000000000000000)."

/-- A byte is a key. -/
theorem val_ofNat_byte_lt (b : BitVec 8) :
    (Felt.ofNat b.toNat).val < patriciaKeyUpperBound := by
  have hb := b.isLt
  rw [Felt.val_ofNat (by rw [feltPrime]; omega), patriciaKeyUpperBound]
  omega

/-- The key with the number of a byte. -/
def ofByte (b : BitVec 8) : PatriciaKey := ⟨Felt.ofNat b.toNat, val_ofNat_byte_lt b⟩

@[simp] theorem tryFrom_key (a : PatriciaKey) : tryFrom a.key = .ok a :=
  dif_pos a.key_lt

end PatriciaKey

end Snip36

import Snip36.Felt

/-!
# Signing — the transaction hash

`compute_invoke_v3_tx_hash` hashes an invoke transaction of version 3: resource bounds are packed
into one felt each, lists are hashed on their own, and the hash of the proof facts is appended
when there are any.  `poseidon_hash_many` is a parameter.

The hash binds every argument (`signedHash_binds`): where Poseidon does not collide on
the lists that two calls hash (`hashedLists`), equal hashes come from equal arguments.  The
packings lose nothing (`concatResource_inj`, `daMode_inj`), and an omitted proof-facts element is
told apart by the number of elements.
-/

namespace Snip36.Signing
open Support

/-- `ResourceBound`. -/
structure ResourceBound where
  maxAmount : BitVec 64
  maxPricePerUnit : BitVec 128
  deriving DecidableEq

/-- `ResourceBounds`. -/
structure ResourceBounds where
  l1Gas : ResourceBound
  l2Gas : ResourceBound
  l1DataGas : ResourceBound
  deriving DecidableEq

/-- The arguments of `compute_invoke_v3_tx_hash`. -/
@[ext] structure InvokeV3 where
  senderAddress : Felt
  calldata : List Felt
  chainId : Felt
  nonce : Felt
  tip : Felt
  resourceBounds : ResourceBounds
  paymasterData : List Felt
  accountDeploymentData : List Felt
  nonceDaMode : BitVec 32
  feeDaMode : BitVec 32
  proofFacts : List Felt
  deriving DecidableEq

/-! ### Packed felts -/

/-- `invoke_prefix`. -/
def invokePrefix : Felt := .fromBytesBeSlice (utf8Bytes "invoke")

/-- `chain_id_felt`. -/
def chainIdFelt (chainId : String) : Felt := .fromBytesBeSlice (utf8Bytes chainId)

/-- `resource_name_felt`: at most seven bytes, to the right of a buffer of eight. -/
def resourceNameFelt (name : String) : BitVec 64 :=
  let bytes := utf8Bytes name
  let len := min bytes.length 7
  let buf := List.replicate (8 - len) 0 ++ bytes.take len
  BitVec.ofNat 64 (beNat buf)

/-- `concat_resource`. -/
def concatResource (maxAmount : BitVec 64) (maxPrice : BitVec 128) (resourceName : String) : Felt :=
  let name := (resourceNameFelt resourceName).setWidth 128
  let high := (name <<< 64) ||| maxAmount.setWidth 128
  let low := maxPrice
  let shift := Felt.ofNat (2 ^ 64) ^ 2
  Felt.ofNat high.toNat * shift + Felt.ofNat low.toNat

/-- The two data-availability modes in one felt. -/
def daMode (nonceDaMode feeDaMode : BitVec 32) : Felt :=
  Felt.ofNat ((nonceDaMode.setWidth 64 <<< 32) ||| feeDaMode.setWidth 64).toNat

theorem foldl_replicate_zero (k : ℕ) (bytes : List UInt8) :
    beNat (List.replicate k 0 ++ bytes) = beNat bytes := by
  induction k with
  | zero => rfl
  | succ k ih => exact ih

/-- A resource name takes seven bytes. -/
theorem toNat_resourceNameFelt_lt (name : String) : (resourceNameFelt name).toNat < 2 ^ 56 := by
  have hlen : ((utf8Bytes name).take (min (utf8Bytes name).length 7)).length ≤ 7 := by
    rw [List.length_take]
    omega
  have hbytes : beNat ((utf8Bytes name).take (min (utf8Bytes name).length 7)) < 2 ^ 56 := by
    refine (beNat_lt _).trans_le ?_
    calc 256 ^ ((utf8Bytes name).take (min (utf8Bytes name).length 7)).length
        ≤ 256 ^ 7 := Nat.pow_le_pow_right (by norm_num) hlen
      _ = 2 ^ 56 := by norm_num
  rw [resourceNameFelt, foldl_replicate_zero, BitVec.toNat_ofNat, Nat.mod_eq_of_lt]
  · exact hbytes
  · omega

/-- A packed resource is the name, the amount and the price as digits: it fits the field. -/
theorem val_concatResource (maxAmount : BitVec 64) (maxPrice : BitVec 128) (name : String) :
    (concatResource maxAmount maxPrice name).val
      = ((resourceNameFelt name).toNat * 2 ^ 64 + maxAmount.toNat) * 2 ^ 128 + maxPrice.toNat := by
  have hname := toNat_resourceNameFelt_lt name
  have hamount := maxAmount.isLt
  have hprice := maxPrice.isLt
  have hwide : ((resourceNameFelt name).setWidth 128).toNat = (resourceNameFelt name).toNat := by
    rw [BitVec.toNat_setWidth, Nat.mod_eq_of_lt (by omega)]
  have hpack : (((resourceNameFelt name).setWidth 128 <<< 64) ||| maxAmount.setWidth 128).toNat
      = (resourceNameFelt name).toNat * 2 ^ 64 + maxAmount.toNat := by
    rw [toNat_pack (by norm_num) _ _ (by rw [hwide]; omega), hwide]
  have hprime : feltPrime = 2 ^ 251 + 17 * 2 ^ 192 + 1 := rfl
  have hshift : (Felt.ofNat (2 ^ 64) ^ 2).val = 2 ^ 128 := by decide
  have hhigh : (Felt.ofNat ((resourceNameFelt name).toNat * 2 ^ 64 + maxAmount.toNat)).val
      = (resourceNameFelt name).toNat * 2 ^ 64 + maxAmount.toNat :=
    Felt.val_ofNat (by omega)
  have hlow : (Felt.ofNat maxPrice.toNat).val = maxPrice.toNat := Felt.val_ofNat (by omega)
  -- No product or sum wraps: the digits stay below `2 ^ 248`.
  rw [concatResource, hpack, Fin.val_add, Fin.val_mul, hshift, hhigh, hlow,
    Nat.mod_eq_of_lt (a := ((resourceNameFelt name).toNat * 2 ^ 64 + maxAmount.toNat) * 2 ^ 128)
      (by omega), Nat.mod_eq_of_lt (by omega)]

/-- **A packed resource determines its amount and its price.** -/
theorem concatResource_inj {a a' : BitVec 64} {p p' : BitVec 128} {name : String}
    (h : concatResource a p name = concatResource a' p' name) : a = a' ∧ p = p' := by
  have hval := congrArg Fin.val h
  rw [val_concatResource, val_concatResource] at hval
  obtain ⟨hhigh, hp⟩ := digits_inj p.isLt p'.isLt hval
  obtain ⟨-, ha⟩ := digits_inj a.isLt a'.isLt hhigh
  exact ⟨BitVec.eq_of_toNat_eq ha, BitVec.eq_of_toNat_eq hp⟩

/-- The mode felt has the two modes as digits. -/
theorem val_daMode (n f : BitVec 32) : (daMode n f).val = n.toNat * 2 ^ 32 + f.toNat := by
  have hn := n.isLt
  have hf := f.isLt
  have hprime : feltPrime = 2 ^ 251 + 17 * 2 ^ 192 + 1 := rfl
  have hwide : (n.setWidth 64).toNat = n.toNat := by
    rw [BitVec.toNat_setWidth, Nat.mod_eq_of_lt (by omega)]
  rw [daMode, toNat_pack (by norm_num) _ _ (by rw [hwide]; omega), hwide, Felt.val_ofNat (by omega)]

/-- **The mode felt determines both modes.** -/
theorem daMode_inj {n n' f f' : BitVec 32} (h : daMode n f = daMode n' f') : n = n' ∧ f = f' := by
  have hval := congrArg Fin.val h
  rw [val_daMode, val_daMode] at hval
  obtain ⟨hn, hf⟩ := digits_inj f.isLt f'.isLt hval
  exact ⟨BitVec.eq_of_toNat_eq hn, BitVec.eq_of_toNat_eq hf⟩

/-! ### The hash -/

section Hash

variable (poseidonHashMany : List Felt → Felt)

/-- The elements of `compute_tip_resource_bounds_hash`. -/
def tipResourceBoundsElements (tip : Felt) (bounds : ResourceBounds) : List Felt :=
  let l1 := concatResource bounds.l1Gas.maxAmount bounds.l1Gas.maxPricePerUnit "L1_GAS"
  let l2 := concatResource bounds.l2Gas.maxAmount bounds.l2Gas.maxPricePerUnit "L2_GAS"
  let l1Data :=
    concatResource bounds.l1DataGas.maxAmount bounds.l1DataGas.maxPricePerUnit "L1_DATA"
  [tip, l1, l2, l1Data]

/-- `compute_tip_resource_bounds_hash`. -/
def computeTipResourceBoundsHash (tip : Felt) (bounds : ResourceBounds) : Felt :=
  poseidonHashMany (tipResourceBoundsElements tip bounds)

/-- The elements of `compute_invoke_v3_tx_hash`. -/
def invokeV3Elements (tx : InvokeV3) : List Felt :=
  let tipRbHash := computeTipResourceBoundsHash poseidonHashMany tx.tip tx.resourceBounds
  let paymasterDataHash := poseidonHashMany tx.paymasterData
  let accountDeploymentDataHash := poseidonHashMany tx.accountDeploymentData
  let calldataHash := poseidonHashMany tx.calldata
  let elements := [
    invokePrefix,
    3,
    tx.senderAddress,
    tipRbHash,
    paymasterDataHash,
    tx.chainId,
    tx.nonce,
    daMode tx.nonceDaMode tx.feeDaMode,
    accountDeploymentDataHash,
    calldataHash]
  if tx.proofFacts ≠ [] then elements ++ [poseidonHashMany tx.proofFacts] else elements

/-- `compute_invoke_v3_tx_hash`. -/
def computeInvokeV3TxHash (tx : InvokeV3) : Felt :=
  poseidonHashMany (invokeV3Elements poseidonHashMany tx)

/-- The lists that `computeInvokeV3TxHash` hashes. -/
def hashedLists (tx : InvokeV3) : List (List Felt) :=
  [tipResourceBoundsElements tx.tip tx.resourceBounds, tx.paymasterData, tx.accountDeploymentData,
    tx.calldata, invokeV3Elements poseidonHashMany tx]
    ++ if tx.proofFacts ≠ [] then [tx.proofFacts] else []

/-- Poseidon does not collide on the lists that the hashes of two transactions take. -/
def NoCollision (tx tx' : InvokeV3) : Prop :=
  Set.InjOn poseidonHashMany
    {l | l ∈ hashedLists poseidonHashMany tx ∨ l ∈ hashedLists poseidonHashMany tx'}

variable {poseidonHashMany}

/-- Equal elements come from equal tips and resource bounds. -/
theorem tipResourceBoundsElements_inj {tip tip' : Felt} {bounds bounds' : ResourceBounds}
    (h : tipResourceBoundsElements tip bounds = tipResourceBoundsElements tip' bounds') :
    tip = tip' ∧ bounds = bounds' := by
  obtain ⟨⟨a₁, p₁⟩, ⟨a₂, p₂⟩, ⟨a₃, p₃⟩⟩ := bounds
  obtain ⟨⟨b₁, q₁⟩, ⟨b₂, q₂⟩, ⟨b₃, q₃⟩⟩ := bounds'
  obtain ⟨htip, h₁, h₂, h₃, -⟩ := by simpa only [tipResourceBoundsElements, List.cons.injEq] using h
  obtain ⟨rfl, rfl⟩ := concatResource_inj h₁
  obtain ⟨rfl, rfl⟩ := concatResource_inj h₂
  obtain ⟨rfl, rfl⟩ := concatResource_inj h₃
  exact ⟨htip, rfl⟩

/-- Equal elements come from the same choice about proof facts. -/
theorem invokeV3Elements_inj {tx tx' : InvokeV3}
    (h : invokeV3Elements poseidonHashMany tx = invokeV3Elements poseidonHashMany tx') :
    tx.senderAddress = tx'.senderAddress ∧
      computeTipResourceBoundsHash poseidonHashMany tx.tip tx.resourceBounds
        = computeTipResourceBoundsHash poseidonHashMany tx'.tip tx'.resourceBounds ∧
      poseidonHashMany tx.paymasterData = poseidonHashMany tx'.paymasterData ∧
      tx.chainId = tx'.chainId ∧ tx.nonce = tx'.nonce ∧
      (tx.nonceDaMode = tx'.nonceDaMode ∧ tx.feeDaMode = tx'.feeDaMode) ∧
      poseidonHashMany tx.accountDeploymentData = poseidonHashMany tx'.accountDeploymentData ∧
      poseidonHashMany tx.calldata = poseidonHashMany tx'.calldata ∧
      ((tx.proofFacts = [] ↔ tx'.proofFacts = []) ∧
        (tx.proofFacts ≠ [] →
          poseidonHashMany tx.proofFacts = poseidonHashMany tx'.proofFacts)) := by
  have hda := fun h => @daMode_inj tx.nonceDaMode tx'.nonceDaMode tx.feeDaMode tx'.feeDaMode h
  by_cases hp : tx.proofFacts = []
  · by_cases hp' : tx'.proofFacts = []
    · simp only [invokeV3Elements, hp, hp', ne_eq, not_true_eq_false, if_false, List.cons.injEq,
        true_and, and_true] at h ⊢
      obtain ⟨h₁, h₂, h₃, h₄, h₅, h₆, h₇, h₈⟩ := h
      exact ⟨h₁, h₂, h₃, h₄, h₅, hda h₆, h₇, h₈, False.elim⟩
    · -- Ten elements on the left, eleven on the right.
      have hlen := congrArg List.length h
      simp [invokeV3Elements, hp, hp'] at hlen
  · by_cases hp' : tx'.proofFacts = []
    · have hlen := congrArg List.length h
      simp [invokeV3Elements, hp, hp'] at hlen
    · simp only [invokeV3Elements, hp, hp', ne_eq, not_false_eq_true, if_true, List.cons_append,
        List.nil_append, List.cons.injEq, true_and, and_true] at h ⊢
      obtain ⟨h₁, h₂, h₃, h₄, h₅, h₆, h₇, h₈, h₉⟩ := h
      exact ⟨h₁, h₂, h₃, h₄, h₅, hda h₆, h₇, h₈, fun _ => h₉⟩

/-- **The signed hash binds the whole transaction.** -/
theorem computeInvokeV3TxHash_inj {tx tx' : InvokeV3} (hno : NoCollision poseidonHashMany tx tx')
    (h : computeInvokeV3TxHash poseidonHashMany tx = computeInvokeV3TxHash poseidonHashMany tx') :
    tx = tx' := by
  have hmem : ∀ l, l ∈ hashedLists poseidonHashMany tx ∨ l ∈ hashedLists poseidonHashMany tx' →
      ∀ l', l' ∈ hashedLists poseidonHashMany tx ∨ l' ∈ hashedLists poseidonHashMany tx' →
        poseidonHashMany l = poseidonHashMany l' → l = l' := fun l hl l' hl' => hno hl hl'
  have helements := hmem _ (.inl (by simp [hashedLists])) _ (.inr (by simp [hashedLists])) h
  obtain ⟨hsender, htip, hpaymaster, hchain, hnonce, ⟨hnda, hfda⟩, haccount, hcalldata, hempty,
    hfacts⟩ := invokeV3Elements_inj helements
  obtain ⟨htip', hbounds⟩ := tipResourceBoundsElements_inj
    (hmem _ (.inl (by simp [hashedLists])) _ (.inr (by simp [hashedLists])) htip)
  have hpaymaster' := hmem _ (.inl (by simp [hashedLists])) _ (.inr (by simp [hashedLists]))
    hpaymaster
  have haccount' := hmem _ (.inl (by simp [hashedLists])) _ (.inr (by simp [hashedLists])) haccount
  have hcalldata' := hmem _ (.inl (by simp [hashedLists])) _ (.inr (by simp [hashedLists]))
    hcalldata
  have hproofFacts : tx.proofFacts = tx'.proofFacts := by
    by_cases hp : tx.proofFacts = []
    · rw [hp, hempty.mp hp]
    · have hp' : tx'.proofFacts ≠ [] := mt hempty.mpr hp
      exact hmem _ (.inl (by simp [hashedLists, hp])) _ (.inr (by simp [hashedLists, hp']))
        (hfacts hp)
  exact InvokeV3.ext hsender hcalldata' hchain hnonce htip' hbounds hpaymaster' haccount' hnda hfda
    hproofFacts

end Hash

/-! ### The two crates -/

namespace Core

/-- `compute_invoke_v3_tx_hash` of the core crate. -/
def computeInvokeV3TxHash (poseidonHashMany : List Felt → Felt) (tx : InvokeV3) : Felt :=
  let tipRbHash := computeTipResourceBoundsHash poseidonHashMany tx.tip tx.resourceBounds
  let paymasterDataHash := poseidonHashMany tx.paymasterData
  let accountDeploymentDataHash := poseidonHashMany tx.accountDeploymentData
  let calldataHash := poseidonHashMany tx.calldata
  let version : Felt := 3
  let elements := [
    invokePrefix,
    version,
    tx.senderAddress,
    tipRbHash,
    paymasterDataHash,
    tx.chainId,
    tx.nonce,
    daMode tx.nonceDaMode tx.feeDaMode,
    accountDeploymentDataHash,
    calldataHash]
  let elements :=
    if tx.proofFacts ≠ [] then
      let proofFactsHash := poseidonHashMany tx.proofFacts
      elements ++ [proofFactsHash]
    else elements
  poseidonHashMany elements

theorem computeInvokeV3TxHash_eq (poseidonHashMany : List Felt → Felt) (tx : InvokeV3) :
    computeInvokeV3TxHash poseidonHashMany tx = Signing.computeInvokeV3TxHash poseidonHashMany tx :=
  rfl

end Core

/-- **The signed hash binds the whole transaction**, in both crates. -/
theorem signedHash_binds {poseidonHashMany : List Felt → Felt} {tx tx' : InvokeV3}
    (hno : NoCollision poseidonHashMany tx tx') :
    (computeInvokeV3TxHash poseidonHashMany tx = computeInvokeV3TxHash poseidonHashMany tx' →
        tx = tx') ∧
      (Core.computeInvokeV3TxHash poseidonHashMany tx
          = Core.computeInvokeV3TxHash poseidonHashMany tx' → tx = tx') :=
  ⟨computeInvokeV3TxHash_inj hno, by
    rw [Core.computeInvokeV3TxHash_eq, Core.computeInvokeV3TxHash_eq]
    exact computeInvokeV3TxHash_inj hno⟩

/-- A transaction with proof facts. -/
def sampleTx : InvokeV3 where
  senderAddress := 0x123
  calldata := [1]
  chainId := chainIdFelt "SN_SEPOLIA"
  nonce := 7
  tip := 0
  resourceBounds := ⟨⟨0x10000, 1⟩, ⟨0x7000000, 2⟩, ⟨0x1b0, 3⟩⟩
  paymasterData := []
  accountDeploymentData := []
  nonceDaMode := 0
  feeDaMode := 0
  proofFacts := [5, 6]

/-- A polynomial in the elements. -/
def sampleHash (l : List Felt) : Felt := l.foldl (fun h x => h * 0x1000003 + x + 1) 0

theorem signedHash_binds_sample :
    computeInvokeV3TxHash sampleHash sampleTx
        ≠ computeInvokeV3TxHash sampleHash { sampleTx with proofFacts := [] } ∧
      Core.computeInvokeV3TxHash sampleHash sampleTx
        ≠ Core.computeInvokeV3TxHash sampleHash { sampleTx with proofFacts := [] } := by
  have hlists : ∀ l ∈ hashedLists sampleHash sampleTx
        ++ hashedLists sampleHash { sampleTx with proofFacts := [] },
      ∀ l' ∈ hashedLists sampleHash sampleTx
        ++ hashedLists sampleHash { sampleTx with proofFacts := [] },
      sampleHash l = sampleHash l' → l = l' := by decide +kernel
  have hno : NoCollision sampleHash sampleTx { sampleTx with proofFacts := [] } :=
    fun l hl l' hl' h => hlists l (List.mem_append.mpr hl) l' (List.mem_append.mpr hl') h
  have hne : sampleTx ≠ { sampleTx with proofFacts := [] } := by decide
  exact ⟨fun h => hne ((signedHash_binds hno).1 h), fun h => hne ((signedHash_binds hno).2 h)⟩

end Snip36.Signing

import Snip36.Artifacts.Provers

/-!
# Proving — the check of the fee fields

A prover that validates fee fields is to take only transactions whose prices and tip are zero,
while amounts are free.  `validate_transaction_input` tests the maximal fee instead: the sum,
saturating, of every amount times its price, with the tip on top of the L2 price.

`maxPossibleFee_eq_zero_iff`: the fee is zero exactly when every resource has no amount or no
price.  So a price or a tip goes unnoticed where the amount is zero, and the rule holds for a
transaction exactly when it is rejected for something else or has no price at all
(`feeRule_iff`).
-/

namespace Snip36.Proving
open Support Artifacts Signing Rpc

/-! ### The maximal fee -/

/-- The largest value of a `u128`. -/
def maxU128 : ℕ := 2 ^ 128 - 1

/-- A number in a saturating `u128`. -/
def saturate (n : ℕ) : ℕ := min n maxU128

theorem saturate_eq_zero {n : ℕ} : saturate n = 0 ↔ n = 0 := by
  rw [saturate, Nat.min_eq_zero_iff]
  exact or_iff_left (by norm_num [maxU128])

/-- An amount times its price with something on top. -/
def resourceFee (bound : ResourceBound) (onTop : ℕ) : ℕ :=
  saturate (bound.maxAmount.toNat * saturate (bound.maxPricePerUnit.toNat + onTop))

/-- `max_possible_fee(tip)`, of resource bounds. -/
def maxPossibleFee (bounds : ResourceBounds) (tip : BitVec 64) : ℕ :=
  saturate (saturate (resourceFee bounds.l1Gas 0 + resourceFee bounds.l2Gas tip.toNat)
    + resourceFee bounds.l1DataGas 0)

theorem resourceFee_eq_zero {bound : ResourceBound} {onTop : ℕ} :
    resourceFee bound onTop = 0 ↔
      bound.maxAmount = 0 ∨ (bound.maxPricePerUnit = 0 ∧ onTop = 0) := by
  rw [resourceFee, saturate_eq_zero, Nat.mul_eq_zero, saturate_eq_zero, Nat.add_eq_zero_iff,
    BitVec.toNat_eq (x := bound.maxAmount), BitVec.toNat_eq (x := bound.maxPricePerUnit)]
  rfl

/-- Some resource has an amount and a price. -/
def Charged (bounds : ResourceBounds) (tip : BitVec 64) : Prop :=
  (bounds.l1Gas.maxAmount ≠ 0 ∧ bounds.l1Gas.maxPricePerUnit ≠ 0) ∨
    (bounds.l2Gas.maxAmount ≠ 0 ∧ (bounds.l2Gas.maxPricePerUnit ≠ 0 ∨ tip ≠ 0)) ∨
    (bounds.l1DataGas.maxAmount ≠ 0 ∧ bounds.l1DataGas.maxPricePerUnit ≠ 0)

instance (bounds : ResourceBounds) (tip : BitVec 64) : Decidable (Charged bounds tip) :=
  inferInstanceAs (Decidable (_ ∨ _))

/-- No resource has a price, and there is no tip. -/
structure NoPrices (bounds : ResourceBounds) (tip : BitVec 64) : Prop where
  l1Gas : bounds.l1Gas.maxPricePerUnit = 0
  l2Gas : bounds.l2Gas.maxPricePerUnit = 0
  l1DataGas : bounds.l1DataGas.maxPricePerUnit = 0
  tip : tip = 0

/-- **The maximal fee is zero exactly when no resource is charged**, saturation or not. -/
theorem maxPossibleFee_eq_zero_iff {bounds : ResourceBounds} {tip : BitVec 64} :
    maxPossibleFee bounds tip = 0 ↔ ¬ Charged bounds tip := by
  have htip : tip.toNat = 0 ↔ tip = 0 := (BitVec.toNat_eq (x := tip) (y := 0)).symm
  rw [maxPossibleFee, saturate_eq_zero, Nat.add_eq_zero_iff, saturate_eq_zero, Nat.add_eq_zero_iff,
    resourceFee_eq_zero, resourceFee_eq_zero, resourceFee_eq_zero, htip, Charged]
  tauto

/-! ### The rule -/

section Rule

variable {api : StarknetApi} (resourceBounds : api.RpcInvokeTransactionV3 → ResourceBounds)
  (tip : api.RpcInvokeTransactionV3 → BitVec 64)

/-- The rule for the fee fields, at one transaction. -/
def FeeRule (tx : api.RpcInvokeTransactionV3) : Prop :=
  validateTransactionInput tx true = .ok () →
    api.proofIsEmpty tx = true ∧ api.proofFactsIsEmpty tx = true ∧
      NoPrices (resourceBounds tx) (tip tx)

variable {resourceBounds tip}

/-- What the check accepts. -/
theorem validateTransactionInput_eq_ok
    (hfee : ∀ tx, api.maxPossibleFee tx = maxPossibleFee (resourceBounds tx) (tip tx))
    {tx : api.RpcInvokeTransactionV3} :
    validateTransactionInput tx true = .ok () ↔
      api.proofIsEmpty tx = true ∧ api.proofFactsIsEmpty tx = true ∧
        ¬ Charged (resourceBounds tx) (tip tx) := by
  rw [validateTransactionInput, check_bind_eq_ok, check_bind_eq_ok, failIf_eq_ok, failIf_eq_ok,
    failIf_eq_ok, Bool.not_eq_false, Bool.not_eq_false, ← maxPossibleFee_eq_zero_iff, ← hfee tx]
  simp

/-- **When the rule holds**: the transaction has a proof, proof facts or a charged resource, for
which it is rejected, or it has no price at all. -/
theorem feeRule_iff
    (hfee : ∀ tx, api.maxPossibleFee tx = maxPossibleFee (resourceBounds tx) (tip tx))
    (tx : api.RpcInvokeTransactionV3) :
    FeeRule resourceBounds tip tx ↔
      api.proofIsEmpty tx = false ∨ api.proofFactsIsEmpty tx = false ∨
        Charged (resourceBounds tx) (tip tx) ∨ NoPrices (resourceBounds tx) (tip tx) := by
  rw [FeeRule, validateTransactionInput_eq_ok hfee]
  constructor
  · intro h
    by_contra hnone
    rw [not_or, not_or, not_or, Bool.not_eq_false, Bool.not_eq_false] at hnone
    obtain ⟨hproof, hfacts, hcharged, hprices⟩ := hnone
    exact hprices (h ⟨hproof, hfacts, hcharged⟩).2.2
  · rintro h ⟨hproof, hfacts, hcharged⟩
    rcases h with hp | hf | hc | hprices
    · exact absurd (hproof.symm.trans hp) Bool.noConfusion
    · exact absurd (hfacts.symm.trans hf) Bool.noConfusion
    · exact absurd hc hcharged
    · exact ⟨hproof, hfacts, hprices⟩

end Rule

/-! ### A price without an amount -/

/-- Transactions with their fees in a saturating `u128`. -/
def saturatingApi : StarknetApi :=
  { sampleApi with maxPossibleFee := fun tx => maxPossibleFee tx.resourceBounds tx.tip }

/-- A price on L1 gas, of which there is none. -/
def pricedTransaction : SampleTransaction where
  tip := 0
  resourceBounds := ⟨⟨0, 1⟩, ⟨0, 0⟩, ⟨0, 0⟩⟩
  proof := ""
  proofFacts := []

/-- An amount and a price of L2 gas. -/
def chargedTransaction : SampleTransaction :=
  { pricedTransaction with resourceBounds := ⟨⟨0, 1⟩, ⟨1, 1⟩, ⟨0, 0⟩⟩ }

theorem feeRule_chargedTransaction :
    @FeeRule saturatingApi SampleTransaction.resourceBounds SampleTransaction.tip
      chargedTransaction :=
  (@feeRule_iff saturatingApi _ _ (fun _ => rfl) chargedTransaction).mpr
    (.inr (.inr (.inl (.inr (.inl (by decide))))))

/-- The price is not noticed. -/
theorem not_feeRule_pricedTransaction :
    ¬ ∀ tx : SampleTransaction,
      @FeeRule saturatingApi SampleTransaction.resourceBounds SampleTransaction.tip tx := by
  intro h
  -- without an amount the product is zero, whatever the price
  have haccepted : @validateTransactionInput saturatingApi pricedTransaction true = .ok () := by
    refine (@validateTransactionInput_eq_ok saturatingApi SampleTransaction.resourceBounds
      SampleTransaction.tip (fun _ => rfl) pricedTransaction).mpr ⟨rfl, rfl, ?_⟩
    decide
  have hprice := (h pricedTransaction haccepted).2.2.l1Gas
  exact absurd hprice (by decide)

end Snip36.Proving

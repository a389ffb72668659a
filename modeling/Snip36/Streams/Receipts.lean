import Snip36.Streams.Outcomes

/-!
# Streams — waiting for a receipt

`wait_for_tx` asks for the receipt of a transaction until one is decisive: rejected or reverted, or
accepted with a `block_number`.  Its callers read the number with `receipt_block_number`, and
record block zero when it has none.

`closedBlocks_iff`: what is returned is the first receipt of a closed block exactly when the first
decisive receipt, if it is an accepted one, has a number that can be read, and none before it has
an execution status of its own.
-/

namespace Snip36.Streams
open Support Signing

/-! ### Receipts -/

/-- `status`. -/
def finalityStatus (receipt : Json) : String :=
  ((receipt.field "finality_status").bind Json.text).getD ""

/-- `execution_status`. -/
def executionStatus (receipt : Json) : Option String :=
  (receipt.field "execution_status").bind Json.text

/-- `has_block`. -/
def hasBlock (receipt : Json) : Bool := (receipt.field "block_number").isSome

/-- The transaction failed. -/
def Failed (receipt : Json) : Prop :=
  finalityStatus receipt = "REJECTED" ∨ executionStatus receipt = some "REVERTED"

instance : DecidablePred Failed := fun _ => inferInstanceAs (Decidable (_ ∨ _))

/-- The transaction is accepted. -/
def Accepted (receipt : Json) : Prop :=
  finalityStatus receipt = "ACCEPTED_ON_L2" ∨ finalityStatus receipt = "ACCEPTED_ON_L1"

instance : DecidablePred Accepted := fun _ => inferInstanceAs (Decidable (_ ∨ _))

/-- The transaction is accepted, with a block, and its execution is not said to be other than a
success. -/
def Confirmed (receipt : Json) : Prop :=
  Accepted receipt ∧ hasBlock receipt ∧
    (executionStatus receipt = none ∨ executionStatus receipt = some "SUCCEEDED")

instance : DecidablePred Confirmed := fun _ => inferInstanceAs (Decidable (_ ∧ _ ∧ _))

/-- The receipt ends the loop. -/
def Decisive (receipt : Json) : Prop := Failed receipt ∨ Confirmed receipt

/-! ### The loop -/

/-- A turn of the loop: the time at which it begins, and what `get_receipt` answers if it is
asked. -/
structure Poll where
  now : ℕ
  answer : Except RpcError Json

section Loop

variable (serde : SerdeJson) (txHash : String) (start : ℕ) (timeoutSecs : BitVec 64)

/-- `deadline`, in nanoseconds, without the clock's own limit. -/
def deadline : ℕ := start + timeoutSecs.toNat * 10 ^ 9

/-- The body of the loop: what it returns, if it returns. -/
def pollReceipt (poll : Poll) : Option (Except RpcError Json) :=
  if deadline start timeoutSecs ≤ poll.now then some (.error (.txTimeout txHash timeoutSecs))
  else
    match poll.answer with
    | .ok receipt =>
        if Failed receipt then some (.error (.txRejected (serde.toString receipt)))
        else if Confirmed receipt then some (.ok receipt)
        else none
    | .error _ => none

/-- `wait_for_tx`; none while it waits. -/
def waitForTx (polls : List Poll) : Option (Except RpcError Json) :=
  polls.findSome? (pollReceipt serde txHash start timeoutSecs)

end Loop

/-! ### Closed blocks -/

/-- A receipt of a closed block: accepted, not reverted, and with a number for the callers. -/
structure ClosedBlock (receipt : Json) : Prop where
  accepted : Accepted receipt
  notReverted : executionStatus receipt ≠ some "REVERTED"
  block : (receiptBlockNumber receipt).isSome

/-- A receipt of a closed block whose execution status is a text that the loop does not know. -/
structure OtherStatus (receipt : Json) : Prop where
  accepted : Accepted receipt
  status : ∃ s, executionStatus receipt = some s ∧ s ≠ "SUCCEEDED" ∧ s ≠ "REVERTED"
  block : (receiptBlockNumber receipt).isSome

/-- None of the answers is a receipt with a property. -/
def NoReceipt (P : Json → Prop) (polls : List Poll) : Prop :=
  ∀ poll ∈ polls, ∀ receipt, poll.answer = .ok receipt → ¬ P receipt

/-- A result, of some answers, is the first receipt of a closed block, or a failure with no such
receipt before. -/
structure ClosedBlocks (polls : List Poll) (result : Option (Except RpcError Json)) : Prop where
  returned : ∀ receipt, result = some (.ok receipt) →
    ClosedBlock receipt ∧ ∃ before poll after, polls = before ++ poll :: after ∧
      poll.answer = .ok receipt ∧ NoReceipt Failed before ∧ NoReceipt ClosedBlock before
  rejected : ∀ message, result = some (.error (.txRejected message)) →
    ∃ before poll after receipt, polls = before ++ poll :: after ∧ poll.answer = .ok receipt ∧
      Failed receipt ∧ NoReceipt ClosedBlock before

/-- The first decisive receipt before the deadline, if there is one, has a number that can be read
if it is an accepted one, and no receipt before it has a status of its own. -/
def FirstDecisiveReads (start : ℕ) (timeoutSecs : BitVec 64) (polls : List Poll) : Prop :=
  ∀ before poll after receipt, polls = before ++ poll :: after →
    (∀ p ∈ before ++ [poll], p.now < deadline start timeoutSecs) →
    poll.answer = .ok receipt → Decisive receipt → NoReceipt Decisive before →
      (Confirmed receipt → (receiptBlockNumber receipt).isSome) ∧ NoReceipt OtherStatus before

/-! ### What a receipt can be -/

variable {receipt : Json}

/-- A number that is read is there. -/
theorem hasBlock_of_receiptBlockNumber (h : (receiptBlockNumber receipt).isSome) :
    hasBlock receipt = true := by
  obtain ⟨n, hn⟩ := Option.isSome_iff_exists.mp h
  obtain ⟨bn, hbn, -⟩ := Option.bind_eq_some_iff.mp hn
  rw [hasBlock, hbn]
  rfl

theorem Accepted.not_rejected (h : Accepted receipt) : finalityStatus receipt ≠ "REJECTED" := by
  rcases h with h | h <;> rw [h] <;> decide

/-- A receipt is not of both decisive kinds. -/
theorem Confirmed.not_failed (h : Confirmed receipt) : ¬ Failed receipt := by
  obtain ⟨haccepted, -, hstatus⟩ := h
  rintro (hrejected | hreverted)
  · exact haccepted.not_rejected hrejected
  · rcases hstatus with hstatus | hstatus <;> rw [hstatus] at hreverted
    · cases hreverted
    · exact absurd (Option.some.inj hreverted) (by decide)

/-- **A receipt of a closed block that does not end the loop** has a status of its own. -/
theorem otherStatus_iff : OtherStatus receipt ↔ ClosedBlock receipt ∧ ¬ Decisive receipt := by
  constructor
  · rintro ⟨haccepted, ⟨s, hs, hsucceeded, hreverted⟩, hblock⟩
    have hnot : executionStatus receipt ≠ some "REVERTED" := by
      rw [hs]
      exact fun h => hreverted (Option.some.inj h)
    refine ⟨⟨haccepted, hnot, hblock⟩, ?_⟩
    rintro ((h | h) | ⟨-, -, h | h⟩)
    · exact haccepted.not_rejected h
    · exact hnot h
    · rw [hs] at h
      cases h
    · rw [hs] at h
      exact hsucceeded (Option.some.inj h)
  · rintro ⟨⟨haccepted, hreverted, hblock⟩, hnot⟩
    refine ⟨haccepted, ?_, hblock⟩
    have hunconfirmed : ¬ (executionStatus receipt = none ∨
        executionStatus receipt = some "SUCCEEDED") := fun h =>
      hnot (.inr ⟨haccepted, hasBlock_of_receiptBlockNumber hblock, h⟩)
    obtain ⟨hnone, hsucceeded⟩ := not_or.mp hunconfirmed
    obtain ⟨s, hs⟩ := Option.ne_none_iff_exists'.mp hnone
    rw [hs] at hsucceeded hreverted
    exact ⟨s, hs, fun h => hsucceeded (congrArg some h), fun h => hreverted (congrArg some h)⟩

theorem Confirmed.closedBlock (h : Confirmed receipt)
    (hblock : (receiptBlockNumber receipt).isSome) : ClosedBlock receipt :=
  ⟨h.1, fun hreverted => h.not_failed (.inr hreverted), hblock⟩

/-! ### What a turn does -/

variable {serde : SerdeJson} {txHash : String} {start : ℕ} {timeoutSecs : BitVec 64}
  {polls : List Poll}

/-- A turn in time goes on exactly when its receipt is not decisive. -/
theorem pollReceipt_eq_none_iff {poll : Poll} :
    pollReceipt serde txHash start timeoutSecs poll = none ↔
      poll.now < deadline start timeoutSecs ∧
        ∀ receipt, poll.answer = .ok receipt → ¬ Decisive receipt := by
  rw [pollReceipt]
  split
  · next hlate => exact iff_of_false (Option.some_ne_none _) fun h => absurd h.1 (by omega)
  · next hearly =>
      rw [and_iff_right (not_le.mp hearly)]
      split
      · next receipt hanswer =>
          simp only [hanswer, Except.ok.injEq, forall_eq', Decisive, not_or]
          split
          · next hfailed => exact iff_of_false (Option.some_ne_none _) fun h => h.1 hfailed
          · next hfailed =>
              rw [and_iff_right hfailed]
              split
              · next hconfirmed => exact iff_of_false (Option.some_ne_none _) fun h => h hconfirmed
              · next hconfirmed => exact iff_of_true rfl hconfirmed
      · next e hanswer =>
          refine iff_of_true rfl fun receipt h => ?_
          rw [hanswer] at h
          cases h

/-- **What a turn returns**: the timeout, the failure that it was told, or its receipt. -/
theorem pollReceipt_cases {poll : Poll} {result : Except RpcError Json}
    (h : pollReceipt serde txHash start timeoutSecs poll = some result) :
    (deadline start timeoutSecs ≤ poll.now ∧ result = .error (.txTimeout txHash timeoutSecs)) ∨
      (poll.now < deadline start timeoutSecs ∧ ∃ receipt, poll.answer = .ok receipt ∧
        ((Failed receipt ∧ result = .error (.txRejected (serde.toString receipt))) ∨
          (Confirmed receipt ∧ result = .ok receipt))) := by
  rw [pollReceipt] at h
  split at h
  · next hlate => exact .inl ⟨hlate, (Option.some.inj h).symm⟩
  · next hearly =>
      refine .inr ⟨not_le.mp hearly, ?_⟩
      split at h
      · next receipt hanswer =>
          refine ⟨receipt, hanswer, ?_⟩
          split at h
          · next hfailed => exact .inl ⟨hfailed, (Option.some.inj h).symm⟩
          · split at h
            · next hconfirmed => exact .inr ⟨hconfirmed, (Option.some.inj h).symm⟩
            · cases h
      · cases h

theorem pollReceipt_of_failed {poll : Poll} (hearly : poll.now < deadline start timeoutSecs)
    (hanswer : poll.answer = .ok receipt) (h : Failed receipt) :
    pollReceipt serde txHash start timeoutSecs poll
      = some (.error (.txRejected (serde.toString receipt))) := by
  rw [pollReceipt, if_neg (not_le.mpr hearly), hanswer]
  exact if_pos h

theorem pollReceipt_of_confirmed {poll : Poll} (hearly : poll.now < deadline start timeoutSecs)
    (hanswer : poll.answer = .ok receipt) (h : Confirmed receipt) :
    pollReceipt serde txHash start timeoutSecs poll = some (.ok receipt) := by
  rw [pollReceipt, if_neg (not_le.mpr hearly), hanswer]
  exact (if_neg h.not_failed).trans (if_pos h)

/-- The turns before the one that returns. -/
theorem pollReceipt_before {before : List Poll}
    (h : ∀ p ∈ before, pollReceipt serde txHash start timeoutSecs p = none) :
    (∀ p ∈ before, p.now < deadline start timeoutSecs) ∧ NoReceipt Decisive before :=
  ⟨fun p hp => (pollReceipt_eq_none_iff.mp (h p hp)).1,
    fun p hp => (pollReceipt_eq_none_iff.mp (h p hp)).2⟩

/-! ### What the loop returns -/

/-- The loop returns, once a turn begins after the deadline. -/
theorem waitForTx_isSome {poll : Poll} (hmem : poll ∈ polls)
    (hlate : deadline start timeoutSecs ≤ poll.now) :
    (waitForTx serde txHash start timeoutSecs polls).isSome := by
  rw [waitForTx, List.findSome?_isSome_iff]
  exact ⟨poll, hmem, by rw [pollReceipt, if_pos hlate]; rfl⟩

/-- Two ways to cut a list: what comes before the first element with a property comes before every
other. -/
theorem mem_before_of_first {α : Type} {P : α → Prop} {before before' after after' : List α}
    {a a' : α} (h : before ++ a :: after = before' ++ a' :: after') (hfirst : ∀ b ∈ before, ¬ P b)
    (ha' : P a') : ∀ b ∈ before, b ∈ before' := by
  rcases List.append_eq_append_iff.mp h with ⟨between, rfl, -⟩ | ⟨between, rfl, hrest⟩
  · exact fun b hb => List.mem_append_left _ hb
  · cases between with
    | nil =>
        rw [List.append_nil]
        exact fun b hb => hb
    | cons c between =>
        obtain ⟨rfl, -⟩ := List.cons.inj hrest
        exact absurd ha' (hfirst a' (List.mem_append_right _ (List.mem_cons_self ..)))

/-- **When only closed blocks are returned**: the first decisive receipt, if it is an accepted one,
has a number that can be read, and no receipt before it has a status of its own. -/
theorem closedBlocks_iff :
    ClosedBlocks polls (waitForTx serde txHash start timeoutSecs polls) ↔
      FirstDecisiveReads start timeoutSecs polls := by
  constructor
  · rintro hclosed before poll after receipt rfl hearly hanswer hdecisive hfirst
    obtain ⟨hbefore, hpoll⟩ := List.forall_mem_append.mp hearly
    have hpoll := hpoll poll (List.mem_singleton_self poll)
    have hnone : ∀ p ∈ before, pollReceipt serde txHash start timeoutSecs p = none :=
      fun p hp => pollReceipt_eq_none_iff.mpr ⟨hbefore p hp, hfirst p hp⟩
    have hresult {result : Except RpcError Json}
        (h : pollReceipt serde txHash start timeoutSecs poll = some result) :
        waitForTx serde txHash start timeoutSecs (before ++ poll :: after) = some result :=
      List.findSome?_eq_some_iff.mpr ⟨before, poll, after, rfl, h, hnone⟩
    -- The receipt that the property speaks of does not come before the first decisive one.
    have hother {before' after' : List Poll} {poll' : Poll} {receipt' : Json}
        (heq : before ++ poll :: after = before' ++ poll' :: after')
        (hanswer' : poll'.answer = .ok receipt') (hdecisive' : Decisive receipt')
        (hno : NoReceipt ClosedBlock before') : NoReceipt OtherStatus before := by
      intro p hp r hr hstatus
      have hp' := mem_before_of_first (P := fun p => ∃ r, p.answer = .ok r ∧ Decisive r) heq
        (fun b hb ⟨r, hr, hdec⟩ => hfirst b hb r hr hdec) ⟨receipt', hanswer', hdecisive'⟩ p hp
      exact hno p hp' r hr (otherStatus_iff.mp hstatus).1
    rcases hdecisive with hfailed | hconfirmed
    · refine ⟨fun hconfirmed => absurd hfailed hconfirmed.not_failed, ?_⟩
      obtain ⟨before', poll', after', receipt', heq, hanswer', hfailed', hno⟩ :=
        hclosed.rejected _ (hresult (pollReceipt_of_failed hpoll hanswer hfailed))
      exact hother heq hanswer' (.inl hfailed') hno
    · obtain ⟨hblock, before', poll', after', heq, hanswer', -, hno⟩ :=
        hclosed.returned _ (hresult (pollReceipt_of_confirmed hpoll hanswer hconfirmed))
      exact ⟨fun _ => hblock.block, hother heq hanswer' (.inr hconfirmed) hno⟩
  · intro hreads
    -- Before the turn that returns, a receipt of a closed block would have a status of its own.
    have hno {before : List Poll} (hdecisive : NoReceipt Decisive before)
        (hstatus : NoReceipt OtherStatus before) : NoReceipt ClosedBlock before :=
      fun p hp r hr hblock => hstatus p hp r hr (otherStatus_iff.mpr ⟨hblock, hdecisive p hp r hr⟩)
    constructor
    · intro receipt hresult
      obtain ⟨before, poll, after, rfl, hpoll, hnone⟩ := List.findSome?_eq_some_iff.mp hresult
      obtain ⟨hearly, hdecisive⟩ := pollReceipt_before hnone
      rcases pollReceipt_cases hpoll with ⟨-, h⟩ | ⟨hnow, receipt', hanswer, ⟨-, h⟩ | ⟨hconf, h⟩⟩
      · cases h
      · cases h
      · obtain rfl := Except.ok.inj h
        obtain ⟨hblock, hstatus⟩ := hreads before poll after receipt rfl
          (List.forall_mem_append.mpr ⟨hearly, List.forall_mem_singleton.mpr hnow⟩) hanswer
          (.inr hconf) hdecisive
        exact ⟨hconf.closedBlock (hblock hconf), before, poll, after, rfl, hanswer,
          fun p hp r hr hfailed => hdecisive p hp r hr (.inl hfailed), hno hdecisive hstatus⟩
    · intro message hresult
      obtain ⟨before, poll, after, rfl, hpoll, hnone⟩ := List.findSome?_eq_some_iff.mp hresult
      obtain ⟨hearly, hdecisive⟩ := pollReceipt_before hnone
      rcases pollReceipt_cases hpoll with ⟨-, h⟩ | ⟨hnow, receipt, hanswer, ⟨hfail, -⟩ | ⟨-, h⟩⟩
      · cases h
      · obtain ⟨-, hstatus⟩ := hreads before poll after receipt rfl
          (List.forall_mem_append.mpr ⟨hearly, List.forall_mem_singleton.mpr hnow⟩) hanswer
          (.inl hfail) hdecisive
        exact ⟨before, poll, after, receipt, rfl, hanswer, hfail, hno hdecisive hstatus⟩
      · cases h

/-- A receipt that is accepted, with no block yet. -/
def nullBlockReceipt : Json :=
  .obj [("finality_status", .str "ACCEPTED_ON_L2"), ("block_number", .null)]

/-- Prints nothing, and parses nothing. -/
def silentSerde : SerdeJson where
  toString _ := ""
  toStringPretty _ := ""
  fromStr _ := .error "EOF while parsing a value"
  stringsFromStr _ := .error "EOF while parsing a value"

/-- It is returned, and the callers record block zero. -/
theorem not_closedBlocks_nullBlock :
    waitForTx silentSerde "0x1" 0 60 [⟨0, .ok nullBlockReceipt⟩] = some (.ok nullBlockReceipt) ∧
      (receiptBlockNumber nullBlockReceipt).getD 0 = 0 ∧
      ¬ ClosedBlocks [⟨0, .ok nullBlockReceipt⟩]
        (waitForTx silentSerde "0x1" 0 60 [⟨0, .ok nullBlockReceipt⟩]) := by
  have hreturned : waitForTx silentSerde "0x1" 0 60 [⟨0, .ok nullBlockReceipt⟩]
      = some (.ok nullBlockReceipt) := by
    have hpoll : pollReceipt silentSerde "0x1" 0 60 ⟨0, .ok nullBlockReceipt⟩
        = some (.ok nullBlockReceipt) :=
      pollReceipt_of_confirmed (by decide) rfl (by decide)
    rw [waitForTx, List.findSome?_cons, hpoll]
  refine ⟨hreturned, rfl, fun h => ?_⟩
  have hblock := (h.returned _ hreturned).1.block
  exact absurd hblock (by decide)

end Snip36.Streams

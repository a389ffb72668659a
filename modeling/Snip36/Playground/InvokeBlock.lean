import Snip36.Playground.Moves

/-!
# Playground — the invoke block

`invoke_increment` stores the hash of its transaction when the node accepts it, and the block of
the transaction when it is confirmed; the block before stays in between.  `prove_transaction` takes
the block that is stored by then for the block of the transaction that it read before.

`ownBlock_iff`: the stored block is that of the stored transaction in every state of a run, and
every proof is run against the block before its transaction, exactly when each step of the run
finds the block of the right transaction (`OneBlock`).
-/

namespace Snip36.Playground
open Support Signing CoinFlip Streams

/-- A block is the one before the block of a transaction. -/
def BlockBefore (inclusion : String → Option (BitVec 64)) (txHash : String) (block : BitVec 64) :
    Prop :=
  ∃ invokeBlock, inclusion txHash = some invokeBlock ∧ invokeBlock ≠ 0 ∧ block = invokeBlock - 1

/-- The stored block is that of the stored transaction. -/
def SessionOwnBlock (inclusion : String → Option (BitVec 64)) (session : Session) : Prop :=
  ∀ txHash block, session.lastInvokeTx = some txHash → session.invokeBlock = some block →
    inclusion txHash = some block

/-- The block that a proof has found is that of its transaction, or the one before. -/
def RequestOwnBlock (inclusion : String → Option (BitVec 64)) : Request → Prop
  | .proving _ txHash (.located block) => inclusion txHash = some block
  | .proving _ txHash (.preparing block) => BlockBefore inclusion txHash block
  | _ => True

/-- The blocks of the sessions and of the proofs belong to their transactions, which the blocks
`inclusion` include. -/
structure OwnBlock (inclusion : String → Option (BitVec 64)) (s : Server) : Prop where
  sessions : ∀ sessionId, SessionOwnBlock inclusion (s.sessions sessionId)
  requests : ∀ rid r, s.requests rid = some r → RequestOwnBlock inclusion r
  scripts : ∀ rid script, s.scripts rid = some script →
    BlockBefore inclusion script.txHash script.blockNumber

/-- A receipt names the block in which a transaction was included, if any. -/
def NamesBlock (inclusion : String → Option (BitVec 64)) (txHash : String) (receipt : Json) :
    Prop :=
  receiptBlockNumber receipt = none ∨ receiptBlockNumber receipt = inclusion txHash

/-- The transaction whose receipt comes in, and the receipt. -/
def Server.receives (s : Server) : Event → Option (String × Json)
  | .confirmed rid (.ok receipt) =>
      match s.requests rid with
      | some (.confirming _ txHash) => some (txHash, receipt)
      | _ => none
  | .included rid (.ok receipt) =>
      match s.requests rid with
      | some (.proving _ txHash .waiting) => some (txHash, receipt)
      | _ => none
  | _ => none

/-- The receipts of the node name the blocks of their transactions. -/
def TruthfulReceipt (inclusion : String → Option (BitVec 64)) (s : Server) (e : Event) : Prop :=
  ∀ received ∈ s.receives e, NamesBlock inclusion received.1 received.2

/-- When an increment is accepted, the session has no block of another one; when one is confirmed,
the session has no transaction of another block; and when a proof reads the block of the session,
it is the block of its transaction. -/
def OneBlock (env : Env) (inclusion : String → Option (BitVec 64)) (s : Server) : Event → Prop
  | .submitted rid reply =>
      match s.requests rid, submittedTxHash env.serde reply with
      | some (.invoking req _), .ok txHash =>
          ∀ block, (s.sessions req.sessionId).invokeBlock = some block →
            inclusion txHash = some block
      | _, _ => True
  | .confirmed rid (.ok receipt) =>
      match s.requests rid, receiptBlockNumber receipt with
      | some (.confirming req _), some block =>
          ∀ txHash, (s.sessions req.sessionId).lastInvokeTx = some txHash →
            inclusion txHash = some block
      | _, _ => True
  | .readInvokeBlock rid =>
      match s.requests rid with
      | some (.proving sessionId txHash .started) =>
          ∀ block, (s.sessions sessionId).invokeBlock = some block →
            inclusion txHash = some block
      | _ => True
  | _ => True

variable {env : Env} {inclusion : String → Option (BitVec 64)}

instance (txHash : String) (receipt : Json) : Decidable (NamesBlock inclusion txHash receipt) :=
  inferInstanceAs (Decidable (_ ∨ _))

instance (s : Server) (e : Event) : Decidable (TruthfulReceipt inclusion s e) := by
  unfold TruthfulReceipt
  infer_instance

theorem NamesBlock.eq {txHash : String} {receipt : Json} {block : BitVec 64}
    (h : NamesBlock inclusion txHash receipt) (hblock : receiptBlockNumber receipt = some block) :
    inclusion txHash = some block := by
  rcases h with h | h
  · rw [hblock] at h
    cases h
  · exact h.symm.trans hblock

theorem ownBlock_new (files : String → Option Written) : OwnBlock inclusion (Server.new files) where
  sessions _ _ _ htx := absurd htx (Option.some_ne_none _).symm
  requests _ _ hreq := absurd hreq (Option.some_ne_none _).symm
  scripts _ _ hscript := absurd hscript (Option.some_ne_none _).symm

/-- A request that comes in has found no block yet. -/
theorem Arrival.ownBlock {s : Server} {e : Event} {rid : ℕ} {r : Request}
    (h : Arrival env s e rid r) : RequestOwnBlock inclusion r := by
  cases h <;> trivial

/-- What a step keeps, when it finds the block of the right transaction. -/
theorem ownBlock_step {s s' : Server} {e : Event} (h : OwnBlock inclusion s)
    (hD : TruthfulReceipt inclusion s e) (hC : OneBlock env inclusion s e)
    (hs : step env s e = some s') : OwnBlock inclusion s' := by
  cases step_move hs with
  | arrival harrival _ =>
      exact ⟨h.sessions, forall_update_some h.requests harrival.ownBlock, h.scripts⟩
  | rejected _ => exact ⟨h.sessions, h.requests, h.scripts⟩
  | ends _ _ => exact ⟨h.sessions, forall_update_none h.requests, h.scripts⟩
  | accountDeployed _ | counterDeployed _ | recordProof _ | blockConfirmed _ =>
      exact ⟨forall_update h.sessions (h.sessions _), forall_update_none h.requests, h.scripts⟩
  | submitted hreq htx =>
      rw [OneBlock, hreq, htx] at hC
      refine ⟨forall_update h.sessions fun txHash block htx' hblock => ?_,
        forall_update_some h.requests trivial, h.scripts⟩
      obtain rfl := Option.some.inj htx'
      exact hC block hblock
  | confirmed hreq hblock =>
      rw [OneBlock, hreq, hblock] at hC
      refine ⟨forall_update h.sessions fun txHash block htx hblock' => ?_,
        forall_update_none h.requests, h.scripts⟩
      obtain rfl := Option.some.inj hblock'
      exact hC txHash htx
  | readInvokeBlock hreq hblock =>
      rw [OneBlock, hreq] at hC
      exact ⟨h.sessions, forall_update_some h.requests (hC _ hblock), h.scripts⟩
  | included hreq hblock =>
      have hnames := hD _ (by rw [Server.receives, hreq]; rfl)
      exact ⟨h.sessions, forall_update_some h.requests (hnames.eq hblock), h.scripts⟩
  | storeProveBlock hreq hblock =>
      have hbefore : BlockBefore inclusion _ _ := ⟨_, h.requests _ _ hreq, hblock, rfl⟩
      exact ⟨forall_update h.sessions (h.sessions _), forall_update_some h.requests hbefore,
        h.scripts⟩
  | spawned hreq =>
      exact ⟨h.sessions, forall_update_some h.requests trivial,
        forall_update_some h.scripts (h.requests _ _ hreq)⟩
  | writeProof hscript _ | writeFacts hscript _ | exited hscript _ =>
      have hbefore := h.scripts _ _ hscript
      exact ⟨h.sessions, h.requests, forall_update_some h.scripts hbefore⟩
  | blockWrites _ => exact ⟨h.sessions, h.requests, h.scripts⟩
  | waits _ | foundProof _ _ _ _ | blockGoesOn _ | readProof _ _ | readFacts _ _ _ | signed _ _ =>
      exact ⟨h.sessions, forall_update_some h.requests trivial, h.scripts⟩

/-- What a step finds, when it keeps the blocks with their transactions. -/
theorem oneBlock_of_ownBlock {s s' : Server} {e : Event} (hs : step env s e = some s')
    (h : OwnBlock inclusion s') : OneBlock env inclusion s e := by
  cases e with
  | submitted rid reply =>
      rw [OneBlock]
      split
      · next req _ txHash hreq htx =>
          intro block hblock
          simp only [step, hreq, htx] at hs
          obtain rfl := Option.some.inj hs
          refine h.sessions req.sessionId txHash block ?_ ?_
          · simp [Server.goOn, Server.updateSessionWith]
          · simpa [Server.goOn, Server.updateSessionWith] using hblock
      · trivial
  | confirmed rid reply =>
      cases reply with
      | error e => trivial
      | ok receipt =>
          rw [OneBlock]
          split
          · next req _ block hreq hblock =>
              intro txHash htx
              simp only [step, hreq, hblock] at hs
              obtain rfl := Option.some.inj hs
              refine h.sessions req.sessionId txHash block ?_ ?_
              · simpa [Server.ends, Server.updateSessionWith] using htx
              · simp [Server.ends, Server.updateSessionWith]
          · trivial
  | readInvokeBlock rid =>
      rw [OneBlock]
      split
      · next sessionId txHash hreq =>
          intro block hblock
          simp only [step, hreq, hblock] at hs
          obtain rfl := Option.some.inj hs
          exact h.requests rid _ (Function.update_self ..)
      · trivial
  | _ => trivial

/-- **The blocks belong to their transactions throughout a run exactly when each of its steps finds
the block of the right transaction.** -/
theorem ownBlock_iff {files : String → Option Written} {es : List Event} {s : Server}
    (hrun : Run (step env) (Server.new files) es s)
    (hnode : EveryStep (step env) (Server.new files) es (TruthfulReceipt inclusion)) :
    EveryState (step env) (Server.new files) es (OwnBlock inclusion) ↔
      EveryStep (step env) (Server.new files) es (OneBlock env inclusion) :=
  everyState_iff_everyStep hrun (I := fun _ => True) trivial (ownBlock_new files)
    (fun _ _ _ _ _ => trivial) hnode fun _ _ _ _ hP hD hs =>
      ⟨oneBlock_of_ownBlock hs, fun hC => ownBlock_step hP hD hC hs⟩

/-- A second increment, which is proved before it is confirmed. -/
def secondInvoke : List Event := sampleDeployed ++ [
  .invoke 2 sampleInvoke,
  .submitted 2 (.ok (acceptedAs "0x31")),
  .confirmed 2 (.ok (receiptIn 5)),
  .invoke 3 sampleInvoke,
  .submitted 3 (.ok (acceptedAs "0x32")),
  .prove 4 "a",
  .readInvokeBlock 4,
  .storeProveBlock 4,
  .spawned 4 (.ok ())]

/-- The blocks of the two increments. -/
def secondInvokeInclusion (txHash : String) : Option (BitVec 64) :=
  if txHash = "0x31" then some 5 else if txHash = "0x32" then some 8 else none

theorem secondInvoke_run : ∃ s, Run (step sampleEnv) (Server.new fun _ => none) secondInvoke s ∧
    s.scripts 4 = some ⟨"a", "0x32", 4, false, false, none⟩ := by
  have h : ((runEvents (step sampleEnv) (Server.new fun _ => none) secondInvoke).map
      fun s => s.scripts 4) = some (some ⟨"a", "0x32", 4, false, false, none⟩) := by
    decide +kernel
  obtain ⟨s, hs, hscript⟩ := Option.map_eq_some_iff.mp h
  exact ⟨s, Run.of_runEvents hs, hscript⟩

theorem secondInvoke_truthful : EveryStep (step sampleEnv) (Server.new fun _ => none) secondInvoke
    (TruthfulReceipt secondInvokeInclusion) :=
  everyStep_of_everyStep? (by decide +kernel)

/-- The theorem, at that run. -/
theorem ownBlock_iff_secondInvoke :
    ∃ s, Run (step sampleEnv) (Server.new fun _ => none) secondInvoke s ∧
      (EveryState (step sampleEnv) (Server.new fun _ => none) secondInvoke
          (OwnBlock secondInvokeInclusion) ↔
        EveryStep (step sampleEnv) (Server.new fun _ => none) secondInvoke
          (OneBlock sampleEnv secondInvokeInclusion)) := by
  obtain ⟨s, hrun, -⟩ := secondInvoke_run
  exact ⟨s, hrun, ownBlock_iff hrun secondInvoke_truthful⟩

/-- The second increment, of block 8, is proved against block 4. -/
theorem secondInvoke_not_ownBlock :
    ∃ s, Run (step sampleEnv) (Server.new fun _ => none) secondInvoke s ∧
      EveryStep (step sampleEnv) (Server.new fun _ => none) secondInvoke
        (TruthfulReceipt secondInvokeInclusion) ∧
      ¬ EveryState (step sampleEnv) (Server.new fun _ => none) secondInvoke
        (OwnBlock secondInvokeInclusion) := by
  obtain ⟨s, hrun, hscript⟩ := secondInvoke_run
  refine ⟨s, hrun, secondInvoke_truthful, fun h => ?_⟩
  obtain ⟨block, hblock, -, hbefore⟩ := (h.last hrun).scripts 4 _ hscript
  obtain rfl : 8 = block := Option.some.inj hblock
  exact absurd hbefore (by decide)

end Snip36.Playground

import Snip36.Playground.Moves

/-!
# Playground — the reference block

`deploy_counter` stores the block of the deployment as the block to prove the next increments
against, and each block of increments that lands stores its own.  The number of that block is read
off the receipt, and is 0 when it cannot be read; it is stored whatever is stored by then.

`neverBack_iff`: the reference block never goes back in a run exactly when no receipt of the run is
unreadable, or below the reference block, at the moment when it is stored.
-/

namespace Snip36.Playground
open Support Signing CoinFlip Streams

variable {env : Env}

/-- The reference block of a session is not below its deployment, no landing has lowered it, and
the next proof is run against a block that is neither below it nor below the deployment. -/
structure NeverBack (s : Server) : Prop where
  deploy_le : ∀ sessionId d r, (s.sessions sessionId).deployBlock = some d →
    (s.sessions sessionId).lastReferenceBlock = some r → d ≤ r
  before_le : ∀ landing ∈ s.landings, ∀ r, landing.before = some r → r ≤ landing.block
  next_ge : ∀ sessionId params job,
    Streams.proveBlock (s.sessions sessionId).referenced sessionId params = .ok job →
    (∀ d, (s.sessions sessionId).deployBlock = some d → d ≤ job.referenceBlock) ∧
      ∀ r, (s.sessions sessionId).lastReferenceBlock = some r → r ≤ job.referenceBlock

/-- When a receipt of a block of increments is stored, its block number is readable and not below
the reference block of the session, or the reference block is unset or 0. -/
def StoresNoEarlier (s : Server) : Event → Prop
  | .blockConfirmed rid (.ok receipt) => ∀ job r,
      s.requests rid = some (.provingBlock job .verifying) →
      (s.sessions job.sessionId).lastReferenceBlock = some r →
      match receiptBlockNumber receipt with
      | some block => r ≤ block
      | none => r = 0
  | _ => True

/-- A session with a deployment has a reference block. -/
def Referenced (s : Server) : Prop :=
  ∀ sessionId, (s.sessions sessionId).lastReferenceBlock = none →
    (s.sessions sessionId).deployBlock = none

/-! ### What a move does -/

/-- What a move does to the two blocks of the sessions, and to the landings. -/
inductive ReferenceMove (s s' : Server) : Event → Prop where
  | quiet {e : Event}
      (hdeploy : ∀ x, (s'.sessions x).deployBlock = (s.sessions x).deployBlock)
      (hreference : ∀ x, (s'.sessions x).lastReferenceBlock = (s.sessions x).lastReferenceBlock)
      (hlandings : s'.landings = s.landings) : ReferenceMove s s' e
  | deployed {e : Event} {sessionId : String} {session : Session}
      (hsessions : s'.sessions = Function.update s.sessions sessionId session)
      (hblocks : session.deployBlock = session.lastReferenceBlock)
      (hlandings : s'.landings = s.landings) : ReferenceMove s s' e
  | landed {rid : ℕ} {receipt : Json} {job : ProveJob} {session : Session}
      (hreq : s.requests rid = some (.provingBlock job .verifying))
      (hsessions : s'.sessions = Function.update s.sessions job.sessionId session)
      (hdeploy : session.deployBlock = (s.sessions job.sessionId).deployBlock)
      (hreference : session.lastReferenceBlock = some ((receiptBlockNumber receipt).getD 0))
      (hlandings : s'.landings = s.landings ++
        [⟨job.sessionId, (s.sessions job.sessionId).lastReferenceBlock,
          (receiptBlockNumber receipt).getD 0⟩]) :
      ReferenceMove s s' (.blockConfirmed rid (.ok receipt))

theorem Move.reference {s s' : Server} {e : Event} (h : Move env s e s') :
    ReferenceMove s s' e := by
  cases h with
  | accountDeployed | submitted | confirmed | storeProveBlock | recordProof =>
      exact .quiet (apply_update_of_eq rfl) (apply_update_of_eq rfl) rfl
  | counterDeployed => exact .deployed rfl rfl rfl
  | blockConfirmed hreq => exact .landed hreq rfl rfl rfl rfl
  | _ => exact .quiet (fun _ => rfl) (fun _ => rfl) rfl

/-- A receipt that is stored is a landing. -/
theorem landed_of_step {s s' : Server} {rid : ℕ} {receipt : Json}
    (hs : step env s (.blockConfirmed rid (.ok receipt)) = some s') :
    ∃ job, s.requests rid = some (.provingBlock job .verifying) ∧
      s'.landings = s.landings ++
        [⟨job.sessionId, (s.sessions job.sessionId).lastReferenceBlock,
          (receiptBlockNumber receipt).getD 0⟩] := by
  simp only [step] at hs
  split at hs
  · next job _ hreq heq =>
      obtain rfl := Except.ok.inj heq
      obtain rfl := Option.some.inj hs
      exact ⟨job, hreq, rfl⟩
  · next heq => cases heq
  · cases hs

/-! ### Reference blocks -/

/-- The first two parts give the third. -/
theorem NeverBack.of_le {s : Server}
    (hdeploy : ∀ sessionId d r, (s.sessions sessionId).deployBlock = some d →
      (s.sessions sessionId).lastReferenceBlock = some r → d ≤ r)
    (hbefore : ∀ landing ∈ s.landings, ∀ r, landing.before = some r → r ≤ landing.block) :
    NeverBack s := by
  refine ⟨hdeploy, hbefore, fun sessionId params job hjob => ?_⟩
  have hreference := (proveBlock_eq_ok hjob).1
  cases hr : (s.sessions sessionId).lastReferenceBlock with
  | none =>
      simp only [Session.referenced, hr] at hreference
      refine ⟨fun d hd => ?_, fun r h => absurd h (Option.some_ne_none r).symm⟩
      obtain rfl := Option.some.inj (hd.symm.trans hreference)
      exact BitVec.le_refl _
  | some r =>
      simp only [Session.referenced, hr] at hreference
      obtain rfl := Option.some.inj hreference
      refine ⟨fun d hd => hdeploy sessionId d _ hd hr, fun r' h => ?_⟩
      obtain rfl := Option.some.inj h
      exact BitVec.le_refl _

theorem referenced_step {s s' : Server} {e : Event} (h : Referenced s)
    (hs : step env s e = some s') : Referenced s' := by
  cases (step_move hs).reference with
  | quiet hdeploy hreference _ =>
      intro x hx
      rw [hdeploy]
      exact h x ((hreference x).symm.trans hx)
  | @deployed _ sessionId session hsessions hblocks _ =>
      intro x hx
      rw [hsessions] at hx ⊢
      by_cases hid : x = sessionId
      · subst hid
        rw [Function.update_self] at hx ⊢
        exact hblocks.trans hx
      · rw [Function.update_of_ne hid] at hx ⊢
        exact h x hx
  | @landed _ _ job session _ hsessions _ hreference _ =>
      intro x hx
      rw [hsessions] at hx ⊢
      by_cases hid : x = job.sessionId
      · subst hid
        rw [Function.update_self, hreference] at hx
        cases hx
      · rw [Function.update_of_ne hid] at hx ⊢
        exact h x hx

/-- The number that is stored, when the reference block is set, is not below it exactly when the
step stores no earlier number. -/
theorem le_getD_iff {o : Option (BitVec 64)} {r : BitVec 64} :
    (match o with
      | some block => r ≤ block
      | none => r = 0) ↔ r ≤ o.getD 0 := by
  cases o with
  | none => exact ⟨fun h => h ▸ BitVec.le_refl _, fun h => BitVec.le_zero_iff.mp h⟩
  | some block => exact Iff.rfl

/-- What a step keeps, when it stores no earlier number. -/
theorem neverBack_step {s s' : Server} {e : Event} (hI : Referenced s) (h : NeverBack s)
    (hC : StoresNoEarlier s e) (hs : step env s e = some s') : NeverBack s' := by
  cases (step_move hs).reference with
  | quiet hdeploy hreference hlandings =>
      refine .of_le (fun x d r hd hr => ?_) (hlandings ▸ h.before_le)
      exact h.deploy_le x d r ((hdeploy x).symm.trans hd) ((hreference x).symm.trans hr)
  | @deployed _ sessionId session hsessions hblocks hlandings =>
      refine .of_le (fun x d r hd hr => ?_) (hlandings ▸ h.before_le)
      rw [hsessions] at hd hr
      by_cases hid : x = sessionId
      · subst hid
        rw [Function.update_self] at hd hr
        obtain rfl := Option.some.inj (hd.symm.trans (hblocks.trans hr))
        exact BitVec.le_refl _
      · rw [Function.update_of_ne hid] at hd hr
        exact h.deploy_le x d r hd hr
  | @landed _ receipt job session hreq hsessions hdeploy hreference hlandings =>
      have hle : ∀ r, (s.sessions job.sessionId).lastReferenceBlock = some r →
          r ≤ (receiptBlockNumber receipt).getD 0 :=
        fun r hr => le_getD_iff.mp (hC job r hreq hr)
      refine .of_le (fun x d r hd hr => ?_) (fun landing hmem r hr => ?_)
      · rw [hsessions] at hd hr
        by_cases hid : x = job.sessionId
        · subst hid
          rw [Function.update_self] at hd hr
          obtain rfl := Option.some.inj (hreference.symm.trans hr)
          rw [hdeploy] at hd
          cases hbefore : (s.sessions job.sessionId).lastReferenceBlock with
          | none =>
              rw [hI _ hbefore] at hd
              cases hd
          | some r₀ => exact BitVec.le_trans (h.deploy_le _ d r₀ hd hbefore) (hle r₀ hbefore)
        · rw [Function.update_of_ne hid] at hd hr
          exact h.deploy_le x d r hd hr
      · rw [hlandings] at hmem
        rcases List.mem_append.mp hmem with hmem | hmem
        · exact h.before_le landing hmem r hr
        · obtain rfl := List.mem_singleton.mp hmem
          exact hle r hr

/-- What a step stores, when it keeps the reference block from going back. -/
theorem storesNoEarlier_of_neverBack {s s' : Server} {e : Event}
    (hs : step env s e = some s') (h : NeverBack s') : StoresNoEarlier s e := by
  cases e with
  | blockConfirmed rid reply =>
      cases reply with
      | error e => trivial
      | ok receipt =>
          intro job r hreq hr
          obtain ⟨job', hreq', hlandings⟩ := landed_of_step hs
          rw [hreq] at hreq'
          cases hreq'
          have hmem : ⟨job.sessionId, (s.sessions job.sessionId).lastReferenceBlock,
              (receiptBlockNumber receipt).getD 0⟩ ∈ s'.landings := by
            rw [hlandings]
            exact List.mem_append_right _ (List.mem_singleton_self _)
          exact le_getD_iff.mpr (h.before_le _ hmem r hr)
  | _ => trivial

theorem neverBack_new (files : String → Option Written) : NeverBack (Server.new files) :=
  .of_le (fun _ _ _ hd => absurd hd (Option.some_ne_none _).symm)
    fun _ hmem => absurd hmem List.not_mem_nil

/-- **The reference block never goes back in a run exactly when no step of it stores an earlier
number.** -/
theorem neverBack_iff {files : String → Option Written} {es : List Event} {s : Server}
    (hrun : Run (step env) (Server.new files) es s) :
    EveryState (step env) (Server.new files) es NeverBack ↔
      EveryStep (step env) (Server.new files) es StoresNoEarlier :=
  everyState_iff_everyStep hrun (I := Referenced) (D := fun _ _ => True) (fun _ _ => rfl)
    (neverBack_new files) (fun _ _ _ => referenced_step) (fun _ _ _ _ _ => trivial)
    fun _ _ _ hI hP _ hs =>
      ⟨storesNoEarlier_of_neverBack hs, fun hC => neverBack_step hI hP hC hs⟩

/-- Increments on a counter, whose receipt is stored after a later counter was deployed. -/
def overtaken : List Event := [
  .deployCounter 0 "a",
  .counterDeployed 0 (.ok ⟨"0x10", "0x11", "0x12", receiptIn 5⟩),
  .proveBlock 1 "a" {},
  .blockProved 1 (.ok ()),
  .blockSubmitted 1 (.ok ()),
  .deployCounter 2 "a",
  .counterDeployed 2 (.ok ⟨"0x10", "0x21", "0x22", receiptIn 9⟩),
  .blockConfirmed 1 (.ok (receiptIn 7))]

theorem overtaken_run : ∃ s, Run (step sampleEnv) (Server.new fun _ => none) overtaken s ∧
    ((s.sessions "a").deployBlock, (s.sessions "a").lastReferenceBlock) = (some 9, some 7) := by
  have h : ((runEvents (step sampleEnv) (Server.new fun _ => none) overtaken).map fun s =>
      ((s.sessions "a").deployBlock, (s.sessions "a").lastReferenceBlock))
        = some (some 9, some 7) := by decide +kernel
  obtain ⟨s, hs, hblocks⟩ := Option.map_eq_some_iff.mp h
  exact ⟨s, Run.of_runEvents hs, hblocks⟩

/-- The theorem, at that run. -/
theorem neverBack_iff_overtaken :
    ∃ s, Run (step sampleEnv) (Server.new fun _ => none) overtaken s ∧
      (EveryState (step sampleEnv) (Server.new fun _ => none) overtaken NeverBack ↔
        EveryStep (step sampleEnv) (Server.new fun _ => none) overtaken StoresNoEarlier) := by
  obtain ⟨s, hrun, -⟩ := overtaken_run
  exact ⟨s, hrun, neverBack_iff hrun⟩

/-- The reference block goes back below the deployment. -/
theorem overtaken_goesBack :
    ∃ s, Run (step sampleEnv) (Server.new fun _ => none) overtaken s ∧
      ¬ EveryState (step sampleEnv) (Server.new fun _ => none) overtaken NeverBack := by
  obtain ⟨s, hrun, hblocks⟩ := overtaken_run
  obtain ⟨hdeploy, hreference⟩ := Prod.mk.inj hblocks
  refine ⟨s, hrun, fun h => ?_⟩
  have hle := (h.last hrun).deploy_le "a" 9 7 hdeploy hreference
  exact absurd hle (by decide)

end Snip36.Playground

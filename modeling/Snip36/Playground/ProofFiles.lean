import Snip36.Playground.Moves

/-!
# Playground — reported proofs

`prove_transaction` starts a script that writes the proof into a file of the session, and reports
the proof when the file is there after the script has exited.  A file that is there may be from an
earlier script, or cut short by the script that failed.

`reportedOwn_of_ownProof`: in a run in which a script that fails, or writes no proof, leaves no
file behind and finds none, every reported proof was written by the script of its request, for the
transaction of its request, and this script was a success.
-/

namespace Snip36.Playground
open Support Signing CoinFlip Streams

variable {env : Env}

/-- The script of a request wrote the proof of its transaction and was a success. -/
def Proved (scripts : ℕ → Option Script) (rid : ℕ) (sessionId txHash : String) : Prop :=
  ∃ script, scripts rid = some script ∧ script.sessionId = sessionId ∧
    script.txHash = txHash ∧ script.wroteProof = true ∧ script.exit = some true

/-- Every reported proof was written by the script of its request, and every proof file of a
session is one that was reported. -/
structure ReportedOwn (env : Env) (s : Server) : Prop where
  proved : ∀ report ∈ s.reports, Proved s.scripts report.rid report.sessionId report.txHash
  recorded : ∀ sessionId proofFile, (s.sessions sessionId).proofFile = some proofFile →
    proofFile = env.proofOutput sessionId ∧ ∃ report ∈ s.reports, report.sessionId = sessionId

/-- When a script has exited and there is a proof file, the script wrote the proof and was a
success. -/
def OwnProof (env : Env) (s : Server) (e : Event) : Prop :=
  FindsProof env s e fun script => script.wroteProof = true ∧ script.exit = some true

instance (s : Server) (e : Event) : Decidable (OwnProof env s e) := by
  unfold OwnProof
  infer_instance

/-! ### The invariant -/

/-- What the script of a request has come to. -/
def RequestProof (scripts : ℕ → Option Script) (rid : ℕ) : Request → Prop
  | .proving sessionId txHash .running =>
      ∃ script, scripts rid = some script ∧ script.sessionId = sessionId ∧ script.txHash = txHash
  | .proving sessionId txHash .found => Proved scripts rid sessionId txHash
  | _ => True

/-- The reports and the requests in flight have their own scripts. -/
structure OwnScripts (env : Env) (s : Server) : Prop extends ReportedOwn env s where
  ended : ∀ report ∈ s.reports, report.rid < s.nextId ∧ s.requests report.rid = none
  requests : ∀ rid r, s.requests rid = some r → RequestProof s.scripts rid r
  idle : ∀ rid, s.nextId ≤ rid → s.requests rid = none

theorem Arrival.requestProof {s : Server} {e : Event} {rid : ℕ} {r : Request}
    (h : Arrival env s e rid r) {scripts : ℕ → Option Script} : RequestProof scripts rid r := by
  cases h <;> trivial

/-- A script that has exited is not touched when another has not. -/
theorem Proved.update {scripts : ℕ → Option Script} {rid rid' : ℕ} {sessionId txHash : String}
    {script script' : Script} (h : Proved scripts rid sessionId txHash)
    (hscript : scripts rid' = some script) (hexit : script.exit = none) :
    Proved (Function.update scripts rid' (some script')) rid sessionId txHash := by
  obtain ⟨own, hown, hsession, htx, hwrote, hsuccess⟩ := h
  have hne : rid ≠ rid' := by
    rintro rfl
    obtain rfl := Option.some.inj (hown.symm.trans hscript)
    exact absurd (hexit.symm.trans hsuccess) (Option.some_ne_none _).symm
  exact ⟨own, (Function.update_of_ne hne ..).trans hown, hsession, htx, hwrote, hsuccess⟩

/-- What is known of a script grows. -/
theorem RequestProof.update {scripts : ℕ → Option Script} {rid rid' : ℕ} {r : Request}
    {script script' : Script} (h : RequestProof scripts rid r)
    (hscript : scripts rid' = some script) (hexit : script.exit = none)
    (hsession : script'.sessionId = script.sessionId) (htx : script'.txHash = script.txHash) :
    RequestProof (Function.update scripts rid' (some script')) rid r := by
  unfold RequestProof at h ⊢
  split at h
  · obtain ⟨own, hown, hown'⟩ := h
    by_cases hne : rid = rid'
    · subst hne
      obtain rfl := Option.some.inj (hown.symm.trans hscript)
      exact ⟨script', Function.update_self .., hsession.trans hown'.1, htx.trans hown'.2⟩
    · exact ⟨own, (Function.update_of_ne hne ..).trans hown, hown'⟩
  · exact h.update hscript hexit
  · trivial

/-- A move leaves the proof files, the scripts and the reports alone. -/
structure SameProofs (s s' : Server) : Prop where
  proofFile : ∀ x, (s'.sessions x).proofFile = (s.sessions x).proofFile
  scripts : s'.scripts = s.scripts
  reports : s'.reports = s.reports

/-- The requests that were reported have ended. -/
theorem OwnScripts.rid_ne {s : Server} {rid : ℕ} {r : Request} (h : OwnScripts env s)
    (hreq : s.requests rid = some r) {report : Report} (hreport : report ∈ s.reports) :
    report.rid ≠ rid := by
  intro heq
  have hnone := (h.ended report hreport).2
  rw [heq, hreq] at hnone
  cases hnone

theorem OwnScripts.rid_lt {s : Server} {rid : ℕ} {r : Request} (h : OwnScripts env s)
    (hreq : s.requests rid = some r) : rid < s.nextId := by
  by_contra hle
  rw [h.idle rid (Nat.not_lt.mp hle)] at hreq
  cases hreq

/-- The request `rid` becomes `next`. -/
theorem OwnScripts.update {s s' : Server} {rid : ℕ} {next : Option Request}
    (h : OwnScripts env s) (hrequests : s'.requests = Function.update s.requests rid next)
    (hsame : SameProofs s s') (hnext : ∀ r, next = some r → RequestProof s.scripts rid r)
    (hrid : ∀ report ∈ s.reports, report.rid ≠ rid) (hlt : rid < s'.nextId)
    (hle : s.nextId ≤ s'.nextId) : OwnScripts env s' where
  proved := by
    rw [hsame.reports, hsame.scripts]
    exact h.proved
  recorded x proofFile hproof := by
    rw [hsame.reports]
    exact h.recorded x proofFile ((hsame.proofFile x).symm.trans hproof)
  ended := by
    rw [hsame.reports, hrequests]
    intro report hreport
    obtain ⟨hlt', hnone⟩ := h.ended report hreport
    exact ⟨hlt'.trans_le hle, (Function.update_of_ne (hrid report hreport) ..).trans hnone⟩
  requests rid' r hreq := by
    rw [hsame.scripts]
    rw [hrequests] at hreq
    by_cases hne : rid' = rid
    · subst hne
      rw [Function.update_self] at hreq
      exact hnext r hreq
    · rw [Function.update_of_ne hne] at hreq
      exact h.requests rid' r hreq
  idle rid' hidle := by
    have hne : rid' ≠ rid := by omega
    rw [hrequests, Function.update_of_ne hne]
    exact h.idle rid' (hle.trans hidle)

/-- A request in flight goes on. -/
theorem OwnScripts.goesOn {s s' : Server} {rid : ℕ} {r r' : Request} (h : OwnScripts env s)
    (hreq : s.requests rid = some r)
    (hrequests : s'.requests = Function.update s.requests rid (some r'))
    (hsame : SameProofs s s') (hr' : RequestProof s.scripts rid r')
    (hnextId : s'.nextId = s.nextId) : OwnScripts env s' :=
  h.update hrequests hsame (fun _ hr => Option.some.inj hr ▸ hr') (fun _ => h.rid_ne hreq)
    (hnextId ▸ h.rid_lt hreq) hnextId.ge

/-- A request in flight ends. -/
theorem OwnScripts.ends {s s' : Server} {rid : ℕ} {r : Request} (h : OwnScripts env s)
    (hreq : s.requests rid = some r) (hrequests : s'.requests = Function.update s.requests rid none)
    (hsame : SameProofs s s') (hnextId : s'.nextId = s.nextId) : OwnScripts env s' :=
  h.update hrequests hsame nofun (fun _ => h.rid_ne hreq) (hnextId ▸ h.rid_lt hreq) hnextId.ge

/-- A write of a script, or its exit. -/
theorem OwnScripts.updateScript {s s' : Server} {rid : ℕ} {script script' : Script}
    (h : OwnScripts env s) (hscript : s.scripts rid = some script) (hexit : script.exit = none)
    (hscripts : s'.scripts = Function.update s.scripts rid (some script'))
    (hsession : script'.sessionId = script.sessionId) (htx : script'.txHash = script.txHash)
    (hsessions : s'.sessions = s.sessions) (hrequests : s'.requests = s.requests)
    (hreports : s'.reports = s.reports) (hnextId : s'.nextId = s.nextId) : OwnScripts env s' where
  proved := by
    rw [hreports, hscripts]
    exact fun report hreport => (h.proved report hreport).update hscript hexit
  recorded := by
    rw [hreports, hsessions]
    exact h.recorded
  ended := by
    rw [hreports, hrequests, hnextId]
    exact h.ended
  requests := by
    rw [hrequests, hscripts]
    exact fun rid' r hreq => (h.requests rid' r hreq).update hscript hexit hsession htx
  idle := by
    rw [hrequests, hnextId]
    exact h.idle

/-- A script starts, for a request that had none. -/
theorem OwnScripts.spawned {s : Server} {rid : ℕ} {r : Request}
    (h : OwnScripts env s) (script : Script) (hreq : s.requests rid = some r) :
    OwnScripts env { s with
      scripts := Function.update s.scripts rid (some script)
      requests := Function.update s.requests rid
        (some (.proving script.sessionId script.txHash .running)) } where
  proved report hreport := by
    obtain ⟨own, hown, hproved⟩ := h.proved report hreport
    exact ⟨own, (Function.update_of_ne (h.rid_ne hreq hreport) ..).trans hown, hproved⟩
  recorded := h.recorded
  ended report hreport := by
    obtain ⟨hlt, hnone⟩ := h.ended report hreport
    exact ⟨hlt, (Function.update_of_ne (h.rid_ne hreq hreport) ..).trans hnone⟩
  requests rid' r' hreq' := by
    rcases update_some_eq_some.mp hreq' with ⟨rfl, rfl⟩ | ⟨hne, hreq'⟩
    · exact ⟨script, Function.update_self .., rfl, rfl⟩
    · have hold := h.requests rid' r' hreq'
      unfold RequestProof Proved at hold ⊢
      split at hold
      · simpa [Function.update_of_ne hne] using hold
      · simpa [Function.update_of_ne hne] using hold
      · trivial
  idle rid' hidle :=
    (Function.update_of_ne (h.rid_lt hreq |>.trans_le hidle).ne' ..).trans (h.idle rid' hidle)

/-- A proof that was found is reported. -/
theorem OwnScripts.recordProof {s : Server} {rid : ℕ} {sessionId txHash : String}
    {said : List (ℕ × Said)} (h : OwnScripts env s)
    (hreq : s.requests rid = some (.proving sessionId txHash .found)) :
    OwnScripts env { s with
      sessions := Function.update s.sessions sessionId { s.sessions sessionId with
        proofFile := some (env.proofOutput sessionId) }
      requests := Function.update s.requests rid none
      reports := s.reports ++ [⟨rid, sessionId, txHash⟩]
      said } where
  proved report hreport := by
    rcases List.mem_append.mp hreport with hold | hnew
    · exact h.proved report hold
    · obtain rfl := List.mem_singleton.mp hnew
      exact h.requests rid _ hreq
  recorded x proofFile hproof := by
    dsimp only at hproof
    by_cases hx : x = sessionId
    · subst hx
      rw [Function.update_self] at hproof
      obtain rfl := Option.some.inj hproof
      exact ⟨rfl, _, List.mem_append_right _ (List.mem_singleton_self _), rfl⟩
    · rw [Function.update_of_ne hx] at hproof
      obtain ⟨hfile, report, hreport, hsession⟩ := h.recorded x proofFile hproof
      exact ⟨hfile, report, List.mem_append_left _ hreport, hsession⟩
  ended report hreport := by
    rcases List.mem_append.mp hreport with hold | hnew
    · obtain ⟨hlt, hnone⟩ := h.ended report hold
      exact ⟨hlt, update_none_eq_none.mpr (.inr hnone)⟩
    · obtain rfl := List.mem_singleton.mp hnew
      exact ⟨h.rid_lt hreq, Function.update_self ..⟩
  requests := forall_update_none h.requests
  idle rid' hidle := update_none_eq_none.mpr (.inr (h.idle rid' hidle))

/-- **What a step keeps**, when a proof that is found is the own one. -/
theorem ownScripts_step {s s' : Server} {e : Event} (h : OwnScripts env s)
    (hC : OwnProof env s e) (hs : step env s e = some s') : OwnScripts env s' := by
  cases step_move hs with
  | arrival harrival hrid =>
      refine h.update rfl ⟨fun _ => rfl, rfl, rfl⟩ (fun _ hr => ?_) (fun report hreport => ?_)
        (Nat.lt_succ_self _) ?_
      · exact Option.some.inj hr ▸ harrival.requestProof
      · exact hrid ▸ (h.ended report hreport).1.ne
      · exact hrid ▸ Nat.le_succ _
  | rejected hrid =>
      subst hrid
      refine ⟨⟨h.proved, h.recorded⟩, fun report hreport => ?_, h.requests, fun rid' hidle => ?_⟩
      · exact ⟨(h.ended report hreport).1.trans (Nat.lt_succ_self _), (h.ended report hreport).2⟩
      · exact h.idle rid' ((Nat.le_succ _).trans hidle)
  | ends hreq _ => exact h.ends hreq rfl ⟨fun _ => rfl, rfl, rfl⟩ rfl
  | accountDeployed hreq | counterDeployed hreq | confirmed hreq _ | blockConfirmed hreq =>
      exact h.ends hreq rfl ⟨apply_update_of_eq rfl, rfl, rfl⟩ rfl
  | submitted hreq _ | storeProveBlock hreq _ =>
      exact h.goesOn hreq rfl ⟨apply_update_of_eq rfl, rfl, rfl⟩ trivial rfl
  | spawned hreq => exact h.spawned ⟨_, _, _, false, false, none⟩ hreq
  | @foundProof rid sessionId txHash script success written hreq hscript hexit hfile =>
      obtain ⟨own, hown, hsession, htx⟩ := h.requests rid _ hreq
      obtain rfl := Option.some.inj (hscript.symm.trans hown)
      have hgood : script.wroteProof = true ∧ script.exit = some true :=
        FindsProof.script hC hreq hscript hexit hfile
      exact h.goesOn hreq rfl ⟨fun _ => rfl, rfl, rfl⟩ ⟨script, hscript, hsession, htx, hgood⟩ rfl
  | recordProof hreq => exact h.recordProof hreq
  | writeProof hscript hexit | writeFacts hscript hexit | exited hscript hexit =>
      exact h.updateScript hscript hexit rfl rfl rfl rfl rfl rfl rfl
  | blockWrites hreq => exact ⟨⟨h.proved, h.recorded⟩, h.ended, h.requests, h.idle⟩
  | readInvokeBlock hreq _ | waits hreq | included hreq _ | blockGoesOn hreq | readProof hreq _
  | readFacts hreq _ _ | signed hreq _ =>
      exact h.goesOn hreq rfl ⟨fun _ => rfl, rfl, rfl⟩ trivial rfl

theorem ownScripts_new (files : String → Option Written) : OwnScripts env (Server.new files) where
  proved _ hreport := absurd hreport List.not_mem_nil
  recorded _ _ hproof := absurd hproof (Option.some_ne_none _).symm
  ended _ hreport := absurd hreport List.not_mem_nil
  requests _ _ hreq := absurd hreq (Option.some_ne_none _).symm
  idle _ _ := rfl

/-- **Every reported proof is a proof of its request**, in a run in which every proof file that is
found after a script has exited was written by that script, with success. -/
theorem reportedOwn_of_ownProof {files : String → Option Written} {es : List Event}
    (hsteps : EveryStep (step env) (Server.new files) es (OwnProof env)) :
    EveryState (step env) (Server.new files) es (ReportedOwn env) :=
  (everyState_of_everyStep (ownScripts_new files) (fun _ _ _ => ownScripts_step) hsteps).mono
    fun _ h => h.toReportedOwn

/-- The theorem, for an increment that is proved. -/
theorem reportedOwn_firstProof :
    EveryState (step sampleEnv) (Server.new fun _ => none) firstProof (ReportedOwn sampleEnv) :=
  reportedOwn_of_ownProof (everyStep_of_everyStep? (by decide +kernel))

/-- A second proof of the increment, whose script fails. -/
def failedProof : List Event := firstProof ++ [
  .prove 4 "a",
  .readInvokeBlock 4,
  .storeProveBlock 4,
  .spawned 4 (.ok ()),
  .exited 4 false,
  .checkProof 4,
  .recordProof 4 (.ok 5)]

/-- The proof of the first script is reported as that of the second, which failed. -/
theorem failedProof_not_reportedOwn :
    ∃ s, Run (step sampleEnv) (Server.new fun _ => none) failedProof s ∧
      ¬ EveryState (step sampleEnv) (Server.new fun _ => none) failedProof
        (ReportedOwn sampleEnv) := by
  have h : ((runEvents (step sampleEnv) (Server.new fun _ => none) failedProof).map fun s =>
      (s.reports[1]?, s.scripts 4)) = some (some ⟨4, "a", "0x31"⟩,
        some ⟨"a", "0x31", 4, false, false, some false⟩) := by decide +kernel
  obtain ⟨s, hs, hview⟩ := Option.map_eq_some_iff.mp h
  obtain ⟨hreport, hscript⟩ := Prod.mk.inj hview
  have hrun := Run.of_runEvents hs
  refine ⟨s, hrun, fun h => ?_⟩
  obtain ⟨own, hown, -, -, -, hsuccess⟩ :=
    (h.last hrun).proved _ (List.mem_of_getElem? hreport)
  obtain rfl := Option.some.inj (hown.symm.trans hscript)
  exact absurd hsuccess (by decide)

end Snip36.Playground

import Snip36.Rpc.Concurrency

/-!
# Rpc — every request ends once

A request that came in has been answered, or has its handler, or was dropped by its client: one of
these, and once (`Settled`).  So no request is answered twice, a dropped one is not answered, and
the permits come back: those that are not there are the handlers'.

`requests_settled`: in every run, and that all permits are there when no handler is.
-/

namespace Snip36.Rpc
open Support

/-- How often a request has been answered. -/
def timesAnswered (s : Service) (rid : ℕ) : ℕ := s.answers.countP (·.1 = rid)

/-- The client of the request goes away. -/
def Event.drops (rid : ℕ) : Event → Bool
  | .disconnect rid' => rid' = rid
  | _ => false

/-- How often a request has been dropped. -/
def timesDropped (es : List Event) (rid : ℕ) : ℕ := es.countP (Event.drops rid)

/-- How many handlers a request has. -/
def handlersOf (s : Service) (rid : ℕ) : ℕ := if s.Admitted rid then 1 else 0

/-- How often a request has ended or is about to. -/
def fates (es : List Event) (s : Service) (rid : ℕ) : ℕ :=
  timesAnswered s rid + handlersOf s rid + timesDropped es rid

/-- Every request that came in has one fate, and the permits that are taken are those of the
handlers. -/
structure Settled (es : List Event) (s : Service) : Prop where
  fate : ∀ rid, fates es s rid = if rid < s.nextId then 1 else 0
  permits : s.permits + Nat.count s.Admitted s.nextId = s.maxConcurrentRequests

/-! ### What a step does to a request -/

theorem timesDropped_append (es : List Event) (e : Event) (rid : ℕ) :
    timesDropped (es ++ [e]) rid = timesDropped es rid + if e.drops rid then 1 else 0 := by
  rw [timesDropped, List.countP_append, List.countP_singleton, timesDropped]

/-- An answer is one more for its request. -/
theorem timesAnswered_append {s s' : Service} {rid : ℕ} {a : Except ErrorObjectOwned Unit}
    (h : s'.answers = s.answers ++ [(rid, a)]) (i : ℕ) :
    timesAnswered s' i = timesAnswered s i + if rid = i then 1 else 0 := by
  rw [timesAnswered, h, List.countP_append, List.countP_singleton, timesAnswered]
  simp

theorem handlersOf_of_update_some {s s' : Service} {rid : ℕ} {phase : Phase}
    (h : s'.handlers = Function.update s.handlers rid (some phase)) : handlersOf s' rid = 1 := by
  refine if_pos ?_
  rw [Service.Admitted, h, Function.update_self]
  rfl

theorem handlersOf_of_update_none {s s' : Service} {rid : ℕ}
    (h : s'.handlers = Function.update s.handlers rid none) : handlersOf s' rid = 0 := by
  refine if_neg ?_
  rw [Service.Admitted, h, Function.update_self]
  exact Bool.false_ne_true

theorem handlersOf_congr {s s' : Service} {rid : ℕ} (h : s'.Admitted rid ↔ s.Admitted rid) :
    handlersOf s' rid = handlersOf s rid :=
  if_congr h rfl rfl

/-- A client that goes away takes its request's handler. -/
theorem step_disconnect {s s' : Service} {rid : ℕ} (hs : step s (.disconnect rid) = some s') :
    s.Admitted rid ∧ s' = { s with
      permits := s.permits + 1
      handlers := Function.update s.handlers rid none } := by
  simp only [step] at hs
  split at hs
  · next hhandler => exact ⟨admitted_of_eq hhandler, (Option.some.inj hs).symm⟩
  · cases hs

/-- An event that drops no request adds to none's drops. -/
theorem timesDropped_of_ne {es : List Event} {e : Event} (he : ∀ r, e ≠ .disconnect r) (rid : ℕ) :
    timesDropped (es ++ [e]) rid = timesDropped es rid := by
  have hno : e.drops rid = false := by
    cases e with
    | disconnect r => exact absurd rfl (he r)
    | _ => rfl
  rw [timesDropped_append, hno]
  rfl

/-- A request that is turned away has its answer at once. -/
theorem fates_turnedAway {es : List Event} {s s' : Service} {e : Event} {rid : ℕ}
    (he : ∀ r, e ≠ .disconnect r)
    (hfate : ∀ i, fates es s i = if i < s.nextId then 1 else 0) (hrid : rid = s.nextId)
    (hnextId : s'.nextId = rid + 1) (hhandlers : s'.handlers = s.handlers)
    (hanswers : ∃ a, s'.answers = s.answers ++ [(rid, a)]) (i : ℕ) :
    fates (es ++ [e]) s' i = if i < s'.nextId then 1 else 0 := by
  obtain ⟨a, hanswers⟩ := hanswers
  have hi := hfate i
  have hkept : handlersOf s' i = handlersOf s i :=
    handlersOf_congr (by rw [Service.Admitted, Service.Admitted, hhandlers])
  rw [fates] at hi ⊢
  rw [timesAnswered_append hanswers, hkept, timesDropped_of_ne he, hnextId]
  split_ifs at hi ⊢ <;> omega

/-- **A step gives a request that comes in its fate, and every other request keeps its one.** -/
theorem fates_step {es : List Event} {s s' : Service} {e : Event} (hcounted : Counted s)
    (hfate : ∀ i, fates es s i = if i < s.nextId then 1 else 0) (hs : step s e = some s') (i : ℕ) :
    fates (es ++ [e]) s' i = if i < s'.nextId then 1 else 0 := by
  have hi := hfate i
  by_cases hdrop : ∃ rid, e = .disconnect rid
  · obtain ⟨rid, rfl⟩ := hdrop
    obtain ⟨hadmitted, rfl⟩ := step_disconnect hs
    rw [← hi, fates, fates, timesDropped_append]
    by_cases hne : i = rid
    · -- the handler goes, and the drop comes in its place
      subst hne
      have hone : handlersOf s i = 1 := if_pos hadmitted
      rw [handlersOf_of_update_none rfl, hone, Event.drops, decide_eq_true rfl, if_pos rfl,
        Nat.add_zero, Nat.add_assoc, Nat.add_comm 1]
      rfl
    · rw [handlersOf_congr (admitted_update_iff hne rfl), Event.drops,
        decide_eq_false (Ne.symm hne)]
      rfl
  · have he : ∀ rid, e ≠ .disconnect rid := fun rid hrid => hdrop ⟨rid, hrid⟩
    cases step_move hs with
    | refused hrid | rejected hrid =>
        refine fates_turnedAway he hfate hrid ?_ ?_ ?_ i
        · rfl
        · rfl
        · exact ⟨_, rfl⟩
    | @admitted rid hrid hpermits =>
        have hnone : handlersOf s s.nextId = 0 :=
          if_neg fun h => lt_irrefl _ (hcounted.rid_lt (.inl h))
        rw [fates] at hi ⊢
        rw [timesDropped_of_ne he]
        subst hrid
        by_cases hne : i = s.nextId
        · subst hne
          rw [handlersOf_of_update_some rfl, if_pos (Nat.lt_succ_self _)]
          rw [if_neg (lt_irrefl _)] at hi
          change timesAnswered s s.nextId + 1 + timesDropped es s.nextId = 1
          omega
        · rw [handlersOf_congr (admitted_update_iff hne rfl)]
          refine hi.trans (if_congr ?_ rfl rfl)
          change i < s.nextId ↔ i < s.nextId + 1
          omega
    | finished =>
        rw [← hi, fates, fates, timesDropped_of_ne he, handlersOf_congr Iff.rfl]
        rfl
    | resumed hhandler | proves hhandler =>
        rw [← hi, fates, fates, timesDropped_of_ne he,
          handlersOf_congr (admitted_goesOn_iff hhandler rfl i)]
        rfl
    | @answered _ rid a _ _ hadmitted =>
        refine Eq.trans ?_ hi
        rw [fates, fates, timesDropped_of_ne he, timesAnswered_append rfl]
        by_cases hrid : i = rid
        · subst hrid
          have hone : handlersOf s i = 1 := if_pos hadmitted
          rw [handlersOf_of_update_none rfl, hone, if_pos rfl]
        · rw [handlersOf_congr (admitted_update_iff hrid rfl), if_neg (Ne.symm hrid),
            Nat.add_zero]
    | disconnected => exact absurd rfl (he _)

theorem maxConcurrentRequests_step {s s' : Service} {e : Event} (hs : step s e = some s') :
    s'.maxConcurrentRequests = s.maxConcurrentRequests := by
  cases step_move hs <;> rfl

/-- **Every request ends once, and its permit comes back.** -/
theorem requests_settled {maxConcurrentRequests : ℕ} {es : List Event} {s : Service}
    (hrun : Run step (Service.new maxConcurrentRequests) es s) :
    Settled es s ∧ s.maxConcurrentRequests = maxConcurrentRequests ∧
      ((∀ rid, s.handlers rid = none) → s.permits = maxConcurrentRequests) := by
  have hall : (Counted s ∧ s.maxConcurrentRequests = maxConcurrentRequests) ∧
      ∀ i, fates es s i = if i < s.nextId then 1 else 0 := by
    refine hrun.history_induction
      (P := fun es s => (Counted s ∧ s.maxConcurrentRequests = maxConcurrentRequests) ∧
        ∀ i, fates es s i = if i < s.nextId then 1 else 0)
      ⟨⟨counted_new _, rfl⟩, fun i => rfl⟩ ?_
    rintro es s₁ e s₂ ⟨⟨hcounted, hmax⟩, hfate⟩ hs
    exact ⟨⟨counted_step hcounted hs, (maxConcurrentRequests_step hs).trans hmax⟩,
      fates_step hcounted hfate hs⟩
  obtain ⟨⟨hcounted, hmax⟩, hfate⟩ := hall
  refine ⟨⟨hfate, hcounted.permits⟩, hmax, fun hnone => ?_⟩
  have hcount : Nat.count s.Admitted s.nextId = 0 :=
    Nat.count_iff_forall_not.mpr fun rid _ hadmitted => by
      rw [Service.Admitted, hnone] at hadmitted
      cases hadmitted
  have hpermits := hcounted.permits
  omega

theorem requests_settled_threeRequests :
    ∃ s, Run step (Service.new 2) threeRequests s ∧ Settled threeRequests s ∧
      s.maxConcurrentRequests = 2 ∧ ((∀ rid, s.handlers rid = none) → s.permits = 2) := by
  have h : (runEvents step (Service.new 2) threeRequests).isSome = true := by decide +kernel
  obtain ⟨s, hs⟩ := Option.isSome_iff_exists.mp h
  have hrun := Run.of_runEvents hs
  exact ⟨s, hrun, requests_settled hrun⟩

end Snip36.Rpc

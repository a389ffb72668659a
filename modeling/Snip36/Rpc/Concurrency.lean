import Snip36.Support.Counting
import Snip36.Support.OneShot

/-!
# Rpc — how many tasks run

The proving service takes a permit for every request that it admits, and rejects a request when
there is none left.  The handler has the permit, and gives it back when it ends or is dropped.  The
execution and the proof are blocking tasks, which a dropped handler leaves behind; between the two
the handler waits for the node, with its permit and no task.

* `bounded_iff_spare`: in a run, no more tasks run than are allowed and a request is refused only
  while so many run, exactly when no more tasks are left behind than permits and waiting handlers
  are there to make up for them, and, where a request is refused, as many.
* `running_le_of_undisturbed`: no more tasks run than are allowed when no client goes away while a
  task of its request runs.
-/

namespace Snip36.Rpc
open Support

/-! ### Data -/

/-- `ErrorObjectOwned`. -/
structure ErrorObjectOwned where
  code : ℤ
  message : String
  data : Option String
  deriving DecidableEq

/-- `service_busy`. -/
def serviceBusy (maxConcurrent : ℕ) : ErrorObjectOwned where
  code := -32005
  message := "Service is busy"
  data := some ("The proving service is at capacity (" ++ toString maxConcurrent
    ++ " concurrent request(s)). Please retry later.")

/-- What a handler of `prove_transaction` waits for. -/
inductive Phase where
  /-- The task that executes the transaction. -/
  | executing
  /-- The classes and the storage proofs, in `create_virtual_os_hints`. -/
  | building
  /-- The task that proves the Cairo PIE. -/
  | proving
  deriving DecidableEq

/-- The work of a blocking task. -/
inductive Work where
  | execute
  | prove
  deriving DecidableEq

/-- A task of `spawn_blocking`. -/
structure BlockingTask where
  work : Work
  /-- What it has ended with. -/
  outcome : Option (Except ErrorObjectOwned Unit)

/-- The task has not ended. -/
def BlockingTask.running (task : BlockingTask) : Bool := task.outcome.isNone

/-- The service: `ProvingRpcServerImpl`, its handlers and their tasks, by the number of the
request, and what it has answered.  A refusal is kept with how many tasks ran. -/
structure Service where
  maxConcurrentRequests : ℕ
  /-- The permits of the semaphore. -/
  permits : ℕ
  nextId : ℕ
  handlers : ℕ → Option Phase
  tasks : ℕ → Option BlockingTask
  answers : List (ℕ × Except ErrorObjectOwned Unit)
  refusals : List ℕ

/-- `ProvingRpcServerImpl::new`. -/
def Service.new (maxConcurrentRequests : ℕ) : Service :=
  ⟨maxConcurrentRequests, maxConcurrentRequests, 0, fun _ => none, fun _ => none, [], []⟩

namespace Service

/-- The request has a permit. -/
def Admitted (s : Service) (rid : ℕ) : Prop := (s.handlers rid).isSome = true

/-- A task of the request runs. -/
def TaskRuns (s : Service) (rid : ℕ) : Prop := (s.tasks rid).any BlockingTask.running = true

/-- A task of the request runs that was left behind. -/
def LeftBehind (s : Service) (rid : ℕ) : Prop := ¬ s.Admitted rid ∧ s.TaskRuns rid

/-- The request has a permit, and no task of it runs. -/
def Waits (s : Service) (rid : ℕ) : Prop := s.Admitted rid ∧ ¬ s.TaskRuns rid

/-- The request is at work, in its handler or in a task. -/
def AtWork (s : Service) (rid : ℕ) : Prop := s.Admitted rid ∨ s.TaskRuns rid

instance (s : Service) : DecidablePred s.Admitted := fun rid => by
  unfold Admitted
  infer_instance

instance (s : Service) : DecidablePred s.TaskRuns := fun rid => by
  unfold TaskRuns
  infer_instance

instance (s : Service) : DecidablePred s.LeftBehind := fun rid => by
  unfold LeftBehind
  infer_instance

instance (s : Service) : DecidablePred s.Waits := fun rid => by
  unfold Waits
  infer_instance

instance (s : Service) : DecidablePred s.AtWork := fun rid => by
  unfold AtWork
  infer_instance

/-- How many executions and proofs run. -/
def running (s : Service) : ℕ := Nat.count s.TaskRuns s.nextId

/-- How many of them were left behind. -/
def leftBehind (s : Service) : ℕ := Nat.count s.LeftBehind s.nextId

/-- How many requests have a permit and no task that runs. -/
def waiting (s : Service) : ℕ := Nat.count s.Waits s.nextId

/-- A handler ends with an answer, and drops its permit. -/
def answer (s : Service) (rid : ℕ) (a : Except ErrorObjectOwned Unit) : Service :=
  { s with
    permits := s.permits + 1
    handlers := Function.update s.handlers rid none
    tasks := Function.update s.tasks rid none
    answers := s.answers ++ [(rid, a)] }

end Service

/-! ### Moves -/

/-- What happens at the service. -/
inductive Event where
  /-- A request comes in, with what its checks say, up to the first await. -/
  | arrive (rid : ℕ) (checks : Except ErrorObjectOwned Unit)
  /-- A task ends. -/
  | finish (rid : ℕ) (outcome : Except ErrorObjectOwned Unit)
  /-- The handler sees that its task has ended. -/
  | resume (rid : ℕ)
  /-- The hints are built, and the virtual OS has run. -/
  | built (rid : ℕ) (outcome : Except ErrorObjectOwned Unit)
  /-- The client goes away, and the handler is dropped. -/
  | disconnect (rid : ℕ)

/-- One move. -/
def step (s : Service) : Event → Option Service
  | .arrive rid checks =>
      if rid = s.nextId then
        if s.permits = 0 then
          some { s with
            nextId := rid + 1
            answers := s.answers ++ [(rid, .error (serviceBusy s.maxConcurrentRequests))]
            refusals := s.refusals ++ [s.running] }
        else
          match checks with
          | .ok () =>
              some { s with
                nextId := rid + 1
                permits := s.permits - 1
                handlers := Function.update s.handlers rid (some .executing)
                tasks := Function.update s.tasks rid (some ⟨.execute, none⟩) }
          | .error e => some { s with nextId := rid + 1, answers := s.answers ++ [(rid, .error e)] }
      else none
  | .finish rid outcome =>
      match s.tasks rid with
      | some ⟨work, none⟩ =>
          some { s with tasks := Function.update s.tasks rid (some ⟨work, some outcome⟩) }
      | _ => none
  | .resume rid =>
      match s.handlers rid, s.tasks rid with
      | some .executing, some ⟨.execute, some (.ok ())⟩ =>
          some { s with
            handlers := Function.update s.handlers rid (some .building)
            tasks := Function.update s.tasks rid none }
      | some .executing, some ⟨.execute, some (.error e)⟩ => some (s.answer rid (.error e))
      | some .proving, some ⟨.prove, some outcome⟩ => some (s.answer rid outcome)
      | _, _ => none
  | .built rid outcome =>
      match s.handlers rid, outcome with
      | some .building, .ok () =>
          some { s with
            handlers := Function.update s.handlers rid (some .proving)
            tasks := Function.update s.tasks rid (some ⟨.prove, none⟩) }
      | some .building, .error e => some (s.answer rid (.error e))
      | _, _ => none
  | .disconnect rid =>
      match s.handlers rid with
      | some _ =>
          -- The permit is the handler's, and its task goes on.
          some { s with
            permits := s.permits + 1
            handlers := Function.update s.handlers rid none }
      | none => none

/-! ### The bound -/

/-- No more tasks run than are allowed, and every refusal found as many. -/
structure Bounded (s : Service) : Prop where
  running : s.running ≤ s.maxConcurrentRequests
  refusals : ∀ n ∈ s.refusals, s.maxConcurrentRequests ≤ n

/-- A task that is started finds fewer tasks left behind than permits and waiting requests; a
request that is refused finds no fewer than waiting requests. -/
def Spare (s : Service) : Event → Prop
  | .arrive _ checks =>
      if s.permits = 0 then s.waiting ≤ s.leftBehind
      else checks = .ok () → s.leftBehind < s.permits + s.waiting
  | .built _ (.ok ()) => s.leftBehind < s.permits + s.waiting
  | _ => True

instance (s : Service) : DecidablePred (Spare s) := fun e => by
  unfold Spare
  split <;> infer_instance

/-- The permits, and those that have one. -/
structure Counted (s : Service) : Prop where
  permits : s.permits + Nat.count s.Admitted s.nextId = s.maxConcurrentRequests
  handlers : ∀ rid, s.nextId ≤ rid → s.handlers rid = none
  tasks : ∀ rid, s.nextId ≤ rid → s.tasks rid = none
  building : ∀ rid, s.handlers rid = some .building → s.tasks rid = none

/-- A request is at work in a task or in a handler that waits, and in a handler or in a task that
was left behind. -/
theorem running_add_waiting (s : Service) :
    s.running + s.waiting = Nat.count s.Admitted s.nextId + s.leftBehind := by
  have htasks : Nat.count s.AtWork s.nextId = s.running + s.waiting := by
    refine count_of_or (fun rid _ => ?_) fun rid _ hruns hwaits => hwaits.2 hruns
    unfold Service.AtWork Service.Waits
    tauto
  have hhandlers : Nat.count s.AtWork s.nextId
      = Nat.count s.Admitted s.nextId + s.leftBehind := by
    refine count_of_or (fun rid _ => ?_) fun rid _ hadmitted hleft => hleft.1 hadmitted
    unfold Service.AtWork Service.LeftBehind
    tauto
  exact htasks.symm.trans hhandlers

/-- **The balance**: tasks left behind are what runs beyond the limit. -/
theorem Counted.balance {s : Service} (h : Counted s) :
    s.running + s.waiting + s.permits = s.maxConcurrentRequests + s.leftBehind := by
  have hsum := running_add_waiting s
  have hpermits := h.permits
  omega

/-! ### What a move does -/

/-- A move at the handler of another request. -/
theorem admitted_update_iff {s s' : Service} {rid i : ℕ} {phase : Option Phase} (hi : i ≠ rid)
    (hhandlers : s'.handlers = Function.update s.handlers rid phase) :
    s'.Admitted i ↔ s.Admitted i := by
  rw [Service.Admitted, Service.Admitted, hhandlers, Function.update_of_ne hi]

/-- A move at the task of another request. -/
theorem taskRuns_update_iff {s s' : Service} {rid i : ℕ} {task : Option BlockingTask}
    (hi : i ≠ rid) (htasks : s'.tasks = Function.update s.tasks rid task) :
    s'.TaskRuns i ↔ s.TaskRuns i := by
  rw [Service.TaskRuns, Service.TaskRuns, htasks, Function.update_of_ne hi]

/-- What a move does. -/
inductive Move (s : Service) : Event → Service → Prop where
  | refused {rid : ℕ} {checks : Except ErrorObjectOwned Unit} (hrid : rid = s.nextId)
      (hpermits : s.permits = 0) :
      Move s (.arrive rid checks) { s with
        nextId := rid + 1
        answers := s.answers ++ [(rid, .error (serviceBusy s.maxConcurrentRequests))]
        refusals := s.refusals ++ [s.running] }
  | rejected {rid : ℕ} {e : ErrorObjectOwned} (hrid : rid = s.nextId) (hpermits : s.permits ≠ 0) :
      Move s (.arrive rid (.error e)) { s with
        nextId := rid + 1
        answers := s.answers ++ [(rid, .error e)] }
  | admitted {rid : ℕ} (hrid : rid = s.nextId) (hpermits : s.permits ≠ 0) :
      Move s (.arrive rid (.ok ())) { s with
        nextId := rid + 1
        permits := s.permits - 1
        handlers := Function.update s.handlers rid (some .executing)
        tasks := Function.update s.tasks rid (some ⟨.execute, none⟩) }
  | finished {rid : ℕ} {outcome : Except ErrorObjectOwned Unit} {work : Work}
      (htask : s.tasks rid = some ⟨work, none⟩) :
      Move s (.finish rid outcome) { s with
        tasks := Function.update s.tasks rid (some ⟨work, some outcome⟩) }
  | resumed {rid : ℕ} (hhandler : s.handlers rid = some .executing) :
      Move s (.resume rid) { s with
        handlers := Function.update s.handlers rid (some .building)
        tasks := Function.update s.tasks rid none }
  | proves {rid : ℕ} (hhandler : s.handlers rid = some .building) :
      Move s (.built rid (.ok ())) { s with
        handlers := Function.update s.handlers rid (some .proving)
        tasks := Function.update s.tasks rid (some ⟨.prove, none⟩) }
  | answered {e : Event} {rid : ℕ} {a : Except ErrorObjectOwned Unit}
      (he : ∀ rid checks, e ≠ .arrive rid checks) (hbuilt : ∀ rid, e ≠ .built rid (.ok ()))
      (hrid : s.Admitted rid) : Move s e (s.answer rid a)
  | disconnected {rid : ℕ} (hrid : s.Admitted rid) :
      Move s (.disconnect rid) { s with
        permits := s.permits + 1
        handlers := Function.update s.handlers rid none }

theorem admitted_of_eq {s : Service} {rid : ℕ} {phase : Phase} (h : s.handlers rid = some phase) :
    s.Admitted rid := by
  rw [Service.Admitted, h]
  rfl

theorem taskRuns_of_eq {s : Service} {rid : ℕ} {work : Work}
    (h : s.tasks rid = some ⟨work, none⟩) : s.TaskRuns rid := by
  rw [Service.TaskRuns, h]
  rfl

/-- A handler that goes on is still there. -/
theorem admitted_goesOn_iff {s s' : Service} {rid : ℕ} {phase phase' : Phase}
    (h : s.handlers rid = some phase)
    (hhandlers : s'.handlers = Function.update s.handlers rid (some phase')) (i : ℕ) :
    s'.Admitted i ↔ s.Admitted i := by
  by_cases hi : i = rid
  · subst hi
    rw [Service.Admitted, hhandlers, Function.update_self]
    exact iff_of_true rfl (admitted_of_eq h)
  · exact admitted_update_iff hi hhandlers

/-- **Every step is a move.** -/
theorem step_move {s s' : Service} {e : Event} (hs : step s e = some s') : Move s e s' := by
  cases e with
  | arrive rid checks =>
      simp only [step] at hs
      split at hs
      · next hrid =>
          split at hs
          · next hpermits =>
              obtain rfl := Option.some.inj hs
              exact .refused hrid hpermits
          · next hpermits =>
              split at hs
              · obtain rfl := Option.some.inj hs
                exact .admitted hrid hpermits
              · obtain rfl := Option.some.inj hs
                exact .rejected hrid hpermits
      · cases hs
  | finish rid outcome =>
      simp only [step] at hs
      split at hs
      · next htask =>
          obtain rfl := Option.some.inj hs
          exact .finished htask
      · cases hs
  | resume rid =>
      simp only [step] at hs
      split at hs
      · next hhandler _ =>
          obtain rfl := Option.some.inj hs
          exact .resumed hhandler
      · next hhandler _ =>
          obtain rfl := Option.some.inj hs
          exact .answered (fun _ _ => nofun) (fun _ => nofun) (admitted_of_eq hhandler)
      · next hhandler _ =>
          obtain rfl := Option.some.inj hs
          exact .answered (fun _ _ => nofun) (fun _ => nofun) (admitted_of_eq hhandler)
      · cases hs
  | built rid outcome =>
      simp only [step] at hs
      split at hs
      · next hhandler =>
          obtain rfl := Option.some.inj hs
          exact .proves hhandler
      · next hhandler =>
          obtain rfl := Option.some.inj hs
          exact .answered (fun _ _ => nofun) (fun _ => nofun) (admitted_of_eq hhandler)
      · cases hs
  | disconnect rid =>
      simp only [step] at hs
      split at hs
      · next hhandler =>
          obtain rfl := Option.some.inj hs
          exact .disconnected (admitted_of_eq hhandler)
      · cases hs

/-! ### The permits -/

theorem Counted.rid_lt {s : Service} {rid : ℕ} (h : Counted s) (hwork : s.AtWork rid) :
    rid < s.nextId := by
  by_contra hle
  have hhandler := h.handlers rid (Nat.not_lt.mp hle)
  have htask := h.tasks rid (Nat.not_lt.mp hle)
  rcases hwork with hadmitted | hruns
  · rw [Service.Admitted, hhandler] at hadmitted
    cases hadmitted
  · rw [Service.TaskRuns, htask] at hruns
    cases hruns

/-- After a move at one request, a handler that waits for the node has no task. -/
theorem Counted.building_update {s s' : Service} {rid : ℕ} {phase : Option Phase} (h : Counted s)
    (hhandlers : s'.handlers = Function.update s.handlers rid phase)
    (htasks : ∀ i, i ≠ rid → s'.tasks i = s.tasks i)
    (hrid : phase = some .building → s'.tasks rid = none) (i : ℕ)
    (hi : s'.handlers i = some .building) : s'.tasks i = none := by
  rw [hhandlers] at hi
  by_cases hne : i = rid
  · subst hne
    rw [Function.update_self] at hi
    exact hrid hi
  · rw [Function.update_of_ne hne] at hi
    exact (htasks i hne).trans (h.building i hi)

/-- A handler leaves, and gives back its permit. -/
theorem Counted.leaves {s s' : Service} {rid : ℕ} (h : Counted s) (hrid : s.Admitted rid)
    (hmax : s'.maxConcurrentRequests = s.maxConcurrentRequests) (hnextId : s'.nextId = s.nextId)
    (hpermits : s'.permits = s.permits + 1)
    (hhandlers : s'.handlers = Function.update s.handlers rid none)
    (hothers : ∀ i, i ≠ rid → s'.tasks i = s.tasks i)
    (htasks : s.tasks rid = none → s'.tasks rid = none) : Counted s' where
  permits := by
    have hgone : ¬ s'.Admitted rid := by
      rw [Service.Admitted, hhandlers, Function.update_self]
      exact Bool.false_ne_true
    have hdrop : Nat.count s'.Admitted s.nextId + 1 = Nat.count s.Admitted s.nextId :=
      count_of_drop (h.rid_lt (.inl hrid)) hrid hgone fun i _ hi =>
        admitted_update_iff hi hhandlers
    have hcount := h.permits
    rw [hmax, hnextId, hpermits]
    omega
  handlers i hi := by
    rw [hhandlers]
    exact update_none_eq_none.mpr (.inr (h.handlers i (hnextId ▸ hi)))
  tasks i hi := by
    have hnone := h.tasks i (hnextId ▸ hi)
    by_cases hne : i = rid
    · exact hne ▸ htasks (hne ▸ hnone)
    · exact (hothers i hne).trans hnone
  building := h.building_update hhandlers hothers nofun

/-- A request that is not admitted takes no permit. -/
theorem Counted.turnedAway {s s' : Service} (h : Counted s)
    (hmax : s'.maxConcurrentRequests = s.maxConcurrentRequests)
    (hnextId : s'.nextId = s.nextId + 1) (hpermits : s'.permits = s.permits)
    (hhandlers : s'.handlers = s.handlers) (htasks : s'.tasks = s.tasks) : Counted s' where
  permits := by
    have hout : ¬ s'.Admitted s.nextId := by
      rw [Service.Admitted, hhandlers, h.handlers s.nextId le_rfl]
      exact Bool.false_ne_true
    rw [hmax, hnextId, hpermits, count_succ_of_not (p := s.Admitted) hout fun i _ => ?_]
    · exact h.permits
    · rw [Service.Admitted, Service.Admitted, hhandlers]
  handlers i hi := by
    rw [hhandlers]
    exact h.handlers i (by omega)
  tasks i hi := by
    rw [htasks]
    exact h.tasks i (by omega)
  building i hi := by
    rw [hhandlers] at hi
    rw [htasks]
    exact h.building i hi

/-- A request that is admitted takes a permit. -/
theorem Counted.admits {s s' : Service} (h : Counted s)
    (hmax : s'.maxConcurrentRequests = s.maxConcurrentRequests)
    (hnextId : s'.nextId = s.nextId + 1) (hpermits : s'.permits + 1 = s.permits)
    (hhandlers : s'.handlers = Function.update s.handlers s.nextId (some .executing))
    (htasks : ∀ i, i ≠ s.nextId → s'.tasks i = s.tasks i) : Counted s' where
  permits := by
    have hin : s'.Admitted s.nextId := by
      rw [Service.Admitted, hhandlers, Function.update_self]
      rfl
    have hcount : Nat.count s'.Admitted (s.nextId + 1) = Nat.count s.Admitted s.nextId + 1 :=
      count_succ_of hin fun i hi => admitted_update_iff hi.ne hhandlers
    have hpermits' := h.permits
    rw [hmax, hnextId, hcount]
    omega
  handlers i hi := by
    have hne : i ≠ s.nextId := by omega
    rw [hhandlers, Function.update_of_ne hne]
    exact h.handlers i (by omega)
  tasks i hi := (htasks i (by omega)).trans (h.tasks i (by omega))
  building := h.building_update hhandlers htasks nofun

/-- A request that goes on keeps its permit. -/
theorem Counted.goesOn {s s' : Service} {rid : ℕ} {phase : Option Phase} (h : Counted s)
    (hwork : s.AtWork rid) (hmax : s'.maxConcurrentRequests = s.maxConcurrentRequests)
    (hnextId : s'.nextId = s.nextId) (hpermits : s'.permits = s.permits)
    (hhandlers : s'.handlers = Function.update s.handlers rid phase)
    (hadmitted : ∀ i, s'.Admitted i ↔ s.Admitted i)
    (hothers : ∀ i, i ≠ rid → s'.tasks i = s.tasks i)
    (hbuilding : phase = some .building → s'.tasks rid = none) : Counted s' where
  permits := by
    rw [hmax, hnextId, hpermits, count_of_iff (q := s.Admitted) fun i _ => hadmitted i]
    exact h.permits
  handlers i hi := by
    have hne := ((h.rid_lt hwork).trans_le (hnextId ▸ hi)).ne'
    rw [hhandlers, Function.update_of_ne hne]
    exact h.handlers i (hnextId ▸ hi)
  tasks i hi := by
    have hne := ((h.rid_lt hwork).trans_le (hnextId ▸ hi)).ne'
    exact (hothers i hne).trans (h.tasks i (hnextId ▸ hi))
  building := h.building_update hhandlers hothers hbuilding

/-- **The permits that are taken are those of the handlers.** -/
theorem counted_step {s s' : Service} {e : Event} (h : Counted s) (hs : step s e = some s') :
    Counted s' := by
  cases step_move hs with
  | refused hrid | rejected hrid =>
      exact h.turnedAway rfl (congrArg Nat.succ hrid) rfl rfl rfl
  | admitted hrid hpermits =>
      subst hrid
      exact h.admits rfl rfl (Nat.sub_add_cancel (Nat.pos_of_ne_zero hpermits)) rfl
        fun i hi => Function.update_of_ne hi ..
  | finished htask =>
      refine h.goesOn (.inr (taskRuns_of_eq htask)) rfl rfl rfl (Function.update_eq_self ..).symm
        (fun _ => Iff.rfl) (fun i hi => Function.update_of_ne hi ..) fun hphase => ?_
      -- A handler that waits for the node has no task to finish.
      rw [h.building _ hphase] at htask
      cases htask
  | resumed hhandler =>
      exact h.goesOn (.inl (admitted_of_eq hhandler)) rfl rfl rfl rfl
        (admitted_goesOn_iff hhandler rfl) (fun i hi => Function.update_of_ne hi ..)
        fun _ => Function.update_self ..
  | proves hhandler =>
      exact h.goesOn (.inl (admitted_of_eq hhandler)) rfl rfl rfl rfl
        (admitted_goesOn_iff hhandler rfl) (fun i hi => Function.update_of_ne hi ..) nofun
  | answered _ _ hrid =>
      exact h.leaves hrid rfl rfl rfl rfl (fun i hi => Function.update_of_ne hi ..)
        fun _ => Function.update_self ..
  | disconnected hrid => exact h.leaves hrid rfl rfl rfl rfl (fun _ _ => rfl) id

theorem counted_new (maxConcurrentRequests : ℕ) : Counted (Service.new maxConcurrentRequests) :=
  ⟨rfl, fun _ _ => rfl, fun _ _ => rfl, fun _ _ => rfl⟩

/-! ### The bound, step by step -/

/-- A move that starts no task keeps the bound. -/
theorem Bounded.keep {s s' : Service} (h : Bounded s)
    (hmax : s'.maxConcurrentRequests = s.maxConcurrentRequests)
    (hrunning : s'.running ≤ s.running) (hrefusals : s'.refusals = s.refusals) : Bounded s' where
  running := hmax ▸ hrunning.trans h.running
  refusals n hn := by
    rw [hmax]
    exact h.refusals n (hrefusals ▸ hn)

/-- A move that starts a task keeps the bound when there is room for it. -/
theorem Bounded.starts_iff {s s' : Service} (h : Bounded s) (hcounted : Counted s)
    (hmax : s'.maxConcurrentRequests = s.maxConcurrentRequests)
    (hrunning : s'.running = s.running + 1) (hrefusals : s'.refusals = s.refusals) :
    Bounded s' ↔ s.leftBehind < s.permits + s.waiting := by
  have hbalance := hcounted.balance
  constructor
  · intro hbounded
    have hle := hbounded.running
    rw [hrunning, hmax] at hle
    omega
  · intro hspare
    refine ⟨?_, fun n hn => hmax ▸ h.refusals n (hrefusals ▸ hn)⟩
    rw [hrunning, hmax]
    omega

/-- A request that is not admitted starts no task. -/
theorem Counted.running_turnedAway {s s' : Service} (h : Counted s)
    (hnextId : s'.nextId = s.nextId + 1) (htasks : s'.tasks = s.tasks) :
    s'.running = s.running := by
  have hiff : ∀ i, s'.TaskRuns i ↔ s.TaskRuns i := fun i => by
    rw [Service.TaskRuns, Service.TaskRuns, htasks]
  have hout : ¬ s'.TaskRuns s.nextId := fun hruns =>
    lt_irrefl _ (h.rid_lt (.inr ((hiff s.nextId).mp hruns)))
  rw [Service.running, hnextId, count_succ_of_not hout fun i _ => hiff i, Service.running]

/-- A request that is admitted starts one. -/
theorem running_admits {s s' : Service} (hnextId : s'.nextId = s.nextId + 1)
    (htasks : s'.tasks = Function.update s.tasks s.nextId (some ⟨.execute, none⟩)) :
    s'.running = s.running + 1 := by
  have hin : s'.TaskRuns s.nextId := by
    have htask : s'.tasks s.nextId = some ⟨.execute, none⟩ := by rw [htasks, Function.update_self]
    exact taskRuns_of_eq htask
  rw [Service.running, hnextId]
  exact count_succ_of hin fun i hi => taskRuns_update_iff hi.ne htasks

/-- A handler that has run the virtual OS starts one. -/
theorem Counted.running_proves {s s' : Service} {rid : ℕ} (h : Counted s)
    (hhandler : s.handlers rid = some .building) (hnextId : s'.nextId = s.nextId)
    (htasks : s'.tasks = Function.update s.tasks rid (some ⟨.prove, none⟩)) :
    s'.running = s.running + 1 := by
  have hin : s'.TaskRuns rid := by
    have htask : s'.tasks rid = some ⟨.prove, none⟩ := by rw [htasks, Function.update_self]
    exact taskRuns_of_eq htask
  have hout : ¬ s.TaskRuns rid := by
    rw [Service.TaskRuns, h.building rid hhandler]
    exact Bool.false_ne_true
  have hlt := h.rid_lt (.inl (admitted_of_eq hhandler))
  rw [Service.running, hnextId, Service.running]
  exact (count_of_drop hlt hin hout fun i _ hi => (taskRuns_update_iff hi htasks).symm).symm

/-- A task that ends or is gone runs no more. -/
theorem running_ends {s s' : Service} {rid : ℕ} {task : Option BlockingTask}
    (hnextId : s'.nextId = s.nextId) (htasks : s'.tasks = Function.update s.tasks rid task)
    (htask : task.any BlockingTask.running = false) : s'.running ≤ s.running := by
  rw [Service.running, hnextId]
  refine Nat.count_mono_left fun i _ hi => ?_
  by_cases hne : i = rid
  · subst hne
    rw [Service.TaskRuns, htasks, Function.update_self, htask] at hi
    cases hi
  · exact (taskRuns_update_iff hne htasks).mp hi

/-- A move that brings no request in and proves nothing is spare. -/
theorem spare_of_ne {s : Service} {e : Event} (he : ∀ rid checks, e ≠ .arrive rid checks)
    (hbuilt : ∀ rid, e ≠ .built rid (.ok ())) : Spare s e := by
  unfold Spare
  split
  · exact absurd rfl (he _ _)
  · exact absurd rfl (hbuilt _)
  · trivial

/-- **A refusal keeps the bound when as many tasks run.** -/
theorem Bounded.refused_iff {s s' : Service} (h : Bounded s) (hcounted : Counted s)
    (hpermits : s.permits = 0) (hmax : s'.maxConcurrentRequests = s.maxConcurrentRequests)
    (hrunning : s'.running = s.running) (hrefusals : s'.refusals = s.refusals ++ [s.running]) :
    Bounded s' ↔ s.waiting ≤ s.leftBehind := by
  have hbalance := hcounted.balance
  constructor
  · intro hbounded
    have hle := hbounded.refusals s.running (by rw [hrefusals]; simp)
    rw [hmax] at hle
    omega
  · intro hspare
    refine ⟨hmax ▸ hrunning ▸ h.running, fun n hn => ?_⟩
    rw [hmax]
    rw [hrefusals] at hn
    rcases List.mem_append.mp hn with hold | hnew
    · exact h.refusals n hold
    · obtain rfl := List.mem_singleton.mp hnew
      omega

/-- **A step keeps the bound exactly when it is spare.** -/
theorem bounded_step_iff {s s' : Service} {e : Event} (hcounted : Counted s) (h : Bounded s)
    (hs : step s e = some s') : Bounded s' ↔ Spare s e := by
  cases step_move hs with
  | refused hrid hpermits =>
      rw [Spare, if_pos hpermits]
      exact h.refused_iff hcounted hpermits rfl
        (hcounted.running_turnedAway (congrArg Nat.succ hrid) rfl) rfl
  | rejected hrid hpermits =>
      rw [Spare, if_neg hpermits]
      refine iff_of_true (h.keep rfl (le_of_eq ?_) rfl) nofun
      exact hcounted.running_turnedAway (congrArg Nat.succ hrid) rfl
  | admitted hrid hpermits =>
      subst hrid
      rw [Spare, if_neg hpermits]
      refine Iff.trans ?_ (forall_prop_of_true rfl).symm
      exact h.starts_iff hcounted rfl (running_admits rfl rfl) rfl
  | proves hhandler =>
      exact h.starts_iff hcounted rfl (hcounted.running_proves hhandler rfl rfl) rfl
  | finished | resumed =>
      exact iff_of_true (h.keep rfl (running_ends rfl rfl rfl) rfl) trivial
  | answered he hbuilt hrid =>
      exact iff_of_true (h.keep rfl (running_ends rfl rfl rfl) rfl) (spare_of_ne he hbuilt)
  | disconnected => exact iff_of_true (h.keep rfl le_rfl rfl) trivial

theorem bounded_new (maxConcurrentRequests : ℕ) : Bounded (Service.new maxConcurrentRequests) :=
  ⟨Nat.zero_le _, fun _ hn => absurd hn List.not_mem_nil⟩

/-- **The limit bounds what runs exactly when** every task that is started finds fewer tasks left
behind than permits and waiting requests, and every refused request no fewer than waiting ones. -/
theorem bounded_iff_spare {maxConcurrentRequests : ℕ} {es : List Event} {s : Service}
    (hrun : Run step (Service.new maxConcurrentRequests) es s) :
    EveryState step (Service.new maxConcurrentRequests) es Bounded ↔
      EveryStep step (Service.new maxConcurrentRequests) es Spare :=
  everyState_iff_everyStep hrun (counted_new maxConcurrentRequests)
    (bounded_new maxConcurrentRequests) (fun _ _ _ => counted_step)
    (D := fun _ _ => True) (fun _ _ _ _ _ => trivial)
    fun _ _ _ hcounted hbounded _ hs => bounded_step_iff hcounted hbounded hs

/-- A third request is refused while two transactions are executed; then one of them is proved. -/
def threeRequests : List Event := [
  .arrive 0 (.ok ()),
  .arrive 1 (.ok ()),
  .arrive 2 (.ok ()),
  .finish 0 (.ok ()),
  .resume 0,
  .built 0 (.ok ()),
  .finish 0 (.ok ()),
  .resume 0,
  .disconnect 1]

/-- Every step of these requests is spare, so that the limit bounds what runs. -/
theorem bounded_iff_spare_threeRequests :
    EveryState step (Service.new 2) threeRequests Bounded := by
  have hspare : everyStep? step Spare (Service.new 2) threeRequests = true := by decide +kernel
  have h : (runEvents step (Service.new 2) threeRequests).isSome = true := by decide +kernel
  obtain ⟨s, hs⟩ := Option.isSome_iff_exists.mp h
  exact (bounded_iff_spare (Run.of_runEvents hs)).mpr (everyStep_of_everyStep? hspare)

/-- Two clients go away while their transactions are executed, and a third request comes in. -/
def threeExecutions : List Event := [
  .arrive 0 (.ok ()),
  .disconnect 0,
  .arrive 1 (.ok ()),
  .disconnect 1,
  .arrive 2 (.ok ())]

/-- Three transactions are executed at a time, with two permits. -/
theorem threeExecutions_not_bounded :
    ∃ s, Run step (Service.new 2) threeExecutions s ∧
      ¬ EveryState step (Service.new 2) threeExecutions Bounded := by
  have h : ((runEvents step (Service.new 2) threeExecutions).map fun s =>
      (s.running, s.maxConcurrentRequests)) = some (3, 2) := by decide +kernel
  obtain ⟨s, hs, hview⟩ := Option.map_eq_some_iff.mp h
  obtain ⟨hrunning, hmax⟩ := Prod.mk.inj hview
  have hrun := Run.of_runEvents hs
  refine ⟨s, hrun, fun hall => ?_⟩
  have hle := (hall.last hrun).running
  rw [hrunning, hmax] at hle
  exact absurd hle (by decide)

/-! ### Clients that wait -/

/-- A client that goes away leaves no task behind. -/
def Undisturbed (s : Service) : Event → Prop
  | .disconnect rid => ¬ s.TaskRuns rid
  | _ => True

/-- Every task that runs has its handler. -/
def Attended (s : Service) : Prop := ∀ rid, s.TaskRuns rid → s.Admitted rid

theorem Attended.leftBehind {s : Service} (h : Attended s) : s.leftBehind = 0 :=
  Nat.count_iff_forall_not.mpr fun rid _ hleft => hleft.1 (h rid hleft.2)

/-- **What a step keeps**, when it leaves no task behind. -/
theorem attended_step {s s' : Service} {e : Event} (h : Attended s) (hC : Undisturbed s e)
    (hs : step s e = some s') : Attended s' := by
  intro i hi
  cases step_move hs with
  | refused | rejected => exact h i hi
  | @admitted rid hrid hpermits =>
      by_cases hne : i = rid
      · subst hne
        show (Function.update s.handlers i (some Phase.executing) i).isSome = true
        rw [Function.update_self]
        rfl
      · exact (admitted_update_iff hne rfl).mpr (h i ((taskRuns_update_iff hne rfl).mp hi))
  | @finished rid outcome work htask =>
      by_cases hne : i = rid
      · exact hne ▸ h rid (taskRuns_of_eq htask)
      · exact h i ((taskRuns_update_iff hne rfl).mp hi)
  | @resumed rid hhandler | @proves rid hhandler =>
      refine (admitted_goesOn_iff hhandler rfl i).mpr ?_
      by_cases hne : i = rid
      · exact hne ▸ admitted_of_eq hhandler
      · exact h i ((taskRuns_update_iff hne rfl).mp hi)
  | @answered _ rid a _ _ hrid =>
      by_cases hne : i = rid
      · -- The task of a handler that answers has ended.
        subst hne
        rw [Service.TaskRuns, Service.answer] at hi
        dsimp only at hi
        rw [Function.update_self] at hi
        cases hi
      · exact (admitted_update_iff hne rfl).mpr (h i ((taskRuns_update_iff hne rfl).mp hi))
  | @disconnected rid hrid =>
      have hne : i ≠ rid := by
        rintro rfl
        exact hC hi
      exact (admitted_update_iff hne rfl).mpr (h i hi)

/-- **No more tasks run than are allowed** when no client goes away while a task of its request
runs. -/
theorem running_le_of_undisturbed {maxConcurrentRequests : ℕ} {es : List Event}
    (hC : EveryStep step (Service.new maxConcurrentRequests) es Undisturbed) :
    EveryState step (Service.new maxConcurrentRequests) es
      fun s => s.running ≤ s.maxConcurrentRequests := by
  have hall : EveryState step (Service.new maxConcurrentRequests) es fun s =>
      Counted s ∧ Attended s := by
    refine everyState_of_everyStep ⟨counted_new _, fun rid hrid => ?_⟩ ?_ hC
    · exact absurd hrid Bool.false_ne_true
    · rintro s₁ e s₂ ⟨hcounted, hattended⟩ hundisturbed hs
      exact ⟨counted_step hcounted hs, attended_step hattended hundisturbed hs⟩
  refine hall.mono fun s ⟨hcounted, hattended⟩ => ?_
  have hbalance := hcounted.balance
  rw [hattended.leftBehind] at hbalance
  omega

end Snip36.Rpc

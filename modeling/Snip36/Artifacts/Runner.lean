import Snip36.Artifacts.Bundle
import Snip36.Support.OneShot

/-!
# Artifacts — the native runner

`export_proof_bundle` with the native runner starts a runner on a port, polls the port until
something answers, posts the request to it and kills the runner once the answer is decoded.  Calls
may overlap, and any process may be on a port.

`ownRunner_of_ownPort`: when nothing else is on the port of a call, and a runner has exited when an
error is returned before it is killed, then every request is answered by the runner of its call,
which was started for its artifact, and no call that has returned leaves its runner behind.
-/

namespace Snip36.Artifacts
open Support

/-! ### Data -/

/-- A process of `starknet_os_runner`, with its arguments. -/
structure Runner where
  rpcUrl : String
  chainId : String
  strkFeeTokenAddress : String
  port : BitVec 16
  running : Bool
  deriving DecidableEq

/-- Who listens on a port: the runner of a call, or another process. -/
inductive Listener where
  | runner (cid : ℕ)
  | other
  deriving DecidableEq

/-- How far a call of `prove_artifact_with_virtual_os` has come. -/
inductive Phase where
  /-- It polls the port, after so many attempts. -/
  | polling (attempts : ℕ)
  /-- No one has answered, and it looks whether the runner has exited. -/
  | checking (attempts : ℕ)
  /-- It is to post the request; `pooled` is who has answered the poll. -/
  | posting (pooled : Option Listener)
  /-- It waits for the answer. -/
  | waiting (peer : Listener)
  /-- It decodes the answer. -/
  | decoding
  /-- It kills the runner. -/
  | killing (response : Json)

/-- A call in flight. -/
structure Call where
  artifact : Snip36ProofArtifact
  port : BitVec 16
  phase : Phase

/-- A request that was answered, and by whom. -/
structure Served where
  cid : ℕ
  artifact : Snip36ProofArtifact
  peer : Listener

/-- The calls, the runners they have started, the ports, and what has happened so far. -/
structure Host where
  nextId : ℕ
  calls : ℕ → Option Call
  runners : ℕ → Option Runner
  listeners : BitVec 16 → Option Listener
  served : List Served
  returned : List (ℕ × Except String Snip36ProofBundle)

/-- No call yet, and other processes on some ports. -/
def Host.new (taken : BitVec 16 → Bool) : Host :=
  ⟨0, fun _ => none, fun _ => none, fun port => if taken port then some .other else none, [], []⟩

/-- What the start of a runner finds. -/
structure Start where
  /-- `runner_bin`, of the config. -/
  runnerBin : Except String String
  binExists : Bool
  spawn : Except String Unit

/-- The start of a runner. -/
def Start.run (start : Start) : Except String Unit := do
  let runnerBin ← start.runnerBin
  failIf (start.binExists = false) ("starknet_os_runner not found at " ++ runnerBin
    ++ ". Run `snip36 setup` or provide --prover-url.")
  start.spawn.mapError fun _ => "failed to start starknet_os_runner"

/-- The runner that is started for an artifact. -/
def runnerFor (artifact : Snip36ProofArtifact) (port : BitVec 16) : Runner where
  rpcUrl := artifact.rpcUrl
  chainId := artifact.chainId
  strkFeeTokenAddress := artifact.strkFeeTokenAddress
  port := port
  running := true

/-- What `export_proof_bundle` makes of a response. -/
def exported (serde : Serde) (artifact : Snip36ProofArtifact) (response : Json) :
    Except String Snip36ProofBundle :=
  match response.field "error" with
  | some error => .error ("starknet_proveTransaction failed: " ++ serde.toString error)
  | none => (bundleFromResponse serde artifact response).mapError (·.toString serde)

/-! ### Moves -/

/-- What happens at the host. -/
inductive Event where
  | call (cid : ℕ) (artifact : Snip36ProofArtifact) (port : BitVec 16) (start : Start)
  /-- A runner listens on its port. -/
  | bind (cid : ℕ)
  /-- A runner exits. -/
  | exit (cid : ℕ)
  | otherBinds (port : BitVec 16)
  | otherCloses (port : BitVec 16)
  /-- `get`, and whether anyone answers. -/
  | poll (cid : ℕ) (answered : Bool)
  /-- `try_wait`, with the status if the runner has exited. -/
  | tryWait (cid : ℕ) (outcome : Except String String)
  /-- `post`, on the connection of the poll or a new one. -/
  | post (cid : ℕ) (reuse : Bool)
  /-- The request is answered, or fails. -/
  | answered (cid : ℕ) (outcome : Except String Unit)
  | decoded (cid : ℕ) (outcome : Except String Json)
  | killed (cid : ℕ)

namespace Host

/-- A call goes on. -/
def goOn (s : Host) (cid : ℕ) (call : Call) (phase : Phase) : Host :=
  { s with calls := Function.update s.calls cid (some { call with phase }) }

/-- A call returns. -/
def returns (s : Host) (cid : ℕ) (result : Except String Snip36ProofBundle) : Host :=
  { s with
    calls := Function.update s.calls cid none
    returned := s.returned ++ [(cid, result)] }

/-- The runner of a call stops, and its port is free. -/
def stop (s : Host) (cid : ℕ) (runner : Runner) : Host :=
  { s with
    runners := Function.update s.runners cid (some { runner with running := false })
    listeners := fun port =>
      if s.listeners port = some (.runner cid) then none else s.listeners port }

end Host

/-- One move. -/
def step (serde : Serde) (s : Host) : Event → Option Host
  | .call cid artifact port start =>
      if cid = s.nextId then
        match start.run with
        | .ok () =>
            some { s with
              nextId := cid + 1
              calls := Function.update s.calls cid (some ⟨artifact, port, .polling 0⟩)
              runners := Function.update s.runners cid (some (runnerFor artifact port)) }
        | .error e => some { s with nextId := cid + 1, returned := s.returned ++ [(cid, .error e)] }
      else none
  | .bind cid =>
      match s.runners cid with
      | some runner =>
          if runner.running = true ∧ s.listeners runner.port = none then
            some { s with
              listeners := Function.update s.listeners runner.port (some (.runner cid)) }
          else none
      | none => none
  | .exit cid =>
      match s.runners cid with
      | some runner => if runner.running = true then some (s.stop cid runner) else none
      | none => none
  | .otherBinds port =>
      if s.listeners port = none then
        some { s with listeners := Function.update s.listeners port (some .other) }
      else none
  | .otherCloses port =>
      if s.listeners port = some .other then
        some { s with listeners := Function.update s.listeners port none }
      else none
  | .poll cid answered =>
      match s.calls cid with
      | some ⟨artifact, port, .polling attempts⟩ =>
          match answered, s.listeners port with
          | true, some peer => some (s.goOn cid ⟨artifact, port, .polling attempts⟩
              (.posting (some peer)))
          | true, none => none
          | false, _ => some (s.goOn cid ⟨artifact, port, .polling attempts⟩ (.checking attempts))
      | _ => none
  | .tryWait cid outcome =>
      match s.calls cid, s.runners cid, outcome with
      | some ⟨_, _, .checking _⟩, some _, .error e => some (s.returns cid (.error e))
      | some ⟨artifact, port, .checking attempts⟩, some runner, .ok status =>
          if runner.running = true then
            -- After 30 attempts the request is posted all the same.
            some (s.goOn cid ⟨artifact, port, .checking attempts⟩
              (if attempts + 1 < 30 then .polling (attempts + 1) else .posting none))
          else
            some (s.returns cid (.error ("starknet_os_runner exited prematurely with " ++ status)))
      | _, _, _ => none
  | .post cid reuse =>
      match s.calls cid with
      | some ⟨artifact, port, .posting pooled⟩ =>
          match if reuse then pooled else s.listeners port with
          | some peer => some (s.goOn cid ⟨artifact, port, .posting pooled⟩ (.waiting peer))
          | none => none
      | _ => none
  | .answered cid outcome =>
      match s.calls cid, outcome with
      | some ⟨_, _, .posting _⟩, .error _ | some ⟨_, _, .waiting _⟩, .error _ =>
          some (s.returns cid (.error "starknet_proveTransaction request failed"))
      | some ⟨artifact, port, .waiting peer⟩, .ok () =>
          let s := { s with served := s.served ++ [Served.mk cid artifact peer] }
          some (s.goOn cid ⟨artifact, port, .waiting peer⟩ .decoding)
      | _, _ => none
  | .decoded cid outcome =>
      match s.calls cid, outcome with
      | some ⟨_, _, .decoding⟩, .error e => some (s.returns cid (.error e))
      | some ⟨artifact, port, .decoding⟩, .ok response =>
          some (s.goOn cid ⟨artifact, port, .decoding⟩ (.killing response))
      | _, _ => none
  | .killed cid =>
      match s.calls cid, s.runners cid with
      | some ⟨artifact, _, .killing response⟩, some runner =>
          some ((s.stop cid runner).returns cid (exported serde artifact response))
      | _, _ => none

/-! ### Own runners -/

/-- The runner was started for the artifact. -/
def Runner.StartedFor (runner : Runner) (artifact : Snip36ProofArtifact) : Prop :=
  runner.rpcUrl = artifact.rpcUrl ∧ runner.chainId = artifact.chainId ∧
    runner.strkFeeTokenAddress = artifact.strkFeeTokenAddress

/-- Every request was answered by the runner of its call, which was started for its artifact, and
no call that has returned has left its runner behind. -/
structure OwnRunner (s : Host) : Prop where
  served : ∀ served ∈ s.served, served.peer = .runner served.cid ∧
    ∃ runner, s.runners served.cid = some runner ∧ runner.StartedFor served.artifact
  returned : ∀ returned ∈ s.returned, ∀ runner, s.runners returned.1 = some runner →
    runner.running = false

/-- No call in flight has the port. -/
def Host.Unused (s : Host) (port : BitVec 16) : Prop :=
  ∀ cid < s.nextId, (s.calls cid).all fun call => call.port != port

instance (s : Host) (port : BitVec 16) : Decidable (s.Unused port) := by
  unfold Host.Unused
  infer_instance

/-- The runner of the call has exited. -/
def Host.Exited (s : Host) (cid : ℕ) : Prop := (s.runners cid).all fun runner => !runner.running

instance (s : Host) (cid : ℕ) : Decidable (s.Exited cid) := by
  unfold Host.Exited
  infer_instance

/-- The port of a call is its own when it starts, and while it is in flight no other process binds
it; and when an error is returned before the runner is killed, the runner has exited. -/
def OwnPort (s : Host) : Event → Prop
  | .call _ _ port start => start.run.isOk = true → s.listeners port = none ∧ s.Unused port
  | .otherBinds port => s.Unused port
  | .tryWait cid (.error _) | .answered cid (.error _) | .decoded cid (.error _) => s.Exited cid
  | _ => True

instance (s : Host) (e : Event) : Decidable (OwnPort s e) := by
  unfold OwnPort
  split <;> infer_instance

/-! ### What a move does -/

/-- Whom the request goes to, or may go to on the connection of the poll. -/
def Phase.peer : Phase → Option Listener
  | .posting pooled => pooled
  | .waiting peer => some peer
  | _ => none

/-- What a move does. -/
inductive Move (s : Host) : Event → Host → Prop where
  | called {cid : ℕ} {artifact : Snip36ProofArtifact} {port : BitVec 16} {start : Start}
      (hcid : cid = s.nextId) (hstart : start.run.isOk = true) :
      Move s (.call cid artifact port start) { s with
        nextId := cid + 1
        calls := Function.update s.calls cid (some ⟨artifact, port, .polling 0⟩)
        runners := Function.update s.runners cid (some (runnerFor artifact port)) }
  | notStarted {cid : ℕ} {artifact : Snip36ProofArtifact} {port : BitVec 16} {start : Start}
      {e : String} (hcid : cid = s.nextId) :
      Move s (.call cid artifact port start) { s with
        nextId := cid + 1
        returned := s.returned ++ [(cid, .error e)] }
  | bound {cid : ℕ} {runner : Runner} (hrunner : s.runners cid = some runner)
      (hrunning : runner.running = true) :
      Move s (.bind cid) { s with
        listeners := Function.update s.listeners runner.port (some (.runner cid)) }
  | exited {cid : ℕ} {runner : Runner} (hrunner : s.runners cid = some runner) :
      Move s (.exit cid) (s.stop cid runner)
  | otherBinds {port : BitVec 16} :
      Move s (.otherBinds port) { s with
        listeners := Function.update s.listeners port (some .other) }
  | otherCloses {port : BitVec 16} :
      Move s (.otherCloses port) { s with listeners := Function.update s.listeners port none }
  | goesOn {e : Event} {cid : ℕ} {call : Call} {phase : Phase} (hcall : s.calls cid = some call)
      (hphase : ∀ peer, phase.peer = some peer →
        call.phase.peer = some peer ∨ s.listeners call.port = some peer) :
      Move s e (s.goOn cid call phase)
  | answered {cid : ℕ} {call : Call} {peer : Listener} (hcall : s.calls cid = some call)
      (hphase : call.phase.peer = some peer) :
      Move s (.answered cid (.ok ()))
        (Host.goOn { s with served := s.served ++ [Served.mk cid call.artifact peer] } cid call
          .decoding)
  | returns {e : Event} {cid : ℕ} {call : Call} {result : Except String Snip36ProofBundle}
      (hcall : s.calls cid = some call) (hexited : OwnPort s e → s.Exited cid) :
      Move s e (s.returns cid result)
  | killed {cid : ℕ} {call : Call} {runner : Runner} {result : Except String Snip36ProofBundle}
      (hcall : s.calls cid = some call) (hrunner : s.runners cid = some runner) :
      Move s (.killed cid) ((s.stop cid runner).returns cid result)

/-- **Every step is a move.** -/
theorem step_move {serde : Serde} {s s' : Host} {e : Event} (hs : step serde s e = some s') :
    Move s e s' := by
  cases e with
  | call cid artifact port start =>
      simp only [step] at hs
      split at hs
      · next hcid =>
          split at hs
          · next hstart =>
              obtain rfl := Option.some.inj hs
              exact .called hcid (by rw [hstart]; rfl)
          · obtain rfl := Option.some.inj hs
            exact .notStarted hcid
      · cases hs
  | bind cid =>
      simp only [step] at hs
      split at hs
      · next hrunner =>
          split at hs
          · next hrunning =>
              obtain rfl := Option.some.inj hs
              exact .bound hrunner hrunning.1
          · cases hs
      · cases hs
  | exit cid =>
      simp only [step] at hs
      split at hs
      · next hrunner =>
          split at hs
          · obtain rfl := Option.some.inj hs
            exact .exited hrunner
          · cases hs
      · cases hs
  | otherBinds port =>
      simp only [step] at hs
      split at hs
      · obtain rfl := Option.some.inj hs
        exact .otherBinds
      · cases hs
  | otherCloses port =>
      simp only [step] at hs
      split at hs
      · obtain rfl := Option.some.inj hs
        exact .otherCloses
      · cases hs
  | poll cid answered =>
      simp only [step] at hs
      split at hs
      · next hcall =>
          split at hs
          · next hpeer =>
              obtain rfl := Option.some.inj hs
              exact .goesOn hcall fun _ h => .inr (hpeer.trans h)
          · cases hs
          · obtain rfl := Option.some.inj hs
            exact .goesOn hcall nofun
      · cases hs
  | tryWait cid outcome =>
      simp only [step] at hs
      split at hs
      · next hcall _ =>
          obtain rfl := Option.some.inj hs
          exact .returns hcall id
      · next hcall hrunner =>
          split at hs
          · obtain rfl := Option.some.inj hs
            refine .goesOn hcall fun peer hpeer => ?_
            split at hpeer <;> cases hpeer
          · next hrunning =>
              obtain rfl := Option.some.inj hs
              refine .returns hcall fun _ => ?_
              rw [Host.Exited, hrunner]
              simpa using hrunning
      · cases hs
  | post cid reuse =>
      simp only [step] at hs
      split at hs
      · next hcall =>
          split at hs
          · next hpeer =>
              obtain rfl := Option.some.inj hs
              refine .goesOn hcall fun _ h => ?_
              obtain rfl := Option.some.inj h
              cases reuse with
              | true => exact .inl hpeer
              | false => exact .inr hpeer
          · cases hs
      · cases hs
  | answered cid outcome =>
      simp only [step] at hs
      split at hs
      · next hcall =>
          obtain rfl := Option.some.inj hs
          exact .returns hcall id
      · next hcall =>
          obtain rfl := Option.some.inj hs
          exact .returns hcall id
      · next hcall =>
          obtain rfl := Option.some.inj hs
          exact .answered hcall rfl
      · cases hs
  | decoded cid outcome =>
      simp only [step] at hs
      split at hs
      · next hcall =>
          obtain rfl := Option.some.inj hs
          exact .returns hcall id
      · next hcall =>
          obtain rfl := Option.some.inj hs
          exact .goesOn hcall nofun
      · cases hs
  | killed cid =>
      simp only [step] at hs
      split at hs
      · next hcall hrunner =>
          obtain rfl := Option.some.inj hs
          exact .killed hcall hrunner
      · cases hs

/-! ### The invariant -/

/-- Every call in flight has its own port and its own runner, and only runners of calls in flight
run. -/
structure OwnPorts (s : Host) : Prop extends OwnRunner s where
  calls : ∀ cid call, s.calls cid = some call → ∃ runner, s.runners cid = some runner ∧
    runner.StartedFor call.artifact ∧ runner.port = call.port
  listeners : ∀ cid call peer, s.calls cid = some call → s.listeners call.port = some peer →
    peer = .runner cid
  peers : ∀ cid call peer, s.calls cid = some call → call.phase.peer = some peer →
    peer = .runner cid
  ports : ∀ cid call cid' call', s.calls cid = some call → s.calls cid' = some call' →
    call.port = call'.port → cid = cid'
  running : ∀ cid runner, s.runners cid = some runner → runner.running = true →
    ∃ call, s.calls cid = some call ∧ call.port = runner.port
  idle : ∀ cid, s.nextId ≤ cid → s.calls cid = none ∧ s.runners cid = none
  returned_lt : ∀ returned ∈ s.returned, returned.1 < s.nextId

theorem OwnPorts.cid_lt {s : Host} {cid : ℕ} {call : Call} (h : OwnPorts s)
    (hcall : s.calls cid = some call) : cid < s.nextId := by
  by_contra hle
  rw [(h.idle cid (Nat.not_lt.mp hle)).1] at hcall
  cases hcall

/-- A call goes on; its request may have been answered by its runner. -/
theorem OwnPorts.goOn {s s' : Host} {cid : ℕ} {call : Call} {phase : Phase} (h : OwnPorts s)
    (hcall : s.calls cid = some call) (hphase : ∀ peer, phase.peer = some peer → peer = .runner cid)
    (hcalls : s'.calls = Function.update s.calls cid (some { call with phase }))
    (hserved : ∀ served ∈ s'.served,
      served ∈ s.served ∨ served = ⟨cid, call.artifact, .runner cid⟩)
    (hrunners : s'.runners = s.runners) (hlisteners : s'.listeners = s.listeners)
    (hreturned : s'.returned = s.returned) (hnextId : s'.nextId = s.nextId) : OwnPorts s' := by
  -- Every call of the new state is one of the old, at its port.
  have hold : ∀ cid' call', s'.calls cid' = some call' → ∃ old, s.calls cid' = some old ∧
      old.artifact = call'.artifact ∧ old.port = call'.port := by
    intro cid' call' hcall'
    rw [hcalls] at hcall'
    rcases update_some_eq_some.mp hcall' with ⟨rfl, rfl⟩ | ⟨-, hcall'⟩
    · exact ⟨call, hcall, rfl, rfl⟩
    · exact ⟨call', hcall', rfl, rfl⟩
  refine ⟨⟨fun served hmem => ?_, ?_⟩, fun cid' call' hcall' => ?_,
    fun cid' call' peer hcall' hpeer => ?_, fun cid' call' peer hcall' hpeer => ?_,
    fun cid₁ call₁ cid₂ call₂ h₁ h₂ hport => ?_, fun cid' runner hrunner hrunning => ?_,
    fun cid' hidle => ?_, ?_⟩
  · rw [hrunners]
    rcases hserved served hmem with hmem | rfl
    · exact h.served served hmem
    · obtain ⟨runner, hrunner, hstarted, -⟩ := h.calls cid call hcall
      exact ⟨rfl, runner, hrunner, hstarted⟩
  · rw [hrunners, hreturned]
    exact h.returned
  · obtain ⟨old, hcall', hartifact, hport⟩ := hold cid' call' hcall'
    rw [hrunners, ← hartifact, ← hport]
    exact h.calls cid' old hcall'
  · obtain ⟨old, hcall', -, hport⟩ := hold cid' call' hcall'
    rw [hlisteners, ← hport] at hpeer
    exact h.listeners cid' old peer hcall' hpeer
  · rw [hcalls] at hcall'
    rcases update_some_eq_some.mp hcall' with ⟨rfl, rfl⟩ | ⟨-, hcall'⟩
    · exact hphase peer hpeer
    · exact h.peers cid' call' peer hcall' hpeer
  · obtain ⟨old₁, h₁, -, hport₁⟩ := hold cid₁ call₁ h₁
    obtain ⟨old₂, h₂, -, hport₂⟩ := hold cid₂ call₂ h₂
    exact h.ports cid₁ old₁ cid₂ old₂ h₁ h₂ (hport₁.trans (hport.trans hport₂.symm))
  · rw [hrunners] at hrunner
    obtain ⟨old, hcall', hport⟩ := h.running cid' runner hrunner hrunning
    by_cases hne : cid' = cid
    · subst hne
      obtain rfl := Option.some.inj (hcall.symm.trans hcall')
      exact ⟨{ call with phase }, by rw [hcalls, Function.update_self], hport⟩
    · exact ⟨old, by rw [hcalls, Function.update_of_ne hne, hcall'], hport⟩
  · rw [hnextId] at hidle
    have hne : cid' ≠ cid := ((h.cid_lt hcall).trans_le hidle).ne'
    rw [hcalls, Function.update_of_ne hne, hrunners]
    exact h.idle cid' hidle
  · rw [hreturned, hnextId]
    exact h.returned_lt

/-- A port changes hands, and no call in flight hears anyone but its runner. -/
theorem OwnPorts.listen {s : Host} (h : OwnPorts s) {listeners : BitVec 16 → Option Listener}
    (hlisteners : ∀ cid call peer, s.calls cid = some call → listeners call.port = some peer →
      peer = .runner cid) : OwnPorts { s with listeners } :=
  ⟨⟨h.served, h.returned⟩, h.calls, hlisteners, h.peers, h.ports, h.running, h.idle, h.returned_lt⟩

/-- A runner stops. -/
theorem OwnPorts.stop {s : Host} {cid : ℕ} {runner : Runner} (h : OwnPorts s)
    (hrunner : s.runners cid = some runner) : OwnPorts (s.stop cid runner) := by
  -- Every runner is what it was, and runs only if it did.
  have hnew : ∀ cid' old, s.runners cid' = some old → ∃ new,
      (s.stop cid runner).runners cid' = some new ∧ new.port = old.port ∧
        ∀ artifact, old.StartedFor artifact → new.StartedFor artifact := by
    intro cid' old hold
    by_cases hne : cid' = cid
    · subst hne
      obtain rfl := Option.some.inj (hrunner.symm.trans hold)
      exact ⟨_, Function.update_self .., rfl, fun _ => id⟩
    · exact ⟨old, (Function.update_of_ne hne ..).trans hold, rfl, fun _ => id⟩
  have hrunning : ∀ cid' new, (s.stop cid runner).runners cid' = some new →
      new.running = true → s.runners cid' = some new := by
    intro cid' new hnew hrun
    rcases update_some_eq_some.mp hnew with ⟨rfl, rfl⟩ | ⟨-, hnew⟩
    · cases hrun
    · exact hnew
  refine ⟨⟨fun served hmem => ?_, fun returned hmem new hnew' => ?_⟩, fun cid' call hcall => ?_,
    fun cid' call peer hcall hpeer => ?_, h.peers, h.ports, fun cid' new hnew' hrun => ?_,
    fun cid' hidle => ?_, h.returned_lt⟩
  · obtain ⟨hpeer, old, hold, hstarted⟩ := h.served served hmem
    obtain ⟨new, hnew', -, hkeep⟩ := hnew _ old hold
    exact ⟨hpeer, new, hnew', hkeep _ hstarted⟩
  · by_contra hrun
    have hrun' : new.running = true := by simpa using hrun
    rw [h.returned returned hmem new (hrunning _ new hnew' hrun')] at hrun'
    cases hrun'
  · obtain ⟨old, hold, hstarted, hport⟩ := h.calls cid' call hcall
    obtain ⟨new, hnew', hport', hkeep⟩ := hnew cid' old hold
    exact ⟨new, hnew', hkeep _ hstarted, hport'.trans hport⟩
  · refine h.listeners cid' call peer hcall ?_
    simp only [Host.stop] at hpeer
    split at hpeer
    · cases hpeer
    · exact hpeer
  · exact h.running cid' new (hrunning cid' new hnew' hrun) hrun
  · obtain ⟨hcall, hnone⟩ := h.idle cid' hidle
    have hne : cid' ≠ cid := by
      rintro rfl
      rw [hnone] at hrunner
      cases hrunner
    exact ⟨hcall, (Function.update_of_ne hne ..).trans hnone⟩

/-- A call returns, when its runner has exited. -/
theorem OwnPorts.returns {s : Host} {cid : ℕ} {call : Call}
    {result : Except String Snip36ProofBundle} (h : OwnPorts s) (hcall : s.calls cid = some call)
    (hexited : s.Exited cid) : OwnPorts (s.returns cid result) := by
  have hstopped : ∀ runner, s.runners cid = some runner → runner.running = false := by
    intro runner hrunner
    rw [Host.Exited, hrunner] at hexited
    simpa using hexited
  have hold : ∀ {cid' call'}, (s.returns cid result).calls cid' = some call' →
      s.calls cid' = some call' := fun hcall' => (update_none_eq_some.mp hcall').2
  refine ⟨⟨h.served, fun returned hmem => ?_⟩,
    fun cid' call' hcall' => h.calls cid' call' (hold hcall'),
    fun cid' call' peer hcall' => h.listeners cid' call' peer (hold hcall'),
    fun cid' call' peer hcall' => h.peers cid' call' peer (hold hcall'),
    fun cid₁ call₁ cid₂ call₂ h₁ h₂ => h.ports cid₁ call₁ cid₂ call₂ (hold h₁) (hold h₂),
    fun cid' runner hrunner hrun => ?_, fun cid' hidle => ?_, fun returned hmem => ?_⟩
  · rcases List.mem_append.mp hmem with hmem | hmem
    · exact h.returned returned hmem
    · obtain rfl := List.mem_singleton.mp hmem
      exact hstopped
  · obtain ⟨call', hcall', hport⟩ := h.running cid' runner hrunner hrun
    have hne : cid' ≠ cid := by
      rintro rfl
      rw [hstopped runner hrunner] at hrun
      cases hrun
    exact ⟨call', (Function.update_of_ne hne ..).trans hcall', hport⟩
  · exact ⟨update_none_eq_none.mpr (.inr (h.idle cid' hidle).1), (h.idle cid' hidle).2⟩
  · rcases List.mem_append.mp hmem with hmem | hmem
    · exact h.returned_lt returned hmem
    · obtain rfl := List.mem_singleton.mp hmem
      exact h.cid_lt hcall

/-- A call whose runner could not be started. -/
theorem OwnPorts.notStarted {s : Host} {result : Except String Snip36ProofBundle}
    (h : OwnPorts s) :
    OwnPorts { s with
      nextId := s.nextId + 1
      returned := s.returned ++ [(s.nextId, result)] } := by
  refine ⟨⟨h.served, fun returned hmem runner hrunner => ?_⟩, h.calls, h.listeners, h.peers,
    h.ports, h.running, fun cid hidle => h.idle cid (Nat.le_of_succ_le hidle),
    fun returned hmem => ?_⟩
  · rcases List.mem_append.mp hmem with hmem | hmem
    · exact h.returned returned hmem runner hrunner
    · obtain rfl := List.mem_singleton.mp hmem
      rw [(h.idle s.nextId le_rfl).2] at hrunner
      cases hrunner
  · rcases List.mem_append.mp hmem with hmem | hmem
    · exact (h.returned_lt returned hmem).trans (Nat.lt_succ_self _)
    · obtain rfl := List.mem_singleton.mp hmem
      exact Nat.lt_succ_self _

/-- A call starts its runner, on a port that no one has. -/
theorem OwnPorts.called {s : Host} {artifact : Snip36ProofArtifact} {port : BitVec 16}
    (h : OwnPorts s) (hlisteners : s.listeners port = none) (hunused : s.Unused port) :
    OwnPorts { s with
      nextId := s.nextId + 1
      calls := Function.update s.calls s.nextId (some ⟨artifact, port, .polling 0⟩)
      runners := Function.update s.runners s.nextId (some (runnerFor artifact port)) } := by
  have hother : ∀ cid call, s.calls cid = some call → call.port ≠ port := by
    intro cid call hcall
    have hport := hunused cid (h.cid_lt hcall)
    rw [hcall] at hport
    simpa using hport
  have hkept : ∀ cid runner, s.runners cid = some runner →
      Function.update s.runners s.nextId (some (runnerFor artifact port)) cid = some runner := by
    intro cid runner hrunner
    have hne : cid ≠ s.nextId := by
      rintro rfl
      rw [(h.idle s.nextId le_rfl).2] at hrunner
      cases hrunner
    exact (Function.update_of_ne hne ..).trans hrunner
  refine ⟨⟨fun served hmem => ?_, fun returned hmem runner hrunner => ?_⟩, fun cid call hcall => ?_,
    fun cid call peer hcall hpeer => ?_, fun cid call peer hcall hpeer => ?_,
    fun cid₁ call₁ cid₂ call₂ h₁ h₂ hport => ?_, fun cid runner hrunner hrun => ?_,
    fun cid hidle => ?_, fun returned hmem => ?_⟩
  · obtain ⟨hpeer, runner, hrunner, hstarted⟩ := h.served served hmem
    exact ⟨hpeer, runner, hkept _ runner hrunner, hstarted⟩
  · have hne := (h.returned_lt returned hmem).ne
    exact h.returned returned hmem runner ((Function.update_of_ne hne ..).symm.trans hrunner)
  · rcases update_some_eq_some.mp hcall with ⟨rfl, rfl⟩ | ⟨-, hcall⟩
    · exact ⟨_, Function.update_self .., ⟨rfl, rfl, rfl⟩, rfl⟩
    · obtain ⟨runner, hrunner, hrest⟩ := h.calls cid call hcall
      exact ⟨runner, hkept cid runner hrunner, hrest⟩
  · rcases update_some_eq_some.mp hcall with ⟨rfl, rfl⟩ | ⟨-, hcall⟩
    · exact absurd (hlisteners.symm.trans hpeer) (Option.some_ne_none _).symm
    · exact h.listeners cid call peer hcall hpeer
  · rcases update_some_eq_some.mp hcall with ⟨rfl, rfl⟩ | ⟨-, hcall⟩
    · cases hpeer
    · exact h.peers cid call peer hcall hpeer
  · rcases update_some_eq_some.mp h₁ with ⟨rfl, rfl⟩ | ⟨-, h₁⟩
    · rcases update_some_eq_some.mp h₂ with ⟨rfl, rfl⟩ | ⟨-, h₂⟩
      · rfl
      · exact absurd hport.symm (hother cid₂ call₂ h₂)
    · rcases update_some_eq_some.mp h₂ with ⟨rfl, rfl⟩ | ⟨-, h₂⟩
      · exact absurd hport (hother cid₁ call₁ h₁)
      · exact h.ports cid₁ call₁ cid₂ call₂ h₁ h₂ hport
  · rcases update_some_eq_some.mp hrunner with ⟨rfl, rfl⟩ | ⟨hne, hrunner⟩
    · exact ⟨_, Function.update_self .., rfl⟩
    · obtain ⟨call, hcall, hport⟩ := h.running cid runner hrunner hrun
      exact ⟨call, (Function.update_of_ne hne ..).trans hcall, hport⟩
  · have hne : cid ≠ s.nextId := (Nat.lt_of_succ_le hidle).ne'
    obtain ⟨hcall, hrunner⟩ := h.idle cid (Nat.le_of_succ_le hidle)
    exact ⟨(Function.update_of_ne hne ..).trans hcall, (Function.update_of_ne hne ..).trans hrunner⟩
  · exact (h.returned_lt returned hmem).trans (Nat.lt_succ_self _)

/-- **What a step keeps**, when it meets the condition. -/
theorem ownPorts_step {serde : Serde} {s s' : Host} {e : Event} (h : OwnPorts s)
    (hC : OwnPort s e) (hs : step serde s e = some s') : OwnPorts s' := by
  cases step_move hs with
  | called hcid hstart =>
      subst hcid
      exact h.called (hC hstart).1 (hC hstart).2
  | notStarted hcid =>
      subst hcid
      exact h.notStarted
  | @bound cid runner hrunner hrunning =>
      refine h.listen fun cid' call peer hcall hpeer => ?_
      rcases update_some_eq_some.mp hpeer with ⟨hport, rfl⟩ | ⟨-, hpeer⟩
      · -- The runner runs for a call in flight, and no other call has its port.
        obtain ⟨call', hcall', hport'⟩ := h.running cid runner hrunner hrunning
        rw [h.ports cid' call cid call' hcall hcall' (hport.trans hport'.symm)]
      · exact h.listeners cid' call peer hcall hpeer
  | exited hrunner => exact h.stop hrunner
  | @otherBinds port =>
      refine h.listen fun cid call peer hcall hpeer => ?_
      rcases update_some_eq_some.mp hpeer with ⟨rfl, -⟩ | ⟨-, hpeer⟩
      · have hport := hC cid (h.cid_lt hcall)
        rw [hcall] at hport
        simp at hport
      · exact h.listeners cid call peer hcall hpeer
  | otherCloses =>
      refine h.listen fun cid call peer hcall hpeer => ?_
      exact h.listeners cid call peer hcall (update_none_eq_some.mp hpeer).2
  | @goesOn _ cid call phase hcall hphase =>
      refine h.goOn hcall (fun peer hpeer => ?_) rfl (fun _ => .inl) rfl rfl rfl rfl
      exact (hphase peer hpeer).elim (h.peers cid call peer hcall) (h.listeners cid call peer hcall)
  | @answered cid call peer hcall hphase =>
      obtain rfl := h.peers cid call peer hcall hphase
      have hphase' : ∀ peer, Phase.decoding.peer = some peer → peer = .runner cid := nofun
      refine h.goOn hcall hphase' rfl (fun served hmem => ?_) rfl rfl rfl rfl
      exact (List.mem_append.mp hmem).imp id List.mem_singleton.mp
  | returns hcall hexited => exact h.returns hcall (hexited hC)
  | @killed cid call runner result hcall hrunner =>
      refine (h.stop hrunner).returns hcall ?_
      rw [Host.Exited, Host.stop]
      dsimp only
      rw [Function.update_self]
      rfl

theorem ownPorts_new (taken : BitVec 16 → Bool) : OwnPorts (Host.new taken) where
  served _ hmem := absurd hmem List.not_mem_nil
  returned _ hmem := absurd hmem List.not_mem_nil
  calls _ _ hcall := absurd hcall (Option.some_ne_none _).symm
  listeners _ _ _ hcall := absurd hcall (Option.some_ne_none _).symm
  peers _ _ _ hcall := absurd hcall (Option.some_ne_none _).symm
  ports _ _ _ _ hcall := absurd hcall (Option.some_ne_none _).symm
  running _ _ hrunner := absurd hrunner (Option.some_ne_none _).symm
  idle _ _ := ⟨rfl, rfl⟩
  returned_lt _ hmem := absurd hmem List.not_mem_nil

/-- **Native proving uses its own runner and leaves none behind**, in a run in which every call has
its port to itself, and every error that is returned before the runner is killed is returned when
it has exited. -/
theorem ownRunner_of_ownPort {serde : Serde} {taken : BitVec 16 → Bool} {es : List Event}
    (hsteps : EveryStep (step serde) (Host.new taken) es OwnPort) :
    EveryState (step serde) (Host.new taken) es OwnRunner :=
  (everyState_of_everyStep (ownPorts_new taken) (fun _ _ _ => ownPorts_step) hsteps).mono
    fun _ h => h.toOwnRunner

/-- A runner that is found, and started. -/
def sampleStart : Start := ⟨.ok "deps/sequencer/target/release/starknet_transaction_prover", true,
  .ok ()⟩

/-- A call whose runner binds its port at once, and answers. -/
def oneExport : List Event := [
  .call 0 sampleArtifact 9900 sampleStart,
  .bind 0,
  .poll 0 true,
  .post 0 true,
  .answered 0 (.ok ()),
  .decoded 0 (.ok (.obj [("result", sampleResult)])),
  .killed 0]

/-- The theorem, at this call. -/
theorem ownRunner_oneExport :
    EveryState (step (serdeOf sampleResult)) (Host.new fun _ => false) oneExport OwnRunner :=
  ownRunner_of_ownPort (everyStep_of_everyStep? (by decide +kernel))

/-- A call whose answer is no JSON, and then one for another node, on the same port. -/
def leftRunner : List Event := [
  .call 0 sampleArtifact 9900 sampleStart,
  .bind 0,
  .poll 0 true,
  .post 0 true,
  .answered 0 (.ok ()),
  .decoded 0 (.error "error decoding response body"),
  .call 1 { sampleArtifact with rpcUrl := "http://localhost:9546" } 9900 sampleStart,
  .poll 1 true,
  .post 1 true,
  .answered 1 (.ok ())]

/-- The runner of the first call answers the request of the second. -/
theorem leftRunner_not_ownRunner :
    ∃ s, Run (step (serdeOf sampleResult)) (Host.new fun _ => false) leftRunner s ∧
      ¬ EveryState (step (serdeOf sampleResult)) (Host.new fun _ => false) leftRunner
        OwnRunner := by
  have h : ((runEvents (step (serdeOf sampleResult)) (Host.new fun _ => false) leftRunner).map
      fun s => s.served.map fun served => (served.cid, served.peer))
        = some [(0, .runner 0), (1, .runner 0)] := by decide +kernel
  obtain ⟨s, hs, hview⟩ := Option.map_eq_some_iff.mp h
  have hrun := Run.of_runEvents hs
  refine ⟨s, hrun, fun hall => ?_⟩
  have hmem : (1, Listener.runner 0) ∈ s.served.map fun served => (served.cid, served.peer) :=
    hview ▸ List.mem_cons_of_mem _ (List.mem_singleton_self _)
  obtain ⟨served, hserved, heq⟩ := List.mem_map.mp hmem
  obtain ⟨hcid, hpeer⟩ := Prod.mk.inj heq
  have hown := ((hall.last hrun).served served hserved).1
  rw [hpeer, hcid] at hown
  exact absurd hown (by decide)

end Snip36.Artifacts

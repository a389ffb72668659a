import Snip36.Streams.ProveBlock
import Snip36.Streams.Results

/-!
# Streams — the increments of a block

The multicall of a block is a call array, which `decodeCalls` reads back, and each of its calls
increments the counter.  The complete event reports by how much all of them do, and the counter
that the node returns; both are unsigned integers of 64 bits, and the contract's are felts.

`reportsIncrements_iff`: in a build that checks for overflow or in one that does not, a complete
event tells what the calls do exactly when the increments fit, and the node returns a counter that
does.
-/

namespace Snip36.Streams
open Support Signing

/-! ### Call arrays -/

/-- `Call`, of an account. -/
structure Call where
  target : Felt
  selector : Felt
  calldata : List Felt

/-- A call in a call array. -/
def Call.encode (call : Call) : List Felt :=
  call.target :: call.selector :: .ofNat call.calldata.length :: call.calldata

/-- A call array. -/
def encodeCalls (calls : List Call) : List Felt :=
  .ofNat calls.length :: calls.flatMap Call.encode

/-- The first call of some felts, and the felts after it. -/
def decodeCall : List Felt → Option (Call × List Felt)
  | target :: selector :: length :: felts =>
      if length.val ≤ felts.length then
        some (⟨target, selector, felts.take length.val⟩, felts.drop length.val)
      else none
  | _ => none

/-- The first `n` calls of some felts, and the felts after them. -/
def decodeFirst : ℕ → List Felt → Option (List Call × List Felt)
  | 0, felts => some ([], felts)
  | n + 1, felts => do
      let (call, felts) ← decodeCall felts
      let (calls, felts) ← decodeFirst n felts
      some (call :: calls, felts)

/-- The calls of a call array, with no felts after them. -/
def decodeCalls : List Felt → Option (List Call)
  | [] => none
  | count :: felts =>
      match decodeFirst count.val felts with
      | some (calls, []) => some calls
      | _ => none

theorem decodeCall_encode {call : Call} (h : call.calldata.length < feltPrime)
    (felts : List Felt) : decodeCall (call.encode ++ felts) = some (call, felts) := by
  rw [Call.encode, List.cons_append, List.cons_append, List.cons_append, decodeCall,
    Felt.val_ofNat h, if_pos (by simp), List.take_left, List.drop_left]

theorem decodeFirst_encode {calls : List Call}
    (h : ∀ call ∈ calls, call.calldata.length < feltPrime) (felts : List Felt) :
    decodeFirst calls.length (calls.flatMap Call.encode ++ felts) = some (calls, felts) := by
  induction calls with
  | nil => rfl
  | cons call calls ih =>
      have hcall := decodeCall_encode (h call List.mem_cons_self)
        (calls.flatMap Call.encode ++ felts)
      have hcalls := ih fun call' hcall' => h call' (List.mem_cons_of_mem call hcall')
      rw [List.flatMap_cons, List.append_assoc, List.length_cons, decodeFirst, hcall,
        Option.bind_eq_bind, Option.bind_some]
      dsimp only
      rw [hcalls]
      rfl

/-- **A call array is read back.** -/
theorem decodeCalls_encodeCalls {calls : List Call} (hcount : calls.length < feltPrime)
    (h : ∀ call ∈ calls, call.calldata.length < feltPrime) :
    decodeCalls (encodeCalls calls) = some calls := by
  have hfirst := decodeFirst_encode h []
  rw [List.append_nil] at hfirst
  rw [encodeCalls, decodeCalls, Felt.val_ofNat hcount, hfirst]

/-! ### The counter contract -/

namespace Counter

/-- The selector of `increment`. -/
def incrementEntry : Felt := .ofNat
  0x7a44dde9fea32737a5cf3f9683b3235138654aa2d189f6fe44af37a61dc60d

/-- The selector of `get_counter`. -/
def getCounterEntry : Felt := .ofNat
  0x3370263ab53343580e77063a719a5865004caff7f367ec136a6cdd34b6786ca

/-- `CounterImpl::increment`. -/
def increment (counter amount : Felt) : Felt := counter + amount

/-- The counter after a call of one of the entry points, which has the arguments of it and no
others. -/
def invoke (counter : Felt) (call : Call) : Option Felt :=
  if call.selector = incrementEntry then
    match call.calldata with
    | [amount] => some (increment counter amount)
    | _ => none
  else if call.selector = getCounterEntry then
    match call.calldata with
    | [] => some counter
    | _ => none
  else none

/-- The counter after some calls. -/
def invokeAll (counter : Felt) (calls : List Call) : Option Felt := calls.foldlM invoke counter

end Counter

/-! ### What a complete event reports -/

/-- What a complete event reports. -/
structure BlockReport where
  txHash : String
  counterValue : BitVec 64
  proofSize : BitVec 64
  increment : BitVec 64

/-- The data of a complete event. -/
def BlockReport.json (report : BlockReport) : Json :=
  .obj [
    ("tx_hash", .str report.txHash),
    ("counter_value", .num report.counterValue.toNat),
    ("proof_size", .num report.proofSize.toNat),
    ("increment", .num report.increment.toNat)]

/-- A build of the server. -/
inductive Build where
  /-- It checks for overflow. -/
  | debug
  /-- Its products wrap around. -/
  | release

section Reports

variable (fh : FeltHex) (sc : StarknetCrypto) (serde : SerdeJson) (o : Outcomes)

/-- The task of `prove_block`, in a build. -/
def Build.proveBlockTask (job : ProveJob) : Build → Task Unit
  | .debug => Streams.proveBlockTask fh sc serde o job
  | .release => proveBlockTaskFrom fh sc serde o job
      (job.incrementAmount * job.incrementsPerBlock.setWidth 64)

/-- A call of `increment` with the amount, on the contract of the session. -/
structure ProveJob.IsIncrement (job : ProveJob) (call : Call) : Prop where
  target : fh.fromHex job.contractAddress = .ok call.target
  selector : call.selector = Counter.incrementEntry
  calldata : call.calldata = [.ofNat job.incrementAmount.toNat]

/-- The node returns a counter, in hexadecimal. -/
def NodeCounter (job : ProveJob) (counter : ℕ) : Prop :=
  ∃ text rest, o.starknetCall job.contractAddress getCounterSelector [] = .ok (text :: rest) ∧
    hexNat? text = some counter

/-- The data of a complete event tells what the calls of the block do, which are its increments
and no others, and the counter that the node returns. -/
def ReportsIncrements (job : ProveJob) (data : String) : Prop :=
  ∃ calldata calls, ∃ report : BlockReport,
    job.calldataStrs.mapM (feltFromHex fh) = .ok calldata ∧
    decodeCalls calldata = some calls ∧
    calls.length = job.incrementsPerBlock.toNat ∧ (∀ call ∈ calls, job.IsIncrement fh call) ∧
    data = serde.toString report.json ∧
    (∀ counter, Counter.invokeAll counter calls
      = some (counter + .ofNat report.increment.toNat)) ∧
    NodeCounter o job report.counterValue.toNat

end Reports

variable {fh : FeltHex} {sc : StarknetCrypto} {serde : SerdeJson} {o : Outcomes}

/-! ### The calls of a block -/

theorem fromHex_incrementSelector :
    fh.fromHex incrementSelector = .ok Counter.incrementEntry :=
  fromHex_hexOf (k := 0x7a44dde9fea32737a5cf3f9683b3235138654aa2d189f6fe44af37a61dc60d) (by decide)

theorem encode_of_mapM {job : ProveJob} {n : ℕ} {felts : List Felt}
    (h : List.Forall₂ (fun text felt => feltFromHex fh text = .ok felt) (List.replicate n
      [job.contractAddress, incrementSelector, "0x1", hexOf job.incrementAmount.toNat]).flatten
      felts) :
    ∃ calls : List Call, felts = calls.flatMap Call.encode ∧ calls.length = n ∧
      ∀ call ∈ calls, job.IsIncrement fh call := by
  induction n generalizing felts with
  | zero =>
      rw [List.replicate_zero, List.flatten_nil, List.forall₂_nil_left_iff] at h
      exact ⟨[], h, rfl, by simp⟩
  | succ n ih =>
      rw [List.replicate_succ, List.flatten_cons] at h
      rcases h with _ | ⟨htarget, _ | ⟨hselector, _ | ⟨hlength, _ | ⟨hamount, h⟩⟩⟩⟩
      rename_i target selector length amount felts
      obtain ⟨calls, rfl, rfl, hcalls⟩ := ih h
      rw [feltFromHex_eq_ok] at htarget hselector hlength hamount
      obtain rfl := Except.ok.inj (fromHex_incrementSelector.symm.trans hselector)
      obtain rfl := Except.ok.inj ((fh.fromHex_fmtFelt 1).symm.trans hlength)
      obtain rfl := Except.ok.inj ((CoinFlip.fromHex_hexOf_bitVec le_rfl _).symm.trans hamount)
      refine ⟨⟨target, _, [.ofNat job.incrementAmount.toNat]⟩ :: calls, rfl, rfl, ?_⟩
      exact List.forall_mem_cons.mpr ⟨⟨htarget, rfl, rfl⟩, hcalls⟩

/-- **The calldata of a block is the call array of its increments.** -/
theorem decodeCalls_calldata {job : ProveJob} {calldata : List Felt}
    (h : job.calldataStrs.mapM (feltFromHex fh) = .ok calldata) :
    ∃ calls, decodeCalls calldata = some calls ∧
      calls.length = job.incrementsPerBlock.toNat ∧ ∀ call ∈ calls, job.IsIncrement fh call := by
  have hprime : feltPrime = 2 ^ 251 + 17 * 2 ^ 192 + 1 := rfl
  rcases mapM_eq_ok.mp h with _ | ⟨hcount, hfelts⟩
  obtain ⟨calls, rfl, hlength, hcalls⟩ := encode_of_mapM hfelts
  rw [feltFromHex_eq_ok, CoinFlip.fromHex_hexOf_bitVec (by norm_num)] at hcount
  obtain rfl := Except.ok.inj hcount
  refine ⟨calls, ?_, hlength, hcalls⟩
  rw [← hlength]
  refine decodeCalls_encodeCalls (by omega) fun call hcall => ?_
  rw [(hcalls call hcall).calldata, List.length_singleton]
  omega

theorem ofNat_add (a b : ℕ) : Felt.ofNat (a + b) = .ofNat a + .ofNat b :=
  Fin.ext (Nat.add_mod a b feltPrime)

/-- **By how much increments raise the counter.** -/
theorem invokeAll_increments {job : ProveJob} {calls : List Call}
    (h : ∀ call ∈ calls, job.IsIncrement fh call) (counter : Felt) :
    Counter.invokeAll counter calls
      = some (counter + .ofNat (job.incrementAmount.toNat * calls.length)) := by
  induction calls generalizing counter with
  | nil => exact congrArg some (add_zero counter).symm
  | cons call calls ih =>
      obtain ⟨-, hselector, hcalldata⟩ := h call List.mem_cons_self
      have hcall : Counter.invoke counter call
          = some (counter + .ofNat job.incrementAmount.toNat) := by
        rw [Counter.invoke, if_pos hselector, hcalldata]
        rfl
      rw [Counter.invokeAll, List.foldlM_cons, hcall, Option.bind_eq_bind, Option.bind_some]
      refine (ih (fun call' hcall' => h call' (List.mem_cons_of_mem call hcall')) _).trans ?_
      rw [List.length_cons, Nat.mul_succ, Nat.add_comm, ofNat_add, add_assoc]

/-! ### The counter of the node -/

/-- A counter in hexadecimal is read, unless it is too large. -/
theorem u64FromHex_of_hexNat {text : String} {n : ℕ} (h : hexNat? text = some n) :
    u64FromHex text = if n < 2 ^ 64 then some (BitVec.ofNat 64 n) else none := by
  rw [hexNat?] at h
  split at h
  · next c cs htext =>
      have hx : trimStart0x (c :: cs) = c :: cs := by
        rw [trimStart0x.eq_def]
        split
        · next hcs =>
            rw [hcs] at h
            cases h
        · rfl
      have hplus : c ≠ '+' := by
        rintro rfl
        cases h
      rw [u64FromHex, htext, trimStart0x, hx]
      split
      · next hcs => exact absurd (List.cons.inj hcs).1 hplus
      · rw [if_neg (List.cons_ne_nil c cs), h, Option.bind_some]
  · cases h

/-- **The counter that is read** is the one that the node returns, or zero. -/
theorem toNat_counterValue {job : ProveJob} {n : ℕ} (h : NodeCounter o job n) :
    (counterValue o job.contractAddress).toNat = if n < 2 ^ 64 then n else 0 := by
  obtain ⟨text, rest, hcall, htext⟩ := h
  rw [counterValue, hcall]
  dsimp only
  rw [List.head?_cons, Option.bind_some, u64FromHex_of_hexNat htext]
  split
  · next hlt => exact Nat.mod_eq_of_lt hlt
  · rfl

/-! ### The complete event -/

/-- A complete event. -/
def IsComplete (e : Action) : Prop := e.event = some "complete"

theorem not_isComplete_error (message : String) : ¬ IsComplete (.send "error" message) := by
  simp [IsComplete, Action.event]

theorem avoids_complete {event : String} (data : String) (h : event ≠ "complete") :
    Emission.Avoids IsComplete (send event data) :=
  Emission.Avoids.emit fun hcomplete => h (Option.some.inj hcomplete)

theorem avoids_logMessages (messagesFile : String) :
    Emission.Avoids IsComplete (logMessages o messagesFile) := by
  rw [logMessages]
  split
  · exact avoids_complete _ (by decide)
  · exact Emission.Avoids.pure ()

theorem avoids_submitViaRpc (invokeTx : Json) (left attempt : ℕ) :
    Emission.Avoids IsComplete (submitViaRpc o invokeTx left attempt) := by
  have herror := not_isComplete_error
  induction left generalizing attempt with
  | zero => exact Emission.Avoids.pure none
  | succ left ih =>
      rw [submitViaRpc]
      split
      · exact (avoids_complete _ (by decide)).bind fun _ => Emission.Avoids.pure _
      · split
        · exact (avoids_complete _ (by decide)).bind fun _ => ih (attempt + 1)
        · exact Emission.Avoids.fail (herror _)
      · exact Emission.Avoids.fail (herror _)

/-- **What a complete event carries**: the product of the build, and the counter that was read. -/
theorem complete_of_mem {job : ProveJob} {expectedIncrement : BitVec 64} {data : String}
    (h : .send "complete" data
      ∈ (proveBlockTaskFrom fh sc serde o job expectedIncrement).events) :
    (∃ calldata, job.calldataStrs.mapM (feltFromHex fh) = .ok calldata) ∧
      ∃ report : BlockReport, data = serde.toString report.json ∧
        report.increment = expectedIncrement ∧
        report.counterValue = counterValue o job.contractAddress := by
  have hkind : IsComplete (.send "complete" data) := rfl
  have herror := not_isComplete_error
  obtain ⟨_, -, h⟩ := (avoids_complete _ (by decide)).of_mem_bind hkind h
  obtain ⟨_, -, h⟩ := (avoids_complete _ (by decide)).of_mem_bind hkind h
  obtain ⟨calldata, hcalldata, h⟩ := (avoids_orError herror _ _).of_mem_bind hkind h
  refine ⟨⟨calldata, Emission.eq_ok_of_result_orFail hcalldata⟩, ?_⟩
  obtain ⟨_, -, h⟩ := (avoids_orError herror _ _).of_mem_bind hkind h
  obtain ⟨_, -, h⟩ := (avoids_orError herror _ _).of_mem_bind hkind h
  obtain ⟨_, -, h⟩ := (avoids_orError herror _ _).of_mem_bind hkind h
  obtain ⟨_, -, h⟩ := (avoids_orError herror _ _).of_mem_bind hkind h
  obtain ⟨_, -, h⟩ := (avoids_orError herror _ _).of_mem_bind hkind h
  obtain ⟨_, -, h⟩ := (avoids_orError herror _ _).of_mem_bind hkind h
  obtain ⟨_, -, h⟩ := (avoids_orError herror _ _).of_mem_bind hkind h
  obtain ⟨_, -, h⟩ := (avoids_complete _ (by decide)).of_mem_bind hkind h
  obtain ⟨_, -, h⟩ := (avoids_complete _ (by decide)).of_mem_bind hkind h
  obtain ⟨_, -, h⟩ := (avoids_complete _ (by decide)).of_mem_bind hkind h
  obtain ⟨_, -, h⟩ := (avoids_orError herror _ _).of_mem_bind hkind h
  obtain ⟨_, -, h⟩ := (avoids_errorIf herror _ _).of_mem_bind hkind h
  obtain ⟨_, -, h⟩ := (avoids_complete _ (by decide)).of_mem_bind hkind h
  obtain ⟨_, -, h⟩ := (avoids_logMessages _).of_mem_bind hkind h
  obtain ⟨_, -, h⟩ := (avoids_complete _ (by decide)).of_mem_bind hkind h
  obtain ⟨_, -, h⟩ := (avoids_readProof herror _).of_mem_bind hkind h
  obtain ⟨_, -, h⟩ := (avoids_orError herror _ _).of_mem_bind hkind h
  obtain ⟨_, -, h⟩ := (avoids_complete _ (by decide)).of_mem_bind hkind h
  obtain ⟨_, -, h⟩ := (avoids_submitViaRpc _ _ _).of_mem_bind hkind h
  obtain ⟨_, -, h⟩ := (avoids_orError herror _ _).of_mem_bind hkind h
  obtain ⟨_, -, h⟩ := (avoids_complete _ (by decide)).of_mem_bind hkind h
  obtain ⟨_, -, h⟩ := (avoids_complete _ (by decide)).of_mem_bind hkind h
  obtain ⟨_, -, h⟩ := (avoids_orError herror _ _).of_mem_bind hkind h
  obtain ⟨_, -, h⟩ := (avoids_complete _ (by decide)).of_mem_bind hkind h
  obtain ⟨_, -, h⟩ :=
    (Emission.Avoids.emit (by simp [IsComplete, Action.event])).of_mem_bind hkind h
  obtain ⟨_, -, h⟩ := (avoids_complete _ (by decide)).of_mem_bind hkind h
  obtain hdata := (Action.send.inj (List.mem_singleton.mp h)).2
  exact ⟨⟨_, _, _, _⟩, hdata, rfl, rfl⟩

theorem eq_of_result_checkedMul {a b c : BitVec 64} (h : (checkedMul a b).result = .ok c) :
    c = a * b := by
  by_cases hfits : a.toNat * b.toNat < 2 ^ 64
  · rw [checkedMul, if_pos hfits] at h
    exact (Except.ok.inj h).symm
  · rw [checkedMul, if_neg hfits] at h
    cases h

/-- What a complete event carries, in a build. -/
theorem complete_of_mem_build {build : Build} {job : ProveJob} {data : String}
    (h : .send "complete" data ∈ (build.proveBlockTask fh sc serde o job).events) :
    (∃ calldata, job.calldataStrs.mapM (feltFromHex fh) = .ok calldata) ∧
      ∃ report : BlockReport, data = serde.toString report.json ∧
        report.increment = job.incrementAmount * job.incrementsPerBlock.setWidth 64 ∧
        report.counterValue = counterValue o job.contractAddress := by
  cases build with
  | debug =>
      have havoids : Emission.Avoids IsComplete
          (checkedMul job.incrementAmount (job.incrementsPerBlock.setWidth 64)) :=
        Emission.Avoids.orPanic _ _
      obtain ⟨expectedIncrement, hproduct, h⟩ := havoids.of_mem_bind (by rfl) h
      obtain rfl := eq_of_result_checkedMul hproduct
      exact complete_of_mem h
  | release => exact complete_of_mem h

/-- What is reported are unsigned integers of 64 bits. -/
theorem fits_of_reportsIncrements {job : ProveJob} {data : String}
    (h : ReportsIncrements fh serde o job data) :
    job.Fits ∧ ∃ counter < 2 ^ 64, NodeCounter o job counter := by
  obtain ⟨_, calls, report, -, -, hlength, hcalls, -, hraised, hcounter⟩ := h
  refine ⟨?_, _, report.counterValue.isLt, hcounter⟩
  have hprime : feltPrime = 2 ^ 251 + 17 * 2 ^ 192 + 1 := rfl
  have htotal : job.incrementAmount.toNat * calls.length < 2 ^ 64 * 2 ^ 32 :=
    Nat.mul_lt_mul'' job.incrementAmount.isLt (hlength ▸ job.incrementsPerBlock.isLt)
  have heq := Option.some.inj ((hraised 0).symm.trans (invokeAll_increments hcalls 0))
  have hval := congrArg Fin.val (add_left_cancel heq)
  rw [Felt.val_ofNat (by omega), Felt.val_ofNat (by omega), hlength] at hval
  rw [ProveJob.Fits, ← hval]
  exact report.increment.isLt

/-- **When a complete event tells what the calls of the block do**: in a build that checks for
overflow or in one that does not, when the increments fit, and the node returns a counter that
does. -/
theorem reportsIncrements_iff (build : Build) {job : ProveJob} {data : String}
    (hemit : .send "complete" data ∈ (build.proveBlockTask fh sc serde o job).events) :
    ReportsIncrements fh serde o job data ↔
      job.Fits ∧ ∃ counter < 2 ^ 64, NodeCounter o job counter := by
  refine ⟨fits_of_reportsIncrements, ?_⟩
  rintro ⟨hfits, counter, hlt, hcounter⟩
  obtain ⟨⟨calldata, hcalldata⟩, report, hdata, hincrement, hread⟩ := complete_of_mem_build hemit
  obtain ⟨calls, hdecode, hlength, hcalls⟩ := decodeCalls_calldata hcalldata
  refine ⟨calldata, calls, report, hcalldata, hdecode, hlength, hcalls, hdata, fun c => ?_, ?_⟩
  · have hproduct : report.increment.toNat = job.incrementAmount.toNat * calls.length := by
      rw [hincrement, BitVec.toNat_mul, Nat.mod_eq_of_lt (job.fits_iff.mp hfits),
        BitVec.toNat_setWidth, Nat.mod_eq_of_lt (by omega), hlength]
    rw [hproduct]
    exact invokeAll_increments hcalls c
  · rw [hread, toNat_counterValue hcounter, if_pos hlt]
    exact hcounter

/-- A block of two increments. -/
def sampleJob (amount : BitVec 64) : ProveJob where
  sessionId := "session"
  contractAddress := "0x5"
  referenceBlock := 6
  incrementAmount := amount
  incrementsPerBlock := 2

/-- A run of a released server in which all goes well, and the node returns four. -/
def sampleBlock (amount : BitVec 64) : Task Unit :=
  Build.release.proveBlockTask sampleHex sampleCrypto (sampleSerde "0x1")
    { sampleOutcomes (some "") with starknetCall := fun _ _ _ => .ok ["0x4"] } (sampleJob amount)

theorem reportsIncrements_iff_sample :
    ∃ data, .send "complete" data ∈ (sampleBlock 2).events ∧
      ReportsIncrements sampleHex (sampleSerde "0x1")
        { sampleOutcomes (some "") with starknetCall := fun _ _ _ => .ok ["0x4"] } (sampleJob 2)
        data := by
  obtain ⟨data, hdata⟩ := exists_send "complete" (p := sampleBlock 2) (by decide +kernel)
  refine ⟨data, hdata, (reportsIncrements_iff .release hdata).mpr ⟨by decide, 4, by decide, ?_⟩⟩
  exact ⟨"0x4", [], rfl, rfl⟩

/-- A released server completes a block whose increments wrap around. -/
theorem complete_misreports :
    ∃ data, .send "complete" data ∈ (sampleBlock 0x8000000000000000).events ∧
      ¬ ReportsIncrements sampleHex (sampleSerde "0x1")
        { sampleOutcomes (some "") with starknetCall := fun _ _ _ => .ok ["0x4"] }
        (sampleJob 0x8000000000000000) data := by
  obtain ⟨data, hdata⟩ := exists_send "complete" (p := sampleBlock 0x8000000000000000) (by decide +kernel)
  refine ⟨data, hdata, fun h => absurd (fits_of_reportsIncrements h).1 (by decide)⟩

end Snip36.Streams

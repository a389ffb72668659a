import Snip36.Playground.SessionFiles
import Snip36.Streams.ProveBlock
import Snip36.Streams.Results
import Snip36.Support.Awaited
import Snip36.Support.Runs

/-!
# Playground — the files of blocks that are proved at once

Any number of runs of `prove_block`, of any sessions.  A run writes its transaction into a file and
starts a prover, which reads that file and writes a proof and proof facts into two others; the run
reads these two, and signs and submits what they hold.  `step` is one step of a run or of its
prover.  The files are named after the session alone, so runs of one session share them.

`unmixed_of_undisturbed`: what a run signs is what its own prover made of the transaction that
the run wrote, in a run of the server in which no write puts another text into a file that someone
still has to read, and a prover that exits with success has read its transaction and written its
results.

The events and the texts of a run are those of `Streams.proveBlockTask`.
-/

namespace Snip36.Playground.BlockFiles
open Support Signing CoinFlip Streams

/-! ### Data -/

/-- What the runs share. -/
structure Setting where
  fh : FeltHex
  sc : StarknetCrypto
  serde : SerdeJson
  /-- The config, and the program of the prover. -/
  o : Outcomes
  /-- The file that a path names. -/
  resolve : String → String

variable {st : Setting}

/-- The path of a file of a session. -/
def sessionPath (outputDir sessionId : String) : SessionFile → String
  | .tx => txPath outputDir sessionId
  | .proof => proofPath outputDir sessionId
  | .messages => blockMessagesFile outputDir sessionId
  | .proofFacts => blockProofFactsFile outputDir sessionId

/-- A transaction that a run has constructed. -/
structure Construction (st : Setting) where
  job : ProveJob
  calldata : List Felt
  parsed : job.calldataStrs.mapM (feltFromHex st.fh) = .ok calldata
  senderAddress : Felt
  privateKey : Felt
  chainId : Felt
  nonce : BitVec 64
  sig : Signature

namespace Construction

/-- The text of `tx_json`. -/
def txText (c : Construction st) : String :=
  st.serde.toStringPretty (txJson st.o c.job.calldataStrs c.nonce .default c.sig)

/-- A file of the session. -/
def file (c : Construction st) (kind : SessionFile) : String :=
  st.resolve (sessionPath st.o.config.outputDir c.job.sessionId kind)

end Construction

/-- What a prover has come to. -/
structure Prover where
  /-- The transaction that it has read. -/
  tx : Option String
  /-- What it has written last into a file, since it has read the transaction. -/
  wrote : SessionFile → Option String

/-- A prover writes a text of a kind. -/
def Prover.write (prover : Prover) (kind : SessionFile) (text : String) : Prover :=
  { prover with wrote := Function.update prover.wrote kind (some text) }

@[simp] theorem Prover.wrote_write_self (prover : Prover) (kind : SessionFile) (text : String) :
    (prover.write kind text).wrote kind = some text :=
  Function.update_self ..

theorem Prover.wrote_write_of_ne (prover : Prover) {kind kind' : SessionFile} (text : String)
    (h : kind' ≠ kind) : (prover.write kind text).wrote kind' = prover.wrote kind' :=
  Function.update_of_ne h ..

/-- What a run has signed. -/
structure Signed (st : Setting) where
  construction : Construction st
  /-- The prover of the run. -/
  prover : Prover
  params : SubmitParams
  localTxHash : Felt
  invokeTx : Json

/-- How far a run has come. -/
inductive Phase (st : Setting) where
  /-- It waits for the nonce. -/
  | constructing (job : ProveJob)
  /-- It is to create the directory. -/
  | creating (c : Construction st)
  /-- It writes the transaction. -/
  | writing (c : Construction st)
  /-- It is to start the prover. -/
  | starting (c : Construction st)
  | proving (c : Construction st) (prover : Prover)
  /-- The prover has exited. -/
  | proved (c : Construction st) (prover : Prover) (success : Bool)
  | readingProof (c : Construction st) (prover : Prover)
  | readingFacts (c : Construction st) (prover : Prover) (proof : String)
  | submitting (signed : Signed st) (attempt : ℕ)

/-- The files, the runs in flight, and what has happened so far. -/
structure Runs (st : Setting) where
  files : String → Option String
  nextId : ℕ
  runs : ℕ → Option (Phase st)
  signed : List (ℕ × Signed st)
  submitted : List (ℕ × Json)
  errors : List (ℕ × String)

/-- No run yet, over the files that are there. -/
def Runs.new (files : String → Option String) : Runs st := ⟨files, 0, fun _ => none, [], [], []⟩

/-- What happens to a run, or to its prover. -/
inductive Event where
  | start (rid : ℕ) (session : Streams.Session) (sessionId : String) (params : ProveBlockQuery)
  | nonce (rid : ℕ) (reply : Except RpcError (BitVec 64))
  | createDir (rid : ℕ) (outcome : Except String Unit)
  /-- A part of the transaction is written. -/
  | writePart (rid : ℕ) (text : String)
  | writeTx (rid : ℕ) (outcome : Except String Unit)
  | spawn (rid : ℕ) (outcome : Except String Unit)
  | proverReads (rid : ℕ)
  /-- The prover writes a file, in whole or in part. -/
  | proverWrites (rid : ℕ) (kind : SessionFile) (text : String)
  | exits (rid : ℕ) (success : Bool)
  | checkProof (rid : ℕ)
  | readProof (rid : ℕ) (error : Option String)
  | readFacts (rid : ℕ) (error : Option String)
  | submit (rid : ℕ) (reply : Except RpcError String)

/-! ### What a run computes -/

/-- From the calldata to the signature. -/
def construct (st : Setting) (job : ProveJob) (reply : Except RpcError (BitVec 64)) :
    Except String (Construction st) := do
  let ⟨calldata, parsed⟩ ← (attach (job.calldataStrs.mapM (feltFromHex st.fh))).mapError
    fun e => "Failed to parse calldata: " ++ e
  let senderAddress ← (feltFromHex st.fh st.o.config.accountAddress).mapError
    fun e => "Invalid account address: " ++ e
  let privateKey ← (feltFromHex st.fh st.o.config.privateKey).mapError
    fun e => "Invalid private key: " ++ e
  let chainId ← st.o.config.chainIdFelt.mapError fun e => "Invalid chain_id: " ++ e
  let nonce ← reply.mapError fun e =>
    "Failed to get nonce at block " ++ toString job.referenceBlock.toNat ++ ": " ++ e.toString
  let nonceFelt := Felt.ofNat nonce.toNat
  let txHash := standardTxHash st.sc senderAddress calldata chainId nonceFelt .default
  let sig ← (sign st.sc privateKey txHash).mapError fun e => "Signing failed: " ++ e.toString
  pure { job, calldata, parsed, senderAddress, privateKey, chainId, nonce, sig }

/-- The facts in a text. -/
def factsOf (st : Setting) (proofFactsStr : String) : Except String (List Felt) := do
  let proofFactsHex ← (parseProofFactsJson st.serde proofFactsStr).mapError
    fun e => "Invalid proof_facts: " ++ e
  (proofFactsHex.mapM (feltFromHex st.fh)).mapError fun e => "Failed to parse proof_facts: " ++ e

/-- The payload of a proof and its facts, signed. -/
def signProof (c : Construction st) (prover : Prover) (proof proofFactsStr : String) :
    Except String (Signed st) := do
  let proofFacts ← factsOf st proofFactsStr
  let params : SubmitParams := {
    senderAddress := c.senderAddress
    privateKey := c.privateKey
    calldata := c.calldata
    proofBase64 := trim proof
    proofFacts
    nonce := Felt.ofNat c.nonce.toNat
    chainId := c.chainId
    resourceBounds := .default }
  let built ← (Core.signAndBuildPayload st.sc params).mapError
    fun e => "SNIP-36 signing failed: " ++ e.toString
  pure ⟨c, prover, params, built.1, built.2⟩

/-! ### Steps -/

namespace Runs

/-- A run goes on. -/
def goOn (s : Runs st) (rid : ℕ) (phase : Phase st) : Runs st :=
  { s with runs := Function.update s.runs rid (some phase) }

/-- A run ends. -/
def ends (s : Runs st) (rid : ℕ) : Runs st :=
  { s with runs := Function.update s.runs rid none }

/-- A run ends with an error. -/
def fails (s : Runs st) (rid : ℕ) (error : String) : Runs st :=
  { s with
    runs := Function.update s.runs rid none
    errors := s.errors ++ [(rid, error)] }

/-- A file is written. -/
def write (s : Runs st) (file text : String) : Runs st :=
  { s with files := Function.update s.files file (some text) }

end Runs

/-- One step. -/
def step (s : Runs st) : Event → Option (Runs st)
  | .start rid session sessionId params =>
      if rid = s.nextId then
        match Streams.proveBlock session sessionId params with
        | .ok job =>
            -- The product of the increments is taken first, and panics when it overflows.
            if job.incrementAmount.toNat * job.incrementsPerBlock.toNat < 2 ^ 64 then
              some { s with
                nextId := rid + 1
                runs := Function.update s.runs rid (some (.constructing job)) }
            else some { s with nextId := rid + 1 }
        | .error _ => some { s with nextId := rid + 1 }
      else none
  | .nonce rid reply =>
      match s.runs rid with
      | some (.constructing job) =>
          match construct st job reply with
          | .ok c => some (s.goOn rid (.creating c))
          | .error e => some (s.fails rid e)
      | _ => none
  | .createDir rid outcome =>
      match s.runs rid, outcome with
      | some (.creating c), .ok () => some (s.goOn rid (.writing c))
      | some (.creating _), .error e => some (s.fails rid ("Failed to create output dir: " ++ e))
      | _, _ => none
  | .writePart rid text =>
      match s.runs rid with
      | some (.writing c) => some ((s.write (c.file .tx) text).goOn rid (.writing c))
      | _ => none
  | .writeTx rid outcome =>
      match s.runs rid, outcome with
      | some (.writing c), .ok () => some ((s.write (c.file .tx) c.txText).goOn rid (.starting c))
      | some (.writing _), .error e => some (s.fails rid ("Failed to write tx JSON: " ++ e))
      | _, _ => none
  | .spawn rid outcome =>
      match s.runs rid, outcome with
      | some (.starting c), .ok () => some (s.goOn rid (.proving c ⟨none, fun _ => none⟩))
      | some (.starting _), .error e =>
          some (s.fails rid ("Failed to spawn prover (" ++ st.o.snip36Bin ++ "): " ++ e))
      | _, _ => none
  | .proverReads rid =>
      match s.runs rid with
      | some (.proving c ⟨none, _⟩) =>
          match s.files (c.file .tx) with
          | some text => some (s.goOn rid (.proving c ⟨some text, fun _ => none⟩))
          | none => none
      | _ => none
  | .proverWrites rid kind text =>
      match s.runs rid with
      | some (.proving c prover) =>
          if kind = .tx then none
          else some ((s.write (c.file kind) text).goOn rid (.proving c (prover.write kind text)))
      | _ => none
  | .exits rid success =>
      match s.runs rid with
      | some (.proving c prover) => some (s.goOn rid (.proved c prover success))
      | _ => none
  | .checkProof rid =>
      match s.runs rid with
      | some (.proved c prover success) =>
          if success = false ∨ s.files (c.file .proof) = none then
            some (s.fails rid "Proof generation failed")
          else some (s.goOn rid (.readingProof c prover))
      | _ => none
  | .readProof rid error =>
      match s.runs rid, error with
      | some (.readingProof c prover), none =>
          match s.files (c.file .proof) with
          | some proof => some (s.goOn rid (.readingFacts c prover proof))
          | none => none
      | some (.readingProof _ _), some e => some (s.fails rid ("Failed to read proof: " ++ e))
      | _, _ => none
  | .readFacts rid error =>
      match s.runs rid, error with
      | some (.readingFacts c prover proof), none =>
          match s.files (c.file .proofFacts) with
          | some proofFactsStr =>
              match signProof c prover proof proofFactsStr with
              | .ok signed => some { s.goOn rid (.submitting signed 1) with
                  signed := s.signed ++ [(rid, signed)] }
              | .error e => some (s.fails rid e)
          | none => none
      | some (.readingFacts _ _ _), some e =>
          some (s.fails rid ("Failed to read proof_facts: " ++ e))
      | _, _ => none
  | .submit rid reply =>
      match s.runs rid with
      | some (.submitting signed attempt) =>
          let s := { s with submitted := s.submitted ++ [(rid, signed.invokeTx)] }
          match reply with
          -- What follows does not touch the files.
          | .ok _ => some (s.ends rid)
          | .error (.jsonRpc msg) =>
              if attempt < 20 then some (s.goOn rid (.submitting signed (attempt + 1)))
              else some (s.fails rid
                ("RPC submission failed: " ++ (RpcError.jsonRpc msg).toString))
          | .error e => some (s.fails rid ("RPC submission failed: " ++ e.toString))
      | _ => none

/-! ### Own proofs -/

/-- What is signed is what the prover of the run made of the transaction that the run wrote: it has
the calldata and the nonce of this transaction, the proof and the facts. -/
structure Signed.Own (signed : Signed st) : Prop where
  tx : signed.prover.tx = some signed.construction.txText
  calldata : signed.construction.job.calldataStrs.mapM (feltFromHex st.fh)
    = .ok signed.params.calldata
  nonce : signed.params.nonce = Felt.ofNat signed.construction.nonce.toNat
  proof : ∃ text, signed.prover.wrote .proof = some text ∧ signed.params.proofBase64 = trim text
  proofFacts : ∃ text, signed.prover.wrote .proofFacts = some text ∧
    factsOf st text = .ok signed.params.proofFacts
  payload : Core.signAndBuildPayload st.sc signed.params = .ok (signed.localTxHash, signed.invokeTx)

/-- The runs sign what is their own, and submit what they have signed. -/
structure Unmixed (s : Runs st) : Prop where
  signed : ∀ rid signed, (rid, signed) ∈ s.signed → signed.Own
  submitted : ∀ rid invokeTx, (rid, invokeTx) ∈ s.submitted →
    ∃ signed, (rid, signed) ∈ s.signed ∧ signed.invokeTx = invokeTx

/-! ### Files that are still to be read -/

/-- The text of a kind that a prover has written. -/
def Prover.result (prover : Prover) (c : Construction st) (kind : SessionFile) :
    Option (String × String) :=
  (prover.wrote kind).map fun text => (c.file kind, text)

theorem Prover.result_write_self (prover : Prover) (c : Construction st) (kind : SessionFile)
    (text : String) : (prover.write kind text).result c kind = some (c.file kind, text) := by
  rw [result, wrote_write_self, Option.map_some]

theorem Prover.result_write_of_ne (prover : Prover) (c : Construction st) {kind kind' : SessionFile}
    (text : String) (h : kind' ≠ kind) :
    (prover.write kind text).result c kind' = prover.result c kind' := by
  rw [result, wrote_write_of_ne prover text h, result]

/-- What is still to be read of a run: by its prover, the transaction, and by itself, the proof and
the facts. -/
def Phase.awaits (phase : Phase st) : SessionFile → Option (String × String)
  | .tx =>
      match phase with
      | .starting c => some (c.file .tx, c.txText)
      | .proving c prover => if prover.tx = none then some (c.file .tx, c.txText) else none
      | _ => none
  | .proof =>
      match phase with
      | .proving c prover | .proved c prover true | .readingProof c prover => prover.result c .proof
      | _ => none
  | .proofFacts =>
      match phase with
      | .proving c prover | .proved c prover true | .readingProof c prover
      | .readingFacts c prover _ => prover.result c .proofFacts
      | _ => none
  | .messages => none

/-- What is still to be read of the runs. -/
def Runs.awaited (s : Runs st) (i : ℕ × SessionFile) : Option (String × String) :=
  (s.runs i.1).bind fun phase => phase.awaits i.2

/-- A write of a text of a run. -/
structure Write where
  rid : ℕ
  kind : SessionFile
  file : String
  text : String

/-- The file that an event writes. -/
def Runs.writeOf (s : Runs st) : Event → Option Write
  | .writePart rid text =>
      match s.runs rid with
      | some (.writing c) => some ⟨rid, .tx, c.file .tx, text⟩
      | _ => none
  | .writeTx rid (.ok ()) =>
      match s.runs rid with
      | some (.writing c) => some ⟨rid, .tx, c.file .tx, c.txText⟩
      | _ => none
  | .proverWrites rid kind text =>
      match s.runs rid with
      | some (.proving c _) => some ⟨rid, kind, c.file kind, text⟩
      | _ => none
  | _ => none

/-- A write puts no other text into a file that is still to be read of another run, or of another
kind. -/
def Write.Spares (w : Write) (s : Runs st) : Prop :=
  ∀ rid < s.nextId, ∀ kind, (rid, kind) ≠ (w.rid, w.kind) →
    (s.awaited (rid, kind)).all fun a => a.1 ≠ w.file ∨ a.2 = w.text

/-- A prover has read its transaction and written its results. -/
def Prover.finished (prover : Prover) : Bool :=
  prover.tx.isSome && (prover.wrote .proof).isSome && (prover.wrote .proofFacts).isSome

/-- A prover that exits with success has finished. -/
def Runs.ExitsFinished (s : Runs st) : Event → Prop
  | .exits rid true =>
      (s.runs rid).all (fun
        | .proving _ prover => prover.finished
        | _ => true) = true
  | _ => True

/-- No write disturbs what is still to be read, and a prover that exits with success has
finished. -/
def Undisturbed (s : Runs st) (e : Event) : Prop :=
  (∀ w ∈ s.writeOf e, w.Spares s) ∧ s.ExitsFinished e

instance (s : Runs st) (w : Write) : Decidable (w.Spares s) := by
  unfold Write.Spares
  infer_instance

instance : ∀ (s : Runs st) (e : Event), Decidable (s.ExitsFinished e)
  | s, .exits rid true => inferInstanceAs (Decidable (Option.all _ (s.runs rid) = true))
  | _, .exits _ false => .isTrue trivial
  | _, .start .. | _, .nonce .. | _, .createDir .. | _, .writePart .. | _, .writeTx ..
  | _, .spawn .. | _, .proverReads _ | _, .proverWrites .. | _, .checkProof _ | _, .readProof ..
  | _, .readFacts .. | _, .submit .. => .isTrue trivial

instance (s : Runs st) (e : Event) : Decidable (Undisturbed s e) := by
  unfold Undisturbed
  infer_instance

/-! ### The invariant -/

/-- A prover has made its results of the transaction of its run. -/
structure Prover.Done (prover : Prover) (c : Construction st) : Prop where
  tx : prover.tx = some c.txText
  proof : (prover.wrote .proof).isSome
  proofFacts : (prover.wrote .proofFacts).isSome

/-- What is known of a run in flight. -/
def Phase.Sound (allSigned : List (ℕ × Signed st)) (rid : ℕ) : Phase st → Prop
  | .proving c prover => ∀ text, prover.tx = some text → text = c.txText
  | .proved c prover true | .readingProof c prover => prover.Done c
  | .readingFacts c prover proof => prover.Done c ∧ prover.wrote .proof = some proof
  | .submitting signed _ => (rid, signed) ∈ allSigned
  | _ => True

/-- What is still to be read is in the files, and the runs in flight have their own proofs. -/
structure Sound (s : Runs st) : Prop extends Unmixed s where
  held : Held s.files s.awaited
  phases : ∀ rid phase, s.runs rid = some phase → phase.Sound s.signed rid
  idle : ∀ rid, s.nextId ≤ rid → s.runs rid = none

theorem Phase.Sound.mono {allSigned allSigned' : List (ℕ × Signed st)} {rid : ℕ} {phase : Phase st}
    (h : phase.Sound allSigned rid) (hsub : ∀ x ∈ allSigned, x ∈ allSigned') :
    phase.Sound allSigned' rid := by
  unfold Phase.Sound at h ⊢
  split at h
  · exact h
  · exact h
  · exact h
  · exact h
  · exact hsub _ h
  · trivial

variable {s s' : Runs st} {rid : ℕ} {phase : Phase st} {next : Option (Phase st)}

theorem awaited_of_run {kind : SessionFile} (hrun : s.runs rid = some phase) :
    s.awaited (rid, kind) = phase.awaits kind := by
  rw [Runs.awaited, hrun, Option.bind_some]

/-- What is awaited of the other runs stays. -/
theorem awaited_of_ne (hruns : s'.runs = Function.update s.runs rid next) {i : ℕ × SessionFile}
    (hi : i.1 ≠ rid) : s'.awaited i = s.awaited i := by
  rw [Runs.awaited, hruns, Function.update_of_ne hi, Runs.awaited]

theorem awaited_update (hruns : s'.runs = Function.update s.runs rid next) {kind : SessionFile}
    {a : String × String} (ha : s'.awaited (rid, kind) = some a) :
    ∃ phase', next = some phase' ∧ phase'.awaits kind = some a := by
  rw [Runs.awaited, hruns, Function.update_self] at ha
  exact Option.bind_eq_some_iff.mp ha

theorem Sound.lt (h : Sound s) (hrun : s.runs rid = some phase) : rid < s.nextId := by
  by_contra hle
  rw [h.idle rid (not_lt.mp hle)] at hrun
  cases hrun

/-- The run `rid` becomes `next`. -/
theorem Sound.update (h : Sound s) (hruns : s'.runs = Function.update s.runs rid next)
    (hlt : rid < s'.nextId) (hle : s.nextId ≤ s'.nextId)
    (hsigned : ∀ x ∈ s.signed, x ∈ s'.signed)
    (hnext : ∀ phase', next = some phase' → phase'.Sound s'.signed rid) (hunmixed : Unmixed s')
    (hheld : Held s'.files s'.awaited) : Sound s' where
  toUnmixed := hunmixed
  held := hheld
  phases rid' phase' hrun := by
    rw [hruns] at hrun
    by_cases hne : rid' = rid
    · subst hne
      rw [Function.update_self] at hrun
      exact hnext phase' hrun
    · rw [Function.update_of_ne hne] at hrun
      exact (h.phases rid' phase' hrun).mono hsigned
  idle rid' hidle := by
    rw [hruns, Function.update_of_ne (hlt.trans_le hidle).ne']
    exact h.idle rid' (hle.trans hidle)

/-- Without a write, what is awaited stays when the run awaits nothing new. -/
theorem Sound.held_of_subset (h : Sound s) (hruns : s'.runs = Function.update s.runs rid next)
    (hfiles : s'.files = s.files)
    (hsub : ∀ phase', next = some phase' → ∀ kind a, phase'.awaits kind = some a →
      s.awaited (rid, kind) = some a) : Held s'.files s'.awaited := by
  rw [hfiles]
  refine h.held.mono fun i a ha => ?_
  obtain ⟨rid', kind⟩ := i
  by_cases hne : rid' = rid
  · subst hne
    obtain ⟨phase', hphase', ha'⟩ := awaited_update hruns ha
    exact hsub phase' hphase' kind a ha'
  · exact (awaited_of_ne hruns hne).symm.trans ha

/-- A run goes on without a write. -/
theorem Sound.goesOn {phase' : Phase st} (h : Sound s) (hrun : s.runs rid = some phase)
    (hnext : phase'.Sound s.signed rid)
    (hsub : ∀ kind a, phase'.awaits kind = some a → phase.awaits kind = some a) :
    Sound (s.goOn rid phase') := by
  refine h.update rfl (h.lt hrun) le_rfl (fun _ hx => hx) ?_ ⟨h.signed, h.submitted⟩ ?_
  · intro phase'' hphase''
    exact Option.some.inj hphase'' ▸ hnext
  · refine h.held_of_subset rfl rfl fun phase'' hphase'' kind a ha => ?_
    obtain rfl := Option.some.inj hphase''
    exact (awaited_of_run hrun).trans (hsub kind a ha)

/-- A run ends. -/
theorem Sound.ends (h : Sound s) (hrun : s.runs rid = some phase) : Sound (s.ends rid) :=
  h.update rfl (h.lt hrun) le_rfl (fun _ hx => hx) nofun ⟨h.signed, h.submitted⟩
    (h.held_of_subset rfl rfl nofun)

/-- A run ends with an error. -/
theorem Sound.fails (h : Sound s) (hrun : s.runs rid = some phase) (error : String) :
    Sound (s.fails rid error) :=
  h.update rfl (h.lt hrun) le_rfl (fun _ hx => hx) nofun ⟨h.signed, h.submitted⟩
    (h.held_of_subset rfl rfl nofun)

/-- A write that spares what is awaited. -/
theorem Sound.spares (h : Sound s) {w : Write} (hw : w.Spares s) :
    Spares s.awaited (w.rid, w.kind) w.file w.text := by
  rintro ⟨rid', kind'⟩ hne text' ha
  obtain ⟨phase', hrun', -⟩ := Option.bind_eq_some_iff.mp ha
  have hall := hw rid' (h.lt hrun') kind' hne
  rw [ha] at hall
  rcases of_decide_eq_true hall with hfile | htext
  · exact absurd rfl hfile
  · exact htext

/-- A run writes a file and goes on. -/
theorem Sound.writes {phase' : Phase st} {w : Write} (h : Sound s) (hw : w.Spares s)
    (hrun : s.runs w.rid = some phase) (hnext : phase'.Sound s.signed w.rid)
    (hown : ∀ a, phase'.awaits w.kind = some a → a = (w.file, w.text))
    (hsub : ∀ kind, kind ≠ w.kind → ∀ a, phase'.awaits kind = some a →
      phase.awaits kind = some a) : Sound ((s.write w.file w.text).goOn w.rid phase') := by
  refine h.update rfl (h.lt hrun) le_rfl (fun _ hx => hx) ?_ ⟨h.signed, h.submitted⟩ ?_
  · intro phase'' hphase''
    exact Option.some.inj hphase'' ▸ hnext
  · refine h.held.write (h.spares hw) ?_ ?_
    · rintro ⟨rid', kind⟩ hi a ha
      by_cases hne : rid' = w.rid
      · subst hne
        obtain ⟨phase'', hphase'', ha'⟩ := awaited_update rfl ha
        obtain rfl := Option.some.inj hphase''
        have hkind : kind ≠ w.kind := fun heq => hi (heq ▸ rfl)
        exact (awaited_of_run hrun).trans (hsub kind hkind a ha')
      · exact (awaited_of_ne rfl hne).symm.trans ha
    · intro a ha
      obtain ⟨phase'', hphase'', ha'⟩ := awaited_update rfl ha
      obtain rfl := Option.some.inj hphase''
      exact hown a ha'

/-! ### What the steps keep -/

/-- What the run reads of a text that its prover has written. -/
theorem Sound.read (h : Sound s) {c : Construction st} {prover : Prover} {kind : SessionFile}
    {text : String} (hrun : s.runs rid = some phase)
    (hawaits : phase.awaits kind = prover.result c kind) (hdone : (prover.wrote kind).isSome)
    (hfile : s.files (c.file kind) = some text) : prover.wrote kind = some text := by
  obtain ⟨text', htext'⟩ := Option.isSome_iff_exists.mp hdone
  have ha : s.awaited (rid, kind) = some (c.file kind, text') := by
    rw [awaited_of_run hrun, hawaits, Prover.result, htext', Option.map_some]
  rw [htext', ← h.held _ _ _ ha, hfile]

/-- A payload of the results of a prover that is done is the run's own. -/
theorem own_of_signProof {c : Construction st} {prover : Prover} {proof proofFactsStr : String}
    {signed : Signed st} (hdone : prover.Done c) (hproof : prover.wrote .proof = some proof)
    (hfacts : prover.wrote .proofFacts = some proofFactsStr)
    (h : signProof c prover proof proofFactsStr = .ok signed) : signed.Own := by
  obtain ⟨proofFacts, hproofFacts, h⟩ := bind_eq_ok.mp h
  obtain ⟨built, hbuilt, h⟩ := bind_eq_ok.mp h
  obtain rfl := pure_eq_ok.mp h
  exact {
    tx := hdone.tx
    calldata := c.parsed
    nonce := rfl
    proof := ⟨proof, hproof, rfl⟩
    proofFacts := ⟨proofFactsStr, hfacts, hproofFacts⟩
    payload := mapError_eq_ok.mp hbuilt }

/-- A run signs what is its own. -/
theorem Sound.signs {signed : Signed st} (h : Sound s) (hrun : s.runs rid = some phase)
    (hown : signed.Own) :
    Sound { s.goOn rid (.submitting signed 1) with signed := s.signed ++ [(rid, signed)] } := by
  have hsub (x : ℕ × Signed st) (hx : x ∈ s.signed) : x ∈ s.signed ++ [(rid, signed)] :=
    List.mem_append_left _ hx
  refine h.update rfl (h.lt hrun) le_rfl hsub ?_ ⟨?_, ?_⟩ ?_
  · intro phase' hphase'
    obtain rfl := Option.some.inj hphase'
    exact List.mem_append_right _ (List.mem_singleton_self _)
  · intro rid' signed' hmem
    rcases List.mem_append.mp hmem with hmem | hmem
    · exact h.signed rid' signed' hmem
    · obtain ⟨-, rfl⟩ := Prod.mk.inj (List.mem_singleton.mp hmem)
      exact hown
  · intro rid' invokeTx hmem
    obtain ⟨signed', hsigned', htx⟩ := h.submitted rid' invokeTx hmem
    exact ⟨signed', hsub _ hsigned', htx⟩
  · refine h.held_of_subset rfl rfl fun phase' hphase' kind a ha => ?_
    obtain rfl := Option.some.inj hphase'
    cases kind <;> cases ha

/-- A run submits what it has signed. -/
theorem Sound.submits {signed : Signed st} (h : Sound s) (hsigned : (rid, signed) ∈ s.signed) :
    Sound { s with submitted := s.submitted ++ [(rid, signed.invokeTx)] } where
  signed := h.signed
  submitted rid' invokeTx hmem := by
    rcases List.mem_append.mp hmem with hmem | hmem
    · exact h.submitted rid' invokeTx hmem
    · obtain ⟨rfl, rfl⟩ := Prod.mk.inj (List.mem_singleton.mp hmem)
      exact ⟨signed, hsigned, rfl⟩
  held := h.held
  phases := h.phases
  idle := h.idle

/-- A run arrives. -/
theorem Sound.arrives (h : Sound s) (job : ProveJob) :
    Sound { s with
      nextId := s.nextId + 1
      runs := Function.update s.runs s.nextId (some (.constructing job)) } := by
  refine h.update rfl (Nat.lt_succ_self _) (Nat.le_succ _) (fun _ hx => hx) ?_
    ⟨h.signed, h.submitted⟩ ?_
  · intro phase' hphase'
    exact Option.some.inj hphase' ▸ trivial
  · refine h.held_of_subset rfl rfl fun phase' hphase' kind a ha => ?_
    obtain rfl := Option.some.inj hphase'
    cases kind <;> cases ha

/-- A request is rejected. -/
theorem Sound.rejects (h : Sound s) : Sound { s with nextId := s.nextId + 1 } where
  toUnmixed := ⟨h.signed, h.submitted⟩
  held := h.held
  phases := h.phases
  idle rid' hle := h.idle rid' ((Nat.le_succ _).trans hle)

/-- **What a step keeps**, when it disturbs nothing. -/
theorem sound_step {e : Event} (h : Sound s) (hC : Undisturbed s e) (hs : step s e = some s') :
    Sound s' := by
  cases e with
  | start rid session sessionId params =>
      simp only [step] at hs
      split at hs
      · next hrid =>
          subst hrid
          split at hs
          · split at hs
            · obtain rfl := Option.some.inj hs
              exact h.arrives _
            · obtain rfl := Option.some.inj hs
              exact h.rejects
          · obtain rfl := Option.some.inj hs
            exact h.rejects
      · cases hs
  | nonce rid reply =>
      simp only [step] at hs
      split at hs
      · next job hrun =>
          split at hs
          · obtain rfl := Option.some.inj hs
            exact h.goesOn hrun trivial fun kind a ha => by cases kind <;> cases ha
          · obtain rfl := Option.some.inj hs
            exact h.fails hrun _
      · cases hs
  | createDir rid outcome =>
      simp only [step] at hs
      split at hs
      · next hrun =>
          obtain rfl := Option.some.inj hs
          exact h.goesOn hrun trivial fun kind a ha => by cases kind <;> cases ha
      · next hrun =>
          obtain rfl := Option.some.inj hs
          exact h.fails hrun _
      · cases hs
  | writePart rid text =>
      simp only [step] at hs
      split at hs
      · next c hrun =>
          obtain rfl := Option.some.inj hs
          have hw : Write.Spares ⟨rid, .tx, c.file .tx, text⟩ s :=
            hC.1 _ (by simp only [Runs.writeOf, hrun, Option.mem_def])
          exact h.writes hw hrun trivial nofun fun kind _ a ha => by cases kind <;> cases ha
      · cases hs
  | writeTx rid outcome =>
      simp only [step] at hs
      split at hs
      · next _ c hrun =>
          obtain rfl := Option.some.inj hs
          have hw : Write.Spares ⟨rid, .tx, c.file .tx, c.txText⟩ s :=
            hC.1 _ (by simp only [Runs.writeOf, hrun, Option.mem_def])
          refine h.writes hw hrun trivial (fun a ha => (Option.some.inj ha).symm) ?_
          intro kind hkind a ha
          cases kind with
          | tx => exact absurd rfl hkind
          | proof | messages | proofFacts => cases ha
      · next hrun =>
          obtain rfl := Option.some.inj hs
          exact h.fails hrun _
      · cases hs
  | spawn rid outcome =>
      simp only [step] at hs
      split at hs
      · next _ c hrun =>
          obtain rfl := Option.some.inj hs
          refine h.goesOn hrun nofun fun kind a ha => ?_
          cases kind with
          | tx => exact ha
          | proof | messages | proofFacts => cases ha
      · next hrun =>
          obtain rfl := Option.some.inj hs
          exact h.fails hrun _
      · cases hs
  | proverReads rid =>
      simp only [step] at hs
      split at hs
      · next c _ hrun =>
          split at hs
          · next text hfile =>
              obtain rfl := Option.some.inj hs
              have htext : text = c.txText := by
                have ha : s.awaited (rid, .tx) = some (c.file .tx, c.txText) :=
                  awaited_of_run hrun
                exact Option.some.inj (hfile.symm.trans (h.held _ _ _ ha))
              refine h.goesOn hrun (fun text' htext' => ?_) fun kind a ha => ?_
              · exact (Option.some.inj htext').symm.trans htext
              · cases kind <;> cases ha
          · cases hs
      · cases hs
  | proverWrites rid kind text =>
      simp only [step] at hs
      split at hs
      · next c prover hrun =>
          split at hs
          · cases hs
          · next hkind =>
              obtain rfl := Option.some.inj hs
              have hw : Write.Spares ⟨rid, kind, c.file kind, text⟩ s :=
                hC.1 _ (by simp only [Runs.writeOf, hrun, Option.mem_def])
              have hown : ∀ text, prover.tx = some text → text = c.txText := h.phases rid _ hrun
              refine h.writes hw hrun hown (fun a ha => ?_) fun kind' hkind' a ha => ?_
              · cases kind with
                | tx => exact absurd rfl hkind
                | messages => cases ha
                | proof | proofFacts =>
                    exact Option.some.inj (ha.symm.trans (prover.result_write_self c _ text))
              · cases kind' with
                | tx => exact ha
                | messages => cases ha
                | proof | proofFacts =>
                    exact (prover.result_write_of_ne c text hkind').symm.trans ha
      · cases hs
  | exits rid success =>
      simp only [step] at hs
      split at hs
      · next c prover hrun =>
          obtain rfl := Option.some.inj hs
          cases success with
          | false =>
              exact h.goesOn hrun trivial fun kind a ha => by cases kind <;> cases ha
          | true =>
              have hfinished := hC.2
              simp only [Runs.ExitsFinished, hrun, Option.all_some, Prover.finished,
                Bool.and_eq_true] at hfinished
              obtain ⟨⟨htx, hproof⟩, hfacts⟩ := hfinished
              obtain ⟨text, htext⟩ := Option.isSome_iff_exists.mp htx
              have hown : text = c.txText := h.phases rid _ hrun text htext
              refine h.goesOn hrun ⟨htext.trans (congrArg some hown), hproof, hfacts⟩ ?_
              intro kind a ha
              cases kind with
              | proof | proofFacts => exact ha
              | tx | messages => cases ha
      · cases hs
  | checkProof rid =>
      simp only [step] at hs
      split at hs
      · next c prover success hrun =>
          split at hs
          · obtain rfl := Option.some.inj hs
            exact h.fails hrun _
          · next hfound =>
              obtain rfl := Option.some.inj hs
              obtain ⟨hsuccess, -⟩ := not_or.mp hfound
              obtain rfl : success = true := Bool.eq_true_of_not_eq_false hsuccess
              have hdone : prover.Done c := h.phases rid _ hrun
              refine h.goesOn hrun hdone fun kind a ha => ?_
              cases kind <;> exact ha
      · cases hs
  | readProof rid error =>
      simp only [step] at hs
      split at hs
      · next c prover hrun =>
          split at hs
          · next proof hfile =>
              obtain rfl := Option.some.inj hs
              have hdone : prover.Done c := h.phases rid _ hrun
              have hproof := h.read hrun rfl hdone.proof hfile
              refine h.goesOn hrun ⟨hdone, hproof⟩ fun kind a ha => ?_
              cases kind with
              | proofFacts => exact ha
              | tx | proof | messages => cases ha
          · cases hs
      · next hrun =>
          obtain rfl := Option.some.inj hs
          exact h.fails hrun _
      · cases hs
  | readFacts rid error =>
      simp only [step] at hs
      split at hs
      · next c prover proof hrun =>
          split at hs
          · next proofFactsStr hfile =>
              split at hs
              · next signed hsign =>
                  obtain rfl := Option.some.inj hs
                  obtain ⟨hdone, hproof⟩ : prover.Done c ∧ prover.wrote .proof = some proof :=
                    h.phases rid _ hrun
                  have hfacts := h.read hrun rfl hdone.proofFacts hfile
                  exact h.signs hrun (own_of_signProof hdone hproof hfacts hsign)
              · obtain rfl := Option.some.inj hs
                exact h.fails hrun _
          · cases hs
      · next hrun =>
          obtain rfl := Option.some.inj hs
          exact h.fails hrun _
      · cases hs
  | submit rid reply =>
      simp only [step] at hs
      split at hs
      · next signed attempt hrun =>
          have hsigned : (rid, signed) ∈ s.signed := h.phases rid _ hrun
          have hsubmits := h.submits hsigned
          split at hs
          · obtain rfl := Option.some.inj hs
            exact hsubmits.ends hrun
          · split at hs
            · obtain rfl := Option.some.inj hs
              exact hsubmits.goesOn hrun hsigned fun kind a ha => by cases kind <;> cases ha
            · obtain rfl := Option.some.inj hs
              exact hsubmits.fails hrun _
          · obtain rfl := Option.some.inj hs
            exact hsubmits.fails hrun _
      · cases hs

theorem sound_new (files : String → Option String) : Sound (Runs.new files : Runs st) where
  signed _ _ hmem := absurd hmem List.not_mem_nil
  submitted _ _ hmem := absurd hmem List.not_mem_nil
  held _ _ _ ha := absurd ha (Option.some_ne_none _).symm
  phases _ _ hrun := absurd hrun (Option.some_ne_none _).symm
  idle _ _ := rfl

/-- **What is signed is the run's own**, when no write disturbs what is still to be read and the
provers that exit with success have finished. -/
theorem unmixed_of_undisturbed {files : String → Option String} {es : List Event}
    (hsteps : EveryStep step (Runs.new files : Runs st) es Undisturbed) :
    EveryState step (Runs.new files : Runs st) es Unmixed :=
  (everyState_of_everyStep (sound_new files) (fun _ _ _ => sound_step) hsteps).mono
    fun _ h => h.toUnmixed

/-- A setting whose texts of facts are `["0x1"]` and `["0x2"]`. -/
def sampleSetting : Setting where
  fh := sampleHex
  sc := sampleCrypto
  serde := {
    toString := Json.compact
    toStringPretty := Json.compact
    fromStr := fun _ => .error "expected value at line 1 column 1"
    stringsFromStr := fun text =>
      if text = "[\"0x1\"]" then .ok ["0x1"]
      else if text = "[\"0x2\"]" then .ok ["0x2"]
      else .error "expected value at line 1 column 1" }
  o := sampleOutcomes none
  resolve := id

/-- Two runs, of two sessions or of one: the prover of the second writes while the first reads. -/
def twoRuns (sessionId sessionId' : String) : List Event := [
  .start 0 ⟨some "0x5", some 3, none⟩ sessionId ⟨1, 1⟩,
  .start 1 ⟨some "0x5", some 3, none⟩ sessionId' ⟨2, 1⟩,
  .nonce 0 (.ok 7),
  .nonce 1 (.ok 7),
  .createDir 0 (.ok ()),
  .writeTx 0 (.ok ()),
  .spawn 0 (.ok ()),
  .proverReads 0,
  .createDir 1 (.ok ()),
  .writeTx 1 (.ok ()),
  .spawn 1 (.ok ()),
  .proverReads 1,
  .proverWrites 0 .proof "AQID\n",
  .proverWrites 0 .proofFacts "[\"0x1\"]",
  .exits 0 true,
  .checkProof 0,
  .readProof 0 none,
  .proverWrites 1 .proof "BAUG\n",
  .proverWrites 1 .proofFacts "[\"0x2\"]",
  .readFacts 0 none,
  .submit 0 (.ok "0x31"),
  .exits 1 true,
  .checkProof 1,
  .readProof 1 none,
  .readFacts 1 none,
  .submit 1 (.ok "0x32")]

/-- The theorem, for two sessions. -/
theorem unmixed_twoSessions :
    EveryState step (Runs.new fun _ => none : Runs sampleSetting) (twoRuns "a" "b") Unmixed :=
  unmixed_of_undisturbed (everyStep_of_everyStep? (by decide +kernel))

/-- What the sample shows of a signed run. -/
def Signed.view (x : ℕ × Signed st) : ℕ × String × List Felt × Option String :=
  (x.1, x.2.params.proofBase64, x.2.params.proofFacts, x.2.prover.wrote .proofFacts)

/-- Of two runs of one session, the first signs its own proof with the facts of the second. -/
theorem oneSession_mixed :
    ∃ s, Run step (Runs.new fun _ => none : Runs sampleSetting) (twoRuns "a" "a") s ∧
      s.signed.map Signed.view = [(0, "AQID", [2], some "[\"0x1\"]"),
        (1, "BAUG", [2], some "[\"0x2\"]")] ∧
      ¬ Unmixed s := by
  have hview : (runEvents step (Runs.new fun _ => none : Runs sampleSetting)
      (twoRuns "a" "a")).map (fun s => s.signed.map Signed.view)
        = some [(0, "AQID", [2], some "[\"0x1\"]"), (1, "BAUG", [2], some "[\"0x2\"]")] := by
    decide +kernel
  obtain ⟨s, hs, hsigned⟩ := Option.map_eq_some_iff.mp hview
  refine ⟨s, Run.of_runEvents hs, hsigned, fun h => ?_⟩
  have hmem : (0, "AQID", [2], some "[\"0x1\"]") ∈ s.signed.map Signed.view := by
    rw [hsigned]
    exact List.mem_cons_self
  obtain ⟨⟨rid, signed⟩, hsigned', hview'⟩ := List.mem_map.mp hmem
  simp only [Signed.view, Prod.mk.injEq] at hview'
  obtain ⟨-, -, hfacts, hwrote⟩ := hview'
  obtain ⟨text, htext, hparsed⟩ := (h.signed rid signed hsigned').proofFacts
  obtain rfl := Option.some.inj (htext.symm.trans hwrote)
  rw [hfacts] at hparsed
  exact absurd hparsed (by decide +kernel)

end Snip36.Playground.BlockFiles

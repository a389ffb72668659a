import Snip36.Streams.ProveBlock
import Snip36.Streams.Results
import Snip36.Support.Runs

/-!
# Streams — the lines of a prover

`play_coinflip`, `prove_block` and `prove` send the output of their prover while it runs: two
readers take its lines off its pipes and send them into the channel of the stream, beside the task
that waits for the prover.  The channel holds 64 events, a pipe some lines, and the client may go
away at any time.

`proverLines_told`: in every interleaving the response carries the events of each sender in their
order, none twice and none left out; it ends, and nothing is stuck before.  `prove_block` and
`prove` await their readers before they wait for the prover, so the event that ends their stream is
the last one and comes after every line.  `play_coinflip` does not, and lines may come after its
result (`handler_endsWithTerminal_iff`).
-/

namespace Snip36.Streams
open Support Signing CoinFlip

/-! ### Jobs -/

/-- A pipe of the prover. -/
inductive Pipe where
  | stdout
  | stderr
  deriving DecidableEq

/-- Who sends an event. -/
inductive Sender where
  | task
  | reader (pipe : Pipe)
  deriving DecidableEq

/-- A line of the prover, `none` when it is not UTF-8. -/
abbrev Line := Option String

/-- A prover that is spawned, and what the task does after its wait for it. -/
structure ProverRun where
  lines : Pipe → List Line
  after : List Action

/-- What a task does, around its prover. -/
structure Job where
  before : List Action
  prover : Option ProverRun

/-- How a handler reads the lines of its prover. -/
structure Reading where
  /-- An empty line is sent. -/
  sendsEmpty : Bool
  /-- The task awaits the readers before the prover. -/
  awaitsReaders : Bool

namespace Reading

/-- A line is sent. -/
def sends (reading : Reading) (line : String) : Bool := reading.sendsEmpty || line ≠ ""

/-- The events of a reader: it stops at a line that it cannot read. -/
def told (reading : Reading) : List Line → List Action
  | some line :: lines =>
      if reading.sends line then .send "log" line :: reading.told lines else reading.told lines
  | none :: _ | [] => []

/-- A reader sends logs. -/
theorem exists_of_mem_told {reading : Reading} {lines : List Line} {event : Action}
    (h : event ∈ reading.told lines) : ∃ line, event = .send "log" line := by
  induction lines with
  | nil => exact absurd h List.not_mem_nil
  | cons line lines ih =>
      cases line with
      | none => exact absurd h List.not_mem_nil
      | some line =>
          rw [told] at h
          split at h
          · rcases List.mem_cons.mp h with rfl | h
            · exact ⟨line, rfl⟩
            · exact ih h
          · exact ih h

end Reading

/-- An event that is sent into the channel. -/
def Action.isSend : Action → Bool
  | .send .. => true
  | .setReferenceBlock .. => false

namespace Job

/-- What the task does after its wait. -/
def after (job : Job) : List Action := job.prover.elim [] ProverRun.after

/-- What the prover writes. -/
def lines (job : Job) (pipe : Pipe) : List Line := job.prover.elim [] fun run => run.lines pipe

/-- The events of a sender. -/
def events (job : Job) (reading : Reading) : Sender → List Action
  | .task => (job.before ++ job.after).filter Action.isSend
  | .reader pipe => reading.told (job.lines pipe)

theorem events_reader {job : Job} {reading : Reading} {run : ProverRun}
    (h : job.prover = some run) (pipe : Pipe) :
    job.events reading (.reader pipe) = reading.told (run.lines pipe) := by
  rw [events, lines, h]
  rfl

/-- The job of a task that spawns its prover after an event. -/
def ofTask (task : Task Unit) (mark : Action) (spawned : Bool) (lines : Pipe → List Line) : Job :=
  let n := task.events.idxOf mark + 1
  if spawned = false ∨ task.events.drop n = [] then ⟨task.events, none⟩
  else ⟨task.events.take n, some ⟨lines, task.events.drop n⟩⟩

/-- A terminal event of the task is its last, and the task goes on after its wait. -/
structure Closes (job : Job) : Prop where
  last : ∀ xs event ys, job.before ++ job.after = xs ++ event :: ys → event.Terminal → ys = []
  after : ∀ run, job.prover = some run → run.after ≠ []

variable {job : Job} {reading : Reading}

/-- The terminal event is the last of those that the task sends. -/
theorem Closes.last_event (h : job.Closes) {xs ys : List Action} {event : Action}
    (heq : job.events reading .task = xs ++ event :: ys) (hterminal : event.Terminal) :
    ys = [] := by
  rw [events, List.filter_eq_append_iff] at heq
  obtain ⟨l₁, l₂, hl, rfl, hl₂⟩ := heq
  obtain ⟨l₃, l₄, rfl, hl₃, -, rfl⟩ := List.filter_eq_cons_iff.mp hl₂
  have hlast := h.last (l₁ ++ l₃) event l₄ (by rw [hl]; simp) hterminal
  rw [hlast, List.filter_nil]

/-- It is not sent before the prover is spawned. -/
theorem Closes.not_mem_before (h : job.Closes) {event : Action} (hterminal : event.Terminal)
    {run : ProverRun} (hrun : job.prover = some run) : event ∉ job.before := by
  intro hmem
  obtain ⟨xs, ys, hbefore⟩ := List.append_of_mem hmem
  have hnil := h.last xs event (ys ++ job.after) (by rw [hbefore]; simp) hterminal
  have hafter : job.after = run.after := by rw [Job.after, hrun]; rfl
  exact h.after run hrun (hafter ▸ (List.append_eq_nil_iff.mp hnil).2)

end Job

/-! ### A stream -/

/-- What a reader does next. -/
inductive Reader where
  | reads
  | sends (line : String)
  | ended
  deriving DecidableEq

/-- Where a task is. -/
inductive Stage where
  | before
  | waits
  | after
  deriving DecidableEq

/-- A task with its prover, its readers and its channel, and what the response has carried. -/
structure Stream where
  stage : Stage
  todo : List Action
  /-- What the prover has still to write. -/
  left : Pipe → List Line
  exited : Bool
  /-- What is in the pipes. -/
  pipe : Pipe → List Line
  reader : Pipe → Reader
  channel : List (Sender × Action)
  /-- The receiver of the channel is there. -/
  receiver : Bool
  body : List (Sender × Action)

/-- The moves of a stream. -/
inductive Move where
  /-- The task goes on. -/
  | acts
  | spawns
  | writes (pipe : Pipe)
  | exits
  /-- The wait for the prover is over. -/
  | awaited
  | reads (pipe : Pipe)
  /-- A reader comes to the end of its pipe. -/
  | closes (pipe : Pipe)
  | forwards (pipe : Pipe)
  /-- The response takes an event from the channel. -/
  | takes
  /-- The response is dropped. -/
  | drops
  deriving DecidableEq

namespace Stream

/-- `tx.send(event).await`: it waits for a place, and fails when the receiver is dropped. -/
def send (s : Stream) (sender : Sender) (event : Action) : Option Stream :=
  if s.receiver then
    if s.channel.length < 64 then some { s with channel := s.channel ++ [(sender, event)] }
    else none
  else some s

def setReader (s : Stream) (pipe : Pipe) (reader : Reader) : Stream :=
  { s with reader := Function.update s.reader pipe reader }

def setPipe (s : Stream) (pipe : Pipe) (lines : List Line) : Stream :=
  { s with pipe := Function.update s.pipe pipe lines }

def setLeft (s : Stream) (pipe : Pipe) (lines : List Line) : Stream :=
  { s with left := Function.update s.left pipe lines }

/-- A task that begins. -/
def start (job : Job) : Stream where
  stage := .before
  todo := job.before
  left _ := []
  exited := false
  pipe _ := []
  reader _ := .ended
  channel := []
  receiver := true
  body := []

variable (reading : Reading) (job : Job) (room : ℕ)

/-- One move; a pipe has room for some lines. -/
def step (s : Stream) : Move → Option Stream
  | .acts =>
      match s.todo with
      | .send event data :: todo => { s with todo }.send .task (.send event data)
      | .setReferenceBlock .. :: todo => some { s with todo }
      | [] => none
  | .spawns =>
      match s.stage, s.todo, job.prover with
      | .before, [], some run =>
          some { s with
            stage := .waits
            left := run.lines
            reader := fun _ => .reads }
      | _, _, _ => none
  | .writes pipe =>
      match s.left pipe with
      | line :: lines =>
          -- Nobody reads from the pipe of a reader that has ended.
          if s.reader pipe = .ended then some (s.setLeft pipe lines)
          else if (s.pipe pipe).length < room then
            some ((s.setLeft pipe lines).setPipe pipe (s.pipe pipe ++ [line]))
          else none
      | [] => none
  | .exits =>
      if s.stage = .waits ∧ s.exited = false ∧ s.left .stdout = [] ∧ s.left .stderr = [] then
        some { s with exited := true }
      else none
  | .awaited =>
      if s.stage = .waits ∧ s.exited ∧ (reading.awaitsReaders →
          s.reader .stdout = .ended ∧ s.reader .stderr = .ended) then
        some { s with
          stage := .after
          todo := job.after }
      else none
  | .reads pipe =>
      match s.reader pipe, s.pipe pipe with
      | .reads, some line :: lines =>
          if reading.sends line then some ((s.setPipe pipe lines).setReader pipe (.sends line))
          else some (s.setPipe pipe lines)
      -- `while let Ok(Some(line)) = lines.next_line().await`
      | .reads, none :: _ => some ((s.setPipe pipe []).setReader pipe .ended)
      | _, _ => none
  | .closes pipe =>
      if s.reader pipe = .reads ∧ s.pipe pipe = [] ∧ s.exited then some (s.setReader pipe .ended)
      else none
  | .forwards pipe =>
      match s.reader pipe with
      | .sends line => (s.setReader pipe .reads).send (.reader pipe) (.send "log" line)
      | _ => none
  | .takes =>
      match s.channel with
      | m :: channel => some { s with
          channel
          body := s.body ++ [m] }
      | [] => none
  | .drops =>
      if s.receiver then some { s with
        receiver := false
        channel := [] }
      else none

/-- Everything is done. -/
structure Settled (s : Stream) : Prop where
  stage : s.stage = .after ∨ job.prover = none
  todo : s.todo = []
  readers : ∀ pipe, s.reader pipe = .ended
  channel : s.channel = []

/-! ### Moves -/

variable {reading : Reading} {job : Job} {room : ℕ} {s s' : Stream}

/-- A send finds a place, or no receiver. -/
theorem send_eq_some {sender : Sender} {event : Action} (h : s.send sender event = some s') :
    (s.receiver = true ∧ s' = { s with channel := s.channel ++ [(sender, event)] }) ∨
      (s.receiver = false ∧ s' = s) := by
  rw [send] at h
  split at h
  · next hreceiver =>
      split at h
      · exact .inl ⟨hreceiver, (Option.some.inj h).symm⟩
      · cases h
  · next hreceiver => exact .inr ⟨Bool.eq_false_iff.mpr hreceiver, (Option.some.inj h).symm⟩

variable (reading job) in
/-- The moves, each with what it finds. -/
inductive Moves (s : Stream) : Stream → Prop where
  | sends {event data : String} {todo : List Action} {s' : Stream}
      (htodo : s.todo = .send event data :: todo)
      (hs : { s with todo }.send .task (.send event data) = some s') : Moves s s'
  | sets {sessionId : String} {block : BitVec 64} {todo : List Action}
      (htodo : s.todo = .setReferenceBlock sessionId block :: todo) : Moves s { s with todo }
  | spawns {run : ProverRun} (hstage : s.stage = .before) (htodo : s.todo = [])
      (hrun : job.prover = some run) :
      Moves s { s with
        stage := .waits
        left := run.lines
        reader := fun _ => .reads }
  | loses {pipe : Pipe} {line : Line} {lines : List Line} (hleft : s.left pipe = line :: lines)
      (hreader : s.reader pipe = .ended) : Moves s (s.setLeft pipe lines)
  | writes {pipe : Pipe} {line : Line} {lines : List Line} (hleft : s.left pipe = line :: lines)
      (hreader : s.reader pipe ≠ .ended) :
      Moves s ((s.setLeft pipe lines).setPipe pipe (s.pipe pipe ++ [line]))
  | exits (hstage : s.stage = .waits) (hexited : s.exited = false)
      (hleft : ∀ pipe, s.left pipe = []) : Moves s { s with exited := true }
  | awaited (hstage : s.stage = .waits) (hexited : s.exited = true)
      (hreaders : reading.awaitsReaders → ∀ pipe, s.reader pipe = .ended) :
      Moves s { s with
        stage := .after
        todo := job.after }
  | reads {pipe : Pipe} {line : String} {lines : List Line} (hreader : s.reader pipe = .reads)
      (hpipe : s.pipe pipe = some line :: lines) (hsends : reading.sends line = true) :
      Moves s ((s.setPipe pipe lines).setReader pipe (.sends line))
  | skips {pipe : Pipe} {line : String} {lines : List Line} (hreader : s.reader pipe = .reads)
      (hpipe : s.pipe pipe = some line :: lines) (hsends : reading.sends line = false) :
      Moves s (s.setPipe pipe lines)
  | stops {pipe : Pipe} {lines : List Line} (hreader : s.reader pipe = .reads)
      (hpipe : s.pipe pipe = none :: lines) :
      Moves s ((s.setPipe pipe []).setReader pipe .ended)
  | closes {pipe : Pipe} (hreader : s.reader pipe = .reads) (hpipe : s.pipe pipe = [])
      (hexited : s.exited = true) : Moves s (s.setReader pipe .ended)
  | forwards {pipe : Pipe} {line : String} {s' : Stream} (hreader : s.reader pipe = .sends line)
      (hs : (s.setReader pipe .reads).send (.reader pipe) (.send "log" line) = some s') :
      Moves s s'
  | takes {m : Sender × Action} {channel : List (Sender × Action)}
      (hchannel : s.channel = m :: channel) :
      Moves s { s with
        channel
        body := s.body ++ [m] }
  | drops (hreceiver : s.receiver = true) :
      Moves s { s with
        receiver := false
        channel := [] }

theorem forall_pipe {P : Pipe → Prop} : (∀ pipe, P pipe) ↔ P .stdout ∧ P .stderr :=
  ⟨fun h => ⟨h _, h _⟩, fun h pipe => by cases pipe <;> simp [h]⟩

/-- **A step is one of the moves.** -/
theorem step_moves {m : Move} (hs : s.step reading job room m = some s') :
    Moves reading job s s' := by
  cases m with
  | acts =>
      simp only [step] at hs
      split at hs
      · next htodo => exact .sends htodo hs
      · next htodo =>
          obtain rfl := Option.some.inj hs
          exact .sets htodo
      · cases hs
  | spawns =>
      simp only [step] at hs
      split at hs
      · next hstage htodo hrun =>
          obtain rfl := Option.some.inj hs
          exact .spawns hstage htodo hrun
      · cases hs
  | writes pipe =>
      simp only [step] at hs
      split at hs
      · next hleft =>
          split at hs
          · next hreader =>
              obtain rfl := Option.some.inj hs
              exact .loses hleft hreader
          · next hreader =>
              split at hs
              · obtain rfl := Option.some.inj hs
                exact .writes hleft hreader
              · cases hs
      · cases hs
  | exits =>
      simp only [step] at hs
      split at hs
      · next h =>
          obtain rfl := Option.some.inj hs
          exact .exits h.1 h.2.1 (forall_pipe.mpr h.2.2)
      · cases hs
  | awaited =>
      simp only [step] at hs
      split at hs
      · next h =>
          obtain rfl := Option.some.inj hs
          exact .awaited h.1 h.2.1 fun hawaits => forall_pipe.mpr (h.2.2 hawaits)
      · cases hs
  | reads pipe =>
      simp only [step] at hs
      split at hs
      · next hreader hpipe =>
          split at hs
          · next hsends =>
              obtain rfl := Option.some.inj hs
              exact .reads hreader hpipe hsends
          · next hsends =>
              obtain rfl := Option.some.inj hs
              exact .skips hreader hpipe (Bool.eq_false_iff.mpr hsends)
      · next hreader hpipe =>
          obtain rfl := Option.some.inj hs
          exact .stops hreader hpipe
      · cases hs
  | closes pipe =>
      simp only [step] at hs
      split at hs
      · next h =>
          obtain rfl := Option.some.inj hs
          exact .closes h.1 h.2.1 h.2.2
      · cases hs
  | forwards pipe =>
      simp only [step] at hs
      split at hs
      · next hreader => exact .forwards hreader hs
      · cases hs
  | takes =>
      simp only [step] at hs
      split at hs
      · next hchannel =>
          obtain rfl := Option.some.inj hs
          exact .takes hchannel
      · cases hs
  | drops =>
      simp only [step] at hs
      split at hs
      · next hreceiver =>
          obtain rfl := Option.some.inj hs
          exact .drops hreceiver
      · cases hs

/-! ### Stages -/

variable (reading job) in
/-- What the stages say. -/
structure Staged (s : Stream) : Prop where
  spawned : s.stage ≠ .before → job.prover.isSome
  before : s.stage = .before →
    s.exited = false ∧ ∀ pipe, s.reader pipe = .ended ∧ s.left pipe = [] ∧ s.pipe pipe = []
  waits : s.stage = .waits → s.todo = []
  after : s.stage = .after →
    s.exited = true ∧ (reading.awaitsReaders → ∀ pipe, s.reader pipe = .ended)
  exited : s.exited = true → ∀ pipe, s.left pipe = []
  dropped : s.receiver = false → s.channel = []

theorem staged_start : (start job).Staged reading job where
  spawned h := absurd rfl h
  before _ := ⟨rfl, fun _ => ⟨rfl, rfl, rfl⟩⟩
  waits h := by cases h
  after h := by cases h
  exited h := by cases h
  dropped h := by cases h

/-- What a send changes. -/
theorem Staged.send {sender : Sender} {event : Action} (h : s.Staged reading job)
    (hs : s.send sender event = some s') : s'.Staged reading job := by
  rcases send_eq_some hs with ⟨hreceiver, rfl⟩ | ⟨-, rfl⟩
  · exact { h with dropped := fun hdropped => absurd hdropped (by simp [hreceiver]) }
  · exact h

/-- A reader that has not ended has been spawned, and is not awaited yet. -/
theorem Staged.stage_of_reader (h : s.Staged reading job) {pipe : Pipe}
    (hreader : s.reader pipe ≠ .ended) :
    s.stage ≠ .before ∧ (s.stage = .after → reading.awaitsReaders = false) := by
  refine ⟨fun hstage => hreader ((h.before hstage).2 pipe).1, fun hstage => ?_⟩
  by_contra hawaits
  exact hreader ((h.after hstage).2 (Bool.not_eq_false _ ▸ hawaits) pipe)

/-- A reader goes on. -/
theorem Staged.setReader (h : s.Staged reading job) {pipe : Pipe} (hreader : s.reader pipe ≠ .ended)
    (reader : Reader) : (s.setReader pipe reader).Staged reading job := by
  obtain ⟨hbefore, hafter⟩ := h.stage_of_reader hreader
  exact { h with
    before := fun hstage => absurd hstage hbefore
    after := fun hstage => ⟨(h.after hstage).1, fun hawaits =>
      absurd hawaits (Bool.eq_false_iff.mp (hafter hstage))⟩ }

/-- Lines come or go. -/
theorem Staged.setPipe (h : s.Staged reading job) {pipe : Pipe} (hstage : s.stage ≠ .before)
    (lines : List Line) : (s.setPipe pipe lines).Staged reading job :=
  { h with before := fun hbefore => absurd hbefore hstage }

/-- The prover writes. -/
theorem Staged.setLeft (h : s.Staged reading job) {pipe : Pipe} {line : Line} {lines : List Line}
    (hleft : s.left pipe = line :: lines) :
    s.stage ≠ .before ∧ (s.setLeft pipe lines).Staged reading job := by
  have hstage : s.stage ≠ .before := by
    intro hstage
    rw [((h.before hstage).2 pipe).2.1] at hleft
    cases hleft
  refine ⟨hstage, { h with before := fun hbefore => absurd hbefore hstage, exited := ?_ }⟩
  intro hexited
  rw [h.exited hexited pipe] at hleft
  cases hleft

theorem Staged.step (h : s.Staged reading job) (hs : Moves reading job s s') :
    s'.Staged reading job := by
  cases hs with
  | @sends _ _ todo _ htodo hs =>
      have hstage : s.stage ≠ .waits := by
        intro hstage
        rw [h.waits hstage] at htodo
        cases htodo
      have hsound : Stream.Staged reading job { s with todo } :=
        { h with waits := fun hwaits => absurd hwaits hstage }
      exact hsound.send hs
  | sets htodo =>
      have hstage : s.stage ≠ .waits := by
        intro hstage
        rw [h.waits hstage] at htodo
        cases htodo
      exact { h with waits := fun hwaits => absurd hwaits hstage }
  | spawns hstage htodo hrun =>
      exact {
        spawned := fun _ => hrun ▸ rfl
        before := by rintro ⟨⟩
        waits := fun _ => htodo
        after := by rintro ⟨⟩
        exited := fun hexited => absurd hexited (by simp [(h.before hstage).1])
        dropped := h.dropped }
  | loses hleft _ => exact (h.setLeft hleft).2
  | writes hleft _ =>
      obtain ⟨hstage, hsound⟩ := h.setLeft hleft
      exact hsound.setPipe hstage _
  | exits hstage _ hleft =>
      exact { h with
        before := fun hbefore => by cases hstage.symm.trans hbefore
        after := fun hafter => by cases hstage.symm.trans hafter
        exited := fun _ => hleft }
  | awaited hstage hexited hreaders =>
      have hspawned : s.stage ≠ .before := by rw [hstage]; rintro ⟨⟩
      exact { h with
        spawned := fun _ => h.spawned hspawned
        before := by rintro ⟨⟩
        waits := by rintro ⟨⟩
        after := fun _ => ⟨hexited, hreaders⟩ }
  | @reads pipe _ _ hreader _ _ =>
      have hne : s.reader pipe ≠ .ended := by rw [hreader]; rintro ⟨⟩
      exact (h.setPipe (h.stage_of_reader hne).1 _).setReader hne _
  | @skips pipe _ _ hreader _ _ =>
      have hne : s.reader pipe ≠ .ended := by rw [hreader]; rintro ⟨⟩
      exact h.setPipe (h.stage_of_reader hne).1 _
  | @stops pipe _ hreader _ =>
      have hne : s.reader pipe ≠ .ended := by rw [hreader]; rintro ⟨⟩
      exact (h.setPipe (h.stage_of_reader hne).1 _).setReader hne _
  | @closes pipe hreader _ _ =>
      have hne : s.reader pipe ≠ .ended := by rw [hreader]; rintro ⟨⟩
      exact h.setReader hne _
  | @forwards pipe _ _ hreader hs =>
      have hne : s.reader pipe ≠ .ended := by rw [hreader]; rintro ⟨⟩
      exact (h.setReader hne _).send hs
  | takes hchannel =>
      refine { h with dropped := fun hreceiver => ?_ }
      rw [h.dropped hreceiver] at hchannel
      cases hchannel
  | drops => exact { h with dropped := fun _ => rfl }

/-! ### Events of a sender -/

/-- The events of a sender. -/
def eventsOf (sender : Sender) (ms : List (Sender × Action)) : List Action :=
  ms.filterMap fun m => if m.1 = sender then some m.2 else none

@[simp] theorem eventsOf_nil (sender : Sender) : eventsOf sender [] = [] := rfl

@[simp] theorem eventsOf_append (sender : Sender) (ms ms' : List (Sender × Action)) :
    eventsOf sender (ms ++ ms') = eventsOf sender ms ++ eventsOf sender ms' :=
  List.filterMap_append ..

@[simp] theorem eventsOf_cons_self (sender : Sender) (event : Action)
    (ms : List (Sender × Action)) :
    eventsOf sender ((sender, event) :: ms) = event :: eventsOf sender ms := by
  simp [eventsOf]

theorem eventsOf_cons_of_ne {sender : Sender} {m : Sender × Action} (h : m.1 ≠ sender)
    (ms : List (Sender × Action)) : eventsOf sender (m :: ms) = eventsOf sender ms := by
  simp [eventsOf, h]

theorem mem_eventsOf {sender : Sender} {event : Action} {ms : List (Sender × Action)} :
    event ∈ eventsOf sender ms ↔ (sender, event) ∈ ms := by
  simp [eventsOf, List.mem_filterMap]

theorem eventsOf_eq_nil {sender : Sender} {ms : List (Sender × Action)} :
    eventsOf sender ms = [] ↔ ∀ m ∈ ms, m.1 ≠ sender := by
  simp [eventsOf, List.filterMap_eq_nil_iff]

/-! ### What is sent -/

/-- What has come into the channel. -/
def sent (s : Stream) : List (Sender × Action) := s.body ++ s.channel

/-- What a reader has still to send. -/
def untold (reading : Reading) (lines : List Line) : Reader → List Action
  | .reads => reading.told lines
  | .sends line => .send "log" line :: reading.told lines
  | .ended => []

variable (reading job) in
/-- What a sender has still to send. -/
def rest (s : Stream) : Sender → List Action
  | .task => (s.todo ++ if s.stage = .after then [] else job.after).filter Action.isSend
  | .reader pipe =>
      if s.stage = .before then reading.told (job.lines pipe)
      else untold reading (s.pipe pipe ++ s.left pipe) (s.reader pipe)

variable (reading job) in
/-- What was sent and what is still to be sent. -/
def Conserves (s : Stream) : Prop :=
  ∀ sender, eventsOf sender s.sent ++ s.rest reading job sender = job.events reading sender

theorem conserves_start : (start job).Conserves reading job := by
  intro sender
  cases sender with
  | task => simp [sent, start, rest, Job.events]
  | reader pipe => simp [sent, start, rest, Job.events]

/-- The moves on a pipe leave the rest of the others. -/
theorem rest_of_ne {pipe : Pipe} {sender : Sender} (hsender : sender ≠ .reader pipe)
    (hstage : s'.stage = s.stage) (htodo : s'.todo = s.todo)
    (hother : ∀ other ≠ pipe, s'.reader other = s.reader other ∧ s'.pipe other = s.pipe other ∧
      s'.left other = s.left other) :
    s'.rest reading job sender = s.rest reading job sender := by
  cases sender with
  | task => simp only [rest, hstage, htodo]
  | reader other =>
      obtain ⟨hreader, hpipe, hleft⟩ := hother other fun h => hsender (h ▸ rfl)
      simp only [rest, hstage, hreader, hpipe, hleft]

theorem rest_reader {pipe : Pipe} (hstage : s.stage ≠ .before) :
    s.rest reading job (.reader pipe)
      = untold reading (s.pipe pipe ++ s.left pipe) (s.reader pipe) :=
  if_neg hstage

variable (reading job) in
/-- A move sends an event that was to be sent, or nothing. -/
inductive Tells (s s' : Stream) : Prop where
  | nothing (hsent : s'.sent = s.sent)
      (hrest : ∀ sender, s'.rest reading job sender = s.rest reading job sender)
  | event {sender : Sender} {event : Action} (hsent : s'.sent = s.sent ++ [(sender, event)])
      (hrest : s.rest reading job sender = event :: s'.rest reading job sender)
      (hother : ∀ other ≠ sender, s'.rest reading job other = s.rest reading job other)

/-- A move on a pipe that leaves what its reader has still to send. -/
theorem Tells.of_pipe (pipe : Pipe) (hbefore : s.stage ≠ .before) (hstage : s'.stage = s.stage)
    (htodo : s'.todo = s.todo) (hsent : s'.sent = s.sent)
    (hother : ∀ other ≠ pipe, s'.reader other = s.reader other ∧ s'.pipe other = s.pipe other ∧
      s'.left other = s.left other)
    (hpipe : untold reading (s'.pipe pipe ++ s'.left pipe) (s'.reader pipe)
      = untold reading (s.pipe pipe ++ s.left pipe) (s.reader pipe)) : Tells reading job s s' := by
  refine .nothing hsent fun sender => ?_
  by_cases hsender : sender = .reader pipe
  · rw [hsender, rest_reader hbefore, rest_reader (hstage.trans_ne hbefore), hpipe]
  · exact rest_of_ne hsender hstage htodo hother

/-- **What a move sends.** -/
theorem Moves.tells (h : s.Staged reading job) (hs : Moves reading job s s')
    (hreceiver : s'.receiver = true) : Tells reading job s s' := by
  cases hs with
  | @sends event data todo _ htodo hs =>
      rcases send_eq_some hs with ⟨-, rfl⟩ | ⟨hdropped, rfl⟩
      · refine .event (List.append_assoc ..).symm ?_ ?_
        · simp [rest, htodo, List.filter_cons, Action.isSend]
        · intro other hother
          cases other with
          | task => exact absurd rfl hother
          | reader => rfl
      · cases hdropped.symm.trans hreceiver
  | sets htodo =>
      refine .nothing rfl fun sender => ?_
      cases sender with
      | task => simp [rest, htodo, Action.isSend]
      | reader => rfl
  | spawns hstage htodo hrun =>
      refine .nothing rfl fun sender => ?_
      cases sender with
      | task => simp [rest, hstage]
      | reader pipe =>
          simp [rest, hstage, untold, ((h.before hstage).2 pipe).2.2, Job.lines, hrun]
  | @loses pipe line lines hleft hreader =>
      refine .of_pipe pipe (h.setLeft hleft).1 rfl rfl rfl (fun other hother => ⟨rfl, rfl, ?_⟩) ?_
      · exact Function.update_of_ne hother ..
      · simp [setLeft, hreader, untold]
  | @writes pipe line lines hleft hreader =>
      refine .of_pipe pipe (h.setLeft hleft).1 rfl rfl rfl (fun other hother => ⟨rfl, ?_, ?_⟩) ?_
      · exact Function.update_of_ne hother ..
      · exact Function.update_of_ne hother ..
      · simp [setLeft, setPipe, hleft]
  | exits => exact .nothing rfl fun _ => rfl
  | awaited hstage _ _ =>
      refine .nothing rfl fun sender => ?_
      cases sender with
      | task => simp [rest, hstage, h.waits hstage]
      | reader pipe => simp [rest, hstage]
  | @reads pipe line lines hreader hpipe hsends =>
      have hne : s.reader pipe ≠ .ended := by rw [hreader]; rintro ⟨⟩
      refine .of_pipe pipe (h.stage_of_reader hne).1 rfl rfl rfl
        (fun other hother => ⟨?_, ?_, rfl⟩) ?_
      · exact Function.update_of_ne hother ..
      · exact Function.update_of_ne hother ..
      · simp [setReader, setPipe, untold, hreader, hpipe, Reading.told, hsends]
  | @skips pipe line lines hreader hpipe hsends =>
      have hne : s.reader pipe ≠ .ended := by rw [hreader]; rintro ⟨⟩
      refine .of_pipe pipe (h.stage_of_reader hne).1 rfl rfl rfl
        (fun other hother => ⟨rfl, ?_, rfl⟩) ?_
      · exact Function.update_of_ne hother ..
      · simp [setPipe, untold, hreader, hpipe, Reading.told, hsends]
  | @stops pipe lines hreader hpipe =>
      have hne : s.reader pipe ≠ .ended := by rw [hreader]; rintro ⟨⟩
      refine .of_pipe pipe (h.stage_of_reader hne).1 rfl rfl rfl
        (fun other hother => ⟨?_, ?_, rfl⟩) ?_
      · exact Function.update_of_ne hother ..
      · exact Function.update_of_ne hother ..
      · simp [setReader, untold, hreader, hpipe, Reading.told]
  | @closes pipe hreader hpipe hexited =>
      have hne : s.reader pipe ≠ .ended := by rw [hreader]; rintro ⟨⟩
      refine .of_pipe pipe (h.stage_of_reader hne).1 rfl rfl rfl
        (fun other hother => ⟨?_, rfl, rfl⟩) ?_
      · exact Function.update_of_ne hother ..
      · simp [setReader, untold, hreader, hpipe, h.exited hexited pipe, Reading.told]
  | @forwards pipe line _ hreader hs =>
      have hne : s.reader pipe ≠ .ended := by rw [hreader]; rintro ⟨⟩
      have hstage := (h.stage_of_reader hne).1
      rcases send_eq_some hs with ⟨-, rfl⟩ | ⟨hdropped, rfl⟩
      · refine .event (List.append_assoc ..).symm ?_ ?_
        · rw [rest_reader hstage, rest_reader (by exact hstage), hreader]
          simp [setReader, untold]
        · intro other hother
          refine rest_of_ne hother rfl rfl fun other hother => ⟨?_, rfl, rfl⟩
          exact Function.update_of_ne hother ..
      · cases hdropped.symm.trans hreceiver
  | takes hchannel =>
      refine .nothing ?_ fun _ => rfl
      simp [sent, hchannel]
  | drops => cases hreceiver

/-- The receiver is not there again. -/
theorem Moves.receiver (hs : Moves reading job s s') (hreceiver : s'.receiver = true) :
    s.receiver = true := by
  cases hs with
  | sends _ hs | forwards _ hs =>
      rcases send_eq_some hs with ⟨h, -⟩ | ⟨-, rfl⟩
      · exact h
      · exact hreceiver
  | drops h => exact h
  | sets | spawns | loses | writes | exits | awaited | reads | skips | stops | closes | takes =>
      exact hreceiver

theorem Conserves.step (h : s.Conserves reading job) (htells : Tells reading job s s') :
    s'.Conserves reading job := by
  intro sender
  rw [← h sender]
  cases htells with
  | nothing hsent hrest => rw [hsent, hrest]
  | @event from_ event hsent hrest hother =>
      rw [hsent, eventsOf_append]
      by_cases hsender : sender = from_
      · rw [hsender, hrest, eventsOf_cons_self, eventsOf_nil, List.append_assoc]
        rfl
      · rw [hother sender hsender, eventsOf_cons_of_ne (fun heq => hsender heq.symm), eventsOf_nil,
          List.append_nil]

/-! ### After the wait -/

/-- What a move makes of the stage. -/
theorem Moves.stage (hs : Moves reading job s s') (hafter : s'.stage = .after) :
    s.stage = .after ∨ s.stage = .waits ∧ s'.todo = job.after ∧
      ∀ pipe, reading.awaitsReaders → s.reader pipe = .ended := by
  cases hs with
  | sends _ hs | forwards _ hs =>
      rcases send_eq_some hs with ⟨-, rfl⟩ | ⟨-, rfl⟩
      · exact .inl hafter
      · exact .inl hafter
  | spawns => cases hafter
  | awaited hstage _ hreaders => exact .inr ⟨hstage, rfl, fun pipe hawaits => hreaders hawaits pipe⟩
  | sets | loses | writes | exits | reads | skips | stops | closes | takes | drops =>
      exact .inl hafter

variable (reading job) in
/-- With readers that are awaited, what is sent after the wait is the task's, and comes after
every line. -/
structure Parted (ms : List (Sender × Action)) : Prop where
  parts : ∃ pre post, ms = pre ++ post ∧ (∀ m ∈ post, m.1 = .task) ∧
    eventsOf .task pre = job.before.filter Action.isSend ∧
    ∀ pipe, eventsOf (.reader pipe) pre = job.events reading (.reader pipe)

/-- Until the wait is over, the task sends what comes before it. -/
theorem Conserves.before (h : s.Conserves reading job) (hstage : s.stage ≠ .after) :
    eventsOf .task s.sent <+: job.before.filter Action.isSend := by
  have hall := h .task
  rw [rest, if_neg hstage, Job.events, List.filter_append, List.filter_append,
    ← List.append_assoc] at hall
  rw [← List.append_cancel_right hall]
  exact List.prefix_append _ _

theorem parted_step (hstaged : s.Staged reading job) (hconserves : s.Conserves reading job)
    (hparted : reading.awaitsReaders → s.stage = .after → Parted reading job s.sent)
    (hs : Moves reading job s s') (hreceiver : s'.receiver = true)
    (hawaits : reading.awaitsReaders = true) (hafter : s'.stage = .after) :
    Parted reading job s'.sent := by
  have htells := hs.tells hstaged hreceiver
  rcases hs.stage hafter with hstage | ⟨hstage, htodo, hreaders⟩
  · obtain ⟨pre, post, hsent, hpost, htask, hlines⟩ := (hparted hawaits hstage).parts
    cases htells with
    | nothing hsent' _ => exact ⟨pre, post, hsent'.trans hsent, hpost, htask, hlines⟩
    | @event sender event hsent' hrest _ =>
        refine ⟨pre, post ++ [(sender, event)], ?_, ?_, htask, hlines⟩
        · rw [hsent', hsent, List.append_assoc]
        · -- The readers have ended, so the sender is the task.
          have hsender : sender = .task := by
            cases sender with
            | task => rfl
            | reader pipe =>
                have hended := (hstaged.after hstage).2 hawaits pipe
                rw [rest_reader (by rw [hstage]; rintro ⟨⟩), hended, untold] at hrest
                cases hrest
          exact List.forall_mem_append.mpr ⟨hpost, List.forall_mem_singleton.mpr hsender⟩
  · have hrests : ∀ sender, s.rest reading job sender
        = if sender = .task then job.after.filter Action.isSend else [] := by
      intro sender
      cases sender with
      | task => simp [rest, hstaged.waits hstage, hstage]
      | reader pipe => simp [rest, hstage, hreaders pipe hawaits, untold]
    have hsent : s'.sent = s.sent := by
      cases htells with
      | nothing hsent _ => exact hsent
      | @event sender event _ hrest hother =>
          cases sender with
          | task =>
              have hrest' : s'.rest reading job .task = job.after.filter Action.isSend := by
                rw [rest, htodo, if_pos hafter, List.append_nil]
              rw [hrests .task, if_pos rfl, hrest'] at hrest
              exact absurd (congrArg List.length hrest) (by simp)
          | reader pipe =>
              rw [hrests, if_neg (by rintro ⟨⟩)] at hrest
              cases hrest
    refine ⟨s.sent, [], by rw [hsent, List.append_nil], fun _ h => absurd h List.not_mem_nil,
      ?_, ?_⟩
    · have htask := hconserves .task
      rw [hrests, if_pos rfl, Job.events, List.filter_append] at htask
      exact List.append_cancel_right htask
    · intro pipe
      have hlines := hconserves (.reader pipe)
      rwa [hrests, if_neg (by rintro ⟨⟩), List.append_nil] at hlines

/-! ### What the response carries -/

variable (reading job) in
/-- The events come in their order, and the event that ends the stream after all of the task's;
with readers that are awaited, after all. -/
structure Carries (ms : List (Sender × Action)) : Prop where
  inOrder : ∀ sender, eventsOf sender ms <+: job.events reading sender
  ends : ∀ xs event ys, ms = xs ++ (.task, event) :: ys → event.Terminal →
    eventsOf .task (xs ++ [(.task, event)]) = job.events reading .task ∧
      eventsOf .task ys = [] ∧ (reading.awaitsReaders → ys = [] ∧
        ∀ pipe, eventsOf (.reader pipe) xs = job.events reading (.reader pipe))

theorem Carries.of_prefix {ms ms' : List (Sender × Action)} (h : Carries reading job ms')
    (hms : ms <+: ms') : Carries reading job ms := by
  obtain ⟨rest, rfl⟩ := hms
  constructor
  · intro sender
    refine List.IsPrefix.trans ?_ (h.inOrder sender)
    rw [eventsOf_append]
    exact List.prefix_append _ _
  · rintro xs event ys rfl hterminal
    have hcut : xs ++ (.task, event) :: ys ++ rest = xs ++ (.task, event) :: (ys ++ rest) := by
      simp
    obtain ⟨hall, hys, hawaited⟩ := h.ends xs event (ys ++ rest) hcut hterminal
    refine ⟨hall, ?_, fun hawaits => ?_⟩
    · rw [eventsOf_append] at hys
      exact (List.append_eq_nil_iff.mp hys).1
    · obtain ⟨hnil, hlines⟩ := hawaited hawaits
      exact ⟨(List.append_eq_nil_iff.mp hnil).1, hlines⟩

/-- **What was sent, the response may carry.** -/
theorem carries_sent (hcloses : job.Closes) (hconserves : s.Conserves reading job)
    (hparted : reading.awaitsReaders → s.stage = .after → Parted reading job s.sent) :
    Carries reading job s.sent := by
  have hinOrder : ∀ sender, eventsOf sender s.sent <+: job.events reading sender :=
    fun sender => hconserves sender ▸ List.prefix_append _ _
  refine ⟨hinOrder, fun xs event ys hsent hterminal => ?_⟩
  obtain ⟨rest, hrest⟩ := hinOrder .task
  rw [hsent, eventsOf_append, eventsOf_cons_self, List.append_assoc, List.cons_append] at hrest
  have hlast := hcloses.last_event hrest.symm hterminal
  obtain ⟨hys, hnil⟩ := List.append_eq_nil_iff.mp hlast
  refine ⟨?_, hys, fun hawaits => ?_⟩
  · rw [eventsOf_append, eventsOf_cons_self, eventsOf_nil, ← hrest, hlast]
  have hys' : ∀ m ∈ ys, m.1 ≠ .task := eventsOf_eq_nil.mp hys
  cases hprover : job.prover with
  | none =>
      -- Without a prover there are no lines.
      have hnone : ∀ pipe, job.events reading (.reader pipe) = [] := by
        intro pipe
        simp [Job.events, Job.lines, hprover, Reading.told]
      have hlines : ∀ pipe, eventsOf (.reader pipe) s.sent = [] := by
        intro pipe
        exact List.prefix_nil.mp (hnone pipe ▸ hinOrder (.reader pipe))
      constructor
      · refine List.eq_nil_iff_forall_not_mem.mpr fun m hm => ?_
        obtain ⟨sender, event'⟩ := m
        cases sender with
        | task => exact hys' _ hm rfl
        | reader pipe =>
            refine eventsOf_eq_nil.mp (hlines pipe) (.reader pipe, event') ?_ rfl
            exact hsent ▸ List.mem_append_right _ (List.mem_cons_of_mem _ hm)
      · intro pipe
        have hxs := hlines pipe
        rw [hsent, eventsOf_append] at hxs
        rw [(List.append_eq_nil_iff.mp hxs).1, hnone]
  | some run =>
      have hnot := hcloses.not_mem_before hterminal hprover
      have hmem : event ∈ eventsOf .task s.sent :=
        mem_eventsOf.mpr (hsent ▸ List.mem_append_right _ List.mem_cons_self)
      have hstage : s.stage = .after := by
        by_contra hstage
        exact hnot (List.mem_of_mem_filter ((hconserves.before hstage).subset hmem))
      obtain ⟨pre, post, hparts, hpost, htask, hlines⟩ := (hparted hawaits hstage).parts
      -- The event is one of those after the wait.
      obtain ⟨between, rfl, hpost'⟩ :
          ∃ between, xs = pre ++ between ∧ post = between ++ (.task, event) :: ys := by
        rcases List.append_eq_append_iff.mp (hsent.symm.trans hparts) with
          ⟨between, hpre, hrest⟩ | ⟨between, hxs, hpost⟩
        · cases between with
          | nil => exact ⟨[], by simpa using hpre.symm, by simpa using hrest.symm⟩
          | cons m between =>
              obtain ⟨rfl, -⟩ := List.cons.inj hrest
              have hpre' : event ∈ eventsOf .task pre :=
                mem_eventsOf.mpr (hpre ▸ List.mem_append_right _ List.mem_cons_self)
              rw [htask] at hpre'
              exact absurd (List.mem_of_mem_filter hpre') hnot
        · exact ⟨between, hxs, hpost⟩
      constructor
      · refine List.eq_nil_iff_forall_not_mem.mpr fun m hm => hys' m hm (hpost m ?_)
        exact hpost' ▸ List.mem_append_right _ (List.mem_cons_of_mem _ hm)
      · intro pipe
        have hbetween : eventsOf (.reader pipe) between = [] := by
          refine eventsOf_eq_nil.mpr fun m hm => ?_
          rw [hpost m (hpost' ▸ List.mem_append_left _ hm)]
          rintro ⟨⟩
        rw [eventsOf_append, hbetween, List.append_nil, hlines]

/-! ### All that happens -/

variable (reading job) in
/-- What holds at any time. -/
structure Sound (s : Stream) : Prop where
  staged : s.Staged reading job
  conserves : s.receiver = true → s.Conserves reading job
  parted : s.receiver = true → reading.awaitsReaders → s.stage = .after →
    Parted reading job s.sent
  carries : Carries reading job s.sent

theorem sound_start (hcloses : job.Closes) : (start job).Sound reading job where
  staged := staged_start
  conserves _ := conserves_start
  parted _ _ h := by cases h
  carries := carries_sent hcloses conserves_start fun _ h => by cases h

/-- What was sent to nobody is not carried. -/
theorem Moves.sent_of_dropped (hs : Moves reading job s s') (hreceiver : s'.receiver = false) :
    s'.sent <+: s.sent := by
  cases hs with
  | sends _ hs | forwards _ hs =>
      rcases send_eq_some hs with ⟨h, rfl⟩ | ⟨-, rfl⟩
      · cases h.symm.trans hreceiver
      · exact List.prefix_refl _
  | takes hchannel => simp [sent, hchannel]
  | drops => simp [sent]
  | sets | spawns | loses | writes | exits | awaited | reads | skips | stops | closes =>
      exact List.prefix_refl _

theorem Sound.step (h : s.Sound reading job) (hcloses : job.Closes) (hs : Moves reading job s s') :
    s'.Sound reading job := by
  have hstaged := h.staged.step hs
  cases hreceiver : s'.receiver with
  | false =>
      refine ⟨hstaged, fun h => ?_, fun h => ?_, h.carries.of_prefix (hs.sent_of_dropped hreceiver)⟩
      · cases hreceiver.symm.trans h
      · cases hreceiver.symm.trans h
  | true =>
      have hconserves := h.conserves (hs.receiver hreceiver)
      have hconserves' := hconserves.step (hs.tells h.staged hreceiver)
      have hparted' : reading.awaitsReaders → s'.stage = .after → Parted reading job s'.sent :=
        parted_step h.staged hconserves (h.parted (hs.receiver hreceiver)) hs hreceiver
      exact ⟨hstaged, fun _ => hconserves', fun _ => hparted',
        carries_sent hcloses hconserves' hparted'⟩

/-- When all is done and the client has stayed, everything was sent. -/
theorem Sound.whole (h : s.Sound reading job) (hsettled : s.Settled job)
    (hreceiver : s.receiver = true) (sender : Sender) :
    eventsOf sender s.body = job.events reading sender := by
  have hall := h.conserves hreceiver sender
  have hrest : s.rest reading job sender = [] := by
    cases hstage : s.stage with
    | before =>
        have hnone := hsettled.stage.resolve_left (by rw [hstage]; rintro ⟨⟩)
        cases sender with
        | task => simp [rest, hsettled.todo, Job.after, hnone]
        | reader pipe => simp [rest, hstage, Job.lines, hnone, Reading.told]
    | waits =>
        have hsome := h.staged.spawned (by rw [hstage]; rintro ⟨⟩)
        rw [hsettled.stage.resolve_left (by rw [hstage]; rintro ⟨⟩)] at hsome
        cases hsome
    | after =>
        cases sender with
        | task => simp [rest, hsettled.todo, hstage]
        | reader pipe => simp [rest, hstage, hsettled.readers pipe, untold]
  rwa [hrest, List.append_nil, sent, hsettled.channel, List.append_nil] at hall

/-! ### An end -/

/-- What a reader has still to do. -/
def readerCost : Reader → ℕ
  | .reads => 1
  | .sends _ => 3
  | .ended => 0

/-- What has still to be done with a pipe. -/
def pipeCost (s : Stream) (pipe : Pipe) : ℕ :=
  4 * (s.left pipe).length + 3 * (s.pipe pipe).length + readerCost (s.reader pipe)

variable (job) in
/-- What the stages have still to do. -/
def stageCost : Stage → ℕ
  | .before =>
      2 * job.after.length + 4 * (job.lines .stdout).length + 4 * (job.lines .stderr).length + 4
  | .waits => 2 * job.after.length + 1
  | .after => 0

variable (job) in
/-- A bound on the moves that are left. -/
def cost (s : Stream) : ℕ :=
  2 * s.todo.length + stageCost job s.stage + s.pipeCost .stdout + s.pipeCost .stderr
    + s.channel.length + (if s.receiver then 1 else 0) + if s.exited then 0 else 1

/-- A move on a pipe that brings its lines on. -/
theorem cost_lt_of_pipe (pipe : Pipe) (hstage : s'.stage = s.stage) (htodo : s'.todo = s.todo)
    (hexited : s'.exited = s.exited) (hreceiver : s'.receiver = s.receiver)
    (hother : ∀ other ≠ pipe, s'.pipeCost other = s.pipeCost other)
    (hpipe : s'.pipeCost pipe + s'.channel.length < s.pipeCost pipe + s.channel.length) :
    s'.cost job < s.cost job := by
  simp only [cost, hstage, htodo, hexited, hreceiver]
  cases pipe with
  | stdout =>
      have := hother .stderr (by rintro ⟨⟩)
      omega
  | stderr =>
      have := hother .stdout (by rintro ⟨⟩)
      omega

/-- **Every move is one less to come.** -/
theorem Moves.cost_lt (hs : Moves reading job s s') : s'.cost job < s.cost job := by
  cases hs with
  | @sends event data todo _ htodo hs =>
      have htodo' : s.todo.length = todo.length + 1 := by rw [htodo, List.length_cons]
      rcases send_eq_some hs with ⟨-, rfl⟩ | ⟨-, rfl⟩
      · simp only [cost, pipeCost, List.length_append, List.length_singleton]
        omega
      · simp only [cost, pipeCost]
        omega
  | sets htodo =>
      simp only [cost, pipeCost, htodo, List.length_cons]
      omega
  | @spawns run hstage htodo hrun =>
      have hlines : ∀ pipe, job.lines pipe = run.lines pipe := fun pipe => by
        rw [Job.lines, hrun]
        rfl
      simp only [cost, pipeCost, stageCost, hstage, hlines, readerCost]
      omega
  | @loses pipe line lines hleft hreader =>
      refine cost_lt_of_pipe pipe rfl rfl rfl rfl (fun other hother => ?_) ?_
      · simp [pipeCost, setLeft, Function.update_of_ne hother]
      · simp [pipeCost, setLeft, hleft]
  | @writes pipe line lines hleft hreader =>
      refine cost_lt_of_pipe pipe rfl rfl rfl rfl (fun other hother => ?_) ?_
      · simp [pipeCost, setLeft, setPipe, Function.update_of_ne hother]
      · simp [pipeCost, setLeft, setPipe, hleft]
        omega
  | exits hstage hexited hleft =>
      simp [cost, pipeCost, hexited]
  | awaited hstage hexited hreaders =>
      simp only [cost, pipeCost, hstage, stageCost]
      omega
  | @reads pipe line lines hreader hpipe hsends =>
      refine cost_lt_of_pipe pipe rfl rfl rfl rfl (fun other hother => ?_) ?_
      · simp [pipeCost, setReader, setPipe, Function.update_of_ne hother]
      · simp [pipeCost, setReader, setPipe, hreader, hpipe, readerCost]
        omega
  | @skips pipe line lines hreader hpipe hsends =>
      refine cost_lt_of_pipe pipe rfl rfl rfl rfl (fun other hother => ?_) ?_
      · simp [pipeCost, setPipe, Function.update_of_ne hother]
      · simp [pipeCost, setPipe, hpipe]
  | @stops pipe lines hreader hpipe =>
      refine cost_lt_of_pipe pipe rfl rfl rfl rfl (fun other hother => ?_) ?_
      · simp [pipeCost, setReader, setPipe, Function.update_of_ne hother]
      · simp [pipeCost, setReader, setPipe, hreader, hpipe, readerCost]
  | @closes pipe hreader hpipe hexited =>
      refine cost_lt_of_pipe pipe rfl rfl rfl rfl (fun other hother => ?_) ?_
      · simp [pipeCost, setReader, Function.update_of_ne hother]
      · simp [pipeCost, setReader, hreader, readerCost]
  | @forwards pipe line _ hreader hs =>
      rcases send_eq_some hs with ⟨-, rfl⟩ | ⟨-, rfl⟩
      · refine cost_lt_of_pipe pipe rfl rfl rfl rfl (fun other hother => ?_) ?_
        · simp [pipeCost, setReader, Function.update_of_ne hother]
        · simp [pipeCost, setReader, hreader, readerCost]
          omega
      · refine cost_lt_of_pipe pipe rfl rfl rfl rfl (fun other hother => ?_) ?_
        · simp [pipeCost, setReader, Function.update_of_ne hother]
        · simp [pipeCost, setReader, hreader, readerCost]
  | takes hchannel =>
      simp only [cost, pipeCost, hchannel, List.length_cons]
      omega
  | drops hreceiver =>
      simp [cost, pipeCost, hreceiver]

/-- The moves of a run are bounded. -/
theorem cost_of_run {es : List Move} (hrun : Run (step reading job room) s es s') :
    s'.cost job + es.length ≤ s.cost job := by
  refine hrun.history_induction (P := fun es s' => s'.cost job + es.length ≤ s.cost job) ?_ ?_
  · simp
  · intro es s₁ m s₂ h hs
    have := (step_moves hs).cost_lt
    rw [List.length_append, List.length_singleton]
    omega

/-! ### Progress -/

/-- A send into an empty channel. -/
theorem send_isSome (h : s.channel = []) (sender : Sender) (event : Action) :
    (s.send sender event).isSome := by
  rw [send, h]
  split
  · rfl
  · rfl

/-- **Nothing is stuck before everything is done.** -/
theorem goesOn (hroom : 0 < room) (h : s.Staged reading job) :
    s.Settled job ∨ ∃ m, m ≠ .drops ∧ (s.step reading job room m).isSome := by
  cases hchannel : s.channel with
  | cons m channel => exact .inr ⟨.takes, by rintro ⟨⟩, by simp [step, hchannel]⟩
  | nil =>
  cases htodo : s.todo with
  | cons event todo =>
      refine .inr ⟨.acts, by rintro ⟨⟩, ?_⟩
      cases event with
      | send event data =>
          simp only [step, htodo]
          exact send_isSome (s := { s with todo }) hchannel _ _
      | setReferenceBlock => simp [step, htodo]
  | nil =>
  by_cases hsends : ∃ pipe line, s.reader pipe = .sends line
  · obtain ⟨pipe, line, hreader⟩ := hsends
    refine .inr ⟨.forwards pipe, by rintro ⟨⟩, ?_⟩
    simp only [step, hreader]
    exact send_isSome (s := s.setReader pipe .reads) hchannel _ _
  by_cases hpipes : ∃ pipe, s.reader pipe = .reads ∧ s.pipe pipe ≠ []
  · obtain ⟨pipe, hreader, hpipe⟩ := hpipes
    refine .inr ⟨.reads pipe, by rintro ⟨⟩, ?_⟩
    obtain ⟨line, lines, hpipe⟩ := List.exists_cons_of_ne_nil hpipe
    cases line with
    | none => simp [step, hreader, hpipe]
    | some line =>
        simp only [step, hreader, hpipe]
        split <;> rfl
  have hreaders : ∀ pipe, s.reader pipe = .reads ∧ s.pipe pipe = [] ∨ s.reader pipe = .ended := by
    intro pipe
    cases hreader : s.reader pipe with
    | reads => exact .inl ⟨rfl, by_contra fun hpipe => hpipes ⟨pipe, hreader, hpipe⟩⟩
    | sends line => exact absurd ⟨pipe, line, hreader⟩ hsends
    | ended => exact .inr rfl
  by_cases hlefts : ∃ pipe, s.left pipe ≠ []
  · obtain ⟨pipe, hleft⟩ := hlefts
    refine .inr ⟨.writes pipe, by rintro ⟨⟩, ?_⟩
    obtain ⟨line, lines, hleft⟩ := List.exists_cons_of_ne_nil hleft
    rcases hreaders pipe with ⟨hreader, hpipe⟩ | hreader
    · simp [step, hleft, hreader, hpipe, hroom]
    · simp [step, hleft, hreader]
  have hleft : ∀ pipe, s.left pipe = [] := fun pipe =>
    by_contra fun hleft => hlefts ⟨pipe, hleft⟩
  have hcloses : s.exited = true → (∀ pipe, s.reader pipe = .ended) ∨
      ∃ m, m ≠ .drops ∧ (s.step reading job room m).isSome := by
    intro hexited
    by_cases hended : ∀ pipe, s.reader pipe = .ended
    · exact .inl hended
    · obtain ⟨pipe, hreader⟩ := not_forall.mp hended
      obtain ⟨hreads, hpipe⟩ := (hreaders pipe).resolve_right hreader
      exact .inr ⟨.closes pipe, by rintro ⟨⟩, by simp [step, hreads, hpipe, hexited]⟩
  cases hstage : s.stage with
  | before =>
      cases hprover : job.prover with
      | none => exact .inl ⟨.inr hprover, htodo, fun pipe => ((h.before hstage).2 pipe).1, hchannel⟩
      | some run => exact .inr ⟨.spawns, by rintro ⟨⟩, by simp [step, hstage, htodo, hprover]⟩
  | waits =>
      cases hexited : s.exited with
      | false =>
          exact .inr ⟨.exits, by rintro ⟨⟩, by simp [step, hstage, hexited, hleft]⟩
      | true =>
          rcases hcloses hexited with hended | hmoves
          · exact .inr ⟨.awaited, by rintro ⟨⟩, by simp [step, hstage, hexited, hended]⟩
          · exact .inr hmoves
  | after =>
      rcases hcloses (h.after hstage).1 with hended | hmoves
      · exact .inl ⟨.inl hstage, htodo, hended, hchannel⟩
      · exact .inr hmoves

/-! ### What a client is told -/

variable (reading job room) in
/-- What a client is told of a job. -/
structure ToldLines (es : List Move) (s : Stream) : Prop where
  /-- The events of a sender come in their order. -/
  inOrder : ∀ sender, eventsOf sender s.body <+: job.events reading sender
  /-- All of them come to a client that stays. -/
  whole : s.Settled job → s.receiver = true →
    ∀ sender, eventsOf sender s.body = job.events reading sender
  /-- A terminal event comes after all others of the task; with readers that are awaited, after
  every line, and it is the last. -/
  ends : ∀ xs event ys, s.body = xs ++ (.task, event) :: ys → event.Terminal →
    eventsOf .task (xs ++ [(.task, event)]) = job.events reading .task ∧
      eventsOf .task ys = [] ∧ (reading.awaitsReaders → ys = [] ∧
        ∀ pipe, eventsOf (.reader pipe) xs = job.events reading (.reader pipe))
  /-- Until all is done there is a move. -/
  goesOn : s.Settled job ∨ ∃ m, m ≠ .drops ∧ (s.step reading job room m).isSome
  bounded : es.length ≤ (start job).cost job

theorem toldLines (hcloses : job.Closes) (hroom : 0 < room) {es : List Move}
    (hrun : Run (step reading job room) (start job) es s) : ToldLines reading job room es s := by
  have h : s.Sound reading job :=
    hrun.invariant (sound_start hcloses) fun _ _ _ hsound hs => hsound.step hcloses (step_moves hs)
  have hcarries : Carries reading job s.body := h.carries.of_prefix (List.prefix_append _ _)
  exact {
    inOrder := hcarries.inOrder
    whole := h.whole
    ends := hcarries.ends
    goesOn := goesOn hroom h.staged
    bounded := (Nat.le_add_left ..).trans (cost_of_run hrun) }

/-! ### Late lines -/

section Late

/-- The task goes on alone. -/
theorem run_acts (hreceiver : s.receiver = true) (hchannel : s.channel = []) :
    ∃ es, Run (step reading job room) s es { s with
      todo := []
      body := s.body ++ (s.todo.filter Action.isSend).map (Prod.mk .task) } := by
  obtain ⟨stage, todo, left, exited, pipe, reader, channel, receiver, body⟩ := s
  obtain rfl : receiver = true := hreceiver
  obtain rfl : channel = [] := hchannel
  induction todo generalizing body with
  | nil => exact ⟨[], by simpa using Run.nil⟩
  | cons event todo ih =>
      cases event with
      | send event data =>
          obtain ⟨es, hrun⟩ := ih (body ++ [(.task, .send event data)])
          refine ⟨[.acts] ++ ([.takes] ++ es), (Run.one rfl).trans ((Run.one rfl).trans ?_)⟩
          simpa [List.filter_cons, Action.isSend] using hrun
      | setReferenceBlock sessionId block =>
          obtain ⟨es, hrun⟩ := ih body
          refine ⟨[.acts] ++ es, (Run.one rfl).trans ?_⟩
          simpa [Action.isSend] using hrun

/-- The prover writes all its lines into a pipe that has room. -/
theorem run_writes {pipe : Pipe} (hreader : s.reader pipe = .reads)
    (hroom : (s.pipe pipe ++ s.left pipe).length ≤ room) :
    ∃ es, Run (step reading job room) s es
      ((s.setLeft pipe []).setPipe pipe (s.pipe pipe ++ s.left pipe)) := by
  generalize hleft : s.left pipe = lines at hroom
  induction lines generalizing s with
  | nil =>
      have hsame : Function.update s.left pipe [] = s.left := by
        rw [← hleft, Function.update_eq_self]
      exact ⟨[], by simpa [setLeft, setPipe, hsame] using Run.nil⟩
  | cons line lines ih =>
      let s₁ := (s.setLeft pipe lines).setPipe pipe (s.pipe pipe ++ [line])
      have hstep : step reading job room s (.writes pipe) = some s₁ := by
        have hlt : (s.pipe pipe).length < room := by
          rw [List.length_append, List.length_cons] at hroom
          omega
        simp [step, hleft, hreader, hlt, s₁]
      obtain ⟨es, hrun⟩ := ih (s := s₁) hreader (Function.update_self ..)
        (by simpa [s₁, setLeft, setPipe] using hroom)
      refine ⟨[.writes pipe] ++ es, (Run.one hstep).trans ?_⟩
      simpa [s₁, setLeft, setPipe] using hrun

/-- A reader sends what is in its pipe, and ends. -/
theorem run_reads {pipe : Pipe} (hreader : s.reader pipe = .reads) (hexited : s.exited = true)
    (hreceiver : s.receiver = true) (hchannel : s.channel = []) :
    ∃ es, Run (step reading job room) s es { (s.setPipe pipe []).setReader pipe .ended with
      body := s.body ++ (reading.told (s.pipe pipe)).map (Prod.mk (.reader pipe)) } := by
  generalize hlines : s.pipe pipe = lines
  induction lines generalizing s with
  | nil =>
      have hsame : Function.update s.pipe pipe [] = s.pipe := by
        rw [← hlines, Function.update_eq_self]
      refine ⟨[.closes pipe], .one ?_⟩
      simp [step, hreader, hlines, hexited, Reading.told, setReader, setPipe, hsame]
  | cons line lines ih =>
      cases line with
      | none =>
          refine ⟨[.reads pipe], .one ?_⟩
          simp [step, hreader, hlines, Reading.told, setReader, setPipe]
      | some line =>
          cases hsends : reading.sends line with
          | false =>
              let s₁ := s.setPipe pipe lines
              have hstep : step reading job room s (.reads pipe) = some s₁ := by
                simp [step, hreader, hlines, hsends, s₁]
              obtain ⟨es, hrun⟩ := ih (s := s₁) hreader hexited hreceiver hchannel
                (Function.update_self ..)
              refine ⟨[.reads pipe] ++ es, (Run.one hstep).trans ?_⟩
              simpa [s₁, setPipe, setReader, Reading.told, hsends] using hrun
          | true =>
              let s₁ := (s.setPipe pipe lines).setReader pipe (.sends line)
              let s₂ : Stream := { s₁.setReader pipe .reads with
                channel := [(.reader pipe, .send "log" line)] }
              let s₃ : Stream := { s₂ with
                channel := []
                body := s.body ++ [(.reader pipe, .send "log" line)] }
              have hreads : step reading job room s (.reads pipe) = some s₁ := by
                simp [step, hreader, hlines, hsends, s₁]
              have hforwards : step reading job room s₁ (.forwards pipe) = some s₂ := by
                simp [step, send, s₁, s₂, setReader, setPipe, hreceiver, hchannel]
              have htakes : step reading job room s₂ .takes = some s₃ := rfl
              obtain ⟨es, hrun⟩ := ih (s := s₃) (Function.update_self ..) hexited hreceiver rfl
                (by simp [s₃, s₂, s₁, setReader, setPipe])
              refine ⟨[.reads pipe] ++ ([.forwards pipe] ++ ([.takes] ++ es)),
                (Run.one hreads).trans ((Run.one hforwards).trans ((Run.one htakes).trans ?_))⟩
              simpa [s₃, s₂, s₁, setPipe, setReader, Reading.told, hsends, hchannel] using hrun

/-- The prover writes all, and exits. -/
theorem run_prover (hstage : s.stage = .waits) (hexited : s.exited = false)
    (hreader : ∀ pipe, s.reader pipe = .reads) (hpipe : ∀ pipe, s.pipe pipe = [])
    (hfit : ∀ pipe, (s.left pipe).length ≤ room) :
    ∃ es, Run (step reading job room) s es { s with
      left := fun _ => []
      exited := true
      pipe := s.left } := by
  let s₁ := (s.setLeft .stdout []).setPipe .stdout (s.pipe .stdout ++ s.left .stdout)
  let s₂ : Stream := { s with
    left := fun _ => []
    pipe := s.left }
  obtain ⟨es₁, hrun₁⟩ : ∃ es, Run (step reading job room) s es s₁ :=
    run_writes (hreader .stdout) (by simpa [hpipe] using hfit .stdout)
  obtain ⟨es₂, hrun₂⟩ : ∃ es, Run (step reading job room) s₁ es
      ((s₁.setLeft .stderr []).setPipe .stderr (s₁.pipe .stderr ++ s₁.left .stderr)) :=
    run_writes (hreader .stderr) (by simpa [s₁, setLeft, setPipe, hpipe] using hfit .stderr)
  have hs₂ : (s₁.setLeft .stderr []).setPipe .stderr (s₁.pipe .stderr ++ s₁.left .stderr) = s₂ := by
    have hleft : Function.update (Function.update s.left .stdout []) .stderr [] = fun _ => [] := by
      funext pipe
      cases pipe <;> simp
    have hpipes : Function.update (Function.update s.pipe .stdout (s.left .stdout)) .stderr
        (s.left .stderr) = s.left := by
      funext pipe
      cases pipe <;> simp
    simp [s₁, s₂, setLeft, setPipe, hpipe, hleft, hpipes]
  rw [hs₂] at hrun₂
  have hexits : step reading job room s₂ .exits = some { s₂ with exited := true } := by
    simp [step, s₂, hstage, hexited]
  exact ⟨_, (hrun₁.trans hrun₂).trans (.one hexits)⟩

/-- The readers send what is in their pipes, and end. -/
theorem run_readers (hreader : ∀ pipe, s.reader pipe = .reads) (hexited : s.exited = true)
    (hreceiver : s.receiver = true) (hchannel : s.channel = []) :
    ∃ es, Run (step reading job room) s es { s with
      pipe := fun _ => []
      reader := fun _ => .ended
      body := s.body ++ (reading.told (s.pipe .stdout)).map (Prod.mk (.reader .stdout))
        ++ (reading.told (s.pipe .stderr)).map (Prod.mk (.reader .stderr)) } := by
  let s₁ : Stream := { (s.setPipe .stdout []).setReader .stdout .ended with
    body := s.body ++ (reading.told (s.pipe .stdout)).map (Prod.mk (.reader .stdout)) }
  obtain ⟨es₁, hrun₁⟩ : ∃ es, Run (step reading job room) s es s₁ :=
    run_reads (hreader .stdout) hexited hreceiver hchannel
  have hstderr : s₁.reader .stderr = .reads := by
    simpa [s₁, setReader, setPipe] using hreader .stderr
  let s₂ : Stream := { (s₁.setPipe .stderr []).setReader .stderr .ended with
    body := s₁.body ++ (reading.told (s₁.pipe .stderr)).map (Prod.mk (.reader .stderr)) }
  obtain ⟨es₂, hrun₂⟩ : ∃ es, Run (step reading job room) s₁ es s₂ :=
    run_reads hstderr hexited hreceiver hchannel
  refine ⟨es₁ ++ es₂, hrun₁.trans ?_⟩
  have hpipe : Function.update (Function.update s.pipe .stdout []) .stderr [] = fun _ => [] := by
    funext pipe
    cases pipe <;> simp
  have hreaders : Function.update (Function.update s.reader .stdout .ended) .stderr .ended
      = fun _ => .ended := by
    funext pipe
    cases pipe <;> simp
  simpa [s₂, s₁, setReader, setPipe, hpipe, hreaders] using hrun₂

/-- **Readers that are not awaited may be late**: every line comes after all that the task sends. -/
theorem late_run {run : ProverRun} (hawaits : reading.awaitsReaders = false)
    (hprover : job.prover = some run) (hfit : ∀ pipe, (run.lines pipe).length ≤ room) :
    ∃ es s, Run (step reading job room) (start job) es s ∧
      s.body = (job.events reading .task).map (Prod.mk .task)
        ++ (job.events reading (.reader .stdout)).map (Prod.mk (.reader .stdout))
        ++ (job.events reading (.reader .stderr)).map (Prod.mk (.reader .stderr)) := by
  have hlines : ∀ pipe, job.lines pipe = run.lines pipe := fun pipe => by
    rw [Job.lines, hprover]
    rfl
  let s₁ : Stream := { start job with
    todo := []
    body := (job.before.filter Action.isSend).map (Prod.mk .task) }
  let s₂ : Stream := { s₁ with
    stage := .waits
    left := run.lines
    reader := fun _ => .reads }
  let s₃ : Stream := { s₂ with
    left := fun _ => []
    exited := true
    pipe := run.lines }
  let s₄ : Stream := { s₃ with
    stage := .after
    todo := job.after }
  let s₅ : Stream := { s₄ with
    todo := []
    body := s₄.body ++ (job.after.filter Action.isSend).map (Prod.mk .task) }
  obtain ⟨es₁, hrun₁⟩ : ∃ es, Run (step reading job room) (start job) es s₁ := run_acts rfl rfl
  have hspawns : Run (step reading job room) s₁ [.spawns] s₂ :=
    .one (by simp [step, s₁, s₂, start, hprover])
  obtain ⟨es₃, hrun₃⟩ : ∃ es, Run (step reading job room) s₂ es s₃ :=
    run_prover rfl rfl (fun _ => rfl) (fun _ => rfl) hfit
  have hawaited : Run (step reading job room) s₃ [.awaited] s₄ :=
    .one (by simp [step, s₃, s₄, s₂, hawaits])
  obtain ⟨es₅, hrun₅⟩ : ∃ es, Run (step reading job room) s₄ es s₅ := run_acts rfl rfl
  let s₆ : Stream := { s₅ with
    pipe := fun _ => []
    reader := fun _ => .ended
    body := s₅.body ++ (reading.told (run.lines .stdout)).map (Prod.mk (.reader .stdout))
      ++ (reading.told (run.lines .stderr)).map (Prod.mk (.reader .stderr)) }
  obtain ⟨es₆, hrun₆⟩ : ∃ es, Run (step reading job room) s₅ es s₆ :=
    run_readers (fun _ => rfl) rfl rfl rfl
  have hwaits := ((hrun₁.trans hspawns).trans hrun₃).trans hawaited
  refine ⟨_, s₆, (hwaits.trans hrun₅).trans hrun₆, ?_⟩
  simp [s₆, s₅, s₄, s₃, s₂, s₁, Job.events, hlines]

variable (reading job room) in
/-- In every run a terminal event of the task is the last event of the stream. -/
def EndsWithTerminal : Prop :=
  ∀ es s, Run (step reading job room) (start job) es s → ∀ xs event ys,
    s.body = xs ++ (.task, event) :: ys → event.Terminal → ys = []

theorem mem_events_of_terminal {event : Action} (hmem : event ∈ job.before ++ job.after)
    (hterminal : event.Terminal) : event ∈ job.events reading .task := by
  refine List.mem_filter.mpr ⟨hmem, ?_⟩
  cases event with
  | send => rfl
  | setReferenceBlock => exact hterminal.elim

/-- **A stream always ends with its terminal event exactly when its readers are awaited.** -/
theorem endsWithTerminal_iff (hcloses : job.Closes) (hroom : 0 < room) {run : ProverRun}
    (hprover : job.prover = some run) (hfit : ∀ pipe, (run.lines pipe).length ≤ room)
    (hterminal : ∃ event ∈ job.before ++ job.after, event.Terminal)
    (htold : ∃ pipe, reading.told (run.lines pipe) ≠ []) :
    EndsWithTerminal reading job room ↔ reading.awaitsReaders = true := by
  constructor
  · intro h
    by_contra hawaits
    obtain ⟨event, hmem, hterminal⟩ := hterminal
    obtain ⟨es, s, hrun, hbody⟩ := late_run (Bool.eq_false_iff.mpr hawaits) hprover hfit
    have hevent : event ∈ job.events reading .task := mem_events_of_terminal hmem hterminal
    obtain ⟨xs, ys, htask⟩ := List.append_of_mem hevent
    have hlast := h es s hrun (xs.map (Prod.mk .task)) event
      (ys.map (Prod.mk .task)
        ++ (job.events reading (.reader .stdout)).map (Prod.mk (.reader .stdout))
        ++ (job.events reading (.reader .stderr)).map (Prod.mk (.reader .stderr)))
      (by rw [hbody, htask]; simp) hterminal
    obtain ⟨hrest, hstderr⟩ := List.append_eq_nil_iff.mp hlast
    have hstdout := (List.append_eq_nil_iff.mp hrest).2
    obtain ⟨pipe, hpipe⟩ := htold
    refine hpipe ?_
    rw [← Job.events_reader hprover]
    cases pipe with
    | stdout => exact List.map_eq_nil_iff.mp hstdout
    | stderr => exact List.map_eq_nil_iff.mp hstderr
  · intro hawaits es s hrun xs event ys hbody hterminal
    exact ((toldLines hcloses hroom hrun).ends xs event ys hbody hterminal).2.2 hawaits |>.1

end Late

end Stream

/-! ### The handlers -/

/-- What the task of `prove` captures. -/
structure ProveRequest where
  sessionId : String
  txHash : String
  /-- `invoke_block` of the session. -/
  invokeBlock : Option (BitVec 64)
  projectDir : String

/-- The log of a task before it spawns its prover. -/
def provingLog (block : BitVec 64) : Action :=
  .send "log" ("Proving against block " ++ toString block.toNat ++ "...")

/-- `checked_sub`. -/
def checkedSub (a b : BitVec 64) : Option (BitVec 64) := if b ≤ a then some (a - b) else none

section Handlers

variable (fh : FeltHex) (sc : StarknetCrypto) (serde : SerdeJson) (o : Outcomes)

namespace ProveRequest

variable (request : ProveRequest)

/-- `invoke_block`, of the session or of the receipt. -/
def includedIn : Task (Option (BitVec 64)) :=
  match request.invokeBlock with
  | some block => pure (some block)
  | none => do
      send "log" "Waiting for tx inclusion..."
      let receipt ← orError (o.waitForTx request.txHash 120 2) fun _ => "Tx not included in time"
      pure (receiptBlockNumber receipt)

/-- `proof_output`. -/
def proofOutput : String :=
  o.join (o.join o.config.outputDir "playground") (request.sessionId ++ ".proof")

/-- `run_script`, spawned. -/
def spawn (proveBlock : BitVec 64) : Except String (Except String Bool) :=
  o.spawn (o.join (o.join request.projectDir "scripts") "run-virtual-os.sh")
    ["--block-number", toString proveBlock.toNat, "--tx-hash", request.txHash, "--rpc-url",
      o.config.rpcUrl, "--output", request.proofOutput o, "--strk-fee-token", strkToken]

end ProveRequest

/-- The log of `prove` before its prover. -/
def includedLog (invokeBlock proveBlock : BitVec 64) : Action :=
  .send "log" ("Tx included in block " ++ toString invokeBlock.toNat ++ ". Proving against block "
    ++ toString proveBlock.toNat ++ "...")

/-- The task of `prove`. -/
def proveTask (request : ProveRequest) : Task Unit := do
  send "log" ("Starting proof generation for " ++ request.txHash ++ "...")
  let invokeBlock ← request.includedIn o
  let invokeBlock ← orError (okOr invokeBlock ()) fun _ => "Could not determine block number"
  let proveBlock ← orError (okOr (checkedSub invokeBlock 1) ())
    fun _ => "Cannot prove against block before genesis (invoke_block is 0)"
  Emission.emit (includedLog invokeBlock proveBlock)
  let outputDir := o.join o.config.outputDir "playground"
  orError (o.createDirAll outputDir) fun e => "Failed to create output dir: " ++ e
  let _ ← orError (request.spawn o proveBlock) fun e => "Failed to spawn prover: " ++ e
  if o.fileExists (request.proofOutput o) then
    let proofSize := (o.metadataLen (request.proofOutput o)).toOption.getD 0
    send "complete" (serde.toString (.obj [
      ("proof_size", .num proofSize.toNat),
      ("proof_file", .str (request.proofOutput o))]))
  else send "error" "Proof generation failed"

/-- A handler that streams the lines of a prover. -/
inductive Handler where
  | playCoinflip (game : Game)
  | proveBlock (job : ProveJob)
  | prove (request : ProveRequest)

namespace Handler

/-- The task that is spawned. -/
def task : Handler → Task Unit
  | .playCoinflip game => playTask fh sc serde o game
  | .proveBlock job => proveBlockTask fh sc serde o job
  | .prove request => proveTask serde o request

/-- How the lines are read. -/
def reading : Handler → Reading
  | .playCoinflip _ => ⟨true, false⟩
  | .proveBlock _ | .prove _ => ⟨false, true⟩

/-- The blocks of `prove`: the one that its transaction is in, and the one before. -/
def blocks (request : ProveRequest) : Option (BitVec 64 × BitVec 64) := do
  let invokeBlock ← (request.includedIn o).result.toOption.join
  let proveBlock ← checkedSub invokeBlock 1
  pure (invokeBlock, proveBlock)

/-- The last event before the prover is spawned. -/
def mark : Handler → Action
  | .playCoinflip game => provingLog game.seedBlock
  | .proveBlock job => provingLog job.referenceBlock
  | .prove request =>
      let blocks := (blocks o request).getD (0, 0)
      includedLog blocks.1 blocks.2

/-- The prover is spawned, once its task comes there. -/
def spawns : Handler → Bool
  | .playCoinflip game =>
      let outputDir := o.join o.config.outputDir "coinflip"
      (o.spawn o.snip36Bin (proveArgs o game.seedBlock
        (o.join outputDir (game.sessionId ++ "_tx.json"))
        (o.join outputDir (game.sessionId ++ ".proof")))).isOk
  | .proveBlock job =>
      let outputDir := o.join o.config.outputDir "playground"
      (o.spawn o.snip36Bin (proveArgs o job.referenceBlock
        (o.join outputDir (job.sessionId ++ "_tx.json"))
        (o.join outputDir (job.sessionId ++ ".proof")))).isOk
  | .prove request =>
      let outputDir := o.join o.config.outputDir "playground"
      let blocks := (blocks o request).getD (0, 0)
      (o.createDirAll outputDir).isOk && (request.spawn o blocks.2).isOk

/-- The job of a handler whose prover writes some lines. -/
def job (handler : Handler) (lines : Pipe → List Line) : Job :=
  .ofTask (handler.task fh sc serde o) (handler.mark o) (handler.spawns o) lines

end Handler

end Handlers

variable {fh : FeltHex} {sc : StarknetCrypto} {serde : SerdeJson} {o : Outcomes}

theorem passes_includedIn (request : ProveRequest) : Passes [] (request.includedIn o) := by
  rw [ProveRequest.includedIn]
  split
  · exact Emission.Passes.pure _
  · refine (passes_log _).bind fun _ => ?_
    exact (passes_orError _ _).bind fun receipt => Emission.Passes.pure _

/-- **The task of `prove` ends with one terminal event.** -/
theorem proveTask_finishes (request : ProveRequest) :
    Emission.Finishes Action.phase Action.Terminal [] (proveTask serde o request) := by
  refine .next (passes_log _) fun _ => ?_
  refine .next (passes_includedIn request) fun invokeBlock => ?_
  refine .next (passes_orError _ _) fun invokeBlock => ?_
  refine .next (passes_orError _ _) fun proveBlock => ?_
  refine .next (passes_log _) fun _ => ?_
  refine .next (passes_orError _ _) fun _ => ?_
  refine .next (passes_orError _ _) fun child => ?_
  split
  · exact .emit (.inr (.inr rfl)) rfl
  · exact .emit (.inl rfl) rfl

/-- A terminal event of a task that finishes is its last. -/
theorem last_of_closes {ps : List Phase} {events xs ys : List Action} {event : Action}
    (h : Emission.Closes Action.phase Action.Terminal ps events)
    (hevents : events = xs ++ event :: ys) (hterminal : event.Terminal) : ys = [] := by
  obtain ⟨before, last, rfl, -, hbefore⟩ := h.last
  rcases List.eq_nil_or_concat ys with rfl | ⟨ys, z, rfl⟩
  · rfl
  · have hcut : before ++ [last] = (xs ++ event :: ys) ++ [z] := by simpa using hevents
    obtain ⟨rfl, -⟩ := List.append_inj' hcut rfl
    exact absurd hterminal (hbefore event (by simp))

theorem Job.closes_ofTask {task : Task Unit} {mark : Action} {spawned : Bool}
    {lines : Pipe → List Line}
    (h : ∀ xs event ys, task.events = xs ++ event :: ys → event.Terminal → ys = []) :
    (Job.ofTask task mark spawned lines).Closes := by
  simp only [Job.ofTask]
  split
  · refine ⟨fun xs event ys heq => h xs event ys ?_, by rintro run ⟨⟩⟩
    simpa [Job.after] using heq
  · next hspawned =>
      refine ⟨fun xs event ys heq => h xs event ys ?_, ?_⟩
      · simpa [Job.after] using heq
      · rintro run ⟨⟩ hnil
        exact hspawned (.inr hnil)

/-- **A terminal event of a handler's task is its last**, also when the task panics. -/
theorem Handler.closes (handler : Handler) (lines : Pipe → List Line) :
    (handler.job fh sc serde o lines).Closes := by
  refine Job.closes_ofTask fun xs event ys heq hterminal => ?_
  cases handler with
  | playCoinflip game =>
      by_cases hcut : CutsPlayer game.player
      · exact last_of_closes (playTask_endsProperly hcut).closes heq hterminal
      · have hnone : getTo game.player (min game.player.utf8ByteSize 18) = none := if_neg hcut
        rw [Handler.task, playTask, sliceTo, hnone] at heq
        exact absurd heq.symm (by simp [Emission.orPanic, Emission.panic, bind])
  | proveBlock job =>
      by_cases hfits : job.Fits
      · exact last_of_closes (proveBlockTask_endsProperly hfits).closes heq hterminal
      · rw [Handler.task, proveBlockTask, checkedMul,
          if_neg (mt job.fits_iff.mpr hfits)] at heq
        exact absurd heq.symm (by simp [Emission.orPanic, Emission.panic, bind])
  | prove request => exact last_of_closes (proveTask_finishes request).closes heq hterminal

/-- **The lines of a prover.**  In every run of a handler's stream the response carries the events
of its task and of its two readers, each in their order and none left out while the client stays;
every run ends, and none is stuck before.  The terminal event of `prove` and of `prove_block` is
the last one, after every line. -/
theorem proverLines_told (handler : Handler) (lines : Pipe → List Line) {room : ℕ}
    (hroom : 0 < room) {es : List Move} {s : Stream}
    (hrun : Run (Stream.step handler.reading (handler.job fh sc serde o lines) room)
      (.start (handler.job fh sc serde o lines)) es s) :
    Stream.ToldLines handler.reading (handler.job fh sc serde o lines) room es s :=
  Stream.toldLines (handler.closes lines) hroom hrun

/-- The lines of a handler's prover. -/
theorem Job.lines_ofTask {task : Task Unit} {mark : Action} {spawned : Bool}
    {lines : Pipe → List Line} {run : ProverRun}
    (h : (Job.ofTask task mark spawned lines).prover = some run) : run.lines = lines := by
  simp only [Job.ofTask] at h
  split at h
  · cases h
  · obtain rfl := Option.some.inj h
    rfl

theorem Job.events_ofTask (task : Task Unit) (mark : Action) (spawned : Bool)
    (lines : Pipe → List Line) : (Job.ofTask task mark spawned lines).before
      ++ (Job.ofTask task mark spawned lines).after = task.events := by
  simp only [Job.ofTask]
  split
  · simp [Job.after]
  · simp [Job.after]

/-- **The stream of a handler ends with its terminal event in every run exactly when the handler
awaits its readers**, once the prover has a line to tell: `prove` and `prove_block` do, and in a game
every line may come after all that the task sends. -/
theorem handler_endsWithTerminal_iff (handler : Handler) {lines : Pipe → List Line} {room : ℕ}
    (hroom : 0 < room) (hprover : (handler.job fh sc serde o lines).prover.isSome)
    (hfit : ∀ pipe, (lines pipe).length ≤ room)
    (hterminal : ∃ event ∈ (handler.task fh sc serde o).events, event.Terminal)
    (htold : ∃ pipe, handler.reading.told (lines pipe) ≠ []) :
    (Stream.EndsWithTerminal handler.reading (handler.job fh sc serde o lines) room ↔
      ∀ game, handler ≠ .playCoinflip game) ∧
    ∀ game, handler = .playCoinflip game →
      ∃ es s, Run (Stream.step handler.reading (handler.job fh sc serde o lines) room)
          (.start (handler.job fh sc serde o lines)) es s ∧
        s.body = ((handler.job fh sc serde o lines).events handler.reading .task).map
            (Prod.mk .task)
          ++ (handler.reading.told (lines .stdout)).map (Prod.mk (.reader .stdout))
          ++ (handler.reading.told (lines .stderr)).map (Prod.mk (.reader .stderr)) := by
  obtain ⟨run, hrun⟩ := Option.isSome_iff_exists.mp hprover
  have hlines : run.lines = lines := Job.lines_ofTask hrun
  refine ⟨?_, ?_⟩
  · rw [Stream.endsWithTerminal_iff (handler.closes lines) hroom hrun (hlines ▸ hfit)
      (by rwa [Handler.job, Job.events_ofTask]) (hlines ▸ htold)]
    cases handler with
    | playCoinflip game => simp [Handler.reading]
    | proveBlock | prove => simp [Handler.reading]
  · rintro game rfl
    have hnot : (Handler.playCoinflip game).reading.awaitsReaders = false := rfl
    obtain ⟨es, s, hlate, hbody⟩ := Stream.late_run hnot hrun (hlines ▸ hfit)
    refine ⟨es, s, hlate, ?_⟩
    rw [hbody, Job.events_reader hrun, Job.events_reader hrun, hlines]

/-! ### Two streams -/

/-- A request of `prove`, whose transaction is in a block. -/
def sampleProve : Handler := .prove ⟨"session", "0x9", some 7, "snip36"⟩

/-- Lines on both pipes, one of them empty and one that is not UTF-8. -/
def sampleLines : Pipe → List Line
  | .stdout => [some "started", some "", some "proved"]
  | .stderr => [some "warning", none, some "lost"]

def sampleStreamJob (handler : Handler) : Job :=
  handler.job sampleHex sampleCrypto (sampleSerde "0x1") (sampleOutcomes (some "")) sampleLines

/-- The readers come between, and the client stays. -/
def sampleMoves : List Move := [
  .acts, .acts, .takes, .spawns, .writes .stdout, .writes .stdout, .writes .stderr, .reads .stdout,
  .writes .stdout, .forwards .stdout, .reads .stdout, .writes .stderr, .reads .stderr, .takes,
  .writes .stderr, .forwards .stderr, .reads .stderr, .exits, .reads .stdout, .forwards .stdout,
  .closes .stdout, .awaited, .acts, .takes, .takes, .takes, .takes]

theorem proverLines_told_sample : ∃ s : Stream,
    Run (Stream.step sampleProve.reading (sampleStreamJob sampleProve) 2)
      (.start (sampleStreamJob sampleProve)) sampleMoves s ∧
    s.body.length = 6 ∧
    Stream.ToldLines sampleProve.reading (sampleStreamJob sampleProve) 2 sampleMoves s := by
  have hlength : (runEvents (Stream.step sampleProve.reading (sampleStreamJob sampleProve) 2)
      (.start (sampleStreamJob sampleProve)) sampleMoves).map (fun s => s.body.length)
        = some 6 := by
    decide +kernel
  obtain ⟨s, hs, hbody⟩ := Option.map_eq_some_iff.mp hlength
  have hrun := Run.of_runEvents hs
  exact ⟨s, hrun, hbody, proverLines_told sampleProve sampleLines two_pos hrun⟩

/-- In a game the lines may come after the result. -/
theorem not_endsWithTerminal_sampleGame :
    ¬ Stream.EndsWithTerminal (Handler.playCoinflip sampleGame).reading
      (sampleStreamJob (.playCoinflip sampleGame)) 3 := by
  obtain ⟨data, hdata⟩ := exists_send "result"
    (p := (Handler.playCoinflip sampleGame).task sampleHex sampleCrypto (sampleSerde "0x1")
      (sampleOutcomes (some ""))) (by decide +kernel)
  have hfit : ∀ pipe, (sampleLines pipe).length ≤ 3 := fun pipe => by cases pipe <;> decide
  have hiff := (handler_endsWithTerminal_iff (.playCoinflip sampleGame) three_pos
    (by decide +kernel) hfit ⟨_, hdata, .inr (.inl rfl)⟩ ⟨.stdout, by decide⟩).1
  exact fun h => hiff.mp h sampleGame rfl

end Snip36.Streams

import Snip36.Streams.ProverLines

/-!
# Streams — the page of a game

The app opens an event source on the stream of a game.  Its listeners write the logs and the phase
into the state of the page, and close the source at a result, at an error and when the connection
is lost.

`gamePage_shows`: whatever the order in which the task, the prover, its readers, the network and
the page move, the page shows the logs that have come, in their order.  When it no longer plays it
shows either a result, which is in its history once, or an error; the verdict is the last event of
the task, and all that the task has sent has come by then, unless the connection was lost or the
verdict is none that the page reads: a result that is no JSON, or an event without data.  Until
then there is a move that leads on, and afterwards nothing changes.
-/

namespace Snip36.Streams
open Support Signing CoinFlip

/-! ### The listeners -/

/-- The fields of `GameState` that the listeners write. -/
structure GameState where
  phase : Option String
  logs : List String
  playing : Bool
  result : Option Json
  error : Option String
  history : List Json

namespace GameState

variable (parse : String → Option Json) (frame : String → Option String)

/-- `me.data || "Connection lost"`. -/
def errorText (data : String) : String := if data = "" then "Connection lost" else data

/-- The listeners of the source, and whether they close it. -/
def hears (g : GameState) (event data : String) : GameState × Bool :=
  if event = "log" then ({ g with logs := g.logs ++ [data] }, false)
  else if event = "phase" then ({ g with phase := some data }, false)
  else if event = "result" then
    match parse data with
    | some result => ({ g with
        playing := false
        phase := none
        result := some result
        history := result :: g.history }, true)
    -- `JSON.parse` throws.
    | none => (g, false)
  else if event = "error" then ({ g with
    playing := false
    phase := none
    error := some (errorText data) }, true)
  else (g, false)

/-- An event comes to the page; `frame` is what the browser makes of its data.  An event without
data is not dispatched: a line of the prover that is empty is sent as one. -/
def receives (g : GameState) (event data : String) : GameState × Bool :=
  match frame data with
  | some shown => g.hears parse event shown
  | none => (g, false)

/-- The listener of `error`, without a message. -/
def lost (g : GameState) : GameState := { g with
  playing := false
  phase := none
  error := some "Connection lost" }

/-- A game begins: `setState`, at the head of `handleFlip`. -/
def begins (g : GameState) : GameState := { g with
  playing := true
  result := none
  error := none
  logs := []
  phase := none }

/-- The page when the source is opened, with the logs of `handleFlip`. -/
def opened (g : GameState) (logs : List String) : GameState := { g.begins with logs }

end GameState

/-! ### The page and its stream -/

/-- The stream of a game, the events of it that have come to the page, and the page. -/
structure GamePage where
  stream : Stream
  seen : ℕ
  /-- The source is open. -/
  source : Bool
  page : GameState

/-- What happens at the server, on the network or at the page. -/
inductive PageMove where
  | server (m : Move)
  /-- The next event comes to the page. -/
  | hears
  /-- The response has ended. -/
  | ends
  /-- The connection is lost. -/
  | cut

namespace GamePage

variable (reading : Reading) (job : Job) (room : ℕ)
  (parse : String → Option Json) (frame : String → Option String)

instance (s : Stream) : Decidable (s.Settled job) :=
  decidable_of_iff ((s.stage = .after ∨ job.prover = none) ∧ s.todo = [] ∧
      (s.reader .stdout = .ended ∧ s.reader .stderr = .ended) ∧ s.channel = [])
    ⟨fun h => ⟨h.1, h.2.1, Stream.forall_pipe.mpr h.2.2.1, h.2.2.2⟩,
      fun h => ⟨h.stage, h.todo, Stream.forall_pipe.mp h.readers, h.channel⟩⟩

/-- The source has just been opened. -/
def start (g : GameState) : GamePage := ⟨.start job, 0, true, g⟩

/-- The connection is lost. -/
def loses (w : GamePage) : GamePage := { w with
  source := false
  page := w.page.lost }

/-- One move. -/
def step (w : GamePage) : PageMove → Option GamePage
  | .server m =>
      -- The server drops the response of a source that is closed.
      if m = .drops ∧ w.source = true then none
      else (w.stream.step reading job room m).map fun stream => { w with stream }
  | .hears =>
      if w.source then
        match w.stream.body[w.seen]? with
        | some (_, .send event data) =>
            let heard := w.page.receives parse frame event data
            some { w with
              seen := w.seen + 1
              source := !heard.2
              page := heard.1 }
        | _ => none
      else none
  | .ends =>
      if w.source ∧ w.seen = w.stream.body.length ∧ w.stream.Settled job then some w.loses else none
  | .cut => if w.source then some w.loses else none

/-- The events that have come to the page. -/
def heard (w : GamePage) : List (Sender × Action) := w.stream.body.take w.seen

end GamePage

/-- The data of a log. -/
def Action.logData (frame : String → Option String) : Action → Option String
  | .send event data => if event = "log" then frame data else none
  | .setReferenceBlock .. => none

/-- The data of a phase. -/
def Action.phaseData (frame : String → Option String) : Action → Option String
  | .send event data => if event = "phase" then frame data else none
  | .setReferenceBlock .. => none

/-- The page closes the source at the event. -/
def Action.Closing (parse : String → Option Json) (frame : String → Option String) : Action → Prop
  | .send event data =>
      ∃ shown, frame data = some shown ∧ (event = "error" ∨ event = "result" ∧ (parse shown).isSome)
  | .setReferenceBlock .. => False

namespace GamePage

variable {reading : Reading} {job : Job} {room : ℕ} {parse : String → Option Json}
  {frame : String → Option String} {g : GameState} {w w' : GamePage} {es : List PageMove}

/-! ### What an event does to the page -/

variable (parse frame) in
/-- What the listeners make of an event. -/
inductive Heard (page : GameState) (event : String) (data : String) : GameState × Bool → Prop where
  | goesOn (hclosing : ¬ (Action.send event data).Closing parse frame) {page' : GameState}
      (hphase : page'.phase
        = ((Action.send event data).phaseData frame).elim page.phase some)
      (hlogs : page'.logs = page.logs ++ ((Action.send event data).logData frame).toList)
      (hsame : page'.playing = page.playing ∧ page'.result = page.result ∧
        page'.error = page.error ∧ page'.history = page.history) :
      Heard page event data (page', false)
  | result {shown : String} {result : Json} (hevent : event = "result")
      (hframe : frame data = some shown) (hparse : parse shown = some result) :
      Heard page event data ({ page with
        playing := false
        phase := none
        result := some result
        history := result :: page.history }, true)
  | error {shown : String} (hevent : event = "error") (hframe : frame data = some shown) :
      Heard page event data ({ page with
        playing := false
        phase := none
        error := some (GameState.errorText shown) }, true)

theorem receives_heard (page : GameState) (event data : String) :
    Heard parse frame page event data (page.receives parse frame event data) := by
  cases hframe : frame data with
  | none =>
      simp only [GameState.receives, hframe]
      exact .goesOn (by simp [Action.Closing, hframe]) (by simp [Action.phaseData, hframe])
        (by simp [Action.logData, hframe]) ⟨rfl, rfl, rfl, rfl⟩
  | some shown =>
  simp only [GameState.receives, hframe]
  by_cases hlog : event = "log"
  · subst hlog
    exact .goesOn (by simp [Action.Closing]) rfl (by simp [Action.logData, hframe])
      ⟨rfl, rfl, rfl, rfl⟩
  by_cases hphase : event = "phase"
  · subst hphase
    exact .goesOn (by simp [Action.Closing]) (by simp [Action.phaseData, hframe])
      (by simp [Action.logData]) ⟨rfl, rfl, rfl, rfl⟩
  by_cases hresult : event = "result"
  · subst hresult
    cases hparse : parse shown with
    | some result =>
        simp only [GameState.hears, hparse]
        exact .result rfl hframe hparse
    | none =>
        simp only [GameState.hears, hparse]
        exact .goesOn (by simp [Action.Closing, hframe, hparse]) rfl (by simp [Action.logData])
          ⟨rfl, rfl, rfl, rfl⟩
  by_cases herror : event = "error"
  · subst herror
    exact .error rfl hframe
  · simp only [GameState.hears, hlog, hphase, hresult, herror, if_false]
    exact .goesOn (by simp [Action.Closing, hresult, herror]) (by simp [Action.phaseData, hphase])
      (by simp [Action.logData, hlog]) ⟨rfl, rfl, rfl, rfl⟩

/-! ### What comes to the page -/

/-- What has come stays when the response goes on. -/
theorem take_of_prefix {ms ms' : List (Sender × Action)} (h : ms <+: ms') {n : ℕ}
    (hn : n ≤ ms.length) : ms'.take n = ms.take n := by
  obtain ⟨rest, rfl⟩ := h
  exact List.take_append_of_le_length hn

/-- The response only grows. -/
theorem body_prefix {s s' : Stream} (hs : Stream.Moves reading job s s') : s.body <+: s'.body := by
  cases hs with
  | sends _ hs | forwards _ hs =>
      rcases Stream.send_eq_some hs with ⟨-, rfl⟩ | ⟨-, rfl⟩
      · exact List.prefix_refl _
      · exact List.prefix_refl _
  | takes => exact List.prefix_append _ _
  | sets | spawns | loses | writes | exits | awaited | reads | skips | stops | closes | drops =>
      exact List.prefix_refl _

/-- The receiver is dropped in one move. -/
theorem receiver_of_ne_drops {s s' : Stream} {m : Move} (hm : m ≠ .drops)
    (hs : s.step reading job room m = some s') : s'.receiver = s.receiver := by
  cases m with
  | drops => exact absurd rfl hm
  | acts =>
      simp only [Stream.step] at hs
      split at hs
      · rcases Stream.send_eq_some hs with ⟨-, rfl⟩ | ⟨-, rfl⟩ <;> rfl
      · obtain rfl := Option.some.inj hs
        rfl
      · cases hs
  | forwards pipe =>
      simp only [Stream.step] at hs
      split at hs
      · rcases Stream.send_eq_some hs with ⟨-, rfl⟩ | ⟨-, rfl⟩ <;> rfl
      · cases hs
  | spawns | writes | exits | awaited | reads | closes | takes =>
      simp only [Stream.step] at hs
      repeat' split at hs
      all_goals first
        | (obtain rfl := Option.some.inj hs; rfl)
        | cases hs

/-- The events of the response are sent. -/
theorem isSend_of_mem {ms : List (Sender × Action)} (h : Stream.Carries reading job ms)
    {m : Sender × Action} (hm : m ∈ ms) : m.2.isSend := by
  obtain ⟨sender, event⟩ := m
  have hmem := (h.inOrder sender).subset (Stream.mem_eventsOf.mpr hm)
  cases sender with
  | task => exact (List.mem_filter.mp hmem).2
  | reader pipe =>
      obtain ⟨line, rfl⟩ := Reading.exists_of_mem_told hmem
      rfl

/-- A reader sends logs, which close nothing. -/
theorem task_of_closing {ms : List (Sender × Action)} (h : Stream.Carries reading job ms)
    {sender : Sender} {event : Action} (hm : (sender, event) ∈ ms)
    (hclosing : event.Closing parse frame) : sender = .task := by
  cases sender with
  | task => rfl
  | reader pipe =>
      obtain ⟨line, rfl⟩ := Reading.exists_of_mem_told
        ((h.inOrder (.reader pipe)).subset (Stream.mem_eventsOf.mpr hm))
      simp [Action.Closing] at hclosing

/-! ### What the page shows -/

variable (reading job parse frame g) in
/-- What the page shows when it no longer plays. -/
inductive Verdict (es : List PageMove) (w : GamePage) : Prop where
  | result {xs : List (Sender × Action)} {data shown : String} {result : Json}
      (hheard : w.heard = xs ++ [(.task, .send "result" data)])
      (hall : Stream.eventsOf .task w.heard = job.events reading .task)
      (hframe : frame data = some shown) (hparse : parse shown = some result)
      (hresult : w.page.result = some result) (herror : w.page.error = none)
      (hhistory : w.page.history = result :: g.history)
  | error {xs : List (Sender × Action)} {data shown : String}
      (hheard : w.heard = xs ++ [(.task, .send "error" data)])
      (hall : Stream.eventsOf .task w.heard = job.events reading .task)
      (hframe : frame data = some shown) (hresult : w.page.result = none)
      (herror : w.page.error = some (GameState.errorText shown))
      (hhistory : w.page.history = g.history)
  | lost (hlost : .cut ∈ es ∨ ∀ event ∈ job.events reading .task, ¬ event.Closing parse frame)
      (hresult : w.page.result = none) (herror : w.page.error = some "Connection lost")
      (hhistory : w.page.history = g.history)

variable (parse frame g) in
/-- A page that plays. -/
structure Plays (w : GamePage) : Prop where
  receiver : w.stream.receiver = true
  playing : w.page.playing = true
  result : w.page.result = none
  error : w.page.error = none
  history : w.page.history = g.history
  phase : w.page.phase = (w.heard.filterMap fun m => m.2.phaseData frame).getLast?
  notClosing : ∀ m ∈ w.heard, ¬ m.2.Closing parse frame

variable (reading job parse frame g) in
/-- What holds at any time. -/
structure Sound (es : List PageMove) (w : GamePage) : Prop where
  stream : w.stream.Sound reading job
  seen : w.seen ≤ w.stream.body.length
  logs : w.page.logs = g.logs ++ w.heard.filterMap fun m => m.2.logData frame
  plays : w.source = true → w.Plays parse frame g
  verdict : w.source = false →
    w.page.playing = false ∧ w.page.phase = none ∧ Verdict reading job parse frame g es w

theorem Verdict.mono {es' : List PageMove} (h : Verdict reading job parse frame g es w)
    (hes : es <+: es') (hheard : w'.heard = w.heard) (hpage : w'.page = w.page) :
    Verdict reading job parse frame g es' w' := by
  cases h with
  | result hlast hall hframe hparse hresult herror hhistory =>
      exact .result (hheard.trans hlast) (hheard ▸ hall) hframe hparse (hpage ▸ hresult)
        (hpage ▸ herror) (hpage ▸ hhistory)
  | error hlast hall hframe hresult herror hhistory =>
      exact .error (hheard.trans hlast) (hheard ▸ hall) hframe (hpage ▸ hresult) (hpage ▸ herror)
        (hpage ▸ hhistory)
  | lost hlost hresult herror hhistory =>
      exact .lost (hlost.imp_left fun h => hes.subset h) (hpage ▸ hresult) (hpage ▸ herror)
        (hpage ▸ hhistory)

theorem sound_start (hcloses : job.Closes) (logs : List String) :
    (start job (g.opened logs)).Sound reading job parse frame (g.opened logs) [] where
  stream := Stream.sound_start hcloses
  seen := le_refl 0
  logs := (List.append_nil _).symm
  plays _ := ⟨rfl, rfl, rfl, rfl, rfl, rfl, fun _ h => absurd h List.not_mem_nil⟩
  verdict h := by cases h

theorem Sound.carries (h : w.Sound reading job parse frame g es) :
    Stream.Carries reading job w.stream.body :=
  h.stream.carries.of_prefix (List.prefix_append _ _)

/-- The server moves. -/
theorem Sound.server {m : Move} {stream : Stream} (h : w.Sound reading job parse frame g es)
    (hcloses : job.Closes) (hdrops : ¬ (m = .drops ∧ w.source = true))
    (hs : w.stream.step reading job room m = some stream) :
    Sound reading job parse frame g (es ++ [.server m]) { w with stream } := by
  have hbody := body_prefix (Stream.step_moves hs)
  have hheard : GamePage.heard { w with stream } = w.heard := take_of_prefix hbody h.seen
  refine ⟨h.stream.step hcloses (Stream.step_moves hs), h.seen.trans hbody.length_le, ?_, ?_, ?_⟩
  · rw [hheard]
    exact h.logs
  · intro hsource
    have hplays := h.plays hsource
    have hm : m ≠ .drops := fun hm => hdrops ⟨hm, hsource⟩
    exact { hplays with
      receiver := (receiver_of_ne_drops hm hs).trans hplays.receiver
      phase := by rw [hheard]; exact hplays.phase
      notClosing := by rw [hheard]; exact hplays.notClosing }
  · intro hsource
    obtain ⟨hplaying, hphase, hverdict⟩ := h.verdict hsource
    exact ⟨hplaying, hphase, hverdict.mono (List.prefix_append _ _) hheard rfl⟩

/-- The connection is lost. -/
theorem Sound.loses {m : PageMove} (h : w.Sound reading job parse frame g es)
    (hsource : w.source = true)
    (hlost : .cut ∈ es ++ [m] ∨ ∀ event ∈ job.events reading .task, ¬ event.Closing parse frame) :
    w.loses.Sound reading job parse frame g (es ++ [m]) := by
  have hplays := h.plays hsource
  refine ⟨h.stream, h.seen, h.logs, by rintro ⟨⟩, fun _ => ⟨rfl, rfl, ?_⟩⟩
  exact .lost hlost hplays.result rfl hplays.history

/-- The next event has come. -/
theorem heard_succ {m : Sender × Action} (hnext : w.stream.body[w.seen]? = some m)
    (source : Bool) (page : GameState) :
    GamePage.heard ⟨w.stream, w.seen + 1, source, page⟩ = w.heard ++ [m] := by
  rw [heard, heard, List.take_add_one, hnext]
  rfl

/-- An event that closes the source is the last of the task's. -/
theorem all_of_closing {xs : List (Sender × Action)} {event : Action}
    (hcarries : Stream.Carries reading job (xs ++ [(.task, event)]))
    (hterminal : event.Terminal) :
    Stream.eventsOf .task (xs ++ [(.task, event)]) = job.events reading .task :=
  (hcarries.ends xs event [] rfl hterminal).1

/-- **An event comes to the page.** -/
theorem Sound.hears {sender : Sender} {event data : String}
    (h : w.Sound reading job parse frame g es) (hsource : w.source = true)
    (hnext : w.stream.body[w.seen]? = some (sender, .send event data)) :
    Sound reading job parse frame g (es ++ [.hears]) { w with
      seen := w.seen + 1
      source := !(w.page.receives parse frame event data).2
      page := (w.page.receives parse frame event data).1 } := by
  have hplays := h.plays hsource
  obtain ⟨hlt, hget⟩ := List.getElem?_eq_some_iff.mp hnext
  have hcarries : Stream.Carries reading job (w.heard ++ [(sender, .send event data)]) := by
    rw [← heard_succ hnext true w.page]
    exact h.carries.of_prefix (List.take_prefix _ _)
  have hmem : (sender, .send event data) ∈ w.heard ++ [(sender, .send event data)] :=
    List.mem_append_right _ (List.mem_singleton_self _)
  generalize hheard : w.page.receives parse frame event data = heard
  have hcases : Heard parse frame w.page event data heard := hheard ▸ receives_heard ..
  cases hcases with
  | goesOn hclosing hphase hlogs hsame =>
      refine ⟨h.stream, hlt, ?_, fun _ => ?_, by rintro ⟨⟩⟩
      · rw [heard_succ hnext _ _, List.filterMap_append, ← List.append_assoc, ← h.logs, hlogs]
        cases hdata : (Action.send event data).logData frame <;> simp [hdata]
      · refine {
          receiver := hplays.receiver
          playing := hsame.1.trans hplays.playing
          result := hsame.2.1.trans hplays.result
          error := hsame.2.2.1.trans hplays.error
          history := hsame.2.2.2.trans hplays.history
          phase := ?_
          notClosing := ?_ }
        · rw [heard_succ hnext _ _, List.filterMap_append, hphase, hplays.phase]
          cases hdata : (Action.send event data).phaseData frame <;> simp [hdata]
        · rw [heard_succ hnext _ _]
          exact List.forall_mem_append.mpr
            ⟨hplays.notClosing, List.forall_mem_singleton.mpr hclosing⟩
  | result hevent hframe hparse =>
      subst hevent
      have hclosing : (Action.send "result" data).Closing parse frame :=
        ⟨_, hframe, .inr ⟨rfl, hparse ▸ rfl⟩⟩
      obtain rfl := task_of_closing hcarries hmem hclosing
      refine ⟨h.stream, hlt, ?_, by rintro ⟨⟩, fun _ => ⟨rfl, rfl, ?_⟩⟩
      · rw [heard_succ hnext _ _, List.filterMap_append, ← List.append_assoc, ← h.logs]
        exact (List.append_nil _).symm
      · refine .result (heard_succ hnext _ _) ?_ hframe hparse rfl hplays.error
          (congrArg (List.cons _) hplays.history)
        rw [heard_succ hnext _ _]
        exact all_of_closing hcarries (.inr (.inl rfl))
  | error hevent hframe =>
      subst hevent
      have hclosing : (Action.send "error" data).Closing parse frame := ⟨_, hframe, .inl rfl⟩
      obtain rfl := task_of_closing hcarries hmem hclosing
      refine ⟨h.stream, hlt, ?_, by rintro ⟨⟩, fun _ => ⟨rfl, rfl, ?_⟩⟩
      · rw [heard_succ hnext _ _, List.filterMap_append, ← List.append_assoc, ← h.logs]
        exact (List.append_nil _).symm
      · refine .error (heard_succ hnext _ _) ?_ hframe hplays.result rfl hplays.history
        rw [heard_succ hnext _ _]
        exact all_of_closing hcarries (.inl rfl)

/-- **A step keeps what holds of the page.** -/
theorem Sound.step {m : PageMove} (h : w.Sound reading job parse frame g es)
    (hcloses : job.Closes) (hs : w.step reading job room parse frame m = some w') :
    w'.Sound reading job parse frame g (es ++ [m]) := by
  cases m with
  | server m =>
      simp only [GamePage.step] at hs
      split at hs
      · cases hs
      · next hdrops =>
          obtain ⟨stream, hstream, rfl⟩ := Option.map_eq_some_iff.mp hs
          exact h.server hcloses hdrops hstream
  | hears =>
      simp only [GamePage.step] at hs
      split at hs
      · next hsource =>
          split at hs
          · next hnext =>
              obtain rfl := Option.some.inj hs
              exact h.hears hsource hnext
          · cases hs
      · cases hs
  | ends =>
      simp only [GamePage.step] at hs
      split at hs
      · next hends =>
          obtain rfl := Option.some.inj hs
          obtain ⟨hsource, hseen, hsettled⟩ := hends
          -- All has come, and nothing closed the source.
          have hplays := h.plays hsource
          refine h.loses hsource (.inr fun event hmem hclosing => ?_)
          rw [← h.stream.whole hsettled hplays.receiver .task] at hmem
          have hheard : w.heard = w.stream.body := List.take_of_length_le hseen.ge
          exact hplays.notClosing (.task, event) (hheard ▸ Stream.mem_eventsOf.mp hmem) hclosing
      · cases hs
  | cut =>
      simp only [GamePage.step] at hs
      split at hs
      · next hsource =>
          obtain rfl := Option.some.inj hs
          exact h.loses hsource (.inl (List.mem_append_right _ (List.mem_singleton_self _)))
      · cases hs

/-! ### An end -/

variable (job) in
/-- A bound on the moves that are left. -/
def cost (w : GamePage) : ℕ :=
  2 * w.stream.cost job + (w.stream.body.length - w.seen) + if w.source then 1 else 0

/-- The response takes one event at a time. -/
theorem length_body_le {s s' : Stream} (hs : Stream.Moves reading job s s') :
    s'.body.length ≤ s.body.length + 1 := by
  cases hs with
  | sends _ hs | forwards _ hs =>
      rcases Stream.send_eq_some hs with ⟨-, rfl⟩ | ⟨-, rfl⟩
      · exact Nat.le_succ _
      · exact Nat.le_succ _
  | takes => simp
  | sets | spawns | loses | writes | exits | awaited | reads | skips | stops | closes | drops =>
      exact Nat.le_succ _

/-- **Every move is one less to come.** -/
theorem cost_lt {m : PageMove} (hs : w.step reading job room parse frame m = some w') :
    w'.cost job < w.cost job := by
  cases m with
  | server m =>
      simp only [GamePage.step] at hs
      split at hs
      · cases hs
      · obtain ⟨stream, hstream, rfl⟩ := Option.map_eq_some_iff.mp hs
        have hmoves := Stream.step_moves hstream
        have hcost := hmoves.cost_lt
        have hbody := length_body_le hmoves
        simp only [cost]
        omega
  | hears =>
      simp only [GamePage.step] at hs
      split at hs
      · next hsource =>
          split at hs
          · next hnext =>
              obtain rfl := Option.some.inj hs
              obtain ⟨hlt, -⟩ := List.getElem?_eq_some_iff.mp hnext
              simp only [cost, hsource]
              split <;> simp <;> omega
          · cases hs
      · cases hs
  | ends =>
      simp only [GamePage.step] at hs
      split at hs
      · next hends =>
          obtain rfl := Option.some.inj hs
          simp [cost, GamePage.loses, hends.1]
      · cases hs
  | cut =>
      simp only [GamePage.step] at hs
      split at hs
      · next hsource =>
          obtain rfl := Option.some.inj hs
          simp [cost, GamePage.loses, hsource]
      · cases hs

/-- **While the page plays there is a move.** -/
theorem Sound.goesOn (h : w.Sound reading job parse frame g es) (hroom : 0 < room)
    (hsource : w.source = true) :
    ∃ m, m ≠ .cut ∧ (w.step reading job room parse frame m).isSome := by
  rcases Stream.goesOn hroom h.stream.staged with hsettled | ⟨m, hm, hsome⟩
  · by_cases hlt : w.seen < w.stream.body.length
    · obtain ⟨⟨sender, event⟩, hnext⟩ : ∃ m, w.stream.body[w.seen]? = some m :=
        ⟨_, List.getElem?_eq_getElem hlt⟩
      have hsend := isSend_of_mem h.carries (List.mem_of_getElem? hnext)
      refine ⟨.hears, by rintro ⟨⟩, ?_⟩
      cases event with
      | send event data => simp [GamePage.step, hsource, hnext]
      | setReferenceBlock => cases hsend
    · have hseen : w.seen = w.stream.body.length := le_antisymm h.seen (not_lt.mp hlt)
      exact ⟨.ends, by rintro ⟨⟩, by simp [GamePage.step, hsource, hseen, hsettled]⟩
  · refine ⟨.server m, by rintro ⟨⟩, ?_⟩
    simp [GamePage.step, hm, hsome]

/-- **A page that no longer plays stays as it is.** -/
theorem stays {m : PageMove} (hsource : w.source = false)
    (hs : w.step reading job room parse frame m = some w') :
    w'.page = w.page ∧ w'.source = false := by
  cases m with
  | server m =>
      simp only [GamePage.step] at hs
      split at hs
      · cases hs
      · obtain ⟨stream, -, rfl⟩ := Option.map_eq_some_iff.mp hs
        exact ⟨rfl, hsource⟩
  | hears | ends | cut => simp [GamePage.step, hsource] at hs

/-! ### Games -/

variable (reading job room parse frame g) in
/-- What a page shows of a game. -/
structure Shows (es : List PageMove) (w : GamePage) : Prop where
  /-- What has come of each sender is the first that it sent. -/
  inOrder : ∀ sender, Stream.eventsOf sender w.heard <+: job.events reading sender
  /-- The logs are those that have come. -/
  logs : w.page.logs = g.logs ++ w.heard.filterMap fun m => m.2.logData frame
  /-- Until the source is closed the page plays, in the last phase that has come. -/
  plays : w.source = true → w.page.playing = true ∧ w.page.result = none ∧ w.page.error = none ∧
    w.page.history = g.history ∧
    w.page.phase = (w.heard.filterMap fun m => m.2.phaseData frame).getLast?
  /-- Then it shows the verdict. -/
  verdict : w.source = false →
    w.page.playing = false ∧ w.page.phase = none ∧ Verdict reading job parse frame g es w
  goesOn : w.source = true → ∃ m, m ≠ .cut ∧ (w.step reading job room parse frame m).isSome
  stays : w.source = false → ∀ es' w', Run (step reading job room parse frame) w es' w' →
    w'.page = w.page
  bounded : es.length ≤ (start job g).cost job

/-- The moves of a run are bounded. -/
theorem cost_of_run (hrun : Run (step reading job room parse frame) w es w') :
    w'.cost job + es.length ≤ w.cost job := by
  refine hrun.history_induction (P := fun es w' => w'.cost job + es.length ≤ w.cost job) ?_ ?_
  · simp
  · intro es w₁ m w₂ hle hs
    have := cost_lt hs
    rw [List.length_append, List.length_singleton]
    omega

theorem shows (hcloses : job.Closes) (hroom : 0 < room) {logs : List String}
    (hrun : Run (step reading job room parse frame) (start job (g.opened logs)) es w) :
    Shows reading job room parse frame (g.opened logs) es w := by
  have h : w.Sound reading job parse frame (g.opened logs) es :=
    hrun.history_induction (sound_start hcloses logs) fun _ _ _ _ hsound hs =>
      hsound.step hcloses hs
  constructor
  · exact (h.carries.of_prefix (List.take_prefix _ _)).inOrder
  · exact h.logs
  · intro hsource
    have hplays := h.plays hsource
    exact ⟨hplays.playing, hplays.result, hplays.error, hplays.history, hplays.phase⟩
  · exact h.verdict
  · exact h.goesOn hroom
  · intro hsource es' w' hrun'
    have hstays : w'.page = w.page ∧ w'.source = false := by
      refine hrun'.invariant (P := fun w' => w'.page = w.page ∧ w'.source = false)
        ⟨rfl, hsource⟩ ?_
      rintro w₁ m w₂ ⟨hpage, hclosed⟩ hs
      obtain ⟨hpage', hclosed'⟩ := stays hclosed hs
      exact ⟨hpage'.trans hpage, hclosed'⟩
    exact hstays.1
  · exact (Nat.le_add_left ..).trans (cost_of_run hrun)

end GamePage

/-- **The page of a game.**  In every run of the stream and the page of a game, the page shows the
logs that have come in their order; its verdict is a result or an error, the last event of the task,
after all of the task's events, or that the connection is lost, which needs that it was or that the
task had no verdict that the page reads; and until its verdict there is a move. -/
theorem gamePage_shows {fh : FeltHex} {sc : StarknetCrypto} {serde : SerdeJson} {o : Outcomes}
    (game : Game) (lines : Pipe → List Line) {room : ℕ} (hroom : 0 < room)
    {parse : String → Option Json} {frame : String → Option String} (g : GameState)
    (logs : List String)
    {es : List PageMove} {w : GamePage}
    (hrun : Run (GamePage.step (Handler.playCoinflip game).reading
        ((Handler.playCoinflip game).job fh sc serde o lines) room parse frame)
      (.start ((Handler.playCoinflip game).job fh sc serde o lines) (g.opened logs)) es w) :
    GamePage.Shows (Handler.playCoinflip game).reading
      ((Handler.playCoinflip game).job fh sc serde o lines) room parse frame
      (g.opened logs) es w :=
  GamePage.shows ((Handler.playCoinflip game).closes lines) hroom hrun

/-! ### A game with late lines -/

/-- The result of the sample game, without its messages. -/
def sampleResult : Json := .obj [
  ("outcome", .str ""), ("bet", .str "tails"), ("won", .bool false),
  ("tx_hash", .str "0x4e989f999bed52646a2eb505890b442de44b130f07a1f86489d9336476d990a"),
  ("proof_size", .num 4), ("seed", .str "0x6"), ("player", .str "0x123")]

def sampleParse (text : String) : Option Json :=
  if text = sampleResult.compact then some sampleResult else none

/-- The data of an event, unless it is empty. -/
def sampleFrame (data : String) : Option String := if data = "" then none else some data

/-- The task sends an event, and it comes to the page. -/
def sampleTold : List PageMove := [.server .acts, .server .takes, .hears]

/-- One line comes before the result, and one after it. -/
def lateLine : List PageMove :=
  (List.replicate 5 sampleTold).flatten ++ [
    .server .spawns, .server (.writes .stdout), .server (.writes .stdout),
    .server (.writes .stdout), .server (.writes .stderr), .server (.writes .stderr),
    .server (.reads .stdout), .server (.forwards .stdout), .server .takes, .hears,
    .server (.writes .stderr), .server .exits, .server .awaited]
  ++ (List.replicate 8 sampleTold).flatten
  ++ [.server (.reads .stderr), .server (.forwards .stderr), .server .takes, .server .drops]

/-- A page on which nothing was played. -/
def samplePage : GameState := ⟨none, [], false, none, none, []⟩

theorem gamePage_shows_lateLine : ∃ w : GamePage,
    Run (GamePage.step (Handler.playCoinflip sampleGame).reading
        (sampleStreamJob (.playCoinflip sampleGame)) 3 sampleParse sampleFrame)
      (.start (sampleStreamJob (.playCoinflip sampleGame)) (samplePage.opened [])) lateLine w ∧
    w.page.history.length = 1 ∧
    GamePage.Shows (Handler.playCoinflip sampleGame).reading
      (sampleStreamJob (.playCoinflip sampleGame)) 3 sampleParse sampleFrame (samplePage.opened [])
      lateLine w := by
  have hlength : (runEvents (GamePage.step (Handler.playCoinflip sampleGame).reading
        (sampleStreamJob (.playCoinflip sampleGame)) 3 sampleParse sampleFrame)
      (.start (sampleStreamJob (.playCoinflip sampleGame)) (samplePage.opened [])) lateLine).map
        (fun w => w.page.history.length) = some 1 := by
    decide +kernel
  obtain ⟨w, hw, hhistory⟩ := Option.map_eq_some_iff.mp hlength
  have hrun := Run.of_runEvents hw
  exact ⟨w, hrun, hhistory,
    gamePage_shows sampleGame sampleLines three_pos samplePage [] hrun⟩

end Snip36.Streams

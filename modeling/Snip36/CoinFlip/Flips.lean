import Snip36.CoinFlip.Deployment
import Snip36.CoinFlip.HonestReveal
import Snip36.CoinFlip.Predictability

/-!
# CoinFlip — the flips of the app

`handleFlip` of the app asks for the status, has the contract deployed when there is none, commits
the bet and opens the event source of the play, on the session id that it was told.  Any number of
flips run against one server, beside other clients, and every request may be lost.

A flip is alone on its session id, so its play is an honest reveal (`UnderWay`): it is never
refused, its game has its player, its bet and the seed that it was told, and nothing of the bet but
the commitment reaches the server before that seed is stored (`flips_fair`).
-/

namespace Snip36.CoinFlip
open Support Signing

/-! ### A flip -/

/-- `b.toString(16).padStart(2, "0")`. -/
def byteText (b : UInt8) : List Char :=
  [Nat.digitChar (b.toNat / 16), Nat.digitChar (b.toNat % 16)]

/-- `nonce`, of `nonceBytes`. -/
def nonceText (nonceBytes : List UInt8) : String :=
  String.ofList ('0' :: 'x' :: nonceBytes.flatMap byteText)

/-- `"0x" + state.bet.toString(16)`. -/
def betText (bet : Fin 2) : String := hexOf bet.val

/-- The number of a status. -/
def StatusCode.number : StatusCode → ℕ
  | .badRequest => 400
  | .internalServerError => 500
  | .badGateway => 502
  | .gatewayTimeout => 504

/-- The text of what `post` throws for an error response. -/
def ErrorResponse.thrown (response : ErrorResponse) : String :=
  "Error: " ++ if response.detail = "" then "HTTP " ++ toString response.status.number
    else response.detail

/-- Where a flip failed. -/
inductive FlipFailure where
  | deploy
  | commit
  /-- The event source was refused. -/
  | refused
  | lost
  deriving DecidableEq

/-- What `handleFlip` waits for; a request has its id once it has come to the server. -/
inductive FlipPhase where
  /-- The status, or its answer. -/
  | checkingStatus (deployed : Option Bool)
  | deploying (rid : Option ℕ)
  | committing (nonceBytes : List UInt8) (rid : Option ℕ)
  | playing (nonceBytes : List UInt8) (sessionId : String) (rid : Option ℕ)
  /-- The event source is open. -/
  | opened (nonceBytes : List UInt8) (sessionId : String) (rid : ℕ)
  | failed (failure : FlipFailure) (error : String)
  deriving DecidableEq

/-- The id of the request that is waited for. -/
def FlipPhase.rid : FlipPhase → Option ℕ
  | .deploying rid | .committing _ rid | .playing _ _ rid => rid
  | .opened _ _ rid => some rid
  | .checkingStatus _ | .failed _ _ => none

/-- The session id that was told. -/
def FlipPhase.session : FlipPhase → Option String
  | .playing _ sessionId _ | .opened _ sessionId _ => some sessionId
  | _ => none

/-- A call of `handleFlip`, with what it captured. -/
structure Flip where
  address : String
  bet : Fin 2
  phase : FlipPhase
  deriving DecidableEq

namespace FlipPhase

/-- The status comes in; `nonceBytes` are the next random bytes. -/
def knows (nonceBytes : List UInt8) : FlipPhase → Option FlipPhase
  | .checkingStatus (some true) => some (.committing nonceBytes none)
  | .checkingStatus (some false) => some (.deploying none)
  | _ => none

/-- The answer to a request comes in. -/
def receives (nonceBytes : List UInt8) : FlipPhase → Answer → Option FlipPhase
  | .deploying (some _), .deployed _ => some (.committing nonceBytes none)
  | .deploying (some _), .error response =>
      some (.failed .deploy ("Deploy failed: " ++ response.thrown))
  | .committing nonceBytes (some _), .committed sessionId _ =>
      some (.playing nonceBytes sessionId none)
  | .committing _ (some _), .error response =>
      some (.failed .commit ("Commit failed: " ++ response.thrown))
  | .playing nonceBytes sessionId (some rid), .stream => some (.opened nonceBytes sessionId rid)
  | .playing _ _ (some _), .error _ => some (.failed .refused "Connection lost")
  | _, _ => none

/-- A request is lost, or the connection of the event source, with an error that is thrown. -/
def loses (e : String) : FlipPhase → Option FlipPhase
  | .checkingStatus _ | .deploying _ => some (.failed .deploy ("Deploy failed: " ++ e))
  | .committing _ _ => some (.failed .commit ("Commit failed: " ++ e))
  | .playing .. | .opened .. => some (.failed .lost "Connection lost")
  | .failed .. => none

end FlipPhase

section System

variable (fh : FeltHex) (pedersenHash : Felt → Felt → Felt)
  (computePedersenHash : String → String → String)

namespace Flip

/-- `commitment`. -/
def commitment (flip : Flip) (nonceBytes : List UInt8) : String :=
  computePedersenHash (betText flip.bet) (nonceText nonceBytes)

/-- The body of `api.commit(commitment, state.address)`. -/
def commitRequest (flip : Flip) (nonceBytes : List UInt8) : CommitRequest :=
  ⟨flip.commitment computePedersenHash nonceBytes, flip.address⟩

/-- The query of `api.play(sessionId, state.address, state.bet, nonce)`. -/
def params (flip : Flip) (nonceBytes : List UInt8) : PlayQuery :=
  ⟨flip.address, betByte flip.bet, nonceText nonceBytes⟩

/-- The request of a flip comes to the server. -/
def sends (flip : Flip) : Event → Option FlipPhase
  | .deploy rid =>
      match flip.phase with
      | .deploying none => some (.deploying (some rid))
      | _ => none
  | .commit rid req =>
      match flip.phase with
      | .committing nonceBytes none =>
          if req = flip.commitRequest computePedersenHash nonceBytes then
            some (.committing nonceBytes (some rid))
          else none
      | _ => none
  | .play rid sessionId params =>
      match flip.phase with
      | .playing nonceBytes sessionId' none =>
          if sessionId = sessionId' ∧ params = flip.params nonceBytes then
            some (.playing nonceBytes sessionId (some rid))
          else none
      | _ => none
  | _ => none

end Flip

/-! ### The apps and their server -/

/-- The flips that the apps have started, the server, and the flip that each request is of. -/
structure Apps where
  server : Server
  flips : ℕ → Option Flip
  nextFlip : ℕ
  owner : ℕ → Option ℕ

/-- What happens at an app, on the network or at the server. -/
inductive AppEvent where
  | flip (i : ℕ) (address : String) (bet : Fin 2)
  /-- The server answers a status. -/
  | status (i : ℕ)
  | knows (i : ℕ) (nonceBytes : List UInt8)
  /-- A request of a flip comes to the server. -/
  | sends (i : ℕ) (e : Event)
  | receives (i : ℕ) (a : Answer) (nonceBytes : List UInt8)
  | loses (i : ℕ) (e : String)
  /-- A move of a request at the server, or a request of another client. -/
  | server (e : Event)

namespace Apps

/-- No flip yet. -/
def new : Apps := ⟨.new, fun _ => none, 0, fun _ => none⟩

/-- A flip goes on. -/
def setPhase (s : Apps) (i : ℕ) (flip : Flip) (phase : FlipPhase) : Apps :=
  { s with flips := Function.update s.flips i (some { flip with phase }) }

/-- A flip waits for the answer to the request. -/
def Awaited (s : Apps) (rid : ℕ) : Bool :=
  ((s.owner rid).bind s.flips).any fun flip => flip.phase.rid = some rid

/-- The event cancels a request whose client waits. -/
def Cancels (s : Apps) : Event → Bool
  | .cancel rid => s.Awaited rid
  | _ => false

/-- One move. -/
def step (s : Apps) : AppEvent → Option Apps
  | .flip i address bet =>
      -- `if (!state.address) return;`
      if i = s.nextFlip ∧ address ≠ "" then
        some { s with
          nextFlip := i + 1
          flips := Function.update s.flips i (some ⟨address, bet, .checkingStatus none⟩) }
      else none
  | .status i =>
      match s.flips i with
      | some ⟨address, bet, .checkingStatus none⟩ =>
          some (s.setPhase i ⟨address, bet, .checkingStatus none⟩
            (.checkingStatus (some s.server.coinflip.isSome)))
      | _ => none
  | .knows i nonceBytes =>
      if nonceBytes.length = 31 then
        (s.flips i).bind fun flip => (flip.phase.knows nonceBytes).map (s.setPhase i flip)
      else none
  | .sends i e =>
      (s.flips i).bind fun flip => (flip.sends computePedersenHash e).bind fun phase =>
        (CoinFlip.step fh pedersenHash s.server e).map fun server =>
          { s.setPhase i flip phase with
            server
            owner := Function.update s.owner e.rid (some i) }
  | .receives i a nonceBytes =>
      if nonceBytes.length = 31 then
        (s.flips i).bind fun flip =>
          if flip.phase.rid.any fun rid => (rid, a) ∈ s.server.answers then
            (flip.phase.receives nonceBytes a).map (s.setPhase i flip)
          else none
      else none
  | .loses i e => (s.flips i).bind fun flip => (flip.phase.loses e).map (s.setPhase i flip)
  | .server e =>
      if s.Cancels e then none
      else (CoinFlip.step fh pedersenHash s.server e).map fun server => { s with server }

end Apps

/-- What an event is at the server. -/
def AppEvent.serverEvent : AppEvent → Option Event
  | .sends _ e | .server e => some e
  | _ => none

/-- The events at the server. -/
def serverEvents (es : List AppEvent) : List Event := es.filterMap AppEvent.serverEvent

end System

/-! ### Moves -/

/-- What an app does by itself, at a phase of a flip. -/
inductive Acts (server : Server) : FlipPhase → FlipPhase → Prop where
  | status : Acts server (.checkingStatus none) (.checkingStatus (some server.coinflip.isSome))
  | deployed {nonceBytes : List UInt8} (hlen : nonceBytes.length = 31) :
      Acts server (.checkingStatus (some true)) (.committing nonceBytes none)
  | notDeployed : Acts server (.checkingStatus (some false)) (.deploying none)
  | receives {phase phase' : FlipPhase} {rid : ℕ} {a : Answer} {nonceBytes : List UInt8}
      (hlen : nonceBytes.length = 31) (hrid : phase.rid = some rid)
      (ha : (rid, a) ∈ server.answers) (h : phase.receives nonceBytes a = some phase') :
      Acts server phase phase'
  | loses {phase phase' : FlipPhase} {e : String} (h : phase.loses e = some phase') :
      Acts server phase phase'

variable {fh : FeltHex} {pedersenHash : Felt → Felt → Felt}
  {computePedersenHash : String → String → String}

variable (fh pedersenHash computePedersenHash) in
/-- The moves, each with what it finds. -/
inductive AppMove (s : Apps) : AppEvent → Apps → Prop where
  | flip {i : ℕ} {address : String} {bet : Fin 2} (hi : i = s.nextFlip) :
      AppMove s (.flip i address bet) { s with
        nextFlip := i + 1
        flips := Function.update s.flips i (some ⟨address, bet, .checkingStatus none⟩) }
  | acts {e : AppEvent} {i : ℕ} {flip : Flip} {phase : FlipPhase} (he : e.serverEvent = none)
      (hflip : s.flips i = some flip) (hacts : Acts s.server flip.phase phase) :
      AppMove s e (s.setPhase i flip phase)
  | sends {i : ℕ} {e : Event} {flip : Flip} {phase : FlipPhase} {server : Server}
      (hflip : s.flips i = some flip) (hsends : flip.sends computePedersenHash e = some phase)
      (hs : step fh pedersenHash s.server e = some server) :
      AppMove s (.sends i e) { s.setPhase i flip phase with
        server
        owner := Function.update s.owner e.rid (some i) }
  | server {e : Event} {server : Server} (hwaits : ∀ rid, e = .cancel rid → s.Awaited rid = false)
      (hs : step fh pedersenHash s.server e = some server) :
      AppMove s (.server e) { s with server }

/-- **A step is one of the moves.** -/
theorem appStep_move {s s' : Apps} {e : AppEvent}
    (hs : s.step fh pedersenHash computePedersenHash e = some s') :
    AppMove fh pedersenHash computePedersenHash s e s' := by
  cases e with
  | flip i address bet =>
      simp only [Apps.step] at hs
      split at hs
      · next hi =>
          obtain rfl := Option.some.inj hs
          exact .flip hi.1
      · cases hs
  | status i =>
      simp only [Apps.step] at hs
      split at hs
      · next hflip =>
          obtain rfl := Option.some.inj hs
          exact .acts rfl hflip .status
      · cases hs
  | knows i nonceBytes =>
      simp only [Apps.step] at hs
      split at hs
      · next hlen =>
          obtain ⟨flip, hflip, hs⟩ := Option.bind_eq_some_iff.mp hs
          obtain ⟨phase, hknows, rfl⟩ := Option.map_eq_some_iff.mp hs
          refine .acts rfl hflip ?_
          rw [FlipPhase.knows.eq_def] at hknows
          split at hknows
          · next heq =>
              obtain rfl := Option.some.inj hknows
              exact heq ▸ .deployed hlen
          · next heq =>
              obtain rfl := Option.some.inj hknows
              exact heq ▸ .notDeployed
          · cases hknows
      · cases hs
  | sends i e =>
      obtain ⟨flip, hflip, hs⟩ := Option.bind_eq_some_iff.mp hs
      obtain ⟨phase, hsends, hs⟩ := Option.bind_eq_some_iff.mp hs
      obtain ⟨server, hserver, rfl⟩ := Option.map_eq_some_iff.mp hs
      exact .sends hflip hsends hserver
  | receives i a nonceBytes =>
      simp only [Apps.step] at hs
      split at hs
      · next hlen =>
          obtain ⟨flip, hflip, hs⟩ := Option.bind_eq_some_iff.mp hs
          split at hs
          · next hany =>
              obtain ⟨phase, hreceives, rfl⟩ := Option.map_eq_some_iff.mp hs
              obtain ⟨rid, hrid, ha⟩ := (Option.any_eq_true ..).mp hany
              exact .acts rfl hflip (.receives hlen hrid (of_decide_eq_true ha) hreceives)
          · cases hs
      · cases hs
  | loses i e =>
      obtain ⟨flip, hflip, hs⟩ := Option.bind_eq_some_iff.mp hs
      obtain ⟨phase, hloses, rfl⟩ := Option.map_eq_some_iff.mp hs
      exact .acts rfl hflip (.loses hloses)
  | server e =>
      simp only [Apps.step] at hs
      split at hs
      · cases hs
      · next hcancel =>
          obtain ⟨server, hserver, rfl⟩ := Option.map_eq_some_iff.mp hs
          exact .server (by rintro rid rfl; exact Bool.eq_false_iff.mpr hcancel) hserver

/-! ### The server -/

section Server

variable {s s' : Server} {e : Event} {es : List Event}

/-- A step moves a request that is there, or brings one in. -/
theorem step_rid (hs : step fh pedersenHash s e = some s') :
    (∃ r, s.requests e.rid = some r) ∨ e.rid = s.nextId := by
  cases step_moves hs with
  | commit h | play h | deploy h => exact .inr (arrive_eq_some h).1
  | stores _ _ hreq | noNumber _ _ _ hreq | reads hreq _ | notDeployed _ hreq _ | takes hreq _
  | notCommitted _ hreq _ | starts hreq _ | refuses hreq _ | finds hreq _ | deploys hreq _
  | deployed _ hreq | deployFails _ hreq | cancels hreq _ => exact .inl ⟨_, hreq⟩

/-- A step answers no request, or the one it moves, which is then over; a commit with the seed
before the block number that it stores. -/
theorem step_answers (hs : step fh pedersenHash s e = some s') :
    s'.answers = s.answers ∨
      ∃ a, s'.answers = s.answers ++ [(e.rid, a)] ∧ s'.requests e.rid = none ∧
        ∀ sessionId seed, a = .committed sessionId seed →
          ∃ n, e = .blockNumber e.rid (.ok n) sessionId ∧ seed = saturatingPred n := by
  cases step_moves hs with
  | commit h | play h | deploy h =>
      obtain ⟨-, rfl⟩ := arrive_eq_some h
      exact .inl rfl
  | reads | takes | deploys | cancels => exact .inl rfl
  | @stores rid req n sessionId hreq =>
      refine .inr ⟨_, rfl, Function.update_self .., fun sessionId' seed h => ⟨n, ?_, ?_⟩⟩
      · rw [(Answer.committed.inj h).1]
        rfl
      · exact (Answer.committed.inj h).2.symm
  | noNumber | notDeployed | notCommitted | starts | refuses | finds | deployed | deployFails =>
      exact .inr ⟨_, rfl, Function.update_self .., by rintro _ _ ⟨⟩⟩

/-- A request that was answered is over, and a commit that was answered is stored. -/
structure Server.Answered (es : List Event) (s : Server) : Prop where
  ended : ∀ rid a, (rid, a) ∈ s.answers → s.requests rid = none
  stored : ∀ rid sessionId seed, (rid, .committed sessionId seed) ∈ s.answers →
    ∃ n, .blockNumber rid (.ok n) sessionId ∈ es ∧ seed = saturatingPred n

theorem answered_step (h : s.Answered es) (hknown : ∀ rid a, (rid, a) ∈ s.answers → rid < s.nextId)
    (hs : step fh pedersenHash s e = some s') : s'.Answered (es ++ [e]) := by
  have hold : ∀ rid a, (rid, a) ∈ s.answers → s'.requests rid = none := by
    intro rid a ha
    have hne : rid ≠ e.rid := by
      rintro rfl
      rcases step_rid hs with ⟨r, hr⟩ | hnext
      · rw [h.ended _ _ ha] at hr
        cases hr
      · exact absurd hnext (hknown _ _ ha).ne
    rw [(step_touches hs).requests_of_ne hne]
    exact h.ended rid a ha
  have holdStored : ∀ rid sessionId seed, (rid, .committed sessionId seed) ∈ s.answers →
      ∃ n, .blockNumber rid (.ok n) sessionId ∈ es ++ [e] ∧ seed = saturatingPred n := by
    intro rid sessionId seed ha
    obtain ⟨n, hmem, hseed⟩ := h.stored rid sessionId seed ha
    exact ⟨n, List.mem_append_left _ hmem, hseed⟩
  rcases step_answers hs with heq | ⟨a, heq, hnone, hcommitted⟩
  · exact ⟨fun rid a ha => hold rid a (heq ▸ ha),
      fun rid sessionId seed ha => holdStored rid sessionId seed (heq ▸ ha)⟩
  · constructor
    · intro rid a' ha
      rw [heq] at ha
      rcases List.mem_append.mp ha with ha | ha
      · exact hold rid a' ha
      · obtain ⟨rfl, -⟩ := Prod.mk.inj (List.mem_singleton.mp ha)
        exact hnone
    · intro rid sessionId seed ha
      rw [heq] at ha
      rcases List.mem_append.mp ha with ha | ha
      · exact holdStored rid sessionId seed ha
      · obtain ⟨rfl, rfl⟩ := Prod.mk.inj (List.mem_singleton.mp ha)
        obtain ⟨n, he, hseed⟩ := hcommitted _ _ rfl
        exact ⟨n, List.mem_append_right _ (List.mem_singleton.mpr he.symm), hseed⟩

/-! ### A flip at the server -/

/-- The commitment is stored, and nobody is on its session id. -/
structure Waiting (sessionId : String) (c : BetCommitment) (s : Server) : Prop where
  stored : s.commitments sessionId = some c
  nobody : RevealersIn sessionId (fun _ => False) s

theorem Waiting.step {sessionId : String} {c : BetCommitment} (h : Waiting sessionId c s)
    (hs : CoinFlip.step fh pedersenHash s e = some s') (hsession : e.session ≠ some sessionId) :
    Waiting sessionId c s' where
  stored := by
    rcases (step_touches hs).commitments sessionId with heq | heq | ⟨r, hr, heq⟩
    · exact heq.trans h.stored
    · exact absurd heq hsession
    · exact (h.nobody _ _ hr heq).elim
  nobody := h.nobody.step hs fun i params he => hsession (he ▸ rfl)

/-- A commit waits for the block number, or was answered: when it was told a session id, the
commitment is stored there. -/
inductive Commits (req : CommitRequest) (rid : ℕ) (s : Server) : Prop where
  | waits (hreq : s.requests rid = some (.committing req))
  | answered (hnone : s.requests rid = none)
      (hanswers : ∀ a, (rid, a) ∈ s.answers → (∃ response, a = .error response) ∨
        ∃ sessionId n, a = .committed sessionId (saturatingPred n) ∧
          Waiting sessionId (betCommitment req n) s)

theorem Commits.step {req : CommitRequest} {rid : ℕ} (h : Commits req rid s)
    (hs : CoinFlip.step fh pedersenHash s e = some s') (hanswered : s.Answered es)
    (hknown : rid < s.nextId) (hcancel : e ≠ .cancel rid)
    (hsession : ∀ sessionId seed, (rid, .committed sessionId seed) ∈ s.answers →
      e.session ≠ some sessionId)
    (hnobody : ∀ n sessionId, e = .blockNumber rid (.ok n) sessionId →
      RevealersIn sessionId (fun _ => False) s) : Commits req rid s' := by
  have htouches := step_touches hs
  by_cases hown : rid = e.rid
  · -- The commit's own move stores or fails.
    cases h with
    | answered hnone hanswers =>
        rcases step_rid hs with ⟨r, hr⟩ | hnext
        · rw [← hown, hnone] at hr
          cases hr
        · exact absurd (hown.trans hnext) hknown.ne
    | waits hreq =>
        have hfirst : ∀ a, (rid, a) ∉ s.answers := fun a ha => by
          rw [hanswered.ended rid a ha] at hreq
          cases hreq
        cases step_moves hs with
        | commit h | play h | deploy h =>
            exact absurd (hown.trans (arrive_eq_some h).1) hknown.ne
        | @stores _ req' n sessionId hreq' =>
            obtain rfl : rid = _ := hown
            obtain rfl := Request.committing.inj (Option.some.inj (hreq.symm.trans hreq'))
            have hnobody' := (hnobody n sessionId rfl).step hs (by rintro i params ⟨⟩)
            refine .answered (Function.update_self ..) fun a ha => .inr ⟨sessionId, n, ?_, ?_⟩
            · rcases List.mem_append.mp ha with ha | ha
              · exact absurd ha (hfirst a)
              · exact (Prod.mk.inj (List.mem_singleton.mp ha)).2
            · exact ⟨Function.update_self .., hnobody'⟩
        | noNumber _ _ response hreq' =>
            obtain rfl : rid = _ := hown
            refine .answered (Function.update_self ..) fun a ha => .inl ⟨response, ?_⟩
            rcases List.mem_append.mp ha with ha | ha
            · exact absurd ha (hfirst a)
            · exact (Prod.mk.inj (List.mem_singleton.mp ha)).2
        | cancels => exact absurd (hown ▸ rfl) hcancel
        | reads hreq' _ | notDeployed _ hreq' _ | takes hreq' _ | notCommitted _ hreq' _
        | starts hreq' _ | refuses hreq' _ | finds hreq' _ | deploys hreq' _
        | deployed _ hreq' | deployFails _ hreq' =>
            obtain rfl : rid = _ := hown
            rw [hreq] at hreq'
            cases hreq'
  · have hrequests := htouches.requests_of_ne hown
    cases h with
    | waits hreq => exact .waits (hrequests.trans hreq)
    | answered hnone hanswers =>
        refine .answered (hrequests.trans hnone) fun a ha => ?_
        have ha' := (htouches.answers_of_ne hown).mp ha
        rcases hanswers a ha' with herror | ⟨sessionId, n, rfl, hwaiting⟩
        · exact .inl herror
        · exact .inr ⟨sessionId, n, rfl, hwaiting.step hs (hsession _ _ ha')⟩

/-- A play that comes in on a waiting session id is under way. -/
theorem Waiting.underWay {r : Reveal} (h : Waiting r.sessionId r.stored s)
    (hdeployed : s.coinflip.isSome) (hknown : ∀ rid a, (rid, a) ∈ s.answers → rid < s.nextId)
    (hs : CoinFlip.step fh pedersenHash s r.play = some s') : UnderWay r s' := by
  have hbefore : RevealersIn r.sessionId (· = r.playId) s :=
    fun i req hreq hsession => (h.nobody i req hreq hsession).elim
  have honly := hbefore.step hs (by rintro i params heq; exact (Event.play.inj heq).1.symm)
  obtain ⟨hid, rfl⟩ := arrive_eq_some hs
  refine ⟨.playing (Function.update_self ..) h.stored hdeployed, honly, Nat.lt_succ_self _, ?_⟩
  intro a ha
  exact absurd hid (hknown _ _ ha).ne

/-- A play that was answered has its game. -/
theorem UnderWay.accepted {r : Reveal} (h : UnderWay r s) (hanswered : s.Answered es)
    {a : Answer} (ha : (r.playId, a) ∈ s.answers) : Accepted r s := by
  have hnone := hanswered.ended _ _ ha
  cases h.stage with
  | playing hreq _ _ | revealing _ hreq _ | checking _ hreq =>
      rw [hnone] at hreq
      cases hreq
  | started _ haccepted => exact haccepted

end Server

/-! ### A flip is alone on its session id -/

section Flips

variable (fh pedersenHash computePedersenHash) in
/-- What is documented of the crates: `Felt::from_hex` reads 62 digits, and `computePedersenHash`
writes the hash of two texts as the server does. -/
structure Documented : Prop where
  fromHex : ∀ nonceBytes : List UInt8, nonceBytes.length = 31 →
    ∃ nonce, fh.fromHex (nonceText nonceBytes) = .ok nonce
  computes : ∀ a b x y, fh.fromHex a = .ok x → fh.fromHex b = .ok y →
    computePedersenHash a b = fmtFelt (pedersenHash x y)

variable (computePedersenHash) in
/-- The commit and the play of a flip. -/
def Flip.reveal (flip : Flip) (nonceBytes : List UInt8) (commitId : ℕ) (n : BitVec 64)
    (sessionId : String) (playId : ℕ) : Reveal where
  commitId
  commitment := flip.commitment computePedersenHash nonceBytes
  blockNumber := n
  sessionId
  playId
  params := flip.params nonceBytes

theorem fromHex_betText (bet : Fin 2) :
    fh.fromHex (betText bet) = .ok (Felt.ofNat (betByte bet).toNat) := by
  have h : betText bet = fmtFelt (Felt.ofNat (betByte bet).toNat) := by
    fin_cases bet <;> decide
  rw [h, fh.fromHex_fmtFelt]

/-- **The play of a flip opens its commitment.** -/
theorem Documented.reveal (h : Documented fh pedersenHash computePedersenHash) (flip : Flip)
    {nonceBytes : List UInt8} (hlen : nonceBytes.length = 31) {r : Reveal}
    (hr : ∃ commitId n sessionId playId,
      r = flip.reveal computePedersenHash nonceBytes commitId n sessionId playId)
    (d : CoinFlipDeployment) :
    CoinFlip.reveal fh pedersenHash r.sessionId d r.stored r.params = .ok (r.game d) := by
  obtain ⟨commitId, n, sessionId, playId, rfl⟩ := hr
  obtain ⟨nonce, hnonce⟩ := h.fromHex nonceBytes hlen
  have hbet : betByte flip.bet ≤ 1 := by
    generalize flip.bet = bet
    fin_cases bet <;> decide
  exact (reveal_stored_iff hbet hnonce d).mpr (h.computes _ _ _ _ (fromHex_betText _) hnonce)

/-- A commit of the flip was told a session id, and the seed before a block number. -/
structure Told (server : Server) (owner : ℕ → Option ℕ) (i rid : ℕ) (sessionId : String)
    (n : BitVec 64) : Prop where
  owner : owner rid = some i
  answer : (rid, .committed sessionId (saturatingPred n)) ∈ server.answers

abbrev Apps.Told (s : Apps) := CoinFlip.Told s.server s.owner

variable (computePedersenHash) in
/-- What a phase of a flip says about the server. -/
def Flip.Sound (server : Server) (owner : ℕ → Option ℕ) (i : ℕ) (flip : Flip) : Prop :=
  match flip.phase with
  | .checkingStatus deployed => deployed = some true → server.coinflip.isSome
  | .deploying rid => ∀ r, rid = some r → owner r = some i
  | .committing nonceBytes none => nonceBytes.length = 31 ∧ server.coinflip.isSome
  | .committing nonceBytes (some rid) => nonceBytes.length = 31 ∧ server.coinflip.isSome ∧
      owner rid = some i ∧
      Commits (flip.commitRequest computePedersenHash nonceBytes) rid server
  | .playing nonceBytes sessionId none => nonceBytes.length = 31 ∧ server.coinflip.isSome ∧
      ∃ rid n, Told server owner i rid sessionId n ∧
        Waiting sessionId (betCommitment (flip.commitRequest computePedersenHash nonceBytes) n)
          server
  | .playing nonceBytes sessionId (some playId) => nonceBytes.length = 31 ∧
      owner playId = some i ∧ ∃ rid n, Told server owner i rid sessionId n ∧
        UnderWay (flip.reveal computePedersenHash nonceBytes rid n sessionId playId) server
  | .opened nonceBytes sessionId playId => nonceBytes.length = 31 ∧ owner playId = some i ∧
      ∃ rid n, Told server owner i rid sessionId n ∧
        Accepted (flip.reveal computePedersenHash nonceBytes rid n sessionId playId) server
  | .failed failure _ => failure ≠ .refused

variable {s s' : Apps} {i : ℕ} {flip : Flip} {e : Event} {es : List AppEvent}

theorem Flip.Sound.owner (h : flip.Sound computePedersenHash s.server s.owner i) {rid : ℕ}
    (hrid : flip.phase.rid = some rid) : s.owner rid = some i := by
  obtain ⟨address, bet, phase⟩ := flip
  cases phase with
  | checkingStatus | failed => cases hrid
  | deploying => exact h rid hrid
  | committing _ rid' =>
      obtain rfl : rid' = some rid := hrid
      exact h.2.2.1
  | playing _ _ rid' =>
      obtain rfl : rid' = some rid := hrid
      exact h.2.1
  | opened _ _ rid' =>
      obtain rfl := Option.some.inj hrid
      exact h.2.1

/-- A flip that has a session id was told it. -/
theorem Flip.Sound.told (h : flip.Sound computePedersenHash s.server s.owner i) {sessionId : String}
    (hsession : flip.phase.session = some sessionId) : ∃ rid n, s.Told i rid sessionId n := by
  obtain ⟨address, bet, phase⟩ := flip
  cases phase with
  | checkingStatus | deploying | committing | failed => cases hsession
  | playing _ _ rid =>
      obtain rfl := Option.some.inj hsession
      cases rid with
      | none =>
          obtain ⟨-, -, rid, n, htold, -⟩ := h
          exact ⟨rid, n, htold⟩
      | some =>
          obtain ⟨-, -, rid, n, htold, -⟩ := h
          exact ⟨rid, n, htold⟩
  | opened =>
      obtain rfl := Option.some.inj hsession
      obtain ⟨-, -, rid, n, htold, -⟩ := h
      exact ⟨rid, n, htold⟩

theorem Touches.answers_extend {s s' : Server} (h : Touches s e s') : s.answers <+: s'.answers := by
  rcases h.answers with heq | ⟨_, _, _, heq⟩
  · exact heq ▸ List.prefix_refl _
  · exact heq ▸ List.prefix_append _ _

theorem Accepted.step {r : Reveal} {s s' : Server} (h : Accepted r s)
    (hs : CoinFlip.step fh pedersenHash s e = some s') : Accepted r s' := by
  obtain ⟨hanswer, d, hgame⟩ := h
  exact ⟨(step_touches hs).answers_extend.subset hanswer, d, (step_touches hs).games.subset hgame⟩

theorem Told.step {j rid : ℕ} {sessionId : String} {n : BitVec 64}
    (h : s.Told j rid sessionId n) (hs : CoinFlip.step fh pedersenHash s.server e = some s'.server)
    (howner : ∀ rid j, s.owner rid = some j → s'.owner rid = some j) :
    s'.Told j rid sessionId n :=
  ⟨howner _ _ h.owner, (step_touches hs).answers_extend.subset h.answer⟩

/-- **A step of the server keeps what a phase says**, when it is no move of another client on the
session id of the flip. -/
theorem Flip.Sound.of_server (h : flip.Sound computePedersenHash s.server s.owner i)
    (hdoc : Documented fh pedersenHash computePedersenHash)
    (hanswered : s.server.Answered (serverEvents es))
    (hknown : ∀ rid j, s.owner rid = some j → rid < s.server.nextId)
    (hs : CoinFlip.step fh pedersenHash s.server e = some s'.server)
    (howner : ∀ rid j, s.owner rid = some j → s'.owner rid = some j)
    (hcancel : ∀ rid, flip.phase.rid = some rid → e ≠ .cancel rid)
    (hsession : ∀ rid sessionId n, s.Told i rid sessionId n → e.session ≠ some sessionId)
    (hnobody : ∀ rid n sessionId, s.owner rid = some i → e = .blockNumber rid (.ok n) sessionId →
      RevealersIn sessionId (fun _ => False) s.server) :
    flip.Sound computePedersenHash s'.server s'.owner i := by
  have hcoinflip := (step_touches hs).coinflip
  obtain ⟨address, bet, phase⟩ := flip
  cases phase with
  | checkingStatus => exact fun hdeployed => hcoinflip (h hdeployed)
  | deploying => exact fun r hr => howner _ _ (h r hr)
  | committing nonceBytes rid =>
      cases rid with
      | none => exact ⟨h.1, hcoinflip h.2⟩
      | some rid =>
          obtain ⟨hlen, hdeployed, hown, hcommits⟩ := h
          refine ⟨hlen, hcoinflip hdeployed, howner _ _ hown, ?_⟩
          refine hcommits.step hs hanswered (hknown _ _ hown) (hcancel rid rfl) ?_
            fun n sessionId => hnobody rid n sessionId hown
          intro sessionId seed ha
          obtain ⟨n, -, rfl⟩ := hanswered.stored _ _ _ ha
          exact hsession rid sessionId n ⟨hown, ha⟩
  | playing nonceBytes sessionId playId =>
      cases playId with
      | none =>
          obtain ⟨hlen, hdeployed, rid, n, htold, hwaiting⟩ := h
          exact ⟨hlen, hcoinflip hdeployed, rid, n, htold.step hs howner,
            hwaiting.step hs (hsession _ _ _ htold)⟩
      | some playId =>
          obtain ⟨hlen, hown, rid, n, htold, hunderWay⟩ := h
          exact ⟨hlen, howner _ _ hown, rid, n, htold.step hs howner,
            hunderWay.step (hdoc.reveal _ hlen ⟨rid, n, sessionId, playId, rfl⟩)
              (hsession _ _ _ htold) (hcancel playId rfl) hs⟩
  | opened nonceBytes sessionId playId =>
      obtain ⟨hlen, hown, rid, n, htold, haccepted⟩ := h
      exact ⟨hlen, howner _ _ hown, rid, n, htold.step hs howner, haccepted.step hs⟩
  | failed => exact h

/-- **What an app does by itself keeps what its phases say.** -/
theorem Acts.sound {phase : FlipPhase} (h : Acts s.server flip.phase phase)
    (hflip : flip.Sound computePedersenHash s.server s.owner i) (hrecorded : Recorded s.server)
    (hanswered : s.server.Answered (serverEvents es)) :
    Flip.Sound computePedersenHash s.server s.owner i { flip with phase } := by
  obtain ⟨address, bet, phase₀⟩ := flip
  change Acts s.server phase₀ phase at h
  cases h with
  | status => exact Option.some.inj
  | deployed hlen => exact ⟨hlen, hflip rfl⟩
  | notDeployed => exact fun _ h => absurd h (Option.some_ne_none _).symm
  | loses h =>
      rw [FlipPhase.loses.eq_def] at h
      split at h <;> cases h <;> rintro ⟨⟩
  | @receives _ _ rid a nonceBytes hlen hrid ha h =>
      rw [FlipPhase.receives.eq_def] at h
      split at h
      · next rid' d =>
          obtain rfl := Option.some.inj h
          exact ⟨hlen, Option.isSome_iff_ne_none.mpr (hrecorded.stored _ _ ha)⟩
      · cases h
        rintro ⟨⟩
      · next nonceBytes rid' sessionId seed =>
          obtain rfl := Option.some.inj h
          obtain rfl := Option.some.inj hrid
          obtain ⟨hlen, hdeployed, hown, hcommits⟩ := hflip
          cases hcommits with
          | waits hreq =>
              rw [hanswered.ended _ _ ha] at hreq
              cases hreq
          | answered _ hanswers =>
              rcases hanswers _ ha with ⟨_, heq⟩ | ⟨sessionId', n, heq, hwaiting⟩
              · cases heq
              · obtain ⟨rfl, rfl⟩ := Answer.committed.inj heq
                exact ⟨hlen, hdeployed, rid', n, ⟨hown, ha⟩, hwaiting⟩
      · cases h
        rintro ⟨⟩
      · next nonceBytes sessionId playId =>
          obtain rfl := Option.some.inj h
          obtain rfl := Option.some.inj hrid
          obtain ⟨hlen, hown, rid, n, htold, hunderWay⟩ := hflip
          exact ⟨hlen, hown, rid, n, htold, hunderWay.accepted hanswered ha⟩
      · next nonceBytes sessionId playId response =>
          obtain rfl := Option.some.inj hrid
          obtain ⟨-, -, rid, n, -, hunderWay⟩ := hflip
          cases hunderWay.answered _ ha
      · cases h

/-- What a flip can send to the server. -/
inductive Flip.Sends (computePedersenHash : String → String → String) (flip : Flip) :
    Event → FlipPhase → Prop where
  | deploy {rid : ℕ} (hphase : flip.phase = .deploying none) :
      Sends computePedersenHash flip (.deploy rid) (.deploying (some rid))
  | commit {rid : ℕ} {nonceBytes : List UInt8}
      (hphase : flip.phase = .committing nonceBytes none) :
      Sends computePedersenHash flip
        (.commit rid (flip.commitRequest computePedersenHash nonceBytes))
        (.committing nonceBytes (some rid))
  | play {rid : ℕ} {nonceBytes : List UInt8} {sessionId : String}
      (hphase : flip.phase = .playing nonceBytes sessionId none) :
      Sends computePedersenHash flip (.play rid sessionId (flip.params nonceBytes))
        (.playing nonceBytes sessionId (some rid))

theorem Flip.sends_iff {phase : FlipPhase} (h : flip.sends computePedersenHash e = some phase) :
    flip.Sends computePedersenHash e phase := by
  obtain ⟨address, bet, phase₀⟩ := flip
  cases e with
  | deploy rid =>
      simp only [Flip.sends] at h
      split at h
      · obtain rfl := Option.some.inj h
        exact .deploy rfl
      · cases h
  | commit rid req =>
      simp only [Flip.sends] at h
      split at h
      · split at h
        · next hreq =>
            obtain rfl := Option.some.inj h
            exact hreq ▸ .commit rfl
        · cases h
      · cases h
  | play rid sessionId params =>
      simp only [Flip.sends] at h
      split at h
      · split at h
        · next hplay =>
            obtain rfl := Option.some.inj h
            obtain ⟨rfl, rfl⟩ := hplay
            exact .play rfl
        · cases h
      · cases h
  | blockNumber | readDeployment | removeCommitment | checkReveal | checkDeployed | deployEnds
  | cancel => cases h

/-- **A request of a flip keeps what its phases say.** -/
theorem Flip.Sends.sound {phase : FlipPhase} (h : flip.Sends computePedersenHash e phase)
    (hflip : flip.Sound computePedersenHash s.server s.owner i)
    (hknown : ∀ rid a, (rid, a) ∈ s.server.answers → rid < s.server.nextId)
    (hs : CoinFlip.step fh pedersenHash s.server e = some s'.server)
    (howner : ∀ rid j, s.owner rid = some j → s'.owner rid = some j)
    (hown : s'.owner e.rid = some i) :
    Flip.Sound computePedersenHash s'.server s'.owner i { flip with phase } := by
  have hcoinflip := (step_touches hs).coinflip
  cases h with
  | deploy => exact fun r hr => Option.some.inj hr ▸ hown
  | commit hphase =>
      rw [Flip.Sound, hphase] at hflip
      refine ⟨hflip.1, hcoinflip hflip.2, hown, .waits ?_⟩
      rw [(arrive_eq_some hs).2]
      exact Function.update_self ..
  | @play playId nonceBytes sessionId hphase =>
      rw [Flip.Sound, hphase] at hflip
      obtain ⟨hlen, hdeployed, rid, n, htold, hwaiting⟩ := hflip
      let r := flip.reveal computePedersenHash nonceBytes rid n sessionId playId
      have hstored : Waiting r.sessionId r.stored s.server := hwaiting
      exact ⟨hlen, hown, rid, n, htold.step hs howner,
        hstored.underWay (r := r) hdeployed hknown hs⟩

/-! ### All flips -/

/-- The session ids are fresh. -/
def FreshIds (es : List AppEvent) : Prop := ((serverEvents es).filterMap storedId).Nodup

theorem FreshIds.of_append {es es' : List AppEvent} (h : FreshIds (es ++ es')) : FreshIds es := by
  rw [FreshIds, serverEvents, List.filterMap_append, List.filterMap_append] at h
  exact (List.nodup_append.mp h).1

/-- No other client plays on a session id that a flip was told. -/
def Secret (es : List AppEvent) (s : Apps) : Prop :=
  ∀ rid sessionId params, .server (.play rid sessionId params) ∈ es →
    ∀ i rid' n, ¬ s.Told i rid' sessionId n

variable (fh pedersenHash computePedersenHash) in
/-- What holds of the apps and their server at any time. -/
structure Apps.Sound (es : List AppEvent) (s : Apps) : Prop where
  run : Run (CoinFlip.step fh pedersenHash) .new (serverEvents es) s.server
  answered : s.server.Answered (serverEvents es)
  recorded : Recorded s.server
  known : ∀ i flip, s.flips i = some flip → i < s.nextFlip
  flips : ∀ i flip, s.flips i = some flip → flip.Sound computePedersenHash s.server s.owner i
  /-- What a flip played. -/
  plays : ∀ i rid sessionId params, .sends i (.play rid sessionId params) ∈ es →
    ∃ flip nonceBytes rid' n, s.flips i = some flip ∧ params = flip.params nonceBytes ∧
      s.Told i rid' sessionId n

theorem serverEvents_append (es : List AppEvent) (e : AppEvent) :
    serverEvents (es ++ [e]) = serverEvents es ++ e.serverEvent.toList := by
  rw [serverEvents, List.filterMap_append]
  cases h : e.serverEvent <;> simp [serverEvents, h]

theorem mem_serverEvents {e : Event} :
    e ∈ serverEvents es ↔ (∃ i, .sends i e ∈ es) ∨ .server e ∈ es := by
  rw [serverEvents, List.mem_filterMap]
  constructor
  · rintro ⟨e', hmem, he'⟩
    cases e' with
    | sends i e' =>
        obtain rfl := Option.some.inj he'
        exact .inl ⟨i, hmem⟩
    | server e' =>
        obtain rfl := Option.some.inj he'
        exact .inr hmem
    | flip | status | knows | receives | loses => cases he'
  · rintro (⟨i, hmem⟩ | hmem)
    · exact ⟨_, hmem, rfl⟩
    · exact ⟨_, hmem, rfl⟩

/-- A session id is told to one flip. -/
theorem Apps.Sound.apart (h : s.Sound fh pedersenHash computePedersenHash es) (hfresh : FreshIds es)
    {i j rid rid' : ℕ} {sessionId : String} {n n' : BitVec 64} (hi : s.Told i rid sessionId n)
    (hj : s.Told j rid' sessionId n') : i = j := by
  obtain ⟨m, hm, -⟩ := h.answered.stored _ _ _ hi.answer
  obtain ⟨m', hm', -⟩ := h.answered.stored _ _ _ hj.answer
  have heq := eq_of_filterMap_nodup hfresh hm hm' rfl rfl
  obtain ⟨rfl, -⟩ := Event.blockNumber.inj heq
  exact Option.some.inj (hi.owner.symm.trans hj.owner)

/-- A play on a session id is that of the flip which was told it. -/
theorem Apps.Sound.play (h : s.Sound fh pedersenHash computePedersenHash es) (hfresh : FreshIds es)
    (hsecret : Secret es s) {i rid playId : ℕ} {sessionId : String} {n : BitVec 64}
    {params : PlayQuery} (htold : s.Told i rid sessionId n)
    (hplay : .play playId sessionId params ∈ serverEvents es) :
    ∃ flip nonceBytes, s.flips i = some flip ∧ params = flip.params nonceBytes := by
  rcases mem_serverEvents.mp hplay with ⟨j, hmem⟩ | hmem
  · obtain ⟨flip, nonceBytes, rid', n', hflip, hparams, htold'⟩ := h.plays _ _ _ _ hmem
    obtain rfl := h.apart hfresh htold htold'
    exact ⟨flip, nonceBytes, hflip, hparams⟩
  · exact absurd htold (hsecret _ _ _ hmem _ _ _)

/-- On a new session id there is nobody. -/
theorem Apps.Sound.nobody (h : s.Sound fh pedersenHash computePedersenHash es)
    {sessionId : String} (hnew : sessionId ∉ (serverEvents es).filterMap storedId)
    (hothers : ∀ playId params, .server (.play playId sessionId params) ∉ es) :
    RevealersIn sessionId (fun _ => False) s.server := by
  intro playId r hreq hsession
  have horigin := (run_box h.run).1.origin hreq
  obtain ⟨params, hr⟩ : ∃ params, r.origin playId = .play playId sessionId params := by
    cases r with
    | playing _ params | revealing _ params | checking _ params =>
        obtain rfl := Option.some.inj hsession
        exact ⟨params, rfl⟩
    | committing | deploy | deploying => cases hsession
  rw [hr] at horigin
  rcases mem_serverEvents.mp horigin with ⟨j, hmem⟩ | hmem
  · obtain ⟨_, _, rid', n', -, -, htold⟩ := h.plays _ _ _ _ hmem
    obtain ⟨m, hm, -⟩ := h.answered.stored _ _ _ htold.answer
    exact hnew (List.mem_filterMap.mpr ⟨_, hm, rfl⟩)
  · exact hothers _ _ hmem

/-- The requests of the flips have come in. -/
def Apps.Owned (s : Apps) : Prop := ∀ rid i, s.owner rid = some i → rid < s.server.nextId

/-- A request that is sent is a new one. -/
theorem Flip.Sends.arrives {phase : FlipPhase} {server server' : Server}
    (h : flip.Sends computePedersenHash e phase)
    (hs : CoinFlip.step fh pedersenHash server e = some server') :
    e.rid = server.nextId ∧ server'.nextId = server.nextId + 1 := by
  cases h <;> obtain ⟨hid, rfl⟩ := arrive_eq_some hs <;> exact ⟨hid, congrArg Nat.succ hid⟩

/-- The requests of the flips stay theirs. -/
theorem Apps.Owned.update (h : s.Owned) (he : e.rid = s.server.nextId) {rid j : ℕ}
    (hown : s.owner rid = some j) : Function.update s.owner e.rid (some i) rid = some j := by
  rw [Function.update_of_ne ((h rid j hown).trans_eq he.symm).ne, hown]

theorem Apps.Owned.step {e : AppEvent} (h : s.Owned)
    (hs : s.step fh pedersenHash computePedersenHash e = some s') :
    s'.Owned ∧ ∀ j rid sessionId n, s.Told j rid sessionId n → s'.Told j rid sessionId n := by
  cases appStep_move hs with
  | flip | acts => exact ⟨h, fun _ _ _ _ htold => htold⟩
  | server _ hserver =>
      exact ⟨fun rid j hown => (h rid j hown).trans_le (step_follows hserver).1,
        fun _ _ _ _ htold => htold.step hserver fun _ _ => id⟩
  | sends _ hsends hserver =>
      obtain ⟨hid, hnext⟩ := (Flip.sends_iff hsends).arrives hserver
      refine ⟨fun rid j hown => ?_, fun _ _ _ _ htold => htold.step hserver fun _ _ => h.update hid⟩
      refine lt_of_lt_of_eq ?_ hnext.symm
      rcases update_some_eq_some.mp hown with ⟨rfl, -⟩ | ⟨-, hown⟩
      · exact hid ▸ Nat.lt_succ_self _
      · exact (h rid j hown).trans (Nat.lt_succ_self _)

/-- A flip whose phase has changed, or one that has begun. -/
theorem setPhase_flips {j : ℕ} {flip' : Flip} {phase : FlipPhase} (hflip : s.flips i = some flip)
    (hj : s.flips j = some flip') : ∃ phase', (s.setPhase i flip phase).flips j
      = some { flip' with phase := phase' } := by
  by_cases h : j = i
  · subst h
    obtain rfl := Option.some.inj (hflip.symm.trans hj)
    exact ⟨phase, Function.update_self ..⟩
  · exact ⟨flip'.phase, (Function.update_of_ne h ..).trans hj⟩

/-- What flips have played stays so, when they keep what they captured. -/
theorem Apps.Sound.plays_mono (h : s.Sound fh pedersenHash computePedersenHash es)
    (hflips : ∀ j flip, s.flips j = some flip →
      ∃ phase, s'.flips j = some { flip with phase })
    (htold : ∀ j rid sessionId n, s.Told j rid sessionId n → s'.Told j rid sessionId n)
    {playId : ℕ} {sessionId : String} {params : PlayQuery}
    (hplay : .sends i (.play playId sessionId params) ∈ es) :
    ∃ flip nonceBytes rid n, s'.flips i = some flip ∧ params = flip.params nonceBytes ∧
      s'.Told i rid sessionId n := by
  obtain ⟨flip, nonceBytes, rid, n, hflip, rfl, htold'⟩ := h.plays _ _ _ _ hplay
  obtain ⟨phase, hflip'⟩ := hflips i flip hflip
  exact ⟨_, nonceBytes, rid, n, hflip', rfl, htold _ _ _ _ htold'⟩

/-- **An app moves by itself.** -/
theorem Apps.Sound.acts {e : AppEvent} (h : s.Sound fh pedersenHash computePedersenHash es)
    (he : e.serverEvent = none) (hserver : s'.server = s.server) (howner : s'.owner = s.owner)
    (hflips : ∀ j flip, s.flips j = some flip → ∃ phase, s'.flips j = some { flip with phase })
    (hknown : ∀ j flip, s'.flips j = some flip → j < s'.nextFlip)
    (hsound : ∀ j flip, s'.flips j = some flip →
      flip.Sound computePedersenHash s.server s.owner j) :
    s'.Sound fh pedersenHash computePedersenHash (es ++ [e]) := by
  obtain ⟨server, flips, nextFlip, owner⟩ := s'
  obtain rfl : server = s.server := hserver
  obtain rfl : owner = s.owner := howner
  have hevents : serverEvents (es ++ [e]) = serverEvents es := by
    rw [serverEvents_append, he, Option.toList_none, List.append_nil]
  refine ⟨hevents ▸ h.run, hevents ▸ h.answered, h.recorded, hknown, hsound, ?_⟩
  intro i rid sessionId params hmem
  rcases List.mem_append.mp hmem with hmem | hmem
  · exact h.plays_mono hflips (fun _ _ _ _ htold => ⟨htold.owner, htold.answer⟩) hmem
  · obtain rfl := List.mem_singleton.mp hmem
    cases he

/-- The server moves. -/
theorem Apps.Sound.server (e' : AppEvent) {server : Server}
    (h : s.Sound fh pedersenHash computePedersenHash es) (he : e'.serverEvent = some e)
    (hs : CoinFlip.step fh pedersenHash s.server e = some server) :
    Run (CoinFlip.step fh pedersenHash) .new (serverEvents (es ++ [e'])) server ∧
      server.Answered (serverEvents (es ++ [e'])) ∧ Recorded server := by
  rw [serverEvents_append, he]
  exact ⟨.snoc h.run hs, answered_step h.answered (answered_of_run h.run) hs,
    recorded_step h.recorded hs⟩

/-- **A flip sends a request.** -/
theorem Apps.Sound.sends {phase : FlipPhase} {server : Server}
    (h : s.Sound fh pedersenHash computePedersenHash es) (howned : s.Owned)
    (hdoc : Documented fh pedersenHash computePedersenHash) (hfresh : FreshIds es)
    (hflip : s.flips i = some flip) (hsends : flip.Sends computePedersenHash e phase)
    (hs : CoinFlip.step fh pedersenHash s.server e = some server) :
    Apps.Sound fh pedersenHash computePedersenHash (es ++ [.sends i e])
      { s.setPhase i flip phase with server, owner := Function.update s.owner e.rid (some i) } := by
  obtain ⟨hid, hnext⟩ := hsends.arrives hs
  have howner : ∀ rid j, s.owner rid = some j →
      Function.update s.owner e.rid (some i) rid = some j := fun _ _ => howned.update hid
  let s' : Apps :=
    { s.setPhase i flip phase with server, owner := Function.update s.owner e.rid (some i) }
  have hs' : CoinFlip.step fh pedersenHash s.server e = some s'.server := hs
  have htold : ∀ j rid sessionId n, s.Told j rid sessionId n → s'.Told j rid sessionId n :=
    fun _ _ _ _ htold => htold.step hs' howner
  obtain ⟨hrun, hanswered, hrecorded⟩ := h.server (.sends i e) rfl hs
  have hsound : ∀ j flip', s'.flips j = some flip' →
      flip'.Sound computePedersenHash s'.server s'.owner j := by
    intro j flip' hj
    rcases update_some_eq_some.mp hj with ⟨rfl, rfl⟩ | ⟨hne, hj⟩
    · exact hsends.sound (h.flips _ _ hflip) (answered_of_run h.run) hs' howner
        (Function.update_self ..)
    · refine (h.flips _ _ hj).of_server hdoc h.answered howned hs' howner ?_ ?_ ?_
      · rintro rid - rfl
        cases hsends
      · intro rid sessionId n htold' hsession
        cases hsends with
        | deploy | commit => cases hsession
        | play hphase =>
            obtain rfl := Option.some.inj hsession
            obtain ⟨rid', n', hi⟩ := (h.flips _ _ hflip).told (congrArg FlipPhase.session hphase)
            exact hne (h.apart hfresh htold' hi)
      · rintro rid n sessionId - rfl
        cases hsends
  refine ⟨hrun, hanswered, hrecorded, ?_, hsound, ?_⟩
  · exact forall_update_some h.known (h.known _ _ hflip)
  · intro j rid sessionId params hmem
    rcases List.mem_append.mp hmem with hmem | hmem
    · have hflips : ∀ j flip', s.flips j = some flip' →
          ∃ phase, s'.flips j = some { flip' with phase } := fun _ _ => setPhase_flips hflip
      exact h.plays_mono hflips htold hmem
    · obtain ⟨rfl, rfl⟩ := AppEvent.sends.inj (List.mem_singleton.mp hmem)
      cases hsends with
      | play hphase =>
          obtain ⟨rid', n, hi⟩ := (h.flips _ _ hflip).told (congrArg FlipPhase.session hphase)
          exact ⟨_, _, rid', n, Function.update_self .., rfl, htold _ _ _ _ hi⟩

/-- **The server moves, or another client sends a request.** -/
theorem Apps.Sound.moves {server : Server}
    (h : s.Sound fh pedersenHash computePedersenHash es) (howned : s.Owned)
    (hdoc : Documented fh pedersenHash computePedersenHash)
    (hfresh : FreshIds (es ++ [.server e])) (hsecret : Secret (es ++ [.server e]) { s with server })
    (hwaits : ∀ rid, e = .cancel rid → s.Awaited rid = false)
    (hs : CoinFlip.step fh pedersenHash s.server e = some server) :
    Apps.Sound fh pedersenHash computePedersenHash (es ++ [.server e]) { s with server } := by
  obtain ⟨hrun, hanswered, hrecorded⟩ := h.server (.server e) rfl hs
  let s' : Apps := { s with server }
  have hs' : CoinFlip.step fh pedersenHash s.server e = some s'.server := hs
  have htold : ∀ j rid sessionId n, s.Told j rid sessionId n → s'.Told j rid sessionId n :=
    fun _ _ _ _ htold => htold.step hs' fun _ _ => id
  -- A session id that is stored now was not stored before.
  have hnew : ∀ rid n sessionId, e = .blockNumber rid (.ok n) sessionId →
      sessionId ∉ (serverEvents es).filterMap storedId := by
    rintro rid n sessionId rfl hmem
    rw [FreshIds, serverEvents_append, List.filterMap_append] at hfresh
    exact (List.nodup_append.mp hfresh).2.2 _ hmem _ List.mem_cons_self rfl
  refine ⟨hrun, hanswered, hrecorded, h.known, fun j flip hj => ?_, ?_⟩
  · refine (h.flips j flip hj).of_server hdoc h.answered howned hs' (fun _ _ => id) ?_ ?_ ?_
    · rintro rid hrid rfl
      have hawaited : s.Awaited rid = true := by
        rw [Apps.Awaited, (h.flips j flip hj).owner hrid, Option.bind_some, hj]
        exact decide_eq_true hrid
      exact Bool.false_ne_true ((hwaits rid rfl).symm.trans hawaited)
    · intro rid sessionId n htold' hsession
      obtain ⟨m, hm, -⟩ := h.answered.stored _ _ _ htold'.answer
      cases e with
      | blockNumber rid' reply sessionId' =>
          cases reply with
          | error => cases hsession
          | ok m' =>
              obtain rfl := Option.some.inj hsession
              exact hnew _ _ _ rfl (List.mem_filterMap.mpr ⟨_, hm, rfl⟩)
      | play rid' sessionId' params =>
          obtain rfl := Option.some.inj hsession
          have hmem : AppEvent.server (.play rid' sessionId' params) ∈
              es ++ [.server (.play rid' sessionId' params)] :=
            List.mem_append_right _ (List.mem_singleton_self _)
          exact hsecret _ _ _ hmem _ _ _ (htold _ _ _ _ htold')
      | commit | deploy | readDeployment | removeCommitment | checkReveal | checkDeployed
      | deployEnds | cancel => cases hsession
    · intro rid n sessionId hown he
      refine h.nobody (hnew _ _ _ he) fun playId params hmem => ?_
      -- The session id is told to the flip now.
      have hstored : s'.Told j rid sessionId n := by
        refine ⟨hown, ?_⟩
        subst he
        cases step_moves hs with
        | stores => exact List.mem_append_right _ (List.mem_singleton_self _)
      exact hsecret _ _ _ (List.mem_append_left _ hmem) _ _ _ hstored
  · intro j rid sessionId params hmem
    rcases List.mem_append.mp hmem with hmem | hmem
    · have hflips : ∀ j flip', s.flips j = some flip' →
          ∃ phase, s'.flips j = some { flip' with phase } := fun j flip' hj => ⟨flip'.phase, hj⟩
      exact h.plays_mono hflips htold hmem
    · cases List.mem_singleton.mp hmem

/-- **A step keeps what holds of the apps and their server.** -/
theorem Apps.Sound.step {e : AppEvent} (h : s.Sound fh pedersenHash computePedersenHash es)
    (howned : s.Owned) (hdoc : Documented fh pedersenHash computePedersenHash)
    (hfresh : FreshIds (es ++ [e])) (hsecret : Secret (es ++ [e]) s')
    (hs : s.step fh pedersenHash computePedersenHash e = some s') :
    s'.Sound fh pedersenHash computePedersenHash (es ++ [e]) := by
  have hfresh' : FreshIds es := hfresh.of_append
  cases appStep_move hs with
  | flip hi =>
      refine h.acts rfl rfl rfl (fun j flip hj => ⟨flip.phase, ?_⟩) ?_ ?_
      · have hne : j ≠ _ := (hi ▸ h.known j flip hj).ne
        exact (Function.update_of_ne hne ..).trans hj
      · exact forall_update_some
          (fun j flip hj => (h.known j flip hj).trans_le (hi ▸ Nat.le_succ _)) (Nat.lt_succ_self _)
      · exact forall_update_some h.flips fun hdeployed => absurd hdeployed (by rintro ⟨⟩)
  | acts he hflip hacts =>
      refine h.acts he rfl rfl (fun _ _ => setPhase_flips hflip) ?_ ?_
      · exact forall_update_some h.known (h.known _ _ hflip)
      · exact forall_update_some h.flips
          (hacts.sound (h.flips _ _ hflip) h.recorded h.answered)
  | sends hflip hsends hserver =>
      exact h.sends howned hdoc hfresh' hflip (Flip.sends_iff hsends) hserver
  | server hwaits hserver => exact h.moves howned hdoc hfresh hsecret hwaits hserver

theorem Apps.sound_new : Apps.new.Sound fh pedersenHash computePedersenHash [] where
  run := .nil
  answered := ⟨fun _ _ h => absurd h List.not_mem_nil, fun _ _ _ h => absurd h List.not_mem_nil⟩
  recorded := ⟨fun _ h => absurd h (Option.some_ne_none _).symm,
    fun _ _ h => absurd h List.not_mem_nil⟩
  known _ _ h := absurd h (Option.some_ne_none _).symm
  flips _ _ h := absurd h (Option.some_ne_none _).symm
  plays _ _ _ _ h := absurd h List.not_mem_nil

theorem Apps.owned_new : Apps.new.Owned := fun _ _ h => absurd h (Option.some_ne_none _).symm

/-- What a flip was told it was told later. -/
theorem Apps.Owned.run (h : s.Owned)
    (hrun : Run (Apps.step fh pedersenHash computePedersenHash) s es s') :
    s'.Owned ∧ ∀ j rid sessionId n, s.Told j rid sessionId n → s'.Told j rid sessionId n := by
  refine hrun.invariant (P := fun s' => s'.Owned ∧ ∀ j rid sessionId n,
    s.Told j rid sessionId n → s'.Told j rid sessionId n) ⟨h, fun _ _ _ _ => id⟩ ?_
  rintro s₁ e s₂ ⟨howned, htold⟩ hs
  obtain ⟨howned', htold'⟩ := howned.step hs
  exact ⟨howned', fun j rid sessionId n h => htold' _ _ _ _ (htold _ _ _ _ h)⟩

/-- What was secret at the end was so before. -/
theorem Secret.of_append {es' : List AppEvent} (h : Secret (es ++ es') s') (howned : s.Owned)
    (hrun : Run (Apps.step fh pedersenHash computePedersenHash) s es' s') : Secret es s :=
  fun rid sessionId params hmem i rid' n htold =>
    h rid sessionId params (List.mem_append_left _ hmem) i rid' n
      ((howned.run hrun).2 _ _ _ _ htold)

theorem Apps.sound_of_run (hdoc : Documented fh pedersenHash computePedersenHash)
    (hrun : Run (Apps.step fh pedersenHash computePedersenHash) .new es s) (hfresh : FreshIds es)
    (hsecret : Secret es s) : s.Sound fh pedersenHash computePedersenHash es := by
  induction hrun with
  | nil => exact Apps.sound_new
  | snoc hrun hs ih =>
      have howned := (Apps.owned_new.run hrun).1
      exact (ih hfresh.of_append (hsecret.of_append howned (.one hs))).step howned hdoc hfresh
        hsecret hs

/-! ### Fair flips -/

variable (fh pedersenHash computePedersenHash) in
/-- What the apps promise to their players. -/
structure FairFlips (es : List AppEvent) (s : Apps) : Prop where
  /-- No play is refused. -/
  accepted : ∀ i flip error, s.flips i = some flip → flip.phase ≠ .failed .refused error
  /-- An event source is that of a game. -/
  opened : ∀ i flip nonceBytes sessionId playId, s.flips i = some flip →
    flip.phase = .opened nonceBytes sessionId playId →
    ∃ c game, (c, game) ∈ s.server.games ∧ game.sessionId = sessionId
  /-- There is one game on a session id. -/
  once : (s.server.games.map fun cg => cg.2.sessionId).Nodup
  /-- The game of a flip has its player, its bet and the seed that it was told. -/
  game : ∀ i rid sessionId n, s.Told i rid sessionId n → ∀ c game, (c, game) ∈ s.server.games →
    game.sessionId = sessionId → ∃ flip, s.flips i = some flip ∧ game.player = flip.address ∧
      game.bet = betByte flip.bet ∧ game.seedBlock = saturatingPred n
  /-- When a bet comes to the server, the seed of its game is stored. -/
  hidden : ∀ es₁ es₂ i playId sessionId params,
    es = es₁ ++ .sends i (.play playId sessionId params) :: es₂ →
    ∃ rid n, .blockNumber rid (.ok n) sessionId ∈ serverEvents es₁ ∧
      ∀ c game, (c, game) ∈ s.server.games → game.sessionId = sessionId →
        game.seedBlock = saturatingPred n
  /-- A play that has come to the server can open its event source. -/
  opens : ∀ i flip nonceBytes sessionId playId, s.flips i = some flip →
    flip.phase = .playing nonceBytes sessionId (some playId) →
    ∃ es' s', Run (Apps.step fh pedersenHash computePedersenHash) s es' s' ∧
      s'.flips i = some { flip with phase := .opened nonceBytes sessionId playId }

/-- The seed of a game is the one that was stored under its session id. -/
theorem Apps.Sound.seedBlock (h : s.Sound fh pedersenHash computePedersenHash es)
    (hfresh : FreshIds es) {rid : ℕ} {sessionId : String} {n : BitVec 64}
    (hstored : .blockNumber rid (.ok n) sessionId ∈ serverEvents es) {c : BetCommitment}
    {game : Game} (hgame : (c, game) ∈ s.server.games) (hsession : game.sessionId = sessionId) :
    game.seedBlock = saturatingPred n :=
  (keepsCommit_of_run h.run hfresh hgame).seed_fixed rid n (hsession ▸ hstored)

/-- **The game of a flip is its own.** -/
theorem Apps.Sound.game (h : s.Sound fh pedersenHash computePedersenHash es)
    (hfresh : FreshIds es) (hsecret : Secret es s) {rid : ℕ} {n : BitVec 64} {c : BetCommitment}
    {game : Game} (htold : s.Told i rid game.sessionId n) (hgame : (c, game) ∈ s.server.games) :
    ∃ flip, s.flips i = some flip ∧ game.player = flip.address ∧ game.bet = betByte flip.bet ∧
      game.seedBlock = saturatingPred n := by
  obtain ⟨playId, params, hplay, hreveal⟩ := (run_box h.run).1.revealed hgame
  obtain ⟨flip, nonceBytes, hflip, rfl⟩ := h.play hfresh hsecret htold hplay
  obtain ⟨-, -, heq⟩ := reveal_eq_ok.mp hreveal
  have hbet : game.bet = (flip.params nonceBytes).clampedBet := congrArg Game.bet heq
  obtain ⟨m, hstored, hseed⟩ := h.answered.stored _ _ _ htold.answer
  exact ⟨flip, hflip, congrArg Game.player heq, hbet.trans (clampedBet_betByte ..),
    (h.seedBlock hfresh hstored hgame rfl).trans hseed.symm⟩

/-- When a bet comes to the server, a seed is stored under its session id. -/
theorem Apps.Sound.stored_of_play (h : s.Sound fh pedersenHash computePedersenHash es)
    {playId : ℕ} {sessionId : String} {params : PlayQuery} {es' : List AppEvent}
    (hrun : Run (Apps.step fh pedersenHash computePedersenHash) s
      (.sends i (.play playId sessionId params) :: es') s') :
    ∃ rid n, .blockNumber rid (.ok n) sessionId ∈ serverEvents es := by
  have hcut : Run (Apps.step fh pedersenHash computePedersenHash) s
      (([] ++ [.sends i (.play playId sessionId params)]) ++ es') s' := hrun
  obtain ⟨s₂, hfirst, -⟩ := hcut.split
  obtain ⟨s₁, hnil, hs⟩ := hfirst.last
  obtain rfl := hnil.unique .nil
  cases appStep_move hs with
  | acts he => cases he
  | sends hflip hsends _ =>
      cases Flip.sends_iff hsends with
      | play hphase =>
          obtain ⟨rid, n, htold⟩ := (h.flips _ _ hflip).told (congrArg FlipPhase.session hphase)
          obtain ⟨m, hm, -⟩ := h.answered.stored _ _ _ htold.answer
          exact ⟨rid, m, hm⟩

/-- The moves of the server, beside the apps. -/
theorem run_server {es : List Event} {server : Server}
    (hrun : Run (CoinFlip.step fh pedersenHash) s.server es server)
    (hes : ∀ e ∈ es, ∀ rid, e ≠ .cancel rid) :
    Run (Apps.step fh pedersenHash computePedersenHash) s (es.map .server) { s with server } := by
  induction hrun with
  | nil => exact .nil
  | @snoc es e server₁ server₂ _ hs ih =>
      obtain ⟨hes, he⟩ := List.forall_mem_append.mp hes
      rw [List.map_append]
      refine (ih hes).trans (.one ?_)
      have hcancels : Apps.Cancels { s with server := server₁ } e = false := by
        cases e with
        | cancel rid => exact absurd rfl (he _ (List.mem_singleton_self _) rid)
        | commit | play | deploy | blockNumber | readDeployment | removeCommitment | checkReveal
        | checkDeployed | deployEnds => rfl
      rw [Apps.step, hcancels, if_neg Bool.false_ne_true]
      change Option.map _ (CoinFlip.step fh pedersenHash server₁ e) = _
      rw [hs]
      rfl

/-- **A play that has come to the server can open its event source.** -/
theorem Apps.Sound.opens (h : s.Sound fh pedersenHash computePedersenHash es)
    (hdoc : Documented fh pedersenHash computePedersenHash) (hflip : s.flips i = some flip)
    {nonceBytes : List UInt8} {sessionId : String} {playId : ℕ}
    (hphase : flip.phase = .playing nonceBytes sessionId (some playId)) :
    ∃ es' s', Run (Apps.step fh pedersenHash computePedersenHash) s es' s' ∧
      s'.flips i = some { flip with phase := .opened nonceBytes sessionId playId } := by
  have hsound := h.flips i flip hflip
  rw [Flip.Sound, hphase] at hsound
  obtain ⟨hlen, -, rid, n, -, hunderWay⟩ := hsound
  obtain ⟨moves, server, hmoves, hrun, hanswer, -⟩ :=
    hunderWay.stage.finishes (hdoc.reveal _ hlen ⟨rid, n, sessionId, playId, rfl⟩)
  have hcancel : ∀ e ∈ moves, ∀ rid, e ≠ .cancel rid := by
    intro e he rid
    have hmove := hmoves e he
    simp only [Reveal.moves, List.mem_cons, List.not_mem_nil, or_false] at hmove
    rcases hmove with rfl | rfl | rfl <;> rintro ⟨⟩
  have hreceives : Apps.step fh pedersenHash computePedersenHash { s with server }
      (.receives i .stream (List.replicate 31 0))
      = some (Apps.setPhase { s with server } i flip (.opened nonceBytes sessionId playId)) := by
    have hany : (flip.phase.rid.any fun rid => (rid, Answer.stream) ∈ server.answers) = true := by
      rw [hphase]
      exact decide_eq_true hanswer
    simp only [Apps.step, List.length_replicate, if_true, hflip, Option.bind_some, hany]
    rw [hphase]
    rfl
  exact ⟨_, _, (run_server hrun hcancel).trans (.one hreceives), Function.update_self ..⟩

/-- **Flips are fair.**  In every run of the apps and their server, with fresh and secret session
ids: no play is refused, and the game of a flip has its player, its bet and the seed that it was
told, which is stored before the bet is sent. -/
theorem flips_fair (hdoc : Documented fh pedersenHash computePedersenHash)
    (hrun : Run (Apps.step fh pedersenHash computePedersenHash) .new es s) (hfresh : FreshIds es)
    (hsecret : Secret es s) : FairFlips fh pedersenHash computePedersenHash es s := by
  have h := Apps.sound_of_run hdoc hrun hfresh hsecret
  constructor
  · intro i flip error hflip hphase
    have hsound := h.flips i flip hflip
    rw [Flip.Sound, hphase] at hsound
    exact hsound rfl
  · intro i flip nonceBytes sessionId playId hflip hphase
    have hsound := h.flips i flip hflip
    rw [Flip.Sound, hphase] at hsound
    obtain ⟨-, -, rid, n, -, -, d, hgame⟩ := hsound
    exact ⟨_, _, hgame, rfl⟩
  · obtain ⟨-, bes, hbox, hkeys, -⟩ := run_box h.run
    have hnodup := (Box.run_once hbox (hkeys ▸ hfresh)).used_nodup
    rwa [Server.box, List.map_map] at hnodup
  · rintro i rid sessionId n htold c game hgame rfl
    exact h.game hfresh hsecret htold hgame
  · rintro es₁ es₂ i playId sessionId params rfl
    obtain ⟨s₁, hrun₁, hrest⟩ := hrun.split
    have howned := (Apps.owned_new.run hrun₁).1
    have h₁ := Apps.sound_of_run hdoc hrun₁ hfresh.of_append (hsecret.of_append howned hrest)
    obtain ⟨rid, n, hstored⟩ := h₁.stored_of_play hrest
    refine ⟨rid, n, hstored, fun c game hgame hsession => ?_⟩
    have hmem : .blockNumber rid (.ok n) sessionId ∈
        serverEvents (es₁ ++ .sends i (.play playId sessionId params) :: es₂) := by
      rw [serverEvents, List.filterMap_append]
      exact List.mem_append_left _ hstored
    exact h.seedBlock hfresh hmem hgame hsession
  · intro i flip nonceBytes sessionId playId hflip hphase
    exact h.opens hdoc hflip hphase

end Flips

/-! ### Two flips -/

/-- The texts of bytes are read as their number. -/
theorem hexDigits?_byteText (bytes : List UInt8) :
    hexDigits? (bytes.flatMap byteText) = some (beNat bytes) := by
  have hdigits : ∀ (byte : UInt8) (n : ℕ), (byteText byte).foldlM
      (fun n c => (hexDigit? c).map fun d => 16 * n + d) n = some (n * 256 + byte.toNat) := by
    intro byte n
    have hlt : byte.toNat < 256 := byte.toNat_lt
    rw [byteText, List.foldlM_cons, hexDigit?_digitChar _ (by omega), Option.map_some]
    change List.foldlM _ _ _ = _
    rw [List.foldlM_cons, hexDigit?_digitChar _ (Nat.mod_lt _ (by norm_num)), Option.map_some]
    exact congrArg some (by omega)
  have hfold : ∀ n : ℕ, (bytes.flatMap byteText).foldlM
      (fun n c => (hexDigit? c).map fun d => 16 * n + d) n =
      some (bytes.foldl (fun n byte => n * 256 + byte.toNat) n) := by
    induction bytes with
    | nil => exact fun _ => rfl
    | cons byte bytes ih =>
        intro n
        rw [List.flatMap_cons, List.foldlM_append, hdigits]
        exact ih _
  exact hfold 0

/-- `computePedersenHash`, with the sample hash. -/
def sampleComputePedersenHash (a b : String) : String :=
  match sampleHex.fromHex a, sampleHex.fromHex b with
  | .ok x, .ok y => fmtFelt (samplePedersen x y)
  | _, _ => ""

theorem documented_sample :
    Documented sampleHex samplePedersen sampleComputePedersenHash where
  fromHex nonceBytes hlen := by
    have hnat : hexNat? (nonceText nonceBytes) = some (beNat nonceBytes) := by
      rw [← hexDigits?_byteText, hexNat?, nonceText, String.toList_ofList]
      cases nonceBytes with
      | nil => cases hlen
      | cons => rfl
    have hlt : beNat nonceBytes < feltPrime :=
      (hlen ▸ beNat_lt nonceBytes).trans (by norm_num [feltPrime])
    refine ⟨⟨beNat nonceBytes, hlt⟩, ?_⟩
    simp only [sampleHex, hnat]
    exact dif_pos hlt
  computes a b x y ha hb := by
    rw [sampleComputePedersenHash, ha, hb]

def sampleNonce : List UInt8 := List.replicate 30 0 ++ [7]

def sampleTails : Flip := ⟨"0x123", ⟨1, Nat.one_lt_two⟩, .checkingStatus none⟩

def sampleHeads : Flip := ⟨"0x456", ⟨0, Nat.two_pos⟩, .checkingStatus none⟩

/-- Two flips, the first of which has the contract deployed, and another client on a session id
of its own; the connection of the second flip is lost. -/
def twoFlips : List AppEvent := [
  .flip 0 "0x123" sampleTails.bet, .status 0, .knows 0 sampleNonce, .sends 0 (.deploy 0),
  .server (.checkDeployed 0), .server (.deployEnds 0 (.ok ⟨"0x5", "0x6", 0⟩)),
  .receives 0 (.deployed ⟨"0x5", "0x6", 0⟩) sampleNonce, .flip 1 "0x456" sampleHeads.bet, .status 1,
  .sends 0 (.commit 1 (sampleTails.commitRequest sampleComputePedersenHash sampleNonce)),
  .server (.commit 2 ⟨"0x1", "0x9"⟩), .knows 1 sampleNonce,
  .sends 1 (.commit 3 (sampleHeads.commitRequest sampleComputePedersenHash sampleNonce)),
  .server (.blockNumber 1 (.ok 7) "session"), .server (.blockNumber 2 (.ok 11) "other"),
  .server (.blockNumber 3 (.ok 12) "next"), .receives 1 (.committed "next" 11) sampleNonce,
  .sends 1 (.play 4 "next" (sampleHeads.params sampleNonce)),
  .receives 0 (.committed "session" 6) sampleNonce, .server (.play 5 "other" samplePlay),
  .sends 0 (.play 6 "session" (sampleTails.params sampleNonce)),
  .server (.readDeployment 6), .server (.readDeployment 4), .server (.removeCommitment 6),
  .loses 1 "Error", .server (.readDeployment 5), .server (.removeCommitment 5),
  .server (.checkReveal 6), .server (.checkReveal 5), .receives 0 .stream sampleNonce]

/-- The session id of the other client was told to no flip. -/
def othersSecret (s : Apps) : Bool :=
  s.server.answers.all fun answer =>
    match answer.2 with
    | .committed sessionId _ => sessionId ≠ "other" || s.owner answer.1 = none
    | _ => true

theorem secret_twoFlips {s : Apps} (h : othersSecret s = true) : Secret twoFlips s := by
  intro rid sessionId params hmem i rid' n htold
  obtain ⟨-, rfl, -⟩ : rid = 5 ∧ sessionId = "other" ∧ params = samplePlay := by
    simpa [twoFlips] using hmem
  have hnone : s.owner rid' = none := by
    simpa using List.all_eq_true.mp h _ htold.answer
  cases hnone.symm.trans htold.owner

theorem freshIds_twoFlips : FreshIds twoFlips := by
  rw [FreshIds]
  decide +kernel

theorem flips_fair_twoFlips :
    ∃ s, Run (Apps.step sampleHex samplePedersen sampleComputePedersenHash) .new twoFlips s ∧
      FairFlips sampleHex samplePedersen sampleComputePedersenHash twoFlips s := by
  have hothers : (runEvents (Apps.step sampleHex samplePedersen sampleComputePedersenHash) .new
      twoFlips).map othersSecret = some true := by
    decide +kernel
  obtain ⟨s, hs, hall⟩ := Option.map_eq_some_iff.mp hothers
  have hrun := Run.of_runEvents hs
  exact ⟨s, hrun, flips_fair documented_sample hrun freshIds_twoFlips (secret_twoFlips hall)⟩

end Snip36.CoinFlip

import Snip36.CoinFlip.CommitReveal

/-!
# CoinFlip — honest reveals

A player commits and then plays with the same player string, bet and nonce, and is the only one on
the session id.  Whatever the other requests do, the commitment waits for the play
(`waiting_of_run`), and the play reads it and comes to its check (`Stage`).  The check compares
texts.

`acceptsReveal_iff`: in every state from the play on, the play is accepted, exactly when the
commitment is the text that the server writes for the hash of the bet and the nonce.
-/

namespace Snip36.CoinFlip
open Support Signing

/-! ### What a step touches -/

/-- The session id that a request reveals under. -/
def Request.session : Request → Option String
  | .playing sessionId _ | .revealing sessionId _ _ | .checking sessionId _ _ _ => some sessionId
  | _ => none

/-- The request that an event is a move of. -/
def Event.rid : Event → ℕ
  | .commit rid _ | .play rid _ _ | .deploy rid | .blockNumber rid _ _ | .readDeployment rid
  | .removeCommitment rid | .checkReveal rid | .checkDeployed rid | .deployEnds rid _
  | .cancel rid => rid

/-- The session id under which a commit stores, or for which a play comes in. -/
def Event.session : Event → Option String
  | .blockNumber _ (.ok _) sessionId | .play _ sessionId _ => some sessionId
  | _ => none

theorem Request.session_origin (r : Request) (i : ℕ) : (r.origin i).session = r.session := by
  cases r <;> rfl

/-- A step moves one request: it answers no other, and touches no commitment but that of its
session id. -/
structure Touches (s : Server) (e : Event) (s' : Server) : Prop where
  requests : ∃ r, s'.requests = Function.update s.requests e.rid r
  answers : s'.answers = s.answers ∨
    ∃ r a, s.requests e.rid = some r ∧ s'.answers = s.answers ++ [(e.rid, a)]
  games : s.games <+: s'.games
  coinflip : s.coinflip.isSome → s'.coinflip.isSome
  commitments : ∀ k, s'.commitments k = s.commitments k ∨ e.session = some k ∨
    ∃ r, s.requests e.rid = some r ∧ r.session = some k

section Touches

variable {fh : FeltHex} {pedersenHash : Felt → Felt → Felt} {s s' : Server} {e : Event}

theorem touches_arrive {r : Request} (h : s.arrive e.rid r = some s') : Touches s e s' := by
  obtain ⟨-, rfl⟩ := arrive_eq_some h
  exact ⟨⟨_, rfl⟩, .inl rfl, List.prefix_refl _, id, fun _ => .inl rfl⟩

theorem touches_goOn (r : Request) : Touches s e (s.goOn e.rid r) :=
  ⟨⟨_, rfl⟩, .inl rfl, List.prefix_refl _, id, fun _ => .inl rfl⟩

theorem touches_answer {r : Request} (h : s.requests e.rid = some r) (a : Answer) :
    Touches s e (s.answer e.rid a) :=
  ⟨⟨_, rfl⟩, .inr ⟨r, a, h, rfl⟩, List.prefix_refl _, id, fun _ => .inl rfl⟩

/-- **A step touches the request that it moves, and the commitment of its session id.** -/
theorem step_touches (hs : step fh pedersenHash s e = some s') : Touches s e s' := by
  cases step_moves hs with
  | commit h | play h | deploy h => exact touches_arrive h
  | stores n sessionId hreq =>
      refine ⟨⟨_, rfl⟩, .inr ⟨_, _, hreq, rfl⟩, List.prefix_refl _, id, fun k => ?_⟩
      by_cases hk : k = sessionId
      · exact .inr (.inl (congrArg some hk.symm))
      · exact .inl (Function.update_of_ne hk _ _)
  | @takes _ sessionId _ _ _ hreq _ =>
      refine ⟨⟨_, rfl⟩, .inl rfl, List.prefix_refl _, id, fun k => ?_⟩
      by_cases hk : k = sessionId
      · exact .inr (.inr ⟨_, hreq, congrArg some hk.symm⟩)
      · exact .inl (Function.update_of_ne hk _ _)
  | reads | deploys => exact touches_goOn _
  | noNumber _ _ _ hreq | notDeployed _ hreq _ | notCommitted _ hreq _ | refuses hreq _
  | finds hreq _ | deployFails _ hreq => exact touches_answer hreq _
  | starts hreq _ =>
      exact ⟨⟨_, rfl⟩, .inr ⟨_, _, hreq, rfl⟩, List.prefix_append _ _, id, fun _ => .inl rfl⟩
  | deployed d hreq =>
      exact ⟨⟨_, rfl⟩, .inr ⟨_, _, hreq, rfl⟩, List.prefix_refl _, fun _ => rfl, fun _ => .inl rfl⟩
  | cancels =>
      exact ⟨⟨_, rfl⟩, .inl rfl, List.prefix_refl _, id, fun _ => .inl rfl⟩

/-- Another request stays where it is. -/
theorem Touches.requests_of_ne (h : Touches s e s') {i : ℕ} (hi : i ≠ e.rid) :
    s'.requests i = s.requests i := by
  obtain ⟨r, hr⟩ := h.requests
  rw [hr, Function.update_of_ne hi]

/-- Another request is not answered. -/
theorem Touches.answers_of_ne (h : Touches s e s') {i : ℕ} {a : Answer} (hi : i ≠ e.rid) :
    (i, a) ∈ s'.answers ↔ (i, a) ∈ s.answers := by
  rcases h.answers with heq | ⟨-, a', -, heq⟩
  · rw [heq]
  · rw [heq, List.mem_append, List.mem_singleton, or_iff_left]
    exact fun h => hi (Prod.mk.inj h).1

end Touches

/-! ### The player and the others -/

/-- A commit, the block number at which it is stored and the session id under which it is, and a
play. -/
structure Reveal where
  commitId : ℕ
  commitment : String
  blockNumber : BitVec 64
  sessionId : String
  playId : ℕ
  params : PlayQuery

namespace Reveal

/-- The commit is by the player of the play. -/
def request (r : Reveal) : CommitRequest := ⟨r.commitment, r.params.player⟩

/-- What the commit stores. -/
def stored (r : Reveal) : BetCommitment := betCommitment r.request r.blockNumber

/-- The game of the play. -/
def game (r : Reveal) (d : CoinFlipDeployment) : Game :=
  ⟨r.sessionId, d, r.params.player, r.params.bet, saturatingPred r.blockNumber⟩

/-- The commitment is stored. -/
def store (r : Reveal) : Event := .blockNumber r.commitId (.ok r.blockNumber) r.sessionId

/-- The play comes in. -/
def play (r : Reveal) : Event := .play r.playId r.sessionId r.params

/-- The moves of the play. -/
def moves (r : Reveal) : List Event :=
  [.readDeployment r.playId, .removeCommitment r.playId, .checkReveal r.playId]

end Reveal

section Honest

variable (fh : FeltHex) (pedersenHash : Felt → Felt → Felt)

/-- The player commits, and then plays while the contract is deployed and waits for the answer; no
other commit or play is on the session id. -/
structure PlaysAlone (r : Reveal) (before between after : List Event) : Prop where
  committed : .commit r.commitId r.request ∈ before
  deployed : ∃ s, Run (step fh pedersenHash) .new (before ++ r.store :: between) s ∧
    s.coinflip.isSome
  waits : .cancel r.playId ∉ after
  others : ∀ e ∈ before ++ between ++ after, e.session ≠ some r.sessionId

/-- The play is accepted: it has started its game. -/
def Accepted (r : Reveal) (s : Server) : Prop :=
  (r.playId, .stream) ∈ s.answers ∧ ∃ d, (r.stored, r.game d) ∈ s.games

/-- The moves of the play lead to its game. -/
def Finishes (r : Reveal) (s : Server) : Prop :=
  ∃ es s', (∀ e ∈ es, e ∈ r.moves) ∧ Run (step fh pedersenHash) s es s' ∧ Accepted r s'

/-- The play has no other answer than that it is accepted, and its own moves lead there. -/
def AcceptsReveal (r : Reveal) (s : Server) : Prop :=
  (∀ a, (r.playId, a) ∈ s.answers → a = .stream) ∧ Finishes fh pedersenHash r s

end Honest

/-- All requests that reveal under a session id have ids with a property. -/
def RevealersIn (sessionId : String) (P : ℕ → Prop) (s : Server) : Prop :=
  ∀ i req, s.requests i = some req → req.session = some sessionId → P i

/-- How far an honest play has come. -/
inductive Stage (r : Reveal) (s : Server) : Prop where
  | playing (hreq : s.requests r.playId = some (.playing r.sessionId r.params))
      (hstored : s.commitments r.sessionId = some r.stored) (hdeployed : s.coinflip.isSome)
  | revealing (d : CoinFlipDeployment)
      (hreq : s.requests r.playId = some (.revealing r.sessionId r.params d))
      (hstored : s.commitments r.sessionId = some r.stored)
  | checking (d : CoinFlipDeployment)
      (hreq : s.requests r.playId = some (.checking r.sessionId r.params d r.stored))
  | started (hreq : s.requests r.playId = none) (haccepted : Accepted r s)

/-! ### Arrivals and answers -/

section Runs

variable {fh : FeltHex} {pedersenHash : Felt → Felt → Felt} {s s' : Server} {e : Event}
  {es : List Event}

/-- The id under which a request comes in. -/
def Event.arrival : Event → Option ℕ
  | .commit rid _ | .play rid _ _ | .deploy rid => some rid
  | _ => none

theorem step_arrival (hs : step fh pedersenHash s e = some s') :
    (e.arrival = none ∧ s'.nextId = s.nextId) ∨
      (e.arrival = some s.nextId ∧ s'.nextId = s.nextId + 1) := by
  cases step_moves hs with
  | commit h | play h | deploy h =>
      obtain ⟨rfl, rfl⟩ := arrive_eq_some h
      exact .inr ⟨rfl, rfl⟩
  | stores | noNumber | reads | notDeployed | takes | notCommitted | starts | refuses | finds
  | deploys | deployed | deployFails | cancels => exact .inl ⟨rfl, rfl⟩

/-- Requests come in under the ids in their order. -/
theorem arrivals_of_run (hrun : Run (step fh pedersenHash) .new es s) :
    es.filterMap Event.arrival = List.range s.nextId := by
  refine hrun.history_induction
    (P := fun es s => es.filterMap Event.arrival = List.range s.nextId) rfl ?_
  intro es s e s' ih hs
  rw [List.filterMap_append, ih]
  rcases step_arrival hs with ⟨harrival, hnext⟩ | ⟨harrival, hnext⟩
  · rw [List.filterMap_cons_none harrival, List.filterMap_nil, List.append_nil, hnext]
  · rw [List.filterMap_cons_some harrival, List.filterMap_nil, hnext, List.range_succ]

/-- Only requests that came in are answered. -/
theorem answered_of_run (hrun : Run (step fh pedersenHash) .new es s) :
    ∀ i a, (i, a) ∈ s.answers → i < s.nextId := by
  have hboth : Traced fh pedersenHash es s ∧ ∀ i a, (i, a) ∈ s.answers → i < s.nextId := by
    refine hrun.history_induction
      (P := fun es s => Traced fh pedersenHash es s ∧ ∀ i a, (i, a) ∈ s.answers → i < s.nextId)
      ⟨traced_new, fun _ _ h => absurd h List.not_mem_nil⟩ ?_
    rintro es s e s' ⟨htraced, hanswered⟩ hs
    have hnext := (step_follows hs).1
    refine ⟨htraced.step hs, fun i a h => ?_⟩
    rcases (step_touches hs).answers with heq | ⟨req, a', hreq, heq⟩
    · exact (hanswered i a (heq ▸ h)).trans_le hnext
    · rw [heq] at h
      rcases List.mem_append.mp h with h | h
      · exact (hanswered i a h).trans_le hnext
      · obtain ⟨rfl, -⟩ := Prod.mk.inj (List.mem_singleton.mp h)
        refine lt_of_lt_of_le (not_le.mp fun hle => ?_) hnext
        rw [htraced.idle _ hle] at hreq
        cases hreq
  exact hboth.2

/-- A step brings no request under a session id, but a play for it. -/
theorem RevealersIn.step {sessionId : String} {P : ℕ → Prop} (h : RevealersIn sessionId P s)
    (hs : CoinFlip.step fh pedersenHash s e = some s')
    (hplay : ∀ i params, e = .play i sessionId params → P i) : RevealersIn sessionId P s' := by
  intro i req hreq hsession
  rcases (step_follows hs).2 i req hreq with ⟨-, rfl⟩ | ⟨req₀, hreq₀, horigin⟩
  · cases req with
    | playing | revealing | checking =>
        obtain rfl := Option.some.inj hsession
        exact hplay i _ rfl
    | committing | deploy | deploying => cases hsession
  · refine h i req₀ hreq₀ ?_
    rw [← req₀.session_origin i, horigin, req.session_origin i]
    exact hsession

/-! ### The commitment waits -/

variable {r : Reveal}

/-- **The commitment is stored, and nobody is on its session id, until the play comes in.** -/
theorem waiting_of_run {before between : List Event}
    (hrun : Run (step fh pedersenHash) .new (before ++ r.store :: between) s)
    (hcommitted : .commit r.commitId r.request ∈ before)
    (hbefore : ∀ e ∈ before, e.session ≠ some r.sessionId)
    (hbetween : ∀ e ∈ between, e.session ≠ some r.sessionId) :
    s.commitments r.sessionId = some r.stored ∧ RevealersIn r.sessionId (fun _ => False) s := by
  have hnoplay {e : Event} (he : e.session ≠ some r.sessionId) :
      ∀ i params, e = .play i r.sessionId params → False := by
    rintro i params rfl
    exact he rfl
  rw [List.append_cons] at hrun
  obtain ⟨s₁, hrun₁, hrest⟩ := hrun.split
  obtain ⟨s₀, hrun₀, hstore⟩ := hrun₁.last
  have hnone₀ : RevealersIn r.sessionId (fun _ => False) s₀ :=
    hrun₀.invariant_of_events hbefore (fun _ _ h => absurd h (Option.some_ne_none _).symm)
      fun _ _ _ h he hs => h.step hs (hnoplay he)
  have hnone₁ := hnone₀.step hstore (by rintro i params ⟨⟩)
  have hstored₁ : s₁.commitments r.sessionId = some r.stored := by
    simp only [Reveal.store, step] at hstore
    split at hstore
    · next req n hreq hn =>
        obtain rfl := Except.ok.inj hn
        obtain rfl := Option.some.inj hstore
        -- The request that stores is the player's: no two requests come in under one id.
        have horigin := (run_box hrun₀).1.origin hreq
        have harrivals : (before.filterMap Event.arrival).Nodup := by
          rw [arrivals_of_run hrun₀]
          exact List.nodup_range
        have hsame := eq_of_filterMap_nodup harrivals horigin hcommitted rfl rfl
        obtain ⟨-, rfl⟩ := Event.commit.inj hsame
        exact Function.update_self ..
    · next hn => cases hn
    · cases hstore
  refine hrest.invariant_of_events (P := fun s => s.commitments r.sessionId = some r.stored ∧
    RevealersIn r.sessionId (fun _ => False) s) hbetween ⟨hstored₁, hnone₁⟩ ?_
  rintro s e s' ⟨hstored, hnone⟩ he hs
  refine ⟨?_, hnone.step hs (hnoplay he)⟩
  -- Only a commit or a play on the session id touches the commitment.
  rcases (step_touches hs).commitments r.sessionId with heq | heq | ⟨req, hreq, hsession⟩
  · exact heq.trans hstored
  · exact absurd heq he
  · exact absurd hsession fun h => hnone _ _ hreq h

/-! ### The play goes on -/

/-- **The moves of the others leave the play where it is.** -/
theorem Stage.of_other (h : Stage r s) (honly : RevealersIn r.sessionId (· = r.playId) s)
    (hs : step fh pedersenHash s e = some s') (hother : r.playId ≠ e.rid)
    (hsession : e.session ≠ some r.sessionId) : Stage r s' := by
  have htouches := step_touches hs
  have hreq : s'.requests r.playId = s.requests r.playId := htouches.requests_of_ne hother
  have hcommitments : s'.commitments r.sessionId = s.commitments r.sessionId := by
    rcases htouches.commitments r.sessionId with heq | heq | ⟨req, hreq, hsession⟩
    · exact heq
    · exact absurd heq hsession
    · exact absurd (honly _ _ hreq hsession).symm hother
  cases h with
  | playing hplaying hstored hdeployed =>
      exact .playing (hreq.trans hplaying) (hcommitments.trans hstored)
        (htouches.coinflip hdeployed)
  | revealing d hrevealing hstored =>
      exact .revealing d (hreq.trans hrevealing) (hcommitments.trans hstored)
  | checking d hchecking => exact .checking d (hreq.trans hchecking)
  | started hnone haccepted =>
      obtain ⟨hanswer, d, hgame⟩ := haccepted
      exact .started (hreq.trans hnone)
        ⟨(htouches.answers_of_ne hother).mpr hanswer, d, htouches.games.subset hgame⟩

/-- **The play's own moves** lead to the next stage; only the last one answers. -/
theorem Stage.of_own (h : Stage r s) (hknown : r.playId < s.nextId)
    (hopens : ∀ d, reveal fh pedersenHash r.sessionId d r.stored r.params = .ok (r.game d))
    (hs : step fh pedersenHash s e = some s') (hown : e.rid = r.playId)
    (hcancel : e ≠ .cancel r.playId) :
    Stage r s' ∧ ∀ a, (r.playId, a) ∈ s'.answers → (r.playId, a) ∈ s.answers ∨ a = .stream := by
  have harrive {req : Request} (h : s.arrive r.playId req = some s') : False := by
    have hid := (arrive_eq_some h).1
    omega
  cases e with
  | commit rid req =>
      obtain rfl : rid = r.playId := hown
      exact (harrive hs).elim
  | play rid sessionId params =>
      obtain rfl : rid = r.playId := hown
      exact (harrive hs).elim
  | deploy rid =>
      obtain rfl : rid = r.playId := hown
      exact (harrive hs).elim
  | blockNumber rid reply sessionId =>
      obtain rfl : rid = r.playId := hown
      cases h <;> simp [step, *] at hs
  | readDeployment rid =>
      obtain rfl : rid = r.playId := hown
      cases h with
      | playing hreq hstored hdeployed =>
          obtain ⟨d, hd⟩ := Option.isSome_iff_exists.mp hdeployed
          simp only [step, hreq, hd] at hs
          obtain rfl := Option.some.inj hs
          exact ⟨.revealing d (Function.update_self ..) hstored, fun a ha => .inl ha⟩
      | revealing d hreq hstored => simp [step, hreq] at hs
      | checking d hreq => simp [step, hreq] at hs
      | started hreq haccepted => simp [step, hreq] at hs
  | removeCommitment rid =>
      obtain rfl : rid = r.playId := hown
      cases h with
      | revealing d hreq hstored =>
          simp only [step, hreq, hstored] at hs
          obtain rfl := Option.some.inj hs
          exact ⟨.checking d (Function.update_self ..), fun a ha => .inl ha⟩
      | playing hreq hstored hdeployed => simp [step, hreq] at hs
      | checking d hreq => simp [step, hreq] at hs
      | started hreq haccepted => simp [step, hreq] at hs
  | checkReveal rid =>
      obtain rfl : rid = r.playId := hown
      cases h with
      | checking d hreq =>
          simp only [step, hreq, hopens d] at hs
          obtain rfl := Option.some.inj hs
          refine ⟨.started (Function.update_self ..) ⟨?_, d, ?_⟩, fun a ha => ?_⟩
          · exact List.mem_append_right _ (List.mem_singleton_self _)
          · exact List.mem_append_right _ (List.mem_singleton_self _)
          · rcases List.mem_append.mp ha with ha | ha
            · exact .inl ha
            · exact .inr (Prod.mk.inj (List.mem_singleton.mp ha)).2
      | playing hreq hstored hdeployed => simp [step, hreq] at hs
      | revealing d hreq hstored => simp [step, hreq] at hs
      | started hreq haccepted => simp [step, hreq] at hs
  | checkDeployed rid =>
      obtain rfl : rid = r.playId := hown
      cases h <;> simp [step, *] at hs
  | deployEnds rid outcome =>
      obtain rfl : rid = r.playId := hown
      cases h <;> simp [step, *] at hs
  | cancel rid =>
      obtain rfl : rid = r.playId := hown
      exact absurd rfl hcancel

/-- A play that is under way, with nobody else on its session id. -/
structure UnderWay (r : Reveal) (s : Server) : Prop where
  stage : Stage r s
  only : RevealersIn r.sessionId (· = r.playId) s
  known : r.playId < s.nextId
  answered : ∀ a, (r.playId, a) ∈ s.answers → a = .stream

theorem UnderWay.step (h : UnderWay r s)
    (hopens : ∀ d, reveal fh pedersenHash r.sessionId d r.stored r.params = .ok (r.game d))
    (hsession : e.session ≠ some r.sessionId) (hcancel : e ≠ .cancel r.playId)
    (hs : CoinFlip.step fh pedersenHash s e = some s') : UnderWay r s' := by
  have honly := h.only.step hs (by rintro i params rfl; exact absurd rfl hsession)
  have hknown := h.known.trans_le (step_follows hs).1
  by_cases hown : e.rid = r.playId
  · obtain ⟨hstage, hanswers⟩ := h.stage.of_own h.known hopens hs hown hcancel
    exact ⟨hstage, honly, hknown, fun a ha => (hanswers a ha).elim (h.answered a) id⟩
  · have hother : r.playId ≠ e.rid := fun heq => hown heq.symm
    exact ⟨h.stage.of_other h.only hs hother hsession, honly, hknown,
      fun a ha => h.answered a (((step_touches hs).answers_of_ne hother).mp ha)⟩

/-- **The play is under way** in every state after it came in. -/
theorem underWay_of_run {before between after : List Event}
    (hrun : Run (CoinFlip.step fh pedersenHash) .new
      (before ++ r.store :: between ++ r.play :: after) s)
    (halone : PlaysAlone fh pedersenHash r before between after)
    (hopens : ∀ d, reveal fh pedersenHash r.sessionId d r.stored r.params = .ok (r.game d)) :
    UnderWay r s := by
  obtain ⟨hbefore, hafter⟩ := List.forall_mem_append.mp halone.others
  obtain ⟨hbefore, hbetween⟩ := List.forall_mem_append.mp hbefore
  rw [List.append_cons] at hrun
  obtain ⟨s₂, hrun₂, hrest⟩ := hrun.split
  obtain ⟨s₁, hrun₁, hplay⟩ := hrun₂.last
  obtain ⟨hstored, hnone⟩ := waiting_of_run hrun₁ halone.committed hbefore hbetween
  obtain ⟨s₁', hrun₁', hdeployed⟩ := halone.deployed
  obtain rfl := hrun₁.unique hrun₁'
  have hstart : UnderWay r s₂ := by
    have hthis : RevealersIn r.sessionId (· = r.playId) s₁ :=
      fun i req hreq h => (hnone i req hreq h).elim
    have honly := hthis.step hplay (by rintro i params h; exact (Event.play.inj h).1.symm)
    obtain ⟨hid, rfl⟩ := arrive_eq_some hplay
    refine ⟨.playing (Function.update_self ..) hstored hdeployed, honly, Nat.lt_succ_self _, ?_⟩
    -- Nothing was answered under an id that is new.
    intro a ha
    have hlt := answered_of_run hrun₁ _ _ ha
    omega
  refine hrest.invariant_of_events
    (C := fun e => e.session ≠ some r.sessionId ∧ e ≠ .cancel r.playId) ?_ hstart
    fun _ _ _ h he hs => h.step hopens he.1 he.2 hs
  exact fun e he => ⟨hafter e he, fun heq => halone.waits (heq ▸ he)⟩

/-! ### The check -/

theorem Finishes.move {s₁ : Server} (he : e ∈ r.moves)
    (hs : CoinFlip.step fh pedersenHash s e = some s₁) (h : Finishes fh pedersenHash r s₁) :
    Finishes fh pedersenHash r s := by
  obtain ⟨es, s', hmoves, hrun, haccepted⟩ := h
  exact ⟨e :: es, s', List.forall_mem_cons.mpr ⟨he, hmoves⟩, (Run.one hs).trans hrun, haccepted⟩

theorem finishes_of_accepted (h : Accepted r s) : Finishes fh pedersenHash r s :=
  ⟨[], s, fun _ he => absurd he List.not_mem_nil, .nil, h⟩

theorem finishes_of_checking {d : CoinFlipDeployment}
    (hreq : s.requests r.playId = some (.checking r.sessionId r.params d r.stored))
    (hopens : reveal fh pedersenHash r.sessionId d r.stored r.params = .ok (r.game d)) :
    Finishes fh pedersenHash r s := by
  have hs : CoinFlip.step fh pedersenHash s (.checkReveal r.playId)
      = some ({ s with games := s.games ++ [(r.stored, r.game d)] }.answer r.playId .stream) := by
    simp only [CoinFlip.step, hreq, hopens]
  refine .move (by simp [Reveal.moves]) hs (finishes_of_accepted ⟨?_, d, ?_⟩)
  · exact List.mem_append_right _ (List.mem_singleton_self _)
  · exact List.mem_append_right _ (List.mem_singleton_self _)

theorem finishes_of_revealing {d : CoinFlipDeployment}
    (hreq : s.requests r.playId = some (.revealing r.sessionId r.params d))
    (hstored : s.commitments r.sessionId = some r.stored)
    (hopens : reveal fh pedersenHash r.sessionId d r.stored r.params = .ok (r.game d)) :
    Finishes fh pedersenHash r s := by
  have hs : CoinFlip.step fh pedersenHash s (.removeCommitment r.playId)
      = some ({ s with commitments := Function.update s.commitments r.sessionId none }.goOn r.playId
          (.checking r.sessionId r.params d r.stored)) := by
    simp only [CoinFlip.step, hreq, hstored]
  exact .move (by simp [Reveal.moves]) hs (finishes_of_checking (Function.update_self ..) hopens)

/-- **From every stage, the moves of the play lead to its game.** -/
theorem Stage.finishes (h : Stage r s)
    (hopens : ∀ d, reveal fh pedersenHash r.sessionId d r.stored r.params = .ok (r.game d)) :
    Finishes fh pedersenHash r s := by
  cases h with
  | playing hreq hstored hdeployed =>
      obtain ⟨d, hd⟩ := Option.isSome_iff_exists.mp hdeployed
      have hs : CoinFlip.step fh pedersenHash s (.readDeployment r.playId)
          = some (s.goOn r.playId (.revealing r.sessionId r.params d)) := by
        simp only [CoinFlip.step, hreq, hd]
      exact .move (by simp [Reveal.moves]) hs
        (finishes_of_revealing (Function.update_self ..) hstored (hopens d))
  | revealing d hreq hstored => exact finishes_of_revealing hreq hstored (hopens d)
  | checking d hreq => exact finishes_of_checking hreq (hopens d)
  | started hreq haccepted => exact finishes_of_accepted haccepted

/-- On the session id there are the commit and the play. -/
theorem PlaysAlone.eq_of_session {before between after : List Event}
    (h : PlaysAlone fh pedersenHash r before between after)
    (he : e ∈ before ++ r.store :: between ++ r.play :: after)
    (hsession : e.session = some r.sessionId) : e = r.store ∨ e = r.play := by
  have hother : e ∉ before ++ between ++ after := fun hmem => h.others e hmem hsession
  simp only [List.mem_append, List.mem_cons, not_or] at he hother
  tauto

/-- A reveal opens its own commitment exactly when the commitment is the text of the hash. -/
theorem reveal_stored_iff {nonce : Felt} (hbet : r.params.bet ≤ 1)
    (hnonce : fh.fromHex r.params.nonce = .ok nonce) (d : CoinFlipDeployment) :
    reveal fh pedersenHash r.sessionId d r.stored r.params = .ok (r.game d) ↔
      r.commitment = fmtFelt (pedersenHash (Felt.ofNat r.params.bet.toNat) nonce) := by
  have hclamped : r.params.clampedBet = r.params.bet := if_pos hbet
  rw [reveal_eq_ok, hclamped]
  constructor
  · rintro ⟨-, ⟨nonce', hnonce', hopens⟩, -⟩
    obtain rfl := Except.ok.inj (hnonce.symm.trans hnonce')
    exact hopens.symm
  · exact fun htext => ⟨rfl, ⟨nonce, hnonce, htext.symm⟩, rfl⟩

/-- **When an honest reveal is accepted**: the commitment is the text that the server writes for
the hash of the bet and the nonce, lower-case and with no leading zero. -/
theorem acceptsReveal_iff {before between after : List Event}
    (hrun : Run (CoinFlip.step fh pedersenHash) .new
      (before ++ r.store :: between ++ r.play :: after) s)
    (halone : PlaysAlone fh pedersenHash r before between after) {nonce : Felt}
    (hbet : r.params.bet ≤ 1) (hnonce : fh.fromHex r.params.nonce = .ok nonce) :
    AcceptsReveal fh pedersenHash r s ↔
      r.commitment = fmtFelt (pedersenHash (Felt.ofNat r.params.bet.toNat) nonce) := by
  constructor
  · rintro ⟨-, es, s', hmoves, hrun', -, d, hgame⟩
    obtain ⟨rid, params, hplay, hopens⟩ := (run_box (hrun.trans hrun')).1.revealed hgame
    -- The play that opened the commitment of the game is the one play on the session id.
    obtain rfl : params = r.params := by
      rcases List.mem_append.mp hplay with hplay | hplay
      · rcases halone.eq_of_session hplay rfl with h | h
        · cases h
        · exact (Event.play.inj h).2.2
      · have hmove := hmoves _ hplay
        simp [Reveal.moves] at hmove
    exact (reveal_stored_iff hbet hnonce d).mp hopens
  · intro htext
    have hopens : ∀ d, reveal fh pedersenHash r.sessionId d r.stored r.params = .ok (r.game d) :=
      fun d => (reveal_stored_iff hbet hnonce d).mpr htext
    have hunderWay := underWay_of_run hrun halone hopens
    exact ⟨hunderWay.answered, hunderWay.stage.finishes hopens⟩

end Runs

/-! ### Two spellings -/

/-- A commit and a play of the bet `1`, with a spelling of the commitment. -/
def sampleReveal (commitment : String) : Reveal where
  commitId := 1
  commitment := commitment
  blockNumber := 10
  sessionId := "session"
  playId := 3
  params := samplePlay

/-- A deploy, and the commit. -/
def sampleBefore (commitment : String) : List Event := [
  .deploy 0, .commit 1 ⟨commitment, "0x123"⟩, .checkDeployed 0,
  .deployEnds 0 (.ok ⟨"0x5", "0x6", 3⟩)]

/-- A commit on another session id. -/
def sampleBetween : List Event := [
  .commit 2 ⟨"0x1", "0x9"⟩, .blockNumber 2 (.ok 11) "other"]

/-- A play on the other session id takes its commitment while the play goes on. -/
def sampleAfter : List Event := [
  .play 4 "other" samplePlay, .readDeployment 4, .readDeployment 3, .removeCommitment 4,
  .removeCommitment 3, .checkReveal 3]

/-- All of it. -/
def sampleRun (commitment : String) : List Event :=
  sampleBefore commitment ++ (sampleReveal commitment).store :: sampleBetween
    ++ (sampleReveal commitment).play :: sampleAfter

theorem playsAlone_sample (commitment : String) :
    PlaysAlone sampleHex samplePedersen (sampleReveal commitment) (sampleBefore commitment)
      sampleBetween sampleAfter where
  committed := by simp [sampleBefore, sampleReveal, Reveal.request, samplePlay]
  deployed := ⟨_, Run.of_runEvents rfl, rfl⟩
  waits := by simp [sampleAfter]
  others := by
    simp [sampleBefore, sampleBetween, sampleAfter, Event.session, sampleReveal]

theorem acceptsReveal_iff_sample :
    ∃ s, Run (step sampleHex samplePedersen) .new (sampleRun "0x100000a") s ∧
      AcceptsReveal sampleHex samplePedersen (sampleReveal "0x100000a") s := by
  have hsome : (runEvents (step sampleHex samplePedersen) .new (sampleRun "0x100000a")).isSome := by
    decide +kernel
  obtain ⟨s, hs⟩ := Option.isSome_iff_exists.mp hsome
  have hrun := Run.of_runEvents hs
  have hnonce : sampleHex.fromHex samplePlay.nonce = .ok 7 := by decide +kernel
  have htext : "0x100000a" = fmtFelt (samplePedersen (Felt.ofNat samplePlay.bet.toNat) 7) := by
    decide +kernel
  exact ⟨s, hrun, (acceptsReveal_iff hrun (playsAlone_sample _) (by decide) hnonce).mpr htext⟩

/-- The same commitment with a zero in front is another text, and the play is refused. -/
theorem not_acceptsReveal_padded :
    sampleHex.fromHex "0x0100000a" = .ok (samplePedersen (Felt.ofNat samplePlay.bet.toNat) 7) ∧
      sampleHex.fromHex samplePlay.nonce = .ok 7 ∧ samplePlay.bet ≤ 1 ∧
      PlaysAlone sampleHex samplePedersen (sampleReveal "0x0100000a") (sampleBefore "0x0100000a")
        sampleBetween sampleAfter ∧
      ∃ s, Run (step sampleHex samplePedersen) .new (sampleRun "0x0100000a") s ∧
        ¬ AcceptsReveal sampleHex samplePedersen (sampleReveal "0x0100000a") s := by
  refine ⟨by decide +kernel, by decide +kernel, by decide, playsAlone_sample _, ?_⟩
  have hanswers : (runEvents (step sampleHex samplePedersen) .new (sampleRun "0x0100000a")).map
      (fun s => s.answers.any fun answer => answer.1 == 3 && answer.2 != .stream) = some true := by
    decide +kernel
  obtain ⟨s, hs, hany⟩ := Option.map_eq_some_iff.mp hanswers
  refine ⟨s, Run.of_runEvents hs, fun h => ?_⟩
  obtain ⟨⟨id, answer⟩, hmem, hrefused⟩ := List.any_eq_true.mp hany
  obtain ⟨hid, hne⟩ := Bool.and_eq_true_iff.mp hrefused
  obtain rfl : id = 3 := eq_of_beq hid
  exact absurd (h.1 answer hmem) (by simpa using hne)

end Snip36.CoinFlip

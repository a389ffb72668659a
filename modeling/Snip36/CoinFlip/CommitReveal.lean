import Snip36.CoinFlip.Server

/-!
# CoinFlip — commit and reveal

The commitments of the server are a box of values that are used once: a commit puts one in, a play
takes it out, and the reveal uses it for a game or throws it away (`step_box`).  With fresh session
ids, a commitment starts at most one game, and the game has the player and the seed that its commit
recorded (`commitReveal_safe`).
-/

namespace Snip36.CoinFlip
open Support Signing

variable {fh : FeltHex} {pedersenHash : Felt → Felt → Felt}

/-! ### An accepted reveal -/

/-- The text of a commitment to a bet. -/
def commitmentText (pedersenHash : Felt → Felt → Felt) (bet : BitVec 8) (nonce : Felt) : String :=
  fmtFelt (pedersenHash (Felt.ofNat bet.toNat) nonce)

/-- **An accepted reveal** opens the commitment, and the game has what the commitment recorded. -/
theorem reveal_eq_ok {sessionId : String} {deployment : CoinFlipDeployment}
    {commitment : BetCommitment} {params : PlayQuery} {game : Game} :
    reveal fh pedersenHash sessionId deployment commitment params = .ok game ↔
      params.player = commitment.player ∧
      (∃ nonce, fh.fromHex params.nonce = .ok nonce ∧
        commitmentText pedersenHash params.clampedBet nonce = commitment.commitment) ∧
      game = ⟨sessionId, deployment, params.player, params.clampedBet, commitment.seedBlock⟩ := by
  rw [reveal, check_bind_eq_ok, failIf_eq_ok, not_not]
  refine and_congr_right fun _ => ?_
  rw [bind_eq_ok]
  constructor
  · rintro ⟨nonce, hnonce, h⟩
    rw [check_bind_eq_ok, failIf_eq_ok, not_not, pure_eq_ok] at h
    exact ⟨⟨nonce, feltFromHex_eq_ok.mp (mapError_eq_ok.mp hnonce), h.1⟩, h.2.symm⟩
  · rintro ⟨⟨nonce, hnonce, hopens⟩, rfl⟩
    refine ⟨nonce, mapError_eq_ok.mpr (feltFromHex_eq_ok.mpr hnonce), ?_⟩
    rw [check_bind_eq_ok, failIf_eq_ok, not_not, pure_eq_ok]
    exact ⟨hopens, rfl⟩

theorem PlayQuery.clampedBet_eq (params : PlayQuery) :
    params.clampedBet = 0 ∨ params.clampedBet = 1 := by
  rw [PlayQuery.clampedBet]
  split
  · next h =>
      have hle : params.bet.toNat ≤ 1 := h
      rcases Nat.le_one_iff_eq_zero_or_eq_one.mp hle with h0 | h1
      · exact .inl (BitVec.eq_of_toNat_eq h0)
      · exact .inr (BitVec.eq_of_toNat_eq h1)
  · exact .inr rfl

/-! ### Commitments are used once -/

/-- The commitment that a request holds. -/
def Request.held : Request → Option (String × BetCommitment)
  | .checking sessionId _ _ c => some (sessionId, c)
  | _ => none

/-- The commitments that some requests hold. -/
def heldBy (requests : ℕ → Option Request) (rid : ℕ) : Option (String × BetCommitment) :=
  (requests rid).bind Request.held

/-- The box of the commitments: the stored ones, those of the requests, those of the games. -/
def Server.box (s : Server) : Box String ℕ BetCommitment where
  stored := s.commitments
  held := heldBy s.requests
  used := s.games.map fun cg => (cg.2.sessionId, cg.1)

theorem heldBy_update {requests : ℕ → Option Request} {rid : ℕ} {r : Option Request} :
    heldBy (Function.update requests rid r)
      = Function.update (heldBy requests) rid (r.bind Request.held) := by
  funext i
  by_cases h : i = rid
  · subst h
    simp [heldBy]
  · simp [heldBy, h]

/-- A request that holds nothing before and after leaves the holders alone. -/
theorem heldBy_update_of_none {requests : ℕ → Option Request} {rid : ℕ} {r : Option Request}
    (h : heldBy requests rid = none) (h' : r.bind Request.held = none) :
    heldBy (Function.update requests rid r) = heldBy requests := by
  rw [heldBy_update, h', ← h]
  exact Function.update_eq_self rid _

theorem heldBy_of_eq {requests : ℕ → Option Request} {rid : ℕ} {r : Request}
    (h : requests rid = some r) : heldBy requests rid = r.held := by
  rw [heldBy, h, Option.bind_some]

/-- A request that waits holds nothing. -/
theorem held_of_waits {r : Request} (h : r.waits = true) : r.held = none := by
  cases r with
  | checking => cases h
  | _ => rfl

/-- The session id under which a commit stores. -/
def storedId : Event → Option String
  | .blockNumber _ (.ok _) sessionId => some sessionId
  | _ => none

/-- A request that comes in does not touch the box. -/
theorem box_arrive {s s' : Server} {rid : ℕ} {r : Request}
    (hidle : ∀ i, s.nextId ≤ i → s.requests i = none) (hr : r.held = none)
    (hs : s.arrive rid r = some s') : s'.box = s.box := by
  obtain ⟨h, rfl⟩ := arrive_eq_some hs
  have hnone : heldBy s.requests rid = none := by rw [heldBy, hidle rid h.ge, Option.bind_none]
  simp only [Server.box]
  rw [heldBy_update_of_none (r := some r) hnone hr]

/-- A request that holds nothing and goes on, holding nothing. -/
theorem box_goOn {s : Server} {rid : ℕ} {r r' : Request} (h : s.requests rid = some r)
    (hr : r.held = none) (hr' : r'.held = none) : (s.goOn rid r').box = s.box := by
  have hnone : heldBy s.requests rid = none := (heldBy_of_eq h).trans hr
  simp only [Server.box, Server.goOn]
  rw [heldBy_update_of_none (r := some r') hnone hr']

/-- A request that holds nothing and is answered. -/
theorem box_answer {s : Server} {rid : ℕ} {r : Request} {a : Answer}
    (h : s.requests rid = some r) (hr : r.held = none) : (s.answer rid a).box = s.box := by
  have hnone : heldBy s.requests rid = none := (heldBy_of_eq h).trans hr
  simp only [Server.box, Server.answer]
  rw [heldBy_update_of_none (r := none) hnone rfl]

/-- What a step does to the box: a commit puts, a play takes, a reveal uses or drops, and all
other steps leave it alone. -/
theorem step_box {s s' : Server} {e : Event} (hidle : ∀ i, s.nextId ≤ i → s.requests i = none)
    (hs : step fh pedersenHash s e = some s') :
    ∃ bes, Run Box.step s.box bes s'.box ∧ bes.filterMap Box.putKey = (storedId e).toList ∧
      ∀ k c, .put k c ∈ bes → ∃ rid req n, s.requests rid = some (.committing req) ∧
        e = .blockNumber rid (.ok n) k ∧ c = betCommitment req n := by
  -- All steps but four are of this kind.
  have hquiet : s'.box = s.box → storedId e = none →
      ∃ bes, Run Box.step s.box bes s'.box ∧ bes.filterMap Box.putKey = (storedId e).toList ∧
        ∀ k c, .put k c ∈ bes → ∃ rid req n, s.requests rid = some (.committing req) ∧
          e = .blockNumber rid (.ok n) k ∧ c = betCommitment req n := by
    intro hbox he
    exact ⟨[], hbox ▸ .nil, by rw [he]; rfl, fun k c h => absurd h List.not_mem_nil⟩
  cases step_moves hs with
  | commit h | play h | deploy h => exact hquiet (box_arrive hidle rfl h) rfl
  | @stores rid req n sessionId hreq =>
      have hnone : heldBy s.requests rid = none := heldBy_of_eq hreq
      refine ⟨[.put sessionId (betCommitment req n)], Run.one ?_, rfl, ?_⟩
      · simp only [Box.step, Server.box, Server.answer]
        rw [heldBy_update_of_none (r := none) hnone rfl]
      · intro k c h
        obtain ⟨rfl, rfl⟩ := BoxEvent.put.inj (List.mem_singleton.mp h)
        exact ⟨rid, req, n, hreq, rfl, rfl⟩
  | noNumber _ _ _ hreq | notDeployed _ hreq _ | notCommitted _ hreq _ | finds hreq _
  | deployFails _ hreq => exact hquiet (box_answer hreq rfl) rfl
  | deployed d hreq => exact hquiet (box_answer (s := { s with coinflip := some d }) hreq rfl) rfl
  | reads hreq _ | deploys hreq _ => exact hquiet (box_goOn hreq rfl rfl) rfl
  | @takes rid sessionId params d c hreq hc =>
      have hnone : heldBy s.requests rid = none := heldBy_of_eq hreq
      refine ⟨[.take rid sessionId], Run.one ?_, rfl, ?_⟩
      · simp only [Box.step, Server.box, Server.goOn]
        rw [hc, hnone, heldBy_update]
        rfl
      · intro k c h
        cases List.mem_singleton.mp h
  | @starts rid sessionId params d c game hreq hgame =>
      have hheld : heldBy s.requests rid = some (sessionId, c) := heldBy_of_eq hreq
      obtain ⟨-, -, rfl⟩ := reveal_eq_ok.mp hgame
      refine ⟨[.use rid], Run.one ?_, rfl, ?_⟩
      · simp only [Box.step, Server.box, Server.answer]
        rw [hheld, heldBy_update, List.map_append]
        rfl
      · intro k c h
        cases List.mem_singleton.mp h
  | @refuses rid sessionId params d c response hreq _ =>
      have hheld : heldBy s.requests rid = some (sessionId, c) := heldBy_of_eq hreq
      refine ⟨[.drop rid], Run.one ?_, rfl, ?_⟩
      · simp only [Box.step, Server.box, Server.answer]
        rw [hheld, heldBy_update]
        rfl
      · intro k c h
        cases List.mem_singleton.mp h
  | @cancels rid r hreq hwaits =>
      have hnone : heldBy s.requests rid = none :=
        (heldBy_of_eq hreq).trans (held_of_waits hwaits)
      refine hquiet ?_ rfl
      simp only [Server.box, Server.dropRequest]
      rw [heldBy_update_of_none (r := none) hnone rfl]

/-! ### Where requests and games come from -/

/-- The event that a request came in with. -/
def Request.origin (rid : ℕ) : Request → Event
  | .committing req => .commit rid req
  | .playing sessionId params | .revealing sessionId params _ | .checking sessionId params _ _ =>
      .play rid sessionId params
  | .deploy | .deploying => .deploy rid

/-- Every request after `e` was there before, or came in with `e`. -/
def Follows (s : Server) (e : Event) (s' : Server) : Prop :=
  s.nextId ≤ s'.nextId ∧ ∀ i r, s'.requests i = some r →
    (i < s'.nextId ∧ e = r.origin i) ∨ ∃ r₀, s.requests i = some r₀ ∧ r₀.origin i = r.origin i

theorem follows_arrive {s s' : Server} {rid : ℕ} {r : Request} (hs : s.arrive rid r = some s') :
    Follows s (r.origin rid) s' := by
  obtain ⟨h, rfl⟩ := arrive_eq_some hs
  refine ⟨h.symm.le.trans (Nat.le_succ rid), fun i r' h' => ?_⟩
  rcases update_some_eq_some.mp h' with ⟨rfl, rfl⟩ | ⟨-, h'⟩
  · exact .inl ⟨Nat.lt_succ_self i, rfl⟩
  · exact .inr ⟨r', h', rfl⟩

theorem follows_goOn {s : Server} {rid : ℕ} {r r' : Request} {e : Event}
    (h : s.requests rid = some r) (hr : r.origin rid = r'.origin rid) :
    Follows s e (s.goOn rid r') := by
  refine ⟨le_rfl, fun i r'' h'' => .inr ?_⟩
  rcases update_some_eq_some.mp h'' with ⟨rfl, rfl⟩ | ⟨-, h''⟩
  · exact ⟨r, h, hr⟩
  · exact ⟨r'', h'', rfl⟩

theorem follows_ends {s s' : Server} {rid : ℕ} {e : Event} (hn : s'.nextId = s.nextId)
    (hr : s'.requests = Function.update s.requests rid none) : Follows s e s' := by
  refine ⟨hn.ge, fun i r h => .inr ⟨r, ?_, rfl⟩⟩
  rw [hr] at h
  exact (update_none_eq_some.mp h).2

theorem step_follows {s s' : Server} {e : Event} (hs : step fh pedersenHash s e = some s') :
    Follows s e s' := by
  cases step_moves hs with
  | commit h | play h | deploy h => exact follows_arrive h
  | reads hreq _ | takes hreq _ | deploys hreq _ => exact follows_goOn hreq rfl
  | stores | noNumber | notDeployed | notCommitted | starts | refuses | finds | deployed
  | deployFails | cancels => exact follows_ends rfl rfl

/-- **Only an accepted reveal starts a game.** -/
theorem step_games {s s' : Server} {e : Event} (hs : step fh pedersenHash s e = some s') :
    s'.games = s.games ∨ ∃ rid sessionId params d c game,
      s.requests rid = some (.checking sessionId params d c) ∧
        reveal fh pedersenHash sessionId d c params = .ok game ∧
        s'.games = s.games ++ [(c, game)] := by
  cases step_moves hs with
  | commit h | play h | deploy h =>
      obtain ⟨-, rfl⟩ := arrive_eq_some h
      exact .inl rfl
  | @starts rid sessionId params d c game hreq hgame =>
      exact .inr ⟨rid, sessionId, params, d, c, game, hreq, hgame, rfl⟩
  | stores | noNumber | reads | notDeployed | takes | notCommitted | refuses | finds | deploys
  | deployed | deployFails | cancels => exact .inl rfl

/-- Ids at or after the next one are unused, requests came in, and games were revealed. -/
structure Traced (fh : FeltHex) (pedersenHash : Felt → Felt → Felt) (es : List Event)
    (s : Server) : Prop where
  idle : ∀ i, s.nextId ≤ i → s.requests i = none
  origin : ∀ {i r}, s.requests i = some r → r.origin i ∈ es
  revealed : ∀ {c game}, (c, game) ∈ s.games →
    ∃ rid params, .play rid game.sessionId params ∈ es ∧
      reveal fh pedersenHash game.sessionId game.deployment c params = .ok game

theorem traced_new : Traced fh pedersenHash [] .new where
  idle _ _ := rfl
  origin h := absurd h (Option.some_ne_none _).symm
  revealed h := absurd h List.not_mem_nil

theorem Traced.step {es : List Event} {s s' : Server} {e : Event}
    (h : Traced fh pedersenHash es s) (hs : CoinFlip.step fh pedersenHash s e = some s') :
    Traced fh pedersenHash (es ++ [e]) s' := by
  obtain ⟨hnext, hfollows⟩ := step_follows hs
  have hold : ∀ {e'}, e' ∈ es → e' ∈ es ++ [e] := List.mem_append_left _
  constructor
  · intro i hi
    by_contra hne
    obtain ⟨r, hr⟩ := Option.ne_none_iff_exists'.mp hne
    rcases hfollows i r hr with ⟨hlt, -⟩ | ⟨r₀, hr₀, -⟩
    · omega
    · rw [h.idle i (hnext.trans hi)] at hr₀
      cases hr₀
  · intro i r hr
    rcases hfollows i r hr with ⟨-, rfl⟩ | ⟨r₀, hr₀, heq⟩
    · exact List.mem_append_right _ (List.mem_singleton_self _)
    · exact hold (heq ▸ h.origin hr₀)
  · intro c game hmem
    have hbefore : (c, game) ∈ s.games → ∃ rid params,
        Event.play rid game.sessionId params ∈ es ++ [e] ∧
          reveal fh pedersenHash game.sessionId game.deployment c params = .ok game := by
      intro hmem
      obtain ⟨rid, params, hplay, hgame⟩ := h.revealed hmem
      exact ⟨rid, params, hold hplay, hgame⟩
    rcases step_games hs with heq | ⟨rid, sessionId, params, d, c', game', hreq, hgame, heq⟩
    · exact hbefore (heq ▸ hmem)
    · rw [heq] at hmem
      rcases List.mem_append.mp hmem with hmem | hmem
      · exact hbefore hmem
      · obtain ⟨rfl, rfl⟩ := Prod.mk.inj (List.mem_singleton.mp hmem)
        obtain ⟨-, -, rfl⟩ := reveal_eq_ok.mp hgame
        exact ⟨rid, params, hold (h.origin hreq), hgame⟩

/-! ### Runs -/

/-- **The server refines the box**: a run of the server is a run of the box, whose puts are the
commits, under their session ids and with what they recorded. -/
theorem run_box {es : List Event} {s : Server} (hrun : Run (step fh pedersenHash) .new es s) :
    Traced fh pedersenHash es s ∧
      ∃ bes, Run Box.step Box.empty bes s.box ∧
        bes.filterMap Box.putKey = es.filterMap storedId ∧
        ∀ k c, .put k c ∈ bes → ∃ rid req n, .commit rid req ∈ es ∧
          .blockNumber rid (.ok n) k ∈ es ∧ c = betCommitment req n := by
  refine hrun.history_induction
    (P := fun es s => Traced fh pedersenHash es s ∧
      ∃ bes, Run Box.step Box.empty bes s.box ∧
        bes.filterMap Box.putKey = es.filterMap storedId ∧
        ∀ k c, .put k c ∈ bes → ∃ rid req n, .commit rid req ∈ es ∧
          .blockNumber rid (.ok n) k ∈ es ∧ c = betCommitment req n)
    ⟨traced_new, [], .nil, rfl, fun k c h => absurd h List.not_mem_nil⟩ ?_
  rintro es s e s' ⟨htraced, bes, hbox, hkeys, hputs⟩ hs
  obtain ⟨bes', hbox', hkeys', hputs'⟩ := step_box htraced.idle hs
  have hold : ∀ {e'}, e' ∈ es → e' ∈ es ++ [e] := List.mem_append_left _
  refine ⟨htraced.step hs, bes ++ bes', hbox.trans hbox', ?_, ?_⟩
  · rw [List.filterMap_append, List.filterMap_append, hkeys, hkeys']
    cases h : storedId e <;> simp [h]
  · intro k c hmem
    rcases List.mem_append.mp hmem with hmem | hmem
    · obtain ⟨rid, req, n, hcommit, hstored, hc⟩ := hputs k c hmem
      exact ⟨rid, req, n, hold hcommit, hold hstored, hc⟩
    · obtain ⟨rid, req, n, hreq, rfl, hc⟩ := hputs' k c hmem
      exact ⟨rid, req, n, hold (htraced.origin hreq),
        List.mem_append_right _ (List.mem_singleton_self _), hc⟩

/-- The bets and nonces that the plays of a run reveal. -/
def openings (fh : FeltHex) (es : List Event) : Set (BitVec 8 × Felt) :=
  {o | ∃ rid sessionId params, .play rid sessionId params ∈ es ∧
    o.1 = params.clampedBet ∧ fh.fromHex params.nonce = .ok o.2}

/-- What the game started from a commitment owes to the requests. -/
structure KeepsCommit (fh : FeltHex) (pedersenHash : Felt → Felt → Felt) (es : List Event)
    (c : BetCommitment) (game : Game) : Prop where
  /-- The commitment is the one stored for a commit under the session id of the game. -/
  committed : ∃ rid req n, .commit rid req ∈ es ∧ .blockNumber rid (.ok n) game.sessionId ∈ es ∧
    c = betCommitment req n
  player : game.player = c.player
  seedBlock : game.seedBlock = c.seedBlock
  /-- No other block number was stored under the session id. -/
  seed_fixed : ∀ rid n, .blockNumber rid (.ok n) game.sessionId ∈ es →
    game.seedBlock = saturatingPred n
  bet : game.bet = 0 ∨ game.bet = 1
  /-- A play revealed the bet of the game. -/
  opened : ∃ rid params nonce, .play rid game.sessionId params ∈ es ∧
    game.bet = params.clampedBet ∧ fh.fromHex params.nonce = .ok nonce ∧
    commitmentText pedersenHash game.bet nonce = c.commitment

theorem keepsCommit_of_run {es : List Event} {s : Server}
    (hrun : Run (step fh pedersenHash) .new es s) (hfresh : (es.filterMap storedId).Nodup)
    {c : BetCommitment} {game : Game} (hmem : (c, game) ∈ s.games) :
    KeepsCommit fh pedersenHash es c game := by
  obtain ⟨htraced, bes, hbox, hkeys, hputs⟩ := run_box hrun
  have honce := Box.run_once hbox (hkeys ▸ hfresh)
  have hused : (game.sessionId, c) ∈ s.box.used := List.mem_map.mpr ⟨(c, game), hmem, rfl⟩
  obtain ⟨rid, req, n, hcommit, hstored, hc⟩ := hputs _ _ (honce.put_of_used hused)
  obtain ⟨rid', params, hplay, hgame⟩ := htraced.revealed hmem
  obtain ⟨hplayer, ⟨nonce, hnonce, hopens⟩, heq⟩ := reveal_eq_ok.mp hgame
  have hseed : game.seedBlock = c.seedBlock := congrArg Game.seedBlock heq
  have hbet : game.bet = params.clampedBet := congrArg Game.bet heq
  exact {
    committed := ⟨rid, req, n, hcommit, hstored, hc⟩
    player := (congrArg Game.player heq).trans hplayer
    seedBlock := hseed
    seed_fixed := by
      intro rid'' n' hstored'
      have hsame := eq_of_filterMap_nodup hfresh hstored hstored' rfl rfl
      obtain ⟨-, hn⟩ : rid = rid'' ∧ n = n' := by simpa using hsame
      rw [hseed, hc, ← hn]
      rfl
    bet := hbet ▸ params.clampedBet_eq
    opened := ⟨rid', params, nonce, hplay, hbet, hnonce, hbet ▸ hopens⟩ }

/-- **Commit and reveal is safe.**  With fresh session ids, every commitment starts at most one
game, and every game keeps its commit.  Where Pedersen does not collide on what the plays reveal,
two accepted reveals of one commitment have the same bet. -/
theorem commitReveal_safe {es : List Event} {s : Server}
    (hrun : Run (step fh pedersenHash) .new es s) (hfresh : (es.filterMap storedId).Nodup) :
    (s.games.map fun cg => cg.2.sessionId).Nodup ∧
      (∀ c game, (c, game) ∈ s.games → KeepsCommit fh pedersenHash es c game) ∧
      (Set.InjOn (fun o => pedersenHash (Felt.ofNat o.1.toNat) o.2) (openings fh es) →
        ∀ rid sessionId params rid' sessionId' params',
          .play rid sessionId params ∈ es → .play rid' sessionId' params' ∈ es →
          ∀ c d d' game game', reveal fh pedersenHash sessionId d c params = .ok game →
            reveal fh pedersenHash sessionId' d' c params' = .ok game' → game.bet = game'.bet) := by
  refine ⟨?_, fun c game hmem => keepsCommit_of_run hrun hfresh hmem, ?_⟩
  · obtain ⟨-, bes, hbox, hkeys, -⟩ := run_box hrun
    have hnodup := (Box.run_once hbox (hkeys ▸ hfresh)).used_nodup
    rwa [Server.box, List.map_map] at hnodup
  · intro hinj rid sessionId params rid' sessionId' params' hplay hplay' c d d' game game' h h'
    obtain ⟨-, ⟨nonce, hnonce, hopens⟩, rfl⟩ := reveal_eq_ok.mp h
    obtain ⟨-, ⟨nonce', hnonce', hopens'⟩, rfl⟩ := reveal_eq_ok.mp h'
    have hhash := fmtFelt_injective (hopens.trans hopens'.symm)
    have hmem : (params.clampedBet, nonce) ∈ openings fh es :=
      ⟨rid, sessionId, params, hplay, rfl, hnonce⟩
    have hmem' : (params'.clampedBet, nonce') ∈ openings fh es :=
      ⟨rid', sessionId', params', hplay', rfl, hnonce'⟩
    exact (Prod.mk.inj (hinj hmem hmem' hhash)).1

/-- A hash of two felts. -/
def samplePedersen (a b : Felt) : Felt := a * 0x1000003 + b

/-- A reveal of the bet `1`. -/
def samplePlay : PlayQuery where
  player := "0x123"
  bet := 1
  nonce := "0x7"

/-- A deploy, a commit and two plays of one session: the second takes the commitment. -/
def sampleEvents : List Event := [
  .deploy 0, .commit 1 ⟨commitmentText samplePedersen 1 7, "0x123"⟩, .checkDeployed 0,
  .deployEnds 0 (.ok ⟨"0x5", "0x6", 3⟩), .blockNumber 1 (.ok 10) "session",
  .play 2 "session" samplePlay, .play 3 "session" samplePlay, .readDeployment 2, .readDeployment 3,
  .removeCommitment 3, .removeCommitment 2, .checkReveal 3]

theorem commitReveal_safe_sample :
    ∃ s, Run (step sampleHex samplePedersen) .new sampleEvents s ∧ s.games.length = 1 ∧
      (∀ c game, (c, game) ∈ s.games →
        KeepsCommit sampleHex samplePedersen sampleEvents c game) ∧
      ∀ c d d' game game', reveal sampleHex samplePedersen "session" d c samplePlay = .ok game →
        reveal sampleHex samplePedersen "session" d' c samplePlay = .ok game' →
        game.bet = game'.bet := by
  have hlen : (runEvents (step sampleHex samplePedersen) .new sampleEvents).map
      (fun s => s.games.length) = some 1 := by decide +kernel
  obtain ⟨s, hs, hgames⟩ := Option.map_eq_some_iff.mp hlen
  have hrun := Run.of_runEvents hs
  have hfresh : (sampleEvents.filterMap storedId).Nodup := by decide
  obtain ⟨-, hkeeps, hbind⟩ := commitReveal_safe hrun hfresh
  have hinj : Set.InjOn (fun o => samplePedersen (Felt.ofNat o.1.toNat) o.2)
      (openings sampleHex sampleEvents) := by
    have hplay : ∀ {rid sessionId params}, .play rid sessionId params ∈ sampleEvents →
        params = samplePlay := by
      intro rid sessionId params h
      simp only [sampleEvents, List.mem_cons, Event.play.injEq, reduceCtorEq, false_or,
        List.not_mem_nil, or_false] at h
      rcases h with ⟨-, -, h⟩ | ⟨-, -, h⟩ <;> exact h
    rintro ⟨b, x⟩ ⟨_, _, _, hmem, hb, hx⟩ ⟨b', x'⟩ ⟨_, _, _, hmem', hb', hx'⟩ -
    rw [hplay hmem] at hb hx
    rw [hplay hmem'] at hb' hx'
    exact Prod.ext (hb.trans hb'.symm) (Except.ok.inj (hx.symm.trans hx'))
  exact ⟨s, hrun, hgames, hkeeps,
    hbind hinj 2 "session" samplePlay 3 "session" samplePlay (by simp [sampleEvents])
      (by simp [sampleEvents])⟩

end Snip36.CoinFlip

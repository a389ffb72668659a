import Snip36.CoinFlip.Flips
import Snip36.Streams.GamePage

/-!
# Streams — from a bet to its verdict

A flip that has opened its event source has a game on the server (`CoinFlip.Flips`), and the page
shows what comes on the stream of that game (`Streams.GamePage`).

`flip_verdict` puts the two together: in every run of the apps and their server, a result that the
page shows is that of a game with the player and the bet of the flip and with the seed that it was
told before it revealed the bet.  When the prover leaves the settlement of the game in the spelling
of the contract's felts, the page shows the outcome that the contract computes of that seed and
player, and that the flip is won exactly when the outcome is its bet.
-/

namespace Snip36.Streams
open Support Signing CoinFlip

section Verdicts

variable (fh : FeltHex) (pedersen : Felt → Felt → Felt) (serde : SerdeJson) (o : Outcomes)

/-- The prover left the settlement of the game, its felts as `{:#x}` writes them. -/
def LeavesSettlement (game : Game) : Prop :=
  ∃ payload, game.settlement fh pedersen = some payload ∧
    messageTexts serde o (messagesFile o game) = some (payload.map fmtFelt)

/-- A result of a player and a bet, on a seed, is the contract's. -/
def GameResult.IsContracts (result : GameResult) (player : String) (bet : Fin 2)
    (seedBlock : BitVec 64) : Prop :=
  ∃ p, fh.fromHex player = .ok p ∧
    result.outcome = outcomeLabel (Contract.outcome pedersen (.ofNat seedBlock.toNat) p) ∧
    (result.won = true ↔ Contract.outcome pedersen (.ofNat seedBlock.toNat) p = .ofNat bet.val)

end Verdicts

variable {fh : FeltHex} {pedersen : Felt → Felt → Felt} {sc : StarknetCrypto} {serde : SerdeJson}
  {o : Outcomes}

variable (fh) in
/-- A felt is written as `0x0` when it is zero, and as `0x1` when it is one. -/
theorem spelled_fmtFelt (felt : Felt) :
    (fh.fromHex (fmtFelt felt) = .ok 0 → fmtFelt felt = "0x0") ∧
      (fh.fromHex (fmtFelt felt) = .ok 1 → fmtFelt felt = "0x1") := by
  rw [fh.fromHex_fmtFelt]
  constructor
  · intro h
    obtain rfl := Except.ok.inj h
    rfl
  · intro h
    obtain rfl := Except.ok.inj h
    rfl

/-- **A settlement that the prover left is judged as the contract does.** -/
theorem settlementOf_leaves {game : Game} (h : LeavesSettlement fh pedersen serde o game) :
    ∃ p outcome won, fh.fromHex game.player = .ok p ∧
      settlementOf serde o (messagesFile o game) = some (outcome, won) ∧
      outcome = outcomeLabel (Contract.outcome pedersen (.ofNat game.seedBlock.toNat) p) ∧
      (won = true ↔
        Contract.outcome pedersen (.ofNat game.seedBlock.toNat) p = .ofNat game.bet.toNat) := by
  obtain ⟨payload, hpayload, htexts⟩ := h
  obtain ⟨p, hp, rfl⟩ := settlement_eq_some hpayload
  let outcome := Contract.outcome pedersen (.ofNat game.seedBlock.toNat) p
  let won : Felt := if outcome = .ofNat game.bet.toNat then 1 else 0
  have hlabel := (label_eq_iff (fh.fromHex_fmtFelt outcome)).mpr (spelled_fmtFelt fh _).1
  have hwon := (won_iff (fh.fromHex_fmtFelt won)).mpr (spelled_fmtFelt fh _).2
  refine ⟨p, _, _, hp, ?_, hlabel, hwon⟩
  rw [settlementOf_eq, htexts]
  rfl

/-- **A result that a page shows** is one that the task of its game has sent. -/
theorem shown_result {game : Game} {lines : Pipe → List Line} {room : ℕ}
    {parse : String → Option Json} {frame : String → Option String} {g : GameState}
    {es : List PageMove} {w : GamePage}
    (h : GamePage.Shows (Handler.playCoinflip game).reading
      ((Handler.playCoinflip game).job fh sc serde o lines) room parse frame g es w)
    {shown : Json} (hresult : w.page.result = some shown) :
    ∃ result : GameResult, (frame (serde.toString (result.json game))).bind parse = some shown ∧
      (result.outcome, result.won)
        = (settlementOf serde o (messagesFile o game)).getD ("", false) := by
  have hsource : w.source = false := by
    by_contra hsource
    rw [(h.plays (Bool.not_eq_false _ ▸ hsource)).2.1] at hresult
    cases hresult
  obtain ⟨-, -, hverdict⟩ := h.verdict hsource
  cases hverdict with
  | @result xs data text result hheard hall hframe hparse hpage _ _ =>
      obtain rfl := Option.some.inj (hpage.symm.trans hresult)
      have hmem : .send "result" data ∈ (playTask fh sc serde o game).events := by
        have hheard' : (.task, .send "result" data) ∈ w.heard :=
          hheard ▸ List.mem_append_right _ (List.mem_singleton_self _)
        have hevent := (h.inOrder .task).subset (Stream.mem_eventsOf.mpr hheard')
        have hjob := List.mem_of_mem_filter hevent
        rwa [Handler.job, Job.events_ofTask] at hjob
      obtain ⟨-, result, rfl, hsettled⟩ := result_of_mem hmem
      exact ⟨result, Option.bind_eq_some_iff.mpr ⟨text, hframe, hparse⟩, hsettled⟩
  | error _ _ _ hnone | lost _ hnone =>
      rw [hnone] at hresult
      cases hresult

theorem toNat_betByte (bet : Fin 2) : (betByte bet).toNat = bet.val := by
  fin_cases bet <;> rfl

/-- A result of a game on which a settlement was left. -/
theorem GameResult.isContracts {game : Game} {result : GameResult} {bet : Fin 2}
    (hbet : game.bet = betByte bet)
    (hresult : (result.outcome, result.won)
      = (settlementOf serde o (messagesFile o game)).getD ("", false))
    (hleft : LeavesSettlement fh pedersen serde o game) :
    result.IsContracts fh pedersen game.player bet game.seedBlock := by
  obtain ⟨p, outcome, won, hp, hsettled, houtcome, hwon⟩ := settlementOf_leaves hleft
  rw [hsettled, Option.getD_some] at hresult
  obtain ⟨rfl, rfl⟩ := Prod.mk.inj hresult
  rw [hbet, toNat_betByte] at hwon
  exact ⟨p, hp, houtcome, hwon⟩

/-- **The verdict of a flip.**  In every run of the apps and their server, with fresh and secret
session ids, a flip that has opened its event source has a game; and in every run of a stream of
the game and of the page, a result that the page shows is that of the bet, player and seed of the
flip, the seed being the one that the flip was told.  When the prover leaves the settlement it is
the contract's. -/
theorem flip_verdict {computePedersenHash : String → String → String}
    (hdoc : Documented fh pedersen computePedersenHash) {aes : List AppEvent} {s : Apps}
    (hrun : Run (Apps.step fh pedersen computePedersenHash) .new aes s) (hfresh : FreshIds aes)
    (hsecret : Secret aes s) {i : ℕ} {flip : Flip} (hflip : s.flips i = some flip)
    {nonceBytes : List UInt8} {sessionId : String} {playId : ℕ}
    (hphase : flip.phase = .opened nonceBytes sessionId playId) :
    (∃ c game, (c, game) ∈ s.server.games ∧ game.sessionId = sessionId) ∧
    ∃ rid n, s.Told i rid sessionId n ∧
      ∀ c game, (c, game) ∈ s.server.games → game.sessionId = sessionId →
      ∀ (sc : StarknetCrypto) (serde : SerdeJson) (o : Outcomes) (lines : Pipe → List Line)
        (room : ℕ) (parse : String → Option Json) (frame : String → Option String) (g : GameState)
        (logs : List String) (es : List PageMove) (w : GamePage) (shown : Json), 0 < room →
        Run (GamePage.step (Handler.playCoinflip game).reading
            ((Handler.playCoinflip game).job fh sc serde o lines) room parse frame)
          (.start ((Handler.playCoinflip game).job fh sc serde o lines) (g.opened logs)) es w →
        w.page.result = some shown →
        game.player = flip.address ∧ game.bet = betByte flip.bet ∧
          game.seedBlock = saturatingPred n ∧
          ∃ result : GameResult,
            (frame (serde.toString (result.json game))).bind parse = some shown ∧
            (LeavesSettlement fh pedersen serde o game →
              result.IsContracts fh pedersen flip.address flip.bet (saturatingPred n)) := by
  have h := Apps.sound_of_run hdoc hrun hfresh hsecret
  have hsound := h.flips i flip hflip
  rw [Flip.Sound, hphase] at hsound
  obtain ⟨-, -, rid, n, htold, -, d, hopened⟩ := hsound
  refine ⟨⟨_, _, hopened, rfl⟩, rid, n, htold, ?_⟩
  rintro c game hgame rfl sc serde o lines room parse frame g logs es w shown hroom hpage hresult
  obtain ⟨flip', hflip', hplayer, hbet, hseed⟩ := h.game hfresh hsecret htold hgame
  obtain rfl := Option.some.inj (hflip.symm.trans hflip')
  have hshows := GamePage.shows ((Handler.playCoinflip game).closes lines) hroom hpage
  obtain ⟨result, hparse, hsettled⟩ := shown_result hshows hresult
  refine ⟨hplayer, hbet, hseed, result, hparse, fun hleft => ?_⟩
  have hcontracts := GameResult.isContracts hbet hsettled hleft
  rwa [hplayer, hseed] at hcontracts

/-! ### A flip that is won -/

/-- The outcomes of the sample game, with its settlement. -/
def wonOutcomes : Outcomes := sampleOutcomes (some (sampleMessages "0x1").compact)

def wonJob : Job :=
  (Handler.playCoinflip sampleGame).job sampleHex sampleCrypto (sampleSerde "0x1") wonOutcomes
    fun _ => []

def wonResult : Json := GameResult.json sampleGame ⟨"tails", true,
  "0x4e989f999bed52646a2eb505890b442de44b130f07a1f86489d9336476d990a", 4⟩

def wonParse (text : String) : Option Json :=
  if text = wonResult.compact then some wonResult else none

/-- All the events come to the page. -/
def wonMoves : List PageMove :=
  (List.replicate 5 sampleTold).flatten ++ [.server .spawns, .server .exits, .server .awaited]
    ++ (List.replicate 9 sampleTold).flatten

/-- The first flip has its event source, on the sample game. -/
def playsSample (s : Apps) : Bool :=
  s.flips 0 = some { sampleTails with phase := .opened sampleNonce "session" 6 } &&
    s.server.games.any fun cg => cg.2 = sampleGame

theorem flip_verdict_twoFlips :
    ∃ s : Apps, Run (Apps.step sampleHex samplePedersen sampleComputePedersenHash) .new twoFlips s ∧
      ∃ w : GamePage, Run (GamePage.step (Handler.playCoinflip sampleGame).reading wonJob 1 wonParse
          sampleFrame) (.start wonJob (samplePage.opened [])) wonMoves w ∧
      ∃ shown, w.page.result = some shown ∧ ∃ rid n, s.Told 0 rid "session" n ∧
        ∃ result : GameResult,
          (sampleFrame (result.json sampleGame).compact).bind wonParse = some shown ∧
          result.IsContracts sampleHex samplePedersen "0x123" sampleTails.bet
            (saturatingPred n) := by
  have happs : (runEvents (Apps.step sampleHex samplePedersen sampleComputePedersenHash) .new
      twoFlips).map (fun s => othersSecret s && playsSample s) = some true := by
    decide +kernel
  obtain ⟨s, hs, hall⟩ := Option.map_eq_some_iff.mp happs
  obtain ⟨hothers, hplays⟩ := Bool.and_eq_true_iff.mp hall
  obtain ⟨hflip, hgames⟩ := Bool.and_eq_true_iff.mp hplays
  obtain ⟨⟨c, game⟩, hgame, heq⟩ := List.any_eq_true.mp hgames
  obtain rfl : game = sampleGame := of_decide_eq_true heq
  have hpage : (runEvents (GamePage.step (Handler.playCoinflip sampleGame).reading wonJob 1 wonParse
      sampleFrame) (.start wonJob (samplePage.opened [])) wonMoves).map
        (fun w => w.page.result.isSome) = some true := by
    decide +kernel
  obtain ⟨w, hw, hresult⟩ := Option.map_eq_some_iff.mp hpage
  obtain ⟨shown, hshown⟩ := Option.isSome_iff_exists.mp hresult
  have hleaves : LeavesSettlement sampleHex samplePedersen (sampleSerde "0x1") wonOutcomes
      sampleGame := ⟨_, settlement_sample, by decide +kernel⟩
  have hrun := Run.of_runEvents hs
  have hrunPage := Run.of_runEvents hw
  obtain ⟨-, rid, n, htold, hverdict⟩ := flip_verdict documented_sample hrun freshIds_twoFlips
    (secret_twoFlips hothers) (of_decide_eq_true hflip) rfl
  obtain ⟨-, -, -, result, hparse, hcontracts⟩ := hverdict c sampleGame hgame rfl sampleCrypto
    (sampleSerde "0x1") wonOutcomes _ 1 wonParse sampleFrame samplePage [] wonMoves w shown one_pos
    hrunPage hshown
  exact ⟨s, hrun, w, hrunPage, shown, hshown, rid, n, htold, result, hparse, hcontracts hleaves⟩

end Snip36.Streams

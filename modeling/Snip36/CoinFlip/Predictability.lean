import Snip36.CoinFlip.CommitReveal

/-!
# CoinFlip — who can predict a game

The contract computes the outcome from the seed and the player (`Contract.outcome`).  The seed is
the block before the one that the node reports when the commit is made, so a player who asks the
node first knows the outcome when betting.

`losesSome_iff` says which strategies lose a game at all: those that somewhere do not bet
`predictedBet`.
-/

namespace Snip36.CoinFlip
open Support Signing

/-! ### The contract -/

namespace Contract

/-- `SETTLEMENT_ADDRESS`. -/
def settlementAddress : Felt := 1

/-- The outcome that `play` computes. -/
def outcome (pedersen : Felt → Felt → Felt) (seed player : Felt) : Felt :=
  let hash := pedersen seed player
  let low := hash.val % 2 ^ 128
  if low % 2 = 0 then 0 else 1

/-- `CoinFlip::play`: the address and the payload of its message. -/
def play (pedersen : Felt → Felt → Felt) (seed player bet : Felt) : Felt × List Felt :=
  let outcome := outcome pedersen seed player
  let won : Felt := if outcome = bet then 1 else 0
  (settlementAddress, [player, seed, bet, outcome, won])

end Contract

/-! ### Games -/

section Games

variable (fh : FeltHex) (pedersenHash : Felt → Felt → Felt)

/-- The payload of the message of a game. -/
def Game.settlement (game : Game) : Option (List Felt) :=
  match game.calldataFelts fh with
  | .ok [_, _, _, _, seed, player, bet] => some (Contract.play pedersenHash seed player bet).2
  | _ => none

/-- A player commits a bet when the node reports the block `n`, and reveals it. -/
def honestEvents (rid : ℕ) (sessionId player : String) (n : BitVec 64) (bet : BitVec 8)
    (nonce : Felt) : List Event := [
  .commit rid ⟨commitmentText pedersenHash bet nonce, player⟩,
  .blockNumber rid (.ok n) sessionId,
  .play (rid + 1) sessionId ⟨player, bet, fmtFelt nonce⟩,
  .readDeployment (rid + 1),
  .removeCommitment (rid + 1),
  .checkReveal (rid + 1)]

/-- `won`, in the message of the game that an honest player starts. -/
def honestWon (s : Server) (sessionId player : String) (n : BitVec 64) (bet : BitVec 8)
    (nonce : Felt) : Option Felt := do
  let s' ← runEvents (step fh pedersenHash) s
    (honestEvents pedersenHash s.nextId sessionId player n bet nonce)
  let started ← s'.games[s.games.length]?
  let payload ← started.2.settlement fh pedersenHash
  payload[4]?

/-- A bet and a nonce from what is known before the commit: the player and the block number. -/
abbrev Strategy := String → BitVec 64 → Fin 2 × Felt

/-- The bet of a request. -/
def betByte (bet : Fin 2) : BitVec 8 := BitVec.ofNat 8 bet.val

/-- The strategy loses some game. -/
def LosesSome (s : Server) (sessionId : String) (strategy : Strategy) : Prop :=
  ∃ player n, honestWon fh pedersenHash s sessionId player n (betByte (strategy player n).1)
    (strategy player n).2 = some 0

end Games

variable {fh : FeltHex} {pedersenHash : Felt → Felt → Felt}

/-! ### Honest games -/

theorem clampedBet_betByte (player nonce : String) (bet : Fin 2) :
    (⟨player, betByte bet, nonce⟩ : PlayQuery).clampedBet = betByte bet := by
  fin_cases bet <;> rfl

variable (fh pedersenHash) in
/-- An honest run starts a game, with the committed bet and the block before `n`. -/
theorem games_honest {s : Server} {d : CoinFlipDeployment} (hd : s.coinflip = some d)
    (sessionId player : String) (n : BitVec 64) (bet : Fin 2) (nonce : Felt) :
    (runEvents (step fh pedersenHash) s
        (honestEvents pedersenHash s.nextId sessionId player n (betByte bet) nonce)).map Server.games
      = some (s.games ++ [(betCommitment ⟨commitmentText pedersenHash (betByte bet) nonce, player⟩ n,
          ⟨sessionId, d, player, betByte bet, saturatingPred n⟩)]) := by
  have hreveal : reveal fh pedersenHash sessionId d
      (betCommitment ⟨commitmentText pedersenHash (betByte bet) nonce, player⟩ n)
      ⟨player, betByte bet, fmtFelt nonce⟩
      = .ok ⟨sessionId, d, player, betByte bet, saturatingPred n⟩ := by
    rw [reveal_eq_ok, clampedBet_betByte]
    exact ⟨rfl, ⟨nonce, fh.fromHex_fmtFelt nonce, rfl⟩, rfl⟩
  simp only [honestEvents, runEvents, step, Server.arrive, Server.answer, Server.goOn, if_true,
    Option.bind_some, Option.map_some, Function.update_self, hd, hreveal]

theorem fromHex_hexOf_bitVec {w : ℕ} (hw : w ≤ 64) (v : BitVec w) :
    fh.fromHex (hexOf v.toNat) = .ok (Felt.ofNat v.toNat) := by
  have hlt : v.toNat < 2 ^ 64 := v.isLt.trans_le (Nat.pow_le_pow_right (by norm_num) hw)
  have hprime : feltPrime = 2 ^ 251 + 17 * 2 ^ 192 + 1 := rfl
  exact fromHex_hexOf (by omega)

theorem fromHex_playSelector (fh : FeltHex) : ∃ selector, fh.fromHex playSelector = .ok selector :=
  ⟨_, fromHex_hexOf (k := 0x21c4a0db2b08b026c4e31bf76d5dd9b92aa54c0978df57474355786073775e8)
    (by decide)⟩

/-- **The message of a game**, whose contract address and player are felts. -/
theorem settlement_eq (pedersenHash : Felt → Felt → Felt) (game : Game) {a p : Felt}
    (ha : fh.fromHex game.deployment.contractAddress = .ok a)
    (hp : fh.fromHex game.player = .ok p) :
    game.settlement fh pedersenHash = some (Contract.play pedersenHash
      (Felt.ofNat game.seedBlock.toNat) p (Felt.ofNat game.bet.toNat)).2 := by
  obtain ⟨selector, hselector⟩ := fromHex_playSelector fh
  have hcalldata : game.calldataFelts fh = .ok [1, a, selector, 3,
      Felt.ofNat game.seedBlock.toNat, p, Felt.ofNat game.bet.toNat] := by
    refine mapM_eq_ok.mpr (.cons ?_ (.cons ?_ (.cons ?_ (.cons ?_ (.cons ?_ (.cons ?_ (.cons ?_
      .nil)))))))
    all_goals rw [feltFromHex_eq_ok]
    · exact fh.fromHex_fmtFelt 1
    · exact ha
    · exact hselector
    · exact fh.fromHex_fmtFelt 3
    · exact fromHex_hexOf_bitVec le_rfl _
    · exact hp
    · exact fromHex_hexOf_bitVec (by norm_num) _
  rw [Game.settlement, hcalldata]

theorem fromHex_player_of_settlement {game : Game} {payload : List Felt}
    (h : game.settlement fh pedersenHash = some payload) :
    ∃ p, fh.fromHex game.player = .ok p := by
  rw [Game.settlement] at h
  split at h
  · next p _ hcalldata =>
      rcases mapM_eq_ok.mp hcalldata with
        _ | ⟨-, _ | ⟨-, _ | ⟨-, _ | ⟨-, _ | ⟨-, _ | ⟨hp, -⟩⟩⟩⟩⟩⟩
      exact ⟨p, feltFromHex_eq_ok.mp hp⟩
  · cases h

/-! ### Predicted bets -/

/-- The outcome of the game that a player commits to when the node reports the block `n`. -/
def predictedBet (pedersenHash : Felt → Felt → Felt) (p : Felt) (n : BitVec 64) : Fin 2 :=
  if (pedersenHash (Felt.ofNat (n.toNat - 1)) p).val % 2 ^ 128 % 2 = 0 then 0 else 1

theorem toNat_saturatingPred (n : BitVec 64) : (saturatingPred n).toNat = n.toNat - 1 := by
  rw [saturatingPred, BitVec.toNat_ofNat, Nat.mod_eq_of_lt (by omega)]

/-- A bet is the outcome exactly when it is the predicted one. -/
theorem outcome_eq_iff {p : Felt} {n : BitVec 64} {bet : Fin 2} :
    Contract.outcome pedersenHash (Felt.ofNat (saturatingPred n).toNat) p
        = Felt.ofNat (betByte bet).toNat ↔ bet = predictedBet pedersenHash p n := by
  rw [Contract.outcome, predictedBet, toNat_saturatingPred]
  by_cases h : (pedersenHash (Felt.ofNat (n.toNat - 1)) p).val % 2 ^ 128 % 2 = 0
  · simp only [h, if_true]
    fin_cases bet <;> decide
  · simp only [h, if_false]
    fin_cases bet <;> decide

/-- **An honest game is won exactly on the predicted bet.** -/
theorem honestWon_eq {s : Server} {d : CoinFlipDeployment} (hd : s.coinflip = some d) {a p : Felt}
    (ha : fh.fromHex d.contractAddress = .ok a) {player : String}
    (hp : fh.fromHex player = .ok p) (sessionId : String) (n : BitVec 64) (bet : Fin 2)
    (nonce : Felt) :
    honestWon fh pedersenHash s sessionId player n (betByte bet) nonce
      = some (if bet = predictedBet pedersenHash p n then 1 else 0) := by
  obtain ⟨s', hs', hgames⟩ := Option.map_eq_some_iff.mp
    (games_honest fh pedersenHash hd sessionId player n bet nonce)
  have hsettled := settlement_eq pedersenHash
    ⟨sessionId, d, player, betByte bet, saturatingPred n⟩ ha hp
  simp only [honestWon, hs', hgames, Option.bind_eq_bind, Option.bind_some,
    List.getElem?_concat_length, hsettled]
  simp only [Contract.play, outcome_eq_iff]
  rfl

/-- A game has a winner only when its player is a felt. -/
theorem fromHex_of_honestWon {s : Server} {d : CoinFlipDeployment} (hd : s.coinflip = some d)
    {sessionId player : String} {n : BitVec 64} {bet : Fin 2} {nonce won : Felt}
    (h : honestWon fh pedersenHash s sessionId player n (betByte bet) nonce = some won) :
    ∃ p, fh.fromHex player = .ok p := by
  obtain ⟨s', hs', hgames⟩ := Option.map_eq_some_iff.mp
    (games_honest fh pedersenHash hd sessionId player n bet nonce)
  simp only [honestWon, hs', hgames, Option.bind_eq_bind, Option.bind_some,
    List.getElem?_concat_length] at h
  obtain ⟨payload, hpayload, -⟩ := Option.bind_eq_some_iff.mp h
  exact fromHex_player_of_settlement hpayload

/-! ### Strategies -/

/-- **A strategy loses a game exactly when it somewhere does not bet what is predicted.** -/
theorem losesSome_iff {s : Server} {d : CoinFlipDeployment} (hd : s.coinflip = some d) {a : Felt}
    (ha : fh.fromHex d.contractAddress = .ok a) (sessionId : String) (strategy : Strategy) :
    LosesSome fh pedersenHash s sessionId strategy ↔
      ∃ player p n, fh.fromHex player = .ok p ∧
        (strategy player n).1 ≠ predictedBet pedersenHash p n := by
  have hzero : (1 : Felt) ≠ 0 := by decide
  constructor
  · rintro ⟨player, n, h⟩
    obtain ⟨p, hp⟩ := fromHex_of_honestWon hd h
    refine ⟨player, p, n, hp, fun heq => ?_⟩
    rw [honestWon_eq hd ha hp, if_pos heq] at h
    exact hzero (Option.some.inj h)
  · rintro ⟨player, p, n, hp, hne⟩
    exact ⟨player, n, by rw [honestWon_eq hd ha hp, if_neg hne]⟩

/-- A server with a deployment. -/
def sampleServer : Server := { Server.new with coinflip := some ⟨"0x5", "0x6", 3⟩ }

theorem losesSome_iff_sample :
    LosesSome sampleHex samplePedersen sampleServer "session" fun _ _ => (0, 7) := by
  have hcontract : sampleHex.fromHex "0x5" = .ok 5 := sampleHex.fromHex_fmtFelt 5
  have hplayer : sampleHex.fromHex "0x123" = .ok 0x123 := sampleHex.fromHex_fmtFelt 0x123
  have hodd : (0 : Fin 2) ≠ predictedBet samplePedersen 0x123 11 := by decide +kernel
  exact (losesSome_iff (d := ⟨"0x5", "0x6", 3⟩) rfl hcontract "session" _).mpr
    ⟨"0x123", 0x123, 11, hplayer, hodd⟩

/-- Bet what is predicted. -/
def predicting (fh : FeltHex) (pedersenHash : Felt → Felt → Felt) : Strategy := fun player n =>
  match fh.fromHex player with
  | .ok p => (predictedBet pedersenHash p n, 0)
  | .error _ => (0, 0)

theorem predicting_of_fromHex {player : String} {p : Felt} (hp : fh.fromHex player = .ok p)
    (n : BitVec 64) :
    predicting fh pedersenHash player n = (predictedBet pedersenHash p n, 0) := by
  rw [predicting, hp]

/-- **Betting what is predicted wins every game.** -/
theorem predicting_wins {s : Server} {d : CoinFlipDeployment} (hd : s.coinflip = some d)
    {a p : Felt} (ha : fh.fromHex d.contractAddress = .ok a) {player : String}
    (hp : fh.fromHex player = .ok p) (sessionId : String) (n : BitVec 64) :
    honestWon fh pedersenHash s sessionId player n
        (betByte (predicting fh pedersenHash player n).1) (predicting fh pedersenHash player n).2
      = some 1 := by
  rw [predicting_of_fromHex hp, honestWon_eq hd ha hp, if_pos rfl]

/-- Whatever the hash, and on every server with a deployment, some strategy loses no game. -/
theorem not_losesSome_of_every_strategy :
    ¬ ∃ (fh : FeltHex) (pedersenHash : Felt → Felt → Felt) (s : Server) (d : CoinFlipDeployment)
      (a : Felt) (sessionId : String), s.coinflip = some d ∧
        fh.fromHex d.contractAddress = .ok a ∧
        ∀ strategy, LosesSome fh pedersenHash s sessionId strategy := by
  rintro ⟨fh, pedersenHash, s, d, a, sessionId, hd, ha, hloses⟩
  obtain ⟨player, n, h⟩ := hloses (predicting fh pedersenHash)
  obtain ⟨p, hp⟩ := fromHex_of_honestWon hd h
  rw [predicting_wins hd ha hp] at h
  exact absurd (Option.some.inj h) (by decide)

end Snip36.CoinFlip

import Snip36.Signing.Payload
import Snip36.Support.OneShot

/-!
# CoinFlip — the server

A player commits a bet (`commit_bet`), reveals it (`play_coinflip`) and the server starts a game.
Any number of requests are in flight at once.  A commit waits for the block number before it
stores; a play reads the deployment, then removes the commitment, then checks the reveal
(`reveal`) and starts the game; a deploy looks for a deployment, and writes one later.  `step` is
one such move of one request, and a cancelled request is one whose client went away while it was
waiting.

What a step can do is said once (`step_moves`), and the invariants read it there.
-/

namespace Snip36.CoinFlip
open Support Signing

/-! ### Data -/

/-- `CoinFlipDeployment`. -/
structure CoinFlipDeployment where
  contractAddress : String
  classHash : String
  deployBlock : BitVec 64
  deriving DecidableEq

/-- `BetCommitment`. -/
structure BetCommitment where
  commitment : String
  seedBlock : BitVec 64
  player : String
  deriving DecidableEq

/-- `CommitRequest`. -/
structure CommitRequest where
  commitment : String
  player : String
  deriving DecidableEq

/-- `PlayQuery`. -/
structure PlayQuery where
  player : String
  bet : BitVec 8 := 0
  nonce : String := ""
  deriving DecidableEq

/-- The statuses of the error responses. -/
inductive StatusCode where
  | badRequest
  | internalServerError
  | badGateway
  | gatewayTimeout
  deriving DecidableEq

/-- `error_response`. -/
structure ErrorResponse where
  status : StatusCode
  detail : String
  deriving DecidableEq

/-- What the task of a game captures. -/
structure Game where
  sessionId : String
  deployment : CoinFlipDeployment
  player : String
  bet : BitVec 8
  seedBlock : BitVec 64
  deriving DecidableEq

/-- What a request is answered with. -/
inductive Answer where
  | committed (sessionId : String) (seedBlock : BitVec 64)
  | stream
  | deployed (deployment : CoinFlipDeployment)
  | error (response : ErrorResponse)
  deriving DecidableEq

/-! ### Handlers -/

/-- `n.saturating_sub(1)`. -/
def saturatingPred (n : BitVec 64) : BitVec 64 := BitVec.ofNat 64 (n.toNat - 1)

/-- What `commit_bet` stores, at the block number `n`. -/
def betCommitment (req : CommitRequest) (n : BitVec 64) : BetCommitment where
  commitment := req.commitment
  seedBlock := saturatingPred n
  player := req.player

/-- `params.bet.min(1)`. -/
def PlayQuery.clampedBet (params : PlayQuery) : BitVec 8 := if params.bet ≤ 1 then params.bet else 1

/-! ### The call of a game -/

/-- `PLAY_SELECTOR`. -/
def playSelector : String := "0x21c4a0db2b08b026c4e31bf76d5dd9b92aa54c0978df57474355786073775e8"

/-- `calldata_strs`: one call to `play(seed, player, bet)`. -/
def Game.calldataStrs (game : Game) : List String := [
  "0x1",
  game.deployment.contractAddress,
  playSelector,
  "0x3",
  hexOf game.seedBlock.toNat,
  game.player,
  hexOf game.bet.toNat]

section Handlers

variable (fh : FeltHex) (pedersenHash : Felt → Felt → Felt)

/-- `play_coinflip`, from the commitment that it removed to the game that it starts. -/
def reveal (sessionId : String) (deployment : CoinFlipDeployment) (commitment : BetCommitment)
    (params : PlayQuery) : Except ErrorResponse Game := do
  let bet := params.clampedBet
  let player := params.player
  failIf (player ≠ commitment.player)
    (⟨.badRequest, "Player address does not match commitment."⟩ : ErrorResponse)
  let betFelt := Felt.ofNat bet.toNat
  let nonceFelt ← (feltFromHex fh params.nonce).mapError fun e =>
    (⟨.badRequest, "Invalid nonce: " ++ e⟩ : ErrorResponse)
  let computed := pedersenHash betFelt nonceFelt
  let computedHex := fmtFelt computed
  failIf (computedHex ≠ commitment.commitment)
    ⟨.badRequest, "Commitment mismatch: pedersen(" ++ toString bet.toNat ++ ", nonce) = "
      ++ computedHex ++ ", expected " ++ commitment.commitment⟩
  let seedBlock := commitment.seedBlock
  pure { sessionId, deployment, player, bet, seedBlock }

/-- `calldata_felts`. -/
def Game.calldataFelts (game : Game) : Except String (List Felt) :=
  game.calldataStrs.mapM (feltFromHex fh)

/-! ### Requests in flight -/

/-- How far a request has come. -/
inductive Request where
  /-- A commit that waits for the block number. -/
  | committing (req : CommitRequest)
  /-- A play that has read nothing yet. -/
  | playing (sessionId : String) (params : PlayQuery)
  /-- A play that has read the deployment. -/
  | revealing (sessionId : String) (params : PlayQuery) (deployment : CoinFlipDeployment)
  /-- A play that has removed the commitment. -/
  | checking (sessionId : String) (params : PlayQuery) (deployment : CoinFlipDeployment)
      (commitment : BetCommitment)
  /-- A deploy that has read nothing yet. -/
  | deploy
  /-- A deploy that found no deployment. -/
  | deploying

/-- The request is at an await point. -/
def Request.waits : Request → Bool
  | .revealing .. | .checking .. => false
  | _ => true

/-- `AppState`, the requests in flight, the answers given, and the games started, each with the
commitment that it consumed. -/
structure Server where
  coinflip : Option CoinFlipDeployment
  commitments : String → Option BetCommitment
  nextId : ℕ
  requests : ℕ → Option Request
  answers : List (ℕ × Answer)
  games : List (BetCommitment × Game)

/-- `AppState::new`. -/
def Server.new : Server := ⟨none, fun _ => none, 0, fun _ => none, [], []⟩

/-- What happens at the server. -/
inductive Event where
  | commit (rid : ℕ) (req : CommitRequest)
  | play (rid : ℕ) (sessionId : String) (params : PlayQuery)
  | deploy (rid : ℕ)
  /-- The node answers a commit; a number is stored under a session id. -/
  | blockNumber (rid : ℕ) (reply : Except String (BitVec 64)) (sessionId : String)
  | readDeployment (rid : ℕ)
  | removeCommitment (rid : ℕ)
  | checkReveal (rid : ℕ)
  | checkDeployed (rid : ℕ)
  /-- The declare and deploy commands, and the receipt, end. -/
  | deployEnds (rid : ℕ) (outcome : Except ErrorResponse CoinFlipDeployment)
  | cancel (rid : ℕ)

namespace Server

/-- A request comes in, under the next id. -/
def arrive (s : Server) (rid : ℕ) (r : Request) : Option Server :=
  if rid = s.nextId then
    some { s with nextId := rid + 1, requests := Function.update s.requests rid (some r) }
  else none

/-- A request goes on. -/
def goOn (s : Server) (rid : ℕ) (r : Request) : Server :=
  { s with requests := Function.update s.requests rid (some r) }

/-- A request is answered. -/
def answer (s : Server) (rid : ℕ) (a : Answer) : Server :=
  { s with
    requests := Function.update s.requests rid none
    answers := s.answers ++ [(rid, a)] }

/-- A request is dropped. -/
def dropRequest (s : Server) (rid : ℕ) : Server :=
  { s with requests := Function.update s.requests rid none }

end Server

/-- One move of one request. -/
def step (s : Server) : Event → Option Server
  | .commit rid req => s.arrive rid (.committing req)
  | .play rid sessionId params => s.arrive rid (.playing sessionId params)
  | .deploy rid => s.arrive rid .deploy
  | .blockNumber rid reply sessionId =>
      match s.requests rid, reply with
      | some (.committing req), .ok n =>
          let commitment := betCommitment req n
          let s := { s with
            commitments := Function.update s.commitments sessionId (some commitment) }
          some (s.answer rid (.committed sessionId commitment.seedBlock))
      | some (.committing _), .error e =>
          some (s.answer rid (.error
            ⟨.internalServerError, "Failed to get block number: " ++ e⟩))
      | _, _ => none
  | .readDeployment rid =>
      match s.requests rid, s.coinflip with
      | some (.playing sessionId params), some d =>
          some (s.goOn rid (.revealing sessionId params d))
      | some (.playing _ _), none =>
          some (s.answer rid (.error ⟨.badRequest,
            "CoinFlip contract not deployed. Call POST /api/coinflip/deploy first."⟩))
      | _, _ => none
  | .removeCommitment rid =>
      match s.requests rid with
      | some (.revealing sessionId params d) =>
          match s.commitments sessionId with
          | some c =>
              let s := { s with commitments := Function.update s.commitments sessionId none }
              some (s.goOn rid (.checking sessionId params d c))
          | none =>
              some (s.answer rid (.error ⟨.badRequest,
                "No commitment found for this session. Call POST /api/coinflip/commit first."⟩))
      | _ => none
  | .checkReveal rid =>
      match s.requests rid with
      | some (.checking sessionId params d c) =>
          match reveal fh pedersenHash sessionId d c params with
          | .ok game => some ({ s with games := s.games ++ [(c, game)] }.answer rid .stream)
          | .error e => some (s.answer rid (.error e))
      | _ => none
  | .checkDeployed rid =>
      match s.requests rid, s.coinflip with
      | some .deploy, some d => some (s.answer rid (.deployed d))
      | some .deploy, none => some (s.goOn rid .deploying)
      | _, _ => none
  | .deployEnds rid outcome =>
      match s.requests rid, outcome with
      | some .deploying, .ok d => some ({ s with coinflip := some d }.answer rid (.deployed d))
      | some .deploying, .error e => some (s.answer rid (.error e))
      | _, _ => none
  | .cancel rid =>
      match s.requests rid with
      | some r => if r.waits then some (s.dropRequest rid) else none
      | none => none

/-! ### What a move can be -/

/-- The moves, each with what it finds. -/
inductive Moves (s : Server) : Event → Server → Prop where
  | commit {rid : ℕ} {req : CommitRequest} {s' : Server}
      (h : s.arrive rid (.committing req) = some s') : Moves s (.commit rid req) s'
  | play {rid : ℕ} {sessionId : String} {params : PlayQuery} {s' : Server}
      (h : s.arrive rid (.playing sessionId params) = some s') :
      Moves s (.play rid sessionId params) s'
  | deploy {rid : ℕ} {s' : Server} (h : s.arrive rid .deploy = some s') : Moves s (.deploy rid) s'
  | stores {rid : ℕ} {req : CommitRequest} (n : BitVec 64) (sessionId : String)
      (hreq : s.requests rid = some (.committing req)) :
      Moves s (.blockNumber rid (.ok n) sessionId)
        ({ s with
            commitments := Function.update s.commitments sessionId (some (betCommitment req n)) }
          |>.answer rid (.committed sessionId (betCommitment req n).seedBlock))
  | noNumber {rid : ℕ} {req : CommitRequest} (e sessionId : String) (response : ErrorResponse)
      (hreq : s.requests rid = some (.committing req)) :
      Moves s (.blockNumber rid (.error e) sessionId) (s.answer rid (.error response))
  | reads {rid : ℕ} {sessionId : String} {params : PlayQuery} {d : CoinFlipDeployment}
      (hreq : s.requests rid = some (.playing sessionId params)) (hd : s.coinflip = some d) :
      Moves s (.readDeployment rid) (s.goOn rid (.revealing sessionId params d))
  | notDeployed {rid : ℕ} {sessionId : String} {params : PlayQuery} (response : ErrorResponse)
      (hreq : s.requests rid = some (.playing sessionId params)) (hd : s.coinflip = none) :
      Moves s (.readDeployment rid) (s.answer rid (.error response))
  | takes {rid : ℕ} {sessionId : String} {params : PlayQuery} {d : CoinFlipDeployment}
      {c : BetCommitment} (hreq : s.requests rid = some (.revealing sessionId params d))
      (hc : s.commitments sessionId = some c) :
      Moves s (.removeCommitment rid)
        ({ s with commitments := Function.update s.commitments sessionId none }
          |>.goOn rid (.checking sessionId params d c))
  | notCommitted {rid : ℕ} {sessionId : String} {params : PlayQuery} {d : CoinFlipDeployment}
      (response : ErrorResponse) (hreq : s.requests rid = some (.revealing sessionId params d))
      (hc : s.commitments sessionId = none) :
      Moves s (.removeCommitment rid) (s.answer rid (.error response))
  | starts {rid : ℕ} {sessionId : String} {params : PlayQuery} {d : CoinFlipDeployment}
      {c : BetCommitment} {game : Game}
      (hreq : s.requests rid = some (.checking sessionId params d c))
      (hgame : reveal fh pedersenHash sessionId d c params = .ok game) :
      Moves s (.checkReveal rid) ({ s with games := s.games ++ [(c, game)] } |>.answer rid .stream)
  | refuses {rid : ℕ} {sessionId : String} {params : PlayQuery} {d : CoinFlipDeployment}
      {c : BetCommitment} {response : ErrorResponse}
      (hreq : s.requests rid = some (.checking sessionId params d c))
      (hrefused : reveal fh pedersenHash sessionId d c params = .error response) :
      Moves s (.checkReveal rid) (s.answer rid (.error response))
  | finds {rid : ℕ} {d : CoinFlipDeployment} (hreq : s.requests rid = some .deploy)
      (hd : s.coinflip = some d) : Moves s (.checkDeployed rid) (s.answer rid (.deployed d))
  | deploys {rid : ℕ} (hreq : s.requests rid = some .deploy) (hd : s.coinflip = none) :
      Moves s (.checkDeployed rid) (s.goOn rid .deploying)
  | deployed {rid : ℕ} (d : CoinFlipDeployment) (hreq : s.requests rid = some .deploying) :
      Moves s (.deployEnds rid (.ok d)) ({ s with coinflip := some d } |>.answer rid (.deployed d))
  | deployFails {rid : ℕ} (response : ErrorResponse) (hreq : s.requests rid = some .deploying) :
      Moves s (.deployEnds rid (.error response)) (s.answer rid (.error response))
  | cancels {rid : ℕ} {r : Request} (hreq : s.requests rid = some r) (hwaits : r.waits = true) :
      Moves s (.cancel rid) (s.dropRequest rid)

variable {fh pedersenHash}

theorem arrive_eq_some {s s' : Server} {rid : ℕ} {req : Request} (h : s.arrive rid req = some s') :
    rid = s.nextId ∧ s' = { s with
      nextId := rid + 1, requests := Function.update s.requests rid (some req) } := by
  rw [Server.arrive] at h
  split at h
  · next hrid => exact ⟨hrid, (Option.some.inj h).symm⟩
  · cases h

/-- **A step is one of the moves.** -/
theorem step_moves {s s' : Server} {e : Event} (hs : step fh pedersenHash s e = some s') :
    Moves fh pedersenHash s e s' := by
  cases e with
  | commit rid req => exact .commit hs
  | play rid sessionId params => exact .play hs
  | deploy rid => exact .deploy hs
  | blockNumber rid reply sessionId =>
      simp only [step] at hs
      split at hs
      · next n hreq =>
          obtain rfl := Option.some.inj hs
          exact .stores n sessionId hreq
      · next hreq =>
          obtain rfl := Option.some.inj hs
          exact .noNumber _ sessionId _ hreq
      · cases hs
  | readDeployment rid =>
      simp only [step] at hs
      split at hs
      · next hreq hd =>
          obtain rfl := Option.some.inj hs
          exact .reads hreq hd
      · next hreq hd =>
          obtain rfl := Option.some.inj hs
          exact .notDeployed _ hreq hd
      · cases hs
  | removeCommitment rid =>
      simp only [step] at hs
      split at hs
      · next hreq =>
          split at hs
          · next hc =>
              obtain rfl := Option.some.inj hs
              exact .takes hreq hc
          · next hc =>
              obtain rfl := Option.some.inj hs
              exact .notCommitted _ hreq hc
      · cases hs
  | checkReveal rid =>
      simp only [step] at hs
      split at hs
      · next hreq =>
          split at hs
          · next hgame =>
              obtain rfl := Option.some.inj hs
              exact .starts hreq hgame
          · next hrefused =>
              obtain rfl := Option.some.inj hs
              exact .refuses hreq hrefused
      · cases hs
  | checkDeployed rid =>
      simp only [step] at hs
      split at hs
      · next hreq hd =>
          obtain rfl := Option.some.inj hs
          exact .finds hreq hd
      · next hreq hd =>
          obtain rfl := Option.some.inj hs
          exact .deploys hreq hd
      · cases hs
  | deployEnds rid outcome =>
      simp only [step] at hs
      split at hs
      · next d hreq =>
          obtain rfl := Option.some.inj hs
          exact .deployed d hreq
      · next hreq =>
          obtain rfl := Option.some.inj hs
          exact .deployFails _ hreq
      · cases hs
  | cancel rid =>
      simp only [step] at hs
      split at hs
      · next hreq =>
          split at hs
          · next hwaits =>
              obtain rfl := Option.some.inj hs
              exact .cancels hreq hwaits
          · cases hs
      · cases hs

end Handlers

end Snip36.CoinFlip

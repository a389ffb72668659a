import Snip36.CoinFlip.Predictability
import Snip36.Streams.Play

/-!
# Streams — the result of a game

The task of a game reports an outcome and whether the bet won.  Both come from the settlement
message, which the prover left in a file, and from its texts as they are spelled; when there is no
such message, the task reports a lost game with no outcome.

`followsContract_iff`: a result event tells what the contract computed exactly when the file has
the settlement, a zero in it spelled `0x0` and a one `0x1`.
-/

namespace Snip36.Streams
open Support Signing CoinFlip

section Reports

variable (fh : FeltHex) (pedersen : Felt → Felt → Felt) (sc : StarknetCrypto) (serde : SerdeJson)
  (o : Outcomes)

/-- The messages file of a game. -/
def messagesFile (game : Game) : String :=
  o.withExtension (o.join (o.join o.config.outputDir "coinflip") (game.sessionId ++ ".proof"))
    "raw_messages.json"

/-- The texts in the payload of the first message of a file. -/
def messageTexts (messagesFile : String) : Option (List String) := do
  guard (o.fileExists messagesFile)
  let msgStr ← (o.readToString messagesFile).toOption
  let msgJson ← (serde.fromStr msgStr).toOption
  let msgs ← (msgJson.field "l2_to_l1_messages").bind Json.elems
  let first ← msgs.head?
  let payload ← (first.field "payload").bind Json.elems
  pure (payload.filterMap Json.text)

/-- The outcome and `won` in the texts of a settlement. -/
def judged (fields : List String) : Option (String × Bool) := do
  let outcome ← fields[3]?
  let won ← fields[4]?
  pure (if outcome = "0x0" then "heads" else "tails", won = "0x1")

/-- What a result event reports. -/
structure GameResult where
  outcome : String
  won : Bool
  txHash : String
  proofSize : BitVec 64

/-- The data of a result event. -/
def GameResult.json (game : Game) (result : GameResult) : Json :=
  .obj [
    ("outcome", .str result.outcome),
    ("bet", .str (betLabel game.bet)),
    ("won", .bool result.won),
    ("tx_hash", .str result.txHash),
    ("proof_size", .num result.proofSize.toNat),
    ("seed", .str (hexOf game.seedBlock.toNat)),
    ("player", .str game.player)]

/-- A result event. -/
def IsResult : Action → Prop
  | .send event _ => event = "result"
  | .setReferenceBlock .. => False

instance : DecidablePred IsResult
  | .send event _ => inferInstanceAs (Decidable (event = "result"))
  | .setReferenceBlock .. => inferInstanceAs (Decidable False)

/-- An outcome of the contract in words. -/
def outcomeLabel (outcome : Felt) : String := if outcome = 0 then "heads" else "tails"

/-- The data of a result event tells what the contract computed, from a settlement that was
read. -/
def FollowsContract (game : Game) (data : String) : Prop :=
  (settlementOf serde o (messagesFile o game)).isSome ∧
    ∃ p, ∃ result : GameResult, fh.fromHex game.player = .ok p ∧
      data = serde.toString (result.json game) ∧
      result.outcome
        = outcomeLabel (Contract.outcome pedersen (.ofNat game.seedBlock.toNat) p) ∧
      (result.won = true ↔
        Contract.outcome pedersen (.ofNat game.seedBlock.toNat) p = .ofNat game.bet.toNat)

/-- The prover left no readable settlement, or the one of the game, its felts in any spelling. -/
def LeavesMessages (game : Game) : Prop :=
  settlementOf serde o (messagesFile o game) = none ∨
    ∃ texts payload, messageTexts serde o (messagesFile o game) = some texts ∧
      game.settlement fh pedersen = some payload ∧ texts.mapM fh.fromHex = .ok payload

/-- The file has a settlement, and a zero outcome is spelled `0x0` and a one for `won` `0x1`. -/
def SpellsSettlement (game : Game) : Prop :=
  ∃ texts outcome won, messageTexts serde o (messagesFile o game) = some texts ∧
    texts[3]? = some outcome ∧ texts[4]? = some won ∧
    (fh.fromHex outcome = .ok 0 → outcome = "0x0") ∧ (fh.fromHex won = .ok 1 → won = "0x1")

/-- The text of a result tells its outcome and `won`, as that of any two JSON objects of the same
keys tells their values. -/
def TellsResults (game : Game) : Prop :=
  ∀ r r' : GameResult, r.outcome ∈ ["", "heads", "tails"] → r'.outcome ∈ ["", "heads", "tails"] →
    serde.toString (r.json game) = serde.toString (r'.json game) →
      r.outcome = r'.outcome ∧ r.won = r'.won

end Reports

variable {fh : FeltHex} {pedersen : Felt → Felt → Felt} {sc : StarknetCrypto} {serde : SerdeJson}
  {o : Outcomes}

theorem settlementOf_eq (file : String) :
    settlementOf serde o file = (messageTexts serde o file).bind judged := by
  simp only [settlementOf, messageTexts, judged, Option.bind_eq_bind, Option.bind_assoc,
    Option.pure_def, Option.bind_some]

/-! ### The result event -/

theorem avoids_send {event : String} (data : String) (h : event ≠ "result") :
    Emission.Avoids IsResult (send event data) :=
  Emission.Avoids.emit h

theorem not_isResult_error (message : String) : ¬ IsResult (.send "error" message) := by
  simp [IsResult]

theorem avoids_logSettlement (settlement : Option (String × Bool)) :
    Emission.Avoids IsResult (logSettlement settlement) := by
  cases settlement with
  | none => exact Emission.Avoids.pure ()
  | some _ => exact avoids_send _ (by decide)

theorem avoids_submitToGateway (submitUrl : String) (payload : Json) (left attempt : ℕ) :
    Emission.Avoids IsResult (submitToGateway serde o submitUrl payload left attempt) := by
  have herror := not_isResult_error
  induction left generalizing attempt with
  | zero => exact Emission.Avoids.pure false
  | succ left ih =>
      refine (avoids_orError herror _ _).bind fun response => ?_
      refine (avoids_orError herror _ _).bind fun body => ?_
      dsimp only
      split
      · exact (avoids_send _ (by decide)).bind fun _ => Emission.Avoids.pure true
      · split
        · exact (avoids_send _ (by decide)).bind fun _ => ih (attempt + 1)
        · exact Emission.Avoids.fail (herror _)

/-- **What a result event carries**: the outcome and `won` of the settlement, or of none. -/
theorem result_of_mem {game : Game} {data : String}
    (h : .send "result" data ∈ (playTask fh sc serde o game).events) :
    (∃ calldata, game.calldataFelts fh = .ok calldata) ∧
      ∃ result : GameResult, data = serde.toString (result.json game) ∧
        (result.outcome, result.won)
          = (settlementOf serde o (messagesFile o game)).getD ("", false) := by
  have hkind : IsResult (.send "result" data) := rfl
  have herror := not_isResult_error
  obtain ⟨_, -, h⟩ := (Emission.Avoids.orPanic _ _).of_mem_bind hkind h
  obtain ⟨_, -, h⟩ := (avoids_send _ (by decide)).of_mem_bind hkind h
  obtain ⟨_, -, h⟩ := (avoids_send _ (by decide)).of_mem_bind hkind h
  obtain ⟨calldata, hcalldata, h⟩ := (avoids_orError herror _ _).of_mem_bind hkind h
  refine ⟨⟨calldata, Emission.eq_ok_of_result_orFail hcalldata⟩, ?_⟩
  obtain ⟨_, -, h⟩ := (avoids_orError herror _ _).of_mem_bind hkind h
  obtain ⟨_, -, h⟩ := (avoids_orError herror _ _).of_mem_bind hkind h
  obtain ⟨_, -, h⟩ := (avoids_orError herror _ _).of_mem_bind hkind h
  obtain ⟨_, -, h⟩ := (avoids_orError herror _ _).of_mem_bind hkind h
  obtain ⟨_, -, h⟩ := (avoids_orError herror _ _).of_mem_bind hkind h
  obtain ⟨_, -, h⟩ := (avoids_orError herror _ _).of_mem_bind hkind h
  obtain ⟨_, -, h⟩ := (avoids_send _ (by decide)).of_mem_bind hkind h
  obtain ⟨_, -, h⟩ := (avoids_send _ (by decide)).of_mem_bind hkind h
  obtain ⟨_, -, h⟩ := (avoids_send _ (by decide)).of_mem_bind hkind h
  obtain ⟨_, -, h⟩ := (avoids_orError herror _ _).of_mem_bind hkind h
  obtain ⟨_, -, h⟩ := (avoids_errorIf herror _ _).of_mem_bind hkind h
  obtain ⟨_, -, h⟩ := (avoids_send _ (by decide)).of_mem_bind hkind h
  obtain ⟨_, -, h⟩ := (avoids_logSettlement _).of_mem_bind hkind h
  obtain ⟨_, -, h⟩ := (avoids_send _ (by decide)).of_mem_bind hkind h
  obtain ⟨_, -, h⟩ := (avoids_readProof herror _).of_mem_bind hkind h
  obtain ⟨_, -, h⟩ := (avoids_orError herror _ _).of_mem_bind hkind h
  obtain ⟨_, -, h⟩ := (avoids_orError herror _ _).of_mem_bind hkind h
  obtain ⟨_, -, h⟩ := (avoids_send _ (by decide)).of_mem_bind hkind h
  obtain ⟨_, -, h⟩ := (avoids_submitToGateway _ _ _ _).of_mem_bind hkind h
  obtain ⟨_, -, h⟩ := (avoids_errorIf herror _ _).of_mem_bind hkind h
  obtain ⟨_, -, h⟩ := (avoids_send _ (by decide)).of_mem_bind hkind h
  obtain ⟨_, -, h⟩ := (avoids_send _ (by decide)).of_mem_bind hkind h
  obtain ⟨_, -, h⟩ := (avoids_orError herror _ _).of_mem_bind hkind h
  obtain ⟨_, -, h⟩ := (avoids_send _ (by decide)).of_mem_bind hkind h
  obtain hdata := (Action.send.inj (List.mem_singleton.mp h)).2
  exact ⟨⟨_, _, _, _⟩, hdata, rfl⟩

/-! ### The settlement -/

/-- The settlement of a game is what the contract computes of its seed, player and bet. -/
theorem settlement_eq_some {game : Game} {payload : List Felt}
    (h : game.settlement fh pedersen = some payload) :
    ∃ p, fh.fromHex game.player = .ok p ∧ payload = (Contract.play pedersen
      (.ofNat game.seedBlock.toNat) p (.ofNat game.bet.toNat)).2 := by
  obtain ⟨p, hp⟩ := fromHex_player_of_settlement h
  have ha : ∃ a, fh.fromHex game.deployment.contractAddress = .ok a := by
    rw [Game.settlement] at h
    split at h
    · next a _ _ _ _ _ hcalldata =>
        rcases mapM_eq_ok.mp hcalldata with _ | ⟨-, _ | ⟨ha, -⟩⟩
        exact ⟨a, feltFromHex_eq_ok.mp ha⟩
    · cases h
  obtain ⟨a, ha⟩ := ha
  exact ⟨p, hp, Option.some.inj (h.symm.trans (settlement_eq pedersen game ha hp))⟩

/-- A spelling of an outcome gets the label of the outcome, unless it is another zero. -/
theorem label_eq_iff {text : String} {outcome : Felt} (h : fh.fromHex text = .ok outcome) :
    (if text = "0x0" then "heads" else "tails") = outcomeLabel outcome ↔
      (fh.fromHex text = .ok 0 → text = "0x0") := by
  by_cases htext : text = "0x0"
  · have hzero : fh.fromHex "0x0" = .ok 0 := fh.fromHex_fmtFelt 0
    rw [htext, hzero] at h
    obtain rfl := Except.ok.inj h
    rw [if_pos htext]
    exact iff_of_true rfl fun _ => htext
  · rw [if_neg htext, h, outcomeLabel]
    by_cases hzero : outcome = 0
    · subst hzero
      rw [if_pos rfl]
      exact iff_of_false (by decide) fun hspelled => htext (hspelled rfl)
    · rw [if_neg hzero]
      exact iff_of_true rfl fun hok => absurd (Except.ok.inj hok) hzero

/-- A spelling of `won` is read as it is meant, unless it is another one. -/
theorem won_iff {text : String} {P : Prop} [Decidable P]
    (h : fh.fromHex text = .ok (if P then 1 else 0)) :
    (decide (text = "0x1") = true ↔ P) ↔ (fh.fromHex text = .ok 1 → text = "0x1") := by
  have hone : fh.fromHex "0x1" = .ok 1 := fh.fromHex_fmtFelt 1
  rw [decide_eq_true_iff]
  by_cases hP : P
  · rw [if_pos hP] at h
    rw [h]
    exact ⟨fun hiff _ => hiff.mpr hP, fun hspelled => ⟨fun _ => hP, fun _ => hspelled rfl⟩⟩
  · rw [if_neg hP] at h
    have htext : text ≠ "0x1" := by
      rintro rfl
      exact absurd (Except.ok.inj (h.symm.trans hone)) (by decide)
    rw [h]
    exact iff_of_true (iff_of_false htext hP) fun hok => absurd (Except.ok.inj hok) (by decide)

/-- A result event, from a settlement that was read, against the contract. -/
theorem followsContract_iff_judged {game : Game} {data outcome : String} {won : Bool} {p : Felt}
    (htells : TellsResults serde game)
    (hemit : .send "result" data ∈ (playTask fh sc serde o game).events)
    (hsettled : settlementOf serde o (messagesFile o game) = some (outcome, won))
    (houtcome : outcome ∈ ["", "heads", "tails"]) (hp : fh.fromHex game.player = .ok p) :
    FollowsContract fh pedersen serde o game data ↔
      outcome = outcomeLabel (Contract.outcome pedersen (.ofNat game.seedBlock.toNat) p) ∧
      (won = true ↔
        Contract.outcome pedersen (.ofNat game.seedBlock.toNat) p = .ofNat game.bet.toNat) := by
  obtain ⟨-, result, hdata, hresult⟩ := result_of_mem hemit
  rw [hsettled, Option.getD_some] at hresult
  obtain ⟨rfl, rfl⟩ := Prod.mk.inj hresult
  constructor
  · rintro ⟨-, p', result', hp', hdata', houtcome', hwon'⟩
    obtain rfl := Except.ok.inj (hp.symm.trans hp')
    have hlabel : result'.outcome ∈ ["", "heads", "tails"] := by
      rw [houtcome', outcomeLabel]
      split <;> decide
    obtain ⟨heq, hwon⟩ := htells result result' houtcome hlabel (hdata.symm.trans hdata')
    exact ⟨heq.trans houtcome', hwon ▸ hwon'⟩
  · rintro ⟨hlabel, hwon⟩
    exact ⟨by rw [hsettled]; rfl, p, result, hp, hdata, hlabel, hwon⟩

/-- **When a result event tells what the contract computed**: the settlement is there, and its
outcome and `won` are spelled as the task compares them. -/
theorem followsContract_iff {game : Game} {data : String} (htells : TellsResults serde game)
    (hleft : LeavesMessages fh pedersen serde o game)
    (hemit : .send "result" data ∈ (playTask fh sc serde o game).events) :
    FollowsContract fh pedersen serde o game data ↔ SpellsSettlement fh serde o game := by
  rcases hleft with hnone | ⟨texts, payload, htexts, hpayload, hfelts⟩
  · refine iff_of_false (fun h => ?_) fun h => ?_
    · rw [FollowsContract, hnone] at h
      exact Bool.false_ne_true h.1
    · obtain ⟨texts, outcome, won, htexts, houtcome, hwon, -⟩ := h
      rw [settlementOf_eq, htexts, Option.bind_some, judged, houtcome, hwon] at hnone
      cases hnone
  · obtain ⟨p, hp, rfl⟩ := settlement_eq_some hpayload
    rcases mapM_eq_ok.mp hfelts with
      _ | ⟨-, _ | ⟨-, _ | ⟨-, _ | ⟨houtcome, _ | ⟨hwon, _ | _⟩⟩⟩⟩⟩
    next _ _ _ outcome won =>
    have hsettled : settlementOf serde o (messagesFile o game)
        = some (if outcome = "0x0" then "heads" else "tails", decide (won = "0x1")) := by
      rw [settlementOf_eq, htexts]
      rfl
    have hlabel : (if outcome = "0x0" then "heads" else "tails") ∈ ["", "heads", "tails"] := by
      split <;> decide
    rw [followsContract_iff_judged htells hemit hsettled hlabel hp,
      label_eq_iff houtcome, won_iff hwon]
    constructor
    · rintro ⟨hspelled, hspelled'⟩
      exact ⟨_, outcome, won, htexts, rfl, rfl, hspelled, hspelled'⟩
    · rintro ⟨texts, outcome', won', htexts', houtcome', hwon', hspelled, hspelled'⟩
      obtain rfl := Option.some.inj (htexts.symm.trans htexts')
      obtain rfl := Option.some.inj houtcome'
      obtain rfl := Option.some.inj hwon'
      exact ⟨hspelled, hspelled'⟩

/-! ### A game that is won -/

/-- The text of a result up to the value of `won`. -/
theorem compact_result (game : Game) (r : GameResult) :
    ∃ rest, (r.json game).compact
      = "\x7b" ++ quoted "outcome" ++ ":" ++ quoted r.outcome ++ "," ++ quoted "bet" ++ ":"
        ++ quoted (betLabel game.bet) ++ "," ++ quoted "won" ++ ":"
        ++ (if r.won then "true" else "false") ++ rest := by
  refine ⟨?_, ?_⟩
  rotate_left
  · simp only [GameResult.json, Json.compact, compactFields, String.intercalate_cons_cons,
      String.append_assoc]
    rfl

/-- Compact texts tell results. -/
theorem tellsResults_compact {serde : SerdeJson} (h : serde.toString = Json.compact)
    (game : Game) : TellsResults serde game := by
  intro r r' hr hr' heq
  rw [h] at heq
  obtain ⟨rest, hrest⟩ := compact_result game r
  obtain ⟨rest', hrest'⟩ := compact_result game r'
  rw [hrest, hrest'] at heq
  simp only [String.append_assoc, String.append_right_inj] at heq
  have houtcome : r.outcome = r'.outcome := by
    have hchars := congrArg String.toList heq
    simp only [List.mem_cons, List.not_mem_nil, or_false] at hr hr'
    rcases hr with hr | hr | hr <;> rcases hr' with hr' | hr' | hr' <;>
      simp [hr, hr', quoted, escapeChar] at hchars ⊢
  rw [houtcome] at heq
  simp only [String.append_right_inj] at heq
  refine ⟨houtcome, ?_⟩
  have hchars := congrArg String.toList heq
  cases hwon : r.won <;> cases hwon' : r'.won <;> simp [hwon, hwon'] at hchars ⊢

/-- A game that is won: the contract's outcome is one, and so is the bet. -/
def sampleGame : Game where
  sessionId := "session"
  deployment := ⟨"0x5", "0x6", 0⟩
  player := "0x123"
  bet := 1
  seedBlock := 6

/-- The messages of the sample game, with a spelling of `won`. -/
def sampleMessages (won : String) : Json :=
  .obj [("l2_to_l1_messages", .arr [.obj [
    ("payload", strings ["0x123", "0x6", "0x1", "0x1", won])]])]

/-- `serde_json`, on one text, the compact one of the messages. -/
def sampleSerde (won : String) : SerdeJson where
  toString := Json.compact
  toStringPretty := Json.compact
  fromStr text :=
    if text = (sampleMessages won).compact then .ok (sampleMessages won)
    else .error "expected value at line 1 column 1"
  stringsFromStr _ := .ok []

/-- A run in which all goes well, and what the messages file has, if there is one. -/
def sampleOutcomes (messages : Option String) : Outcomes where
  config := ⟨"http://127.0.0.1:9545", "0x123", "0x1", "SN_SEPOLIA", some "http://gateway", "out"⟩
  proverUrl := none
  snip36Bin := "snip36"
  join dir file := dir ++ "/" ++ file
  withExtension path extension := trimEndMatches (· ≠ '.') path ++ extension
  createDirAll _ := .ok ()
  write _ _ := .ok ()
  readToString path :=
    if path = "out/coinflip/session.raw_messages.json" then okOr messages "no such file"
    else .ok "AA=="
  fileExists _ := messages.isSome
  metadataLen _ := .ok 4
  spawn _ _ := .ok (.ok true)
  getNonceAtBlock _ _ := .ok 7
  post _ _ _ := .ok (.ok (.obj [("code", .str "TRANSACTION_RECEIVED")]))
  addInvokeTransaction _ _ := .ok "0x9"
  waitForTx _ _ _ := .ok (.obj [("block_number", .num 9)])
  starknetCall _ _ _ := .ok []

/-- The sample run, with what the messages file has. -/
def sampleRun (won : String) (messages : Option String) : Task Unit :=
  playTask sampleHex sampleCrypto (sampleSerde won) (sampleOutcomes messages) sampleGame

theorem settlement_sample :
    sampleGame.settlement sampleHex samplePedersen = some [0x123, 6, 1, 1, 1] := by
  decide +kernel

/-- The settlement is there, with `won` in a spelling of one. -/
theorem leavesMessages_sample {won : String}
    (htexts : messageTexts (sampleSerde won) (sampleOutcomes (some (sampleMessages won).compact))
      (messagesFile (sampleOutcomes (some (sampleMessages won).compact)) sampleGame)
        = some ["0x123", "0x6", "0x1", "0x1", won])
    (hfelts : ["0x123", "0x6", "0x1", "0x1", won].mapM sampleHex.fromHex
      = .ok [0x123, 6, 1, 1, 1]) :
    LeavesMessages sampleHex samplePedersen (sampleSerde won)
      (sampleOutcomes (some (sampleMessages won).compact)) sampleGame :=
  .inr ⟨_, _, htexts, settlement_sample, hfelts⟩

theorem followsContract_iff_sample :
    (∃ data, .send "result" data ∈ (sampleRun "0x1" (some (sampleMessages "0x1").compact)).events ∧
      FollowsContract sampleHex samplePedersen (sampleSerde "0x1")
        (sampleOutcomes (some (sampleMessages "0x1").compact)) sampleGame data) := by
  obtain ⟨data, hdata⟩ := exists_send "result"
    (p := sampleRun "0x1" (some (sampleMessages "0x1").compact)) (by decide +kernel)
  have htexts : messageTexts (sampleSerde "0x1")
      (sampleOutcomes (some (sampleMessages "0x1").compact))
      (messagesFile (sampleOutcomes (some (sampleMessages "0x1").compact)) sampleGame)
        = some ["0x123", "0x6", "0x1", "0x1", "0x1"] := by decide +kernel
  refine ⟨data, hdata, (followsContract_iff (tellsResults_compact rfl _)
    (leavesMessages_sample htexts (by decide +kernel)) hdata).mpr ?_⟩
  exact ⟨_, "0x1", "0x1", htexts, rfl, rfl, by decide +kernel, fun _ => rfl⟩

/-- A result event with no settlement, and one that reports a game lost that was won, since its
`won` is spelled `0x01`. -/
theorem result_misreports :
    (∃ data, .send "result" data ∈ (sampleRun "0x1" none).events ∧
      settlementOf (sampleSerde "0x1") (sampleOutcomes none)
        (messagesFile (sampleOutcomes none) sampleGame) = none) ∧
    LeavesMessages sampleHex samplePedersen (sampleSerde "0x01")
      (sampleOutcomes (some (sampleMessages "0x01").compact)) sampleGame ∧
    ∃ data,
      .send "result" data ∈ (sampleRun "0x01" (some (sampleMessages "0x01").compact)).events ∧
        ¬ FollowsContract sampleHex samplePedersen (sampleSerde "0x01")
          (sampleOutcomes (some (sampleMessages "0x01").compact)) sampleGame data := by
  obtain ⟨data, hdata⟩ := exists_send "result" (p := sampleRun "0x1" none) (by decide +kernel)
  obtain ⟨data', hdata'⟩ := exists_send "result"
    (p := sampleRun "0x01" (some (sampleMessages "0x01").compact)) (by decide +kernel)
  have htexts : messageTexts (sampleSerde "0x01")
      (sampleOutcomes (some (sampleMessages "0x01").compact))
      (messagesFile (sampleOutcomes (some (sampleMessages "0x01").compact)) sampleGame)
        = some ["0x123", "0x6", "0x1", "0x1", "0x01"] := by decide +kernel
  have hsettled : settlementOf (sampleSerde "0x01")
      (sampleOutcomes (some (sampleMessages "0x01").compact))
      (messagesFile (sampleOutcomes (some (sampleMessages "0x01").compact)) sampleGame)
        = some ("tails", false) := by decide +kernel
  have hp : sampleHex.fromHex sampleGame.player = .ok 0x123 := by decide +kernel
  refine ⟨⟨data, hdata, by decide +kernel⟩, leavesMessages_sample htexts (by decide +kernel),
    data', hdata', fun h => ?_⟩
  have hjudged := (followsContract_iff_judged (tellsResults_compact rfl _) hdata' hsettled
    (by decide) hp).mp h
  exact absurd (hjudged.2.mpr (by decide +kernel)) (by decide)

end Snip36.Streams

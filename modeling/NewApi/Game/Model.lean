import Mathlib.Algebra.Order.Floor.Defs
import Mathlib.Data.Rat.Floor
import NewApi.Lib.GoStrings
import NewApi.Lib.Keyed
import NewApi.Lib.Runs

/-! The game of predictions: wallets of game tokens, bets and their settlement, as `service/game.go` has them.
Amounts are 64 bit integers; every sum that may overflow is checked where the source checks it. The tables are
lists in the order of their ids. -/
namespace NewApi.Game
open Runs GoStrings

def maxInt64 : Int := 2 ^ 63-1
def minInt64 : Int := -2 ^ 63

def maxQuota : Int := 2 ^ 31-1

def maxGameMutationAmount : Int := maxInt64 / 4

structure GameUser where
  id : Int
  quota : Int := 0

structure GameWallet where
  id : Int
  userId : Int
  balance : Int := 0

inductive TransactionType where
  | exchangeIn | exchangeOut | bet | payout
  deriving DecidableEq

structure GameWalletTransaction where
  id : Int
  userId : Int
  walletId : Int
  requestId : Option String := none
  type : TransactionType
  tokenAmount : Int := 0
  quotaAmount : Int := 0
  feeAmount : Int := 0
  balanceAfter : Int := 0
  predictionId : Int := 0
  predictionBetId : Int := 0

inductive PredictionStatus where
  | open | answered | settling | settled | failed
  deriving DecidableEq

structure GamePrediction where
  id : Int
  status : PredictionStatus := .open
  closeTime : Int := 0
  answerOptionId : Int := 0
  answerSetBy : Int := 0
  settledAt : Int := 0
  settledBy : Int := 0
  totalPool : Int := 0
  winningPool : Int := 0
  totalPayout : Int := 0
  totalFee : Int := 0
  winnerCount : Int := 0

structure GamePredictionOption where
  id : Int
  predictionId : Int
  poolAmount : Int := 0
  betCount : Int := 0

inductive BetStatus where
  | active | won | lost
  deriving DecidableEq

structure GamePredictionBet where
  id : Int
  predictionId : Int
  optionId : Int
  userId : Int
  requestId : Option String := none
  walletId : Int
  amount : Int
  status : BetStatus := .active
  grossPayout : Int := 0
  feeAmount : Int := 0
  netPayout : Int := 0
  payoutTxId : Int := 0
  settledAt : Int := 0

structure GameDB where
  users : List GameUser
  wallets : List GameWallet := []
  transactions : List GameWalletTransaction := []
  predictions : List GamePrediction := []
  options : List GamePredictionOption := []
  bets : List GamePredictionBet := []

inductive GameError where
  | userNotFound | invalidAmount | insufficientBalance | insufficientQuota | predictionNotFound | predictionClosed
  | alreadySettled | answerNotSet | invalidOption | amountOverflow | invalidRequestId | idempotencyConflict
  | batchQuotaUnsupported | recordNotFound | database
  deriving DecidableEq

/-- What a call reads beside the tables: the clock, the settings, and whether one of its statements fails. The
fee rate is `none` when it is no number. -/
structure Reads where
  now : Int := 0
  tokenExchangeRate : Int := 100
  awardFeeRate : Option Rat := some (1 / 20)
  batchUpdateEnabled : Bool := false
  dbError : Bool := false

def Reads.rate (reads : Reads) : Int := if reads.tokenExchangeRate≤0 then 100 else reads.tokenExchangeRate

def normalizeAwardFeeRate : Option Rat → Rat
  | none => 0
  | some rate => if rate<0 then 0 else if rate>1 then 1 else rate

def isControl (c : Char) : Bool := c.toNat<32 || (127≤c.toNat && c.toNat<160)

def maxGameRequestIdBytes : Nat := 128

def normalizeGameRequestId (value : String) : Except GameError (Option String) :=
  let value := trimSpace value
  if value="" then .ok none
  else if value.utf8ByteSize>maxGameRequestIdBytes then .error .invalidRequestId
  else if value.toList.any isControl then .error .invalidRequestId
  else .ok (some value)

def checkedAddInt64 (a b : Int) : Except GameError Int :=
  if (b>0 ∧ a>maxInt64-b) ∨ (b<0 ∧ a < minInt64-b) then .error .amountOverflow else .ok (a+b)

def floorMulDivInt64 (a b divisor : Int) : Int :=
  if a≤0 ∨ b≤0 ∨ divisor≤0 then 0
  else if a*b / divisor>maxInt64 then maxInt64 else a*b / divisor

/-- The rate is normalized once more, as in the source. -/
def floorFeeAmount (profit : Int) (feeRate : Rat) : Int :=
  if profit≤0 then 0 else
  let rate := normalizeAwardFeeRate (some feeRate)
  if rate≤0 then 0
  else if rate≥1 then profit
  else if ⌊(profit : Rat)*rate⌋ > maxInt64 then profit else ⌊(profit : Rat)*rate⌋

namespace GameDB
variable (db : GameDB) (id : Int)

def user? : Option GameUser := Keyed.lookup GameUser.id id db.users
def wallet? : Option GameWallet := Keyed.lookup GameWallet.id id db.wallets
def walletOf? (db : GameDB) (userId : Int) : Option GameWallet := Keyed.lookup GameWallet.userId userId db.wallets
def prediction? : Option GamePrediction := Keyed.lookup GamePrediction.id id db.predictions

def option? (db : GameDB) (id predictionId : Int) : Option GamePredictionOption :=
  db.options.find? fun o => decide (o.id=id ∧ o.predictionId=predictionId)

def updateUser (f : GameUser → GameUser) : GameDB :=
  { db with users := Keyed.modify GameUser.id id f db.users }

def updateWallet (f : GameWallet → GameWallet) : GameDB :=
  { db with wallets := Keyed.modify GameWallet.id id f db.wallets }

def updatePrediction (f : GamePrediction → GamePrediction) : GameDB :=
  { db with predictions := Keyed.modify GamePrediction.id id f db.predictions }

def updateOption (db : GameDB) (id predictionId : Int) (f : GamePredictionOption → GamePredictionOption) : GameDB :=
  { db with options := db.options.map fun o => if o.id=id ∧ o.predictionId=predictionId then f o else o }

def updateBet (f : GamePredictionBet → GamePredictionBet) : GameDB :=
  { db with bets := Keyed.modify GamePredictionBet.id id f db.bets }

def createTransaction (db : GameDB) (t : Int → GameWalletTransaction) : GameDB :=
  { db with transactions := db.transactions++[t (Keyed.nextId (db.transactions.map (·.id)))] }

end GameDB

def findGameExchangeByRequestId (db : GameDB) (userId : Int) (type : TransactionType) (requestId : Option String) :
    Option GameWalletTransaction :=
  requestId.bind fun rid =>
    db.transactions.find? fun t => decide (t.userId=userId ∧ t.type=type ∧ t.requestId=some rid)

def findGameBetByRequestId (db : GameDB) (userId predictionId : Int) (requestId : Option String) :
    Option GamePredictionBet :=
  requestId.bind fun rid =>
    db.bets.find? fun b => decide (b.userId=userId ∧ b.predictionId=predictionId ∧ b.requestId=some rid)

def getOrCreateGameWallet (db : GameDB) (userId : Int) : Except GameError (GameDB×GameWallet) :=
  if userId≤0 then .error .userNotFound else
  match db.user? userId with
  | none => .error .userNotFound
  | some _ =>
    match db.walletOf? userId with
    | some wallet => .ok (db,wallet)
    | none =>
      let wallet : GameWallet := { id := Keyed.nextId (db.wallets.map (·.id)), userId := userId }
      .ok ({ db with wallets := db.wallets++[wallet] },wallet)

def atomically {α : Type} (reads : Reads) (out : Except GameError α) : Except GameError α :=
  if reads.dbError then .error .database else out

/-- What a call with a request id answers: after a failed transaction it looks for the row once more. -/
def answer {α : Type} (db : GameDB) (existing : Option α) (same : α → Bool) (out : Except GameError (GameDB×α)) :
    GameDB×Except GameError α :=
  match out with
  | .ok (db',row) => (db',.ok row)
  | .error e =>
    match existing with
    | some row => if same row then (db,.ok row) else (db,.error .idempotencyConflict)
    | none => (db,.error e)

def GameWalletTransaction.sameAmounts (quota tokens : Int) (t : GameWalletTransaction) : Bool :=
  decide (t.quotaAmount=quota ∧ t.tokenAmount=tokens)

/-- The transaction of an exchange: a known request is answered from its row. -/
def replayOr {α : Type} (db : GameDB) (existing : Option α) (same : α → Bool)
    (perform : Except GameError (GameDB×α)) : Except GameError (GameDB×α) :=
  match existing with
  | some row => if same row then .ok (db,row) else .error .idempotencyConflict
  | none => perform

def underRequest {α : Type} (reads : Reads) (db : GameDB) (existing : Option α) (same : α → Bool)
    (perform : Except GameError (GameDB×α)) : GameDB×Except GameError α :=
  answer db existing same (atomically reads (replayOr db existing same perform))

def exchangeIn (db : GameDB) (userId quota tokenAmount : Int) (requestId : Option String) :
    Except GameError (GameDB×GameWalletTransaction) :=
  match db.user? userId with
  | none => .error .recordNotFound
  | some user =>
    if user.quota>maxQuota then .error .amountOverflow
    else if user.quota<quota then .error .insufficientQuota else
    (getOrCreateGameWallet db userId).bind fun (db,wallet) =>
    (checkedAddInt64 wallet.balance tokenAmount).bind fun balance =>
    let db := (db.updateUser userId fun u => { u with quota := user.quota-quota }).updateWallet wallet.id fun w =>
      { w with balance := w.balance+tokenAmount }
    let created : Int → GameWalletTransaction := fun id =>
      { id := id, userId := userId, walletId := wallet.id, requestId := requestId, type := .exchangeIn
        tokenAmount := tokenAmount, quotaAmount := quota, balanceAfter := balance }
    .ok (db.createTransaction created,created (Keyed.nextId (db.transactions.map (·.id))))

def exchangeQuotaToGameTokens (reads : Reads) (db : GameDB) (userId quota : Int) (requestIdValue : String) :
    GameDB×Except GameError GameWalletTransaction :=
  match normalizeGameRequestId requestIdValue with
  | .error e => (db,.error e)
  | .ok requestId =>
    if reads.batchUpdateEnabled then (db,.error .batchQuotaUnsupported)
    else if quota≤0 ∨ reads.rate≤0 ∨ quota>maxGameMutationAmount.tdiv reads.rate then (db,.error .invalidAmount)
    else if quota>maxQuota then (db,.error .amountOverflow) else
    let existing := findGameExchangeByRequestId db userId .exchangeIn requestId
    let same := GameWalletTransaction.sameAmounts quota (quota*reads.rate)
    underRequest reads db existing same (exchangeIn db userId quota (quota*reads.rate) requestId)

def exchangeOut (db : GameDB) (userId tokens quota : Int) (requestId : Option String) :
    Except GameError (GameDB×GameWalletTransaction) :=
  match db.user? userId with
  | none => .error .recordNotFound
  | some user =>
    if quota>maxQuota-user.quota then .error .amountOverflow else
    (getOrCreateGameWallet db userId).bind fun (db,wallet) =>
    if wallet.balance<tokens then .error .insufficientBalance else
    let db := (db.updateWallet wallet.id fun w => { w with balance := w.balance-tokens }).updateUser userId fun u =>
      { u with quota := user.quota+quota }
    let created : Int → GameWalletTransaction := fun id =>
      { id := id, userId := userId, walletId := wallet.id, requestId := requestId, type := .exchangeOut
        tokenAmount := tokens, quotaAmount := quota, balanceAfter := wallet.balance-tokens }
    .ok (db.createTransaction created,created (Keyed.nextId (db.transactions.map (·.id))))

def exchangeGameTokensToQuota (reads : Reads) (db : GameDB) (userId tokens : Int) (requestIdValue : String) :
    GameDB×Except GameError GameWalletTransaction :=
  match normalizeGameRequestId requestIdValue with
  | .error e => (db,.error e)
  | .ok requestId =>
    if reads.batchUpdateEnabled then (db,.error .batchQuotaUnsupported)
    else if tokens≤0 ∨ tokens>maxGameMutationAmount ∨ reads.rate≤0 ∨ tokens.tmod reads.rate≠0 then (db,.error .invalidAmount)
    else if tokens.tdiv reads.rate≤0 then (db,.error .invalidAmount)
    else if tokens.tdiv reads.rate>maxQuota then (db,.error .amountOverflow) else
    let existing := findGameExchangeByRequestId db userId .exchangeOut requestId
    let same := GameWalletTransaction.sameAmounts (tokens.tdiv reads.rate) tokens
    underRequest reads db existing same (exchangeOut db userId tokens (tokens.tdiv reads.rate) requestId)

def placeBet (reads : Reads) (db : GameDB) (userId predictionId optionId amount : Int) (requestId : Option String) :
    Except GameError (GameDB×GamePredictionBet) :=
  match db.prediction? predictionId with
  | none => .error .predictionNotFound
  | some prediction =>
    if prediction.status≠.open ∨ (prediction.closeTime>0 ∧ prediction.closeTime≤reads.now) then
      .error .predictionClosed else
    match db.option? optionId predictionId with
    | none => .error .invalidOption
    | some option =>
      (getOrCreateGameWallet db userId).bind fun (db,wallet) =>
      if wallet.balance<amount then .error .insufficientBalance else
      (checkedAddInt64 prediction.totalPool amount).bind fun _ =>
      (checkedAddInt64 option.poolAmount amount).bind fun _ =>
      -- the update of the prediction repeats the check, but for a close time below zero
      if ¬(prediction.closeTime=0 ∨ prediction.closeTime>reads.now) then .error .predictionClosed else
      let db := db.updateWallet wallet.id fun w => { w with balance := w.balance-amount }
      let db := db.updatePrediction predictionId fun p => { p with totalPool := p.totalPool+amount }
      let db := db.updateOption optionId predictionId fun o =>
        { o with poolAmount := o.poolAmount+amount, betCount := o.betCount+1 }
      let bet : GamePredictionBet :=
        { id := Keyed.nextId (db.bets.map (·.id)), predictionId := predictionId, optionId := optionId, userId := userId
          requestId := requestId, walletId := wallet.id, amount := amount }
      let db := { db with bets := db.bets++[bet] }
      .ok (db.createTransaction fun id =>
        { id := id, userId := userId, walletId := wallet.id, type := .bet, tokenAmount := amount
          balanceAfter := wallet.balance-amount, predictionId := predictionId, predictionBetId := bet.id }, bet)

def GamePredictionBet.sameBet (optionId amount : Int) (b : GamePredictionBet) : Bool :=
  decide (b.optionId=optionId ∧ b.amount=amount)

def placeGamePredictionBet (reads : Reads) (db : GameDB) (userId predictionId optionId amount : Int)
    (requestIdValue : String) : GameDB×Except GameError GamePredictionBet :=
  match normalizeGameRequestId requestIdValue with
  | .error e => (db,.error e)
  | .ok requestId =>
    if amount≤0 ∨ amount>maxGameMutationAmount then (db,.error .invalidAmount) else
    let existing := findGameBetByRequestId db userId predictionId requestId
    let same := GamePredictionBet.sameBet optionId amount
    underRequest reads db existing same (placeBet reads db userId predictionId optionId amount requestId)

def gamePredictionClosedForSettlement (prediction : GamePrediction) (now : Int) : Bool :=
  decide (prediction.closeTime>0 ∧ prediction.closeTime≤now)

def setGamePredictionAnswer (reads : Reads) (db : GameDB) (predictionId optionId adminId : Int) :
    Except GameError GameDB :=
  atomically reads <|
  match db.prediction? predictionId with
  | none => .error .predictionNotFound
  | some prediction =>
    if prediction.status≠.open ∧ prediction.status≠.answered then
      (if prediction.status=.settled then .error .alreadySettled else .error .predictionClosed)
    else if gamePredictionClosedForSettlement prediction reads.now=false then .error .predictionClosed else
    match db.option? optionId predictionId with
    | none => .error .invalidOption
    | some _ =>
      if prediction.settledAt≠0 then .error .alreadySettled else
      .ok (db.updatePrediction predictionId fun p =>
        { p with answerOptionId := optionId, answerSetBy := adminId, status := .answered })

/-- The pools of the bets, checked for overflow: all of them, the winning ones, and how many win. -/
def addPools (answerOptionId : Int) : List GamePredictionBet → Int×Int×Int → Except GameError (Int×Int×Int)
  | [], pools => .ok pools
  | bet::bets, (totalPool,winningPool,winnerCount) =>
    (checkedAddInt64 totalPool bet.amount).bind fun totalPool =>
    if bet.optionId=answerOptionId then (checkedAddInt64 winningPool bet.amount).bind fun winningPool =>
      addPools answerOptionId bets (totalPool,winningPool,winnerCount+1)
    else addPools answerOptionId bets (totalPool,winningPool,winnerCount)

structure Settling where
  predictionId : Int
  answerOptionId : Int
  totalPool : Int
  winningPool : Int
  winnerCount : Int
  feeRate : Rat
  now : Int

structure Paid where
  allocatedGross : Int := 0
  winningSeen : Int := 0
  totalPayout : Int := 0
  totalFee : Int := 0

def Settling.gross (s : Settling) (paid : Paid) (amount : Int) : Int :=
  let gross := if paid.winningSeen+1=s.winnerCount then s.totalPool-paid.allocatedGross
    else floorMulDivInt64 s.totalPool amount s.winningPool
  if gross<amount then amount else gross

def loseBet (s : Settling) (db : GameDB) (bet : GamePredictionBet) : Except GameError GameDB :=
  if (Keyed.lookup GamePredictionBet.id bet.id db.bets).any (·.status=.active)=false then .error .alreadySettled else
  .ok (db.updateBet bet.id fun b => { b with status := .lost, settledAt := s.now })

def payBet (s : Settling) (db : GameDB) (paid : Paid) (bet : GamePredictionBet) : Except GameError (GameDB×Paid) :=
  let gross := s.gross paid bet.amount
  (checkedAddInt64 paid.allocatedGross gross).bind fun allocatedGross =>
  let fee := floorFeeAmount (gross-bet.amount) s.feeRate
  let net := gross-fee
  match db.wallet? bet.walletId with
  | none => .error .recordNotFound
  | some wallet =>
    (checkedAddInt64 wallet.balance net).bind fun balance =>
    let db := db.updateWallet wallet.id fun w => { w with balance := w.balance+net }
    let payoutTxId := Keyed.nextId (db.transactions.map (·.id))
    let db := db.createTransaction fun id =>
      { id := id, userId := bet.userId, walletId := wallet.id, type := .payout, tokenAmount := gross, feeAmount := fee
        balanceAfter := balance, predictionId := s.predictionId, predictionBetId := bet.id }
    if (Keyed.lookup GamePredictionBet.id bet.id db.bets).any (fun b => b.status=.active ∧ b.payoutTxId=0)=false then
      .error .alreadySettled else
    let db := db.updateBet bet.id fun b =>
      { b with status := .won, grossPayout := gross, feeAmount := fee, netPayout := net, payoutTxId := payoutTxId
               settledAt := s.now }
    (checkedAddInt64 paid.totalPayout net).bind fun totalPayout =>
    (checkedAddInt64 paid.totalFee fee).bind fun totalFee =>
    .ok (db, { allocatedGross := allocatedGross, winningSeen := paid.winningSeen+1, totalPayout := totalPayout
               totalFee := totalFee })

def settleBets (s : Settling) : List GamePredictionBet → GameDB → Paid → Except GameError (GameDB×Paid)
  | [], db, paid => .ok (db,paid)
  | bet::bets, db, paid =>
    if bet.optionId≠s.answerOptionId then (loseBet s db bet).bind fun db => settleBets s bets db paid
    else (payBet s db paid bet).bind fun (db,paid) => settleBets s bets db paid

def GamePredictionBet.isActiveOn (predictionId : Int) (b : GamePredictionBet) : Bool :=
  decide (b.predictionId=predictionId ∧ b.status=.active)

def loseAll (db : GameDB) (predictionId now : Int) : GameDB :=
  let lose := fun b : GamePredictionBet =>
    if b.isActiveOn predictionId then { b with status := .lost, settledAt := now } else b
  { db with bets := db.bets.map lose }

def settleGamePrediction (reads : Reads) (db : GameDB) (predictionId adminId : Int) : Except GameError GameDB :=
  atomically reads <|
  match db.prediction? predictionId with
  | none => .error .predictionNotFound
  | some prediction =>
    if prediction.status=.settled ∨ prediction.settledAt>0 then .error .alreadySettled
    else if prediction.answerOptionId=0 then .error .answerNotSet
    else if gamePredictionClosedForSettlement prediction reads.now=false then .error .predictionClosed
    else if prediction.status≠.open ∧ prediction.status≠.answered then .error .predictionClosed
    else if prediction.settledAt≠0 then .error .alreadySettled else
    let db := db.updatePrediction predictionId fun p => { p with status := .settling }
    let bets := db.bets.filter (·.isActiveOn predictionId)
    (addPools prediction.answerOptionId bets (0,0,0)).bind fun (totalPool,winningPool,winnerCount) =>
    if winnerCount=0 ∨ winningPool=0 ∨ totalPool=0 then
      .ok ((loseAll db predictionId reads.now).updatePrediction predictionId fun p =>
        { p with status := .settled, settledAt := reads.now, settledBy := adminId, totalPool := totalPool
                 winningPool := winningPool, winnerCount := winnerCount })
    else
      let s : Settling :=
        { predictionId := predictionId, answerOptionId := prediction.answerOptionId, totalPool := totalPool
          winningPool := winningPool, winnerCount := winnerCount
          feeRate := normalizeAwardFeeRate reads.awardFeeRate, now := reads.now }
      (settleBets s bets db {}).bind fun (db,paid) =>
      .ok (db.updatePrediction predictionId fun p =>
        { p with status := .settled, settledAt := reads.now, settledBy := adminId, totalPool := totalPool
                 winningPool := winningPool, totalPayout := paid.totalPayout, totalFee := paid.totalFee
                 winnerCount := winnerCount })

inductive Op where
  | exchangeQuotaToGameTokens (reads : Reads) (userId quota : Int) (requestId : String)
  | exchangeGameTokensToQuota (reads : Reads) (userId tokens : Int) (requestId : String)
  | placeGamePredictionBet (reads : Reads) (userId predictionId optionId amount : Int) (requestId : String)
  | setGamePredictionAnswer (reads : Reads) (predictionId optionId adminId : Int)
  | settleGamePrediction (reads : Reads) (predictionId adminId : Int)

def Op.reads : Op → Reads
  | .exchangeQuotaToGameTokens reads .. | .exchangeGameTokensToQuota reads .. | .placeGamePredictionBet reads ..
  | .setGamePredictionAnswer reads .. | .settleGamePrediction reads .. => reads

def exec (db : GameDB) : Op → GameDB×Bool
  | .exchangeQuotaToGameTokens reads userId quota requestId =>
    ((exchangeQuotaToGameTokens reads db userId quota requestId).1,
      (exchangeQuotaToGameTokens reads db userId quota requestId).2.isOk)
  | .exchangeGameTokensToQuota reads userId tokens requestId =>
    ((exchangeGameTokensToQuota reads db userId tokens requestId).1,
      (exchangeGameTokensToQuota reads db userId tokens requestId).2.isOk)
  | .placeGamePredictionBet reads userId predictionId optionId amount requestId =>
    ((placeGamePredictionBet reads db userId predictionId optionId amount requestId).1,
      (placeGamePredictionBet reads db userId predictionId optionId amount requestId).2.isOk)
  | .setGamePredictionAnswer reads predictionId optionId adminId =>
    (commit db (setGamePredictionAnswer reads db predictionId optionId adminId),
      (setGamePredictionAnswer reads db predictionId optionId adminId).isOk)
  | .settleGamePrediction reads predictionId adminId =>
    (commit db (settleGamePrediction reads db predictionId adminId),
      (settleGamePrediction reads db predictionId adminId).isOk)

def step (db : GameDB) (op : Op) : GameDB := (exec db op).1

end NewApi.Game

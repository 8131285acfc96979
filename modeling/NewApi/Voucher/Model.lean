import Mathlib.Data.List.Sort
import NewApi.Lib.GoStrings
import NewApi.Lib.Keyed
import NewApi.Lib.Runs

/-! Benefit vouchers: the tables and the transactions of `model/benefit_voucher.go`.
A table is the list of its rows in id order; a ledger row is addressed by its unique
index (voucher_id, request_id, type). Every transaction returns the new database or an
error, and an error leaves the database as it was. -/
namespace NewApi.Voucher
open GoStrings

inductive ActivityStatus where
  | draft | published | paused | ended | terminated
  deriving DecidableEq

inductive TerminateMode where
  | unused | all
  deriving DecidableEq

inductive ShareStatus where
  | available | claimed | voided | expired
  deriving DecidableEq

inductive VoucherStatus where
  | active | exhausted | expired | voided
  deriving DecidableEq

inductive LedgerType where
  | preConsume | settleDelta | settleRollback | refundAdditional | refund | void | expire
  deriving DecidableEq

inductive AmountMode where
  | fixed | random | unsupported (mode : String)
  deriving DecidableEq

structure ActivityPlan where
  name : String := ""
  amountMode : AmountMode := .fixed
  totalAmountCents : Int := 0
  totalQuota : Int := 0
  fixedQuota : Int := 0
  minQuota : Int := 0
  maxQuota : Int := 0
  totalCount : Int := 0
  fixedAmountCents : Int := 0
  minAmountCents : Int := 0
  maxAmountCents : Int := 0
  claimPaidThresholdCents : Int := 0
  personalValidSeconds : Int := 0
  deriving DecidableEq

structure BenefitActivity where
  id : Int
  groupId : Int
  status : ActivityStatus
  startsAt : Int
  endsAt : Int
  terminateMode : Option TerminateMode := none
  deleted : Bool := false
  plan : ActivityPlan := {}
  deriving DecidableEq

structure BenefitActivityShare where
  id : Int
  activityId : Int
  quota : Int
  status : ShareStatus
  amountCents : Int := 0
  claimedByUserId : Int := 0
  claimedVoucherId : Int := 0
  deriving DecidableEq

structure BenefitUserVoucher where
  id : Int
  activityId : Int
  userId : Int
  originalQuota : Int
  remainingQuota : Int
  usedQuota : Int
  status : VoucherStatus
  expiresAt : Int
  shareId : Int := 0
  originalAmountCents : Int := 0
  deriving DecidableEq

/-- The JSON object of `benefitVoucherCompensationMetadata`; a missing key is its zero.
`lastRefundVector` is the list that the text `"voucher=reserved,"...` spells out. -/
structure CompensationMetadata where
  reservedAfter : Int := 0
  requestedAmount : Int := 0
  requestedDelta : Int := 0
  actual : Int := 0
  originalRequestID : String := ""
  notRestored : Bool := false
  terminalStatus : Option VoucherStatus := none
  lastRefundAmount : Int := 0
  lastRefundVector : List (Int×Int) := []
  deriving DecidableEq

structure BenefitVoucherLedger where
  activityId : Int
  voucherId : Int
  userId : Int
  requestId : String
  type : LedgerType
  quotaDelta : Int
  balanceAfter : Int
  metadata : Option CompensationMetadata := none
  deriving DecidableEq

/-- `Updates` of a voucher: the new remaining quota and status, `used_quota + used`. -/
def BenefitUserVoucher.updates (remaining used : Int) (status : VoucherStatus)
    (w : BenefitUserVoucher) : BenefitUserVoucher :=
  { w with remainingQuota := remaining, usedQuota := w.usedQuota+used, status := status }

def BenefitVoucherLedger.updates (quotaDelta balanceAfter : Int) (l : BenefitVoucherLedger) :
    BenefitVoucherLedger :=
  { l with quotaDelta := quotaDelta, balanceAfter := balanceAfter }

abbrev LedgerKey := Int×String×LedgerType

def BenefitVoucherLedger.key (l : BenefitVoucherLedger) : LedgerKey :=
  (l.voucherId,l.requestId,l.type)

structure BenefitDB where
  users : List Int
  activities : List BenefitActivity
  shares : List BenefitActivityShare
  vouchers : List BenefitUserVoucher
  ledger : List BenefitVoucherLedger
  deriving DecidableEq

inductive BenefitError where
  | reserveParams          -- 福利券预扣参数无效
  | recordNotFound         -- gorm.ErrRecordNotFound
  | duplicatedKey          -- gorm.ErrDuplicatedKey
  | refundedTerminal       -- 福利券请求已退款终态，不能重复预扣
  | settledTerminal        -- 福利券请求已结算终态，不能追加预扣
  | voucherUnavailable     -- ErrBenefitVoucherUnavailable
  | refundAdditionalParams -- 福利券追加预扣退款参数无效
  | missingPreConsume      -- 福利券结算缺少预扣上下文
  | refundExceedsReserved  -- 福利券追加预扣退款超过预扣额度
  | blankRequestID         -- 福利券结算请求 ID 不能为空
  | settleAfterRefund      -- 福利券请求已进入退款终态，不能重复结算
  | settleMismatch         -- 福利券重复结算额度与原结算不一致
  | voucherDead            -- 福利券已失效
  | negativeActual         -- 福利券实际结算额度不能为负
  | balanceShort           -- 福利券余额不足以补扣
  | settleShort            -- 福利券结算额度不足
  | rollbackMismatch       -- 福利券结算补偿额度与原结算不一致
  | rollbackMissingPre     -- 福利券结算补偿缺少预扣流水
  | rollbackInvalid        -- 福利券结算补偿额度无效
  | rollbackBalance        -- 福利券结算补偿后余额无效
  | voidParams             -- 批量作废参数无效
  | voucherIdInvalid       -- 福利券 ID 必须为正整数
  | blankReason            -- 福利活动终止原因不能为空
  | transition             -- ErrBenefitActivityTransition
  | allocationParams       -- 福利券请求流水参数无效
  | queryParams            -- 福利券查询参数无效
  deriving DecidableEq

def maxInt64 : Int := 2 ^ 63-1

namespace BenefitDB
variable (db : BenefitDB)

def voucher? (id : Int) : Option BenefitUserVoucher :=
  Keyed.lookup BenefitUserVoucher.id id db.vouchers

def activity? (id : Int) : Option BenefitActivity :=
  Keyed.lookup BenefitActivity.id id db.activities

def updateVoucher (id : Int) (f : BenefitUserVoucher → BenefitUserVoucher) :
    BenefitDB :=
  { db with vouchers := Keyed.modify BenefitUserVoucher.id id f db.vouchers }

def row? (type : LedgerType) (requestID : String) (voucherID : Int) :
    Option BenefitVoucherLedger :=
  Keyed.lookup BenefitVoucherLedger.key (voucherID,requestID,type) db.ledger

def requestRows (requestID : String) (type : LedgerType) :
    List BenefitVoucherLedger :=
  db.ledger.filter fun l => l.requestId=requestID ∧ l.type=type

def updateLedger (k : LedgerKey)
    (f : BenefitVoucherLedger → BenefitVoucherLedger) : BenefitDB :=
  { db with ledger := Keyed.modify BenefitVoucherLedger.key k f db.ledger }

def createLedger (l : BenefitVoucherLedger) : Except BenefitError BenefitDB :=
  if (Keyed.lookup BenefitVoucherLedger.key l.key db.ledger).isSome then .error .duplicatedKey
  else .ok { db with ledger := db.ledger++[l] }

end BenefitDB

variable (db : BenefitDB) (requestID : String)

def benefitVoucherActivityAvailable (a : BenefitActivity) (now : Int) : Bool :=
  !a.deleted && ((decide (a.status=.published ∨ a.status=.paused) && decide (a.startsAt≤now) &&
        decide (a.endsAt>now)) ||
      (decide (a.status=.terminated) && decide (a.terminateMode=some .unused) &&
        decide (a.startsAt≤now) && decide (a.endsAt>now)) ||
      decide (a.status=.ended))

/-- The row of the join that the reservation, the settlement and the balance query share. -/
def voucherAvailable (db : BenefitDB) (userID groupID now : Int) (v : BenefitUserVoucher) : Bool :=
  decide (v.userId=userID) && decide (v.status=.active) && decide (v.remainingQuota>0) &&
    decide (v.expiresAt>now) &&
    match db.activity? v.activityId with
    | some a => decide (a.groupId=groupID) && benefitVoucherActivityAvailable a now
    | none => false

def availableVouchers (db : BenefitDB) (userID groupID now : Int) : List BenefitUserVoucher :=
  db.vouchers.filter (voucherAvailable db userID groupID now)

def voucherLe (v w : BenefitUserVoucher) : Prop :=
  v.expiresAt<w.expiresAt ∨ (v.expiresAt=w.expiresAt ∧ v.id≤w.id)

instance : DecidableRel voucherLe := fun v w =>
  inferInstanceAs (Decidable (v.expiresAt<w.expiresAt ∨ (v.expiresAt=w.expiresAt ∧ v.id≤w.id)))

def getBenefitVoucherAvailableQuota (db : BenefitDB) (userID groupID now : Int) :
    Except BenefitError Int :=
  if userID≤0 ∨ groupID≤0 then .error .queryParams
  else .ok ((availableVouchers db userID groupID now).map (·.remainingQuota)).sum

def terminal (s : VoucherStatus) : Bool := decide (s=.voided ∨ s=.expired)

def statusOf (balanceAfter : Int) : VoucherStatus :=
  if balanceAfter=0 then .exhausted else .active

structure BenefitVoucherReservation where
  voucherID : Int
  activityID : Int
  userID : Int
  reserved : Int
  balanceAfter : Int

def sumReserved (pres : List BenefitVoucherLedger) : Int := (pres.map (-·.quotaDelta)).sum

/-- One voucher of the reservation loop: draw `reserved` and write it to the
request's pre_consume row, the existing one or a new one. -/
def reserveVoucher (requestID : String) (userID : Int) (existing : List BenefitVoucherLedger)
    (v : BenefitUserVoucher) (reserved : Int) (db : BenefitDB) : Except BenefitError BenefitDB :=
  let balanceAfter := v.remainingQuota-reserved
  let db := db.updateVoucher v.id (·.updates balanceAfter 0 (statusOf balanceAfter))
  match existing.find? (fun pre => decide (pre.voucherId=v.id)) with
  | some pre => .ok (db.updateLedger pre.key (·.updates (pre.quotaDelta-reserved) balanceAfter))
  | none => db.createLedger
      { activityId := v.activityId, voucherId := v.id, userId := userID, requestId := requestID,
        type := .preConsume, quotaDelta := -reserved, balanceAfter := balanceAfter }

def reserveVouchers (requestID : String) (userID : Int) (existing : List BenefitVoucherLedger) :
    List BenefitUserVoucher → Int → Option BenefitVoucherReservation → BenefitDB →
    Except BenefitError (BenefitDB×Int×Option BenefitVoucherReservation)
  | [], remaining, first, db => .ok (db,remaining,first)
  | v :: vs, remaining, first, db =>
    if remaining≤0 then .ok (db,remaining,first) else
      let reserved := if v.remainingQuota>remaining then remaining else v.remainingQuota
      (reserveVoucher requestID userID existing v reserved db).bind fun db =>
        reserveVouchers requestID userID existing vs (remaining-reserved)
          (first.or (some { voucherID := v.id, activityID := v.activityId, userID := v.userId,
                            reserved := 0, balanceAfter := v.remainingQuota-reserved })) db

def lastReservation (existing : List BenefitVoucherLedger) (reservedTotal : Int) :
    Option BenefitVoucherReservation :=
  existing.getLast?.map fun last =>
    { voucherID := last.voucherId, activityID := last.activityId, userID := last.userId,
      reserved := reservedTotal, balanceAfter := last.balanceAfter }

def reserveBenefitVoucherQuota (userID groupID amount now : Int) :
    Except BenefitError (BenefitDB×Option BenefitVoucherReservation) :=
  if isBlank requestID ∨ userID≤0 ∨ groupID≤0 ∨ amount≤0 then .error .reserveParams
  else if userID∉db.users then .error .recordNotFound else
  let existing := (db.requestRows requestID .preConsume).filter fun l => decide (l.userId=userID)
  let reservedTotal := sumReserved existing
  if db.requestRows requestID .refund≠[] then .error .refundedTerminal
  else if db.requestRows requestID .settleDelta≠[] ∨ db.requestRows requestID .settleRollback≠[] then
    if amount=reservedTotal then .ok (db,lastReservation existing reservedTotal)
    else .error .settledTerminal
  else if amount≤reservedTotal then .ok (db,lastReservation existing reservedTotal)
  else
    let vouchers := (availableVouchers db userID groupID now).insertionSort voucherLe
    if vouchers=[] then .error .voucherUnavailable else
    (reserveVouchers requestID userID existing vouchers (amount-reservedTotal) none db).bind fun (db,remaining,first) =>
        if remaining>0 then .error .voucherUnavailable
        else .ok (db,first.map fun r => { r with reserved := amount })

def benefitVoucherRefundVector (pres : List BenefitVoucherLedger) : List (Int×Int) :=
  pres.map fun pre => (pre.voucherId, -pre.quotaDelta)

/-- Is a refund of `amount` the replay of the last one? `pres` oldest first, so its head
is the anchor row; the second test is the one for ledgers written before the anchor. -/
def refundReplayed (pres refunds : List BenefitVoucherLedger) (amount : Int) : Bool :=
  !refunds.isEmpty && (match pres with
      | [] => false
      | anchor::rest =>
        let m := anchor.metadata.getD {}
        (decide (m.lastRefundAmount=amount) &&
            decide (m.lastRefundVector=benefitVoucherRefundVector pres)) ||
          (rest.isEmpty && refunds.any fun refund =>
            decide (refund.voucherId=anchor.voucherId) &&
              match refund.metadata with
              | some m => decide (m.reservedAfter = -anchor.quotaDelta)
              | none => false))

def writeRefundAdditional (requestID : String) (refunds : List BenefitVoucherLedger)
    (pre : BenefitVoucherLedger) (refunded balanceAfter : Int) (restored : Bool)
    (m : CompensationMetadata) (db : BenefitDB) : Except BenefitError BenefitDB :=
  match refunds.find? (fun refund => decide (refund.voucherId=pre.voucherId)) with
  | some refund => .ok (db.updateLedger refund.key fun l =>
      if restored then
        { l with quotaDelta := l.quotaDelta+refunded, balanceAfter := balanceAfter, metadata := some m }
      else { l with metadata := some m })
  | none => db.createLedger
      { activityId := pre.activityId, voucherId := pre.voucherId, userId := pre.userId,
        requestId := requestID, type := .refundAdditional, quotaDelta := refunded,
        balanceAfter := balanceAfter, metadata := some m }

/-- One pre_consume row of the refund loop: returns the row as it then stands and the
amount counted as refunded. A voided or expired voucher gets nothing back. -/
def refundAdditionalRow (requestID : String) (amount remaining : Int)
    (refunds : List BenefitVoucherLedger) (pre : BenefitVoucherLedger) (db : BenefitDB) :
    Except BenefitError (BenefitDB×BenefitVoucherLedger×Int) :=
  let reserved := -pre.quotaDelta
  let refundAmount := if reserved>remaining then remaining else reserved
  match db.voucher? pre.voucherId with
  | none => .error .recordNotFound
  | some v =>
    if terminal v.status then (writeRefundAdditional requestID refunds pre 0 v.remainingQuota false
        { reservedAfter := reserved, requestedAmount := amount, requestedDelta := refundAmount,
          notRestored := true, terminalStatus := some v.status } db).bind fun db =>
        .ok (db,pre,refundAmount)
    else
      let balanceAfter := v.remainingQuota+refundAmount
      let db := db.updateVoucher v.id (·.updates balanceAfter 0 .active)
      let db := db.updateLedger pre.key (·.updates (-(reserved-refundAmount)) balanceAfter)
      (writeRefundAdditional requestID refunds pre refundAmount balanceAfter true
        { reservedAfter := reserved-refundAmount, requestedAmount := amount,
          requestedDelta := refundAmount } db).bind fun db =>
        .ok (db,pre.updates (-(reserved-refundAmount)) balanceAfter,refundAmount)

/-- The refund loop, newest pre_consume row first; the rows come back in the same order. -/
def refundAdditionalRows (requestID : String) (amount : Int) (refunds : List BenefitVoucherLedger) :
    List BenefitVoucherLedger → Int → BenefitDB →
    Except BenefitError (BenefitDB×List BenefitVoucherLedger×Int)
  | [], remaining, db => .ok (db,[],remaining)
  | pre :: pres, remaining, db =>
    if remaining≤0 then .ok (db,pre::pres,remaining) else
      (refundAdditionalRow requestID amount remaining refunds pre db).bind fun (db,pre',refunded) =>
        (refundAdditionalRows requestID amount refunds pres (remaining-refunded) db).bind
          fun (db,pres',remaining) => .ok (db,pre'::pres',remaining)

def refundBenefitVoucherAdditional (amount : Int) :
    Except BenefitError BenefitDB :=
  if isBlank requestID ∨ amount≤0 then .error .refundAdditionalParams else
  let pres := db.requestRows requestID .preConsume
  match pres with
  | [] => .error .missingPreConsume
  | anchor :: _ =>
    let refunds := db.requestRows requestID .refundAdditional
    if refundReplayed pres refunds amount then .ok db else
    (refundAdditionalRows requestID amount refunds pres.reverse amount db).bind fun (db,pres',remaining) =>
        if remaining>0 then .error .refundExceedsReserved
        else .ok (db.updateLedger anchor.key fun l =>
          { l with metadata := some { anchor.metadata.getD {} with
              lastRefundAmount := amount
              lastRefundVector := benefitVoucherRefundVector pres'.reverse } })

def settleRow (requestID : String) (pre : BenefitVoucherLedger) (remainingDelta : Int)
    (db : BenefitDB) : Except BenefitError (BenefitDB×Int) :=
  match db.voucher? pre.voucherId with
  | none => .error .recordNotFound
  | some v =>
    if terminal v.status then .error .voucherDead else
    let reserved := -pre.quotaDelta
    let localDelta :=
      if remainingDelta>0 then
        if remainingDelta>v.remainingQuota then v.remainingQuota else remainingDelta
      else if remainingDelta<0 then
        if -remainingDelta>reserved then -reserved else remainingDelta
      else 0
    let actual := reserved+localDelta
    let balanceAfter := v.remainingQuota-localDelta
    if actual<0 then .error .negativeActual
    else if balanceAfter<0 then .error .balanceShort else
    let db := db.updateVoucher v.id (·.updates balanceAfter actual (statusOf balanceAfter))
    (db.createLedger
      { activityId := pre.activityId, voucherId := pre.voucherId, userId := pre.userId,
        requestId := requestID, type := .settleDelta, quotaDelta := -localDelta,
        balanceAfter := balanceAfter }).bind fun db => .ok (db,remainingDelta-localDelta)

def settleRows (requestID : String) :
    List BenefitVoucherLedger → Int → BenefitDB → Except BenefitError (BenefitDB×Int)
  | [], remainingDelta, db => .ok (db,remainingDelta)
  | pre::pres, remainingDelta, db =>
    (settleRow requestID pre remainingDelta db).bind fun (db,rest) =>
      settleRows requestID pres rest db

/-- A positive difference may fall on vouchers of the group that the request has not
drawn yet: they get a pre_consume row over nothing. -/
def addZeroPres (requestID : String) (known : List Int) :
    List BenefitUserVoucher → BenefitDB → Except BenefitError BenefitDB
  | [], db => .ok db
  | v :: vs, db =>
    if v.id∈known then addZeroPres requestID known vs db else (db.createLedger
        { activityId := v.activityId, voucherId := v.id, userId := v.userId, requestId := requestID,
          type := .preConsume, quotaDelta := 0, balanceAfter := v.remainingQuota }).bind fun db =>
        addZeroPres requestID (v.id::known) vs db

def settlementPres (pres : List BenefitVoucherLedger)
    (delta now : Int) : Except BenefitError BenefitDB :=
  match pres with
  | [] => .ok db
  | pre :: _ =>
    if delta>0 then
      match db.activity? pre.activityId with
      | none => .error .recordNotFound
      | some a =>
        if a.deleted then .error .recordNotFound else
        addZeroPres requestID (pres.map (·.voucherId))
          ((availableVouchers db pre.userId a.groupId now).insertionSort voucherLe) db
    else .ok db

/-- `SettleBenefitVoucherQuota`. New pre_consume rows are the newest ones, so the rows to
settle are read again from the ledger. -/
def settleBenefitVoucherQuota (delta now : Int) :
    Except BenefitError BenefitDB :=
  if isBlank requestID then .error .blankRequestID else
  let pres := db.requestRows requestID .preConsume
  let settled := db.requestRows requestID .settleDelta
  if pres=[] then .ok db
  else if db.requestRows requestID .refund≠[] ∨ db.requestRows requestID .settleRollback≠[] then
    .error .settleAfterRefund
  else if settled≠[] then
    if sumReserved settled≠delta then .error .settleMismatch else .ok db
  else (settlementPres db requestID pres delta now).bind fun db =>
      let pres := db.requestRows requestID .preConsume
      (settleRows requestID (if delta<0 then pres.reverse else pres) delta db).bind
        fun (db,rest) => if rest≠0 then .error .settleShort else .ok db

def rollbackRow (requestID : String) (pres : List BenefitVoucherLedger)
    (settled : BenefitVoucherLedger) (db : BenefitDB) : Except BenefitError BenefitDB :=
  match pres.find? (fun pre => decide (pre.voucherId=settled.voucherId)) with
  | none => .error .rollbackMissingPre
  | some pre =>
    match db.voucher? pre.voucherId with
    | none => .error .recordNotFound
    | some v =>
      let localDelta := -settled.quotaDelta
      let actual := -pre.quotaDelta+localDelta
      let balanceAfter := v.remainingQuota+localDelta
      if actual<0 ∨ v.usedQuota<actual then .error .rollbackInvalid
      else if balanceAfter<0 ∨ balanceAfter>maxInt64 then .error .rollbackBalance
      else if terminal v.status then
        db.createLedger
          { activityId := pre.activityId, voucherId := pre.voucherId, userId := pre.userId,
            requestId := requestID, type := .settleRollback, quotaDelta := 0,
            balanceAfter := v.remainingQuota,
            metadata := some { requestedDelta := localDelta, actual := actual,
                               originalRequestID := requestID, notRestored := true,
                               terminalStatus := some v.status } }
      else (db.updateVoucher v.id (·.updates balanceAfter (-actual) (statusOf balanceAfter))).createLedger
          { activityId := pre.activityId, voucherId := pre.voucherId, userId := pre.userId,
            requestId := requestID, type := .settleRollback, quotaDelta := localDelta,
            balanceAfter := balanceAfter,
            metadata := some { originalRequestID := requestID } }

def rollbackRows (requestID : String) (pres : List BenefitVoucherLedger) :
    List BenefitVoucherLedger → BenefitDB → Except BenefitError BenefitDB
  | [], db => .ok db
  | settled::rest, db =>
    (rollbackRow requestID pres settled db).bind fun db => rollbackRows requestID pres rest db

def rollbackBenefitVoucherSettlement (delta : Int) :
    Except BenefitError BenefitDB :=
  if isBlank requestID then .error .blankRequestID else
  let pres := db.requestRows requestID .preConsume
  let settled := db.requestRows requestID .settleDelta
  if pres=[] ∨ settled=[] ∨ db.requestRows requestID .settleRollback≠[] then .ok db
  else if sumReserved settled≠delta then .error .rollbackMismatch
  else rollbackRows requestID pres settled db

def refundRow (requestID : String) (pre : BenefitVoucherLedger) (db : BenefitDB) :
    Except BenefitError BenefitDB :=
  match db.voucher? pre.voucherId with
  | none => .error .recordNotFound
  | some v =>
    let refund := -pre.quotaDelta
    if terminal v.status then
      db.createLedger
        { activityId := pre.activityId, voucherId := pre.voucherId, userId := pre.userId,
          requestId := requestID, type := .refund, quotaDelta := 0, balanceAfter := v.remainingQuota,
          metadata := some { notRestored := true, terminalStatus := some v.status } }
    else
      let balanceAfter := v.remainingQuota+refund
      (db.updateVoucher v.id (·.updates balanceAfter 0
        (if v.usedQuota>0 ∧ balanceAfter=0 then .exhausted else .active))).createLedger
        { activityId := pre.activityId, voucherId := pre.voucherId, userId := pre.userId,
          requestId := requestID, type := .refund, quotaDelta := refund,
          balanceAfter := balanceAfter }

def refundRows (requestID : String) :
    List BenefitVoucherLedger → BenefitDB → Except BenefitError BenefitDB
  | [], db => .ok db
  | pre::pres, db => (refundRow requestID pre db).bind fun db => refundRows requestID pres db

def refundBenefitVoucherQuota : Except BenefitError BenefitDB :=
  if isBlank requestID then .error .blankRequestID else
  let pres := db.requestRows requestID .preConsume
  let settledCount := (db.requestRows requestID .settleDelta).length
  let rollbackCount := (db.requestRows requestID .settleRollback).length
  if pres=[] ∨ db.requestRows requestID .refund≠[] then .ok db
  else if settledCount>0 ∧ rollbackCount<settledCount then .ok db
  else refundRows requestID pres db

def closeVoucher (v : BenefitUserVoucher) (status : VoucherStatus) (remaining : Int)
    (requestID : String) (type : LedgerType) (db : BenefitDB) : Except BenefitError BenefitDB :=
  (db.updateVoucher v.id (·.updates remaining 0 status)).createLedger
    { activityId := v.activityId, voucherId := v.id, userId := v.userId, requestId := requestID,
      type := type, quotaDelta := -v.remainingQuota, balanceAfter := 0 }

def voidVouchers (operatorID now : Int) : List Int → BenefitDB → Except BenefitError BenefitDB
  | [], db => .ok db
  | id::ids, db =>
    match db.voucher? id with
    | none => voidVouchers operatorID now ids db
    | some v =>
      if v.status≠.active ∨ v.remainingQuota≤0 then voidVouchers operatorID now ids db else
      (closeVoucher v .voided 0
        ("admin-void:" ++ toString operatorID++":" ++ toString now++":" ++ toString v.id) .void db).bind
        fun db => voidVouchers operatorID now ids db

def voidBenefitVouchers (db : BenefitDB) (ids : List Int) (operatorID : Int) (reason : String)
    (now : Int) : Except BenefitError BenefitDB :=
  if ids=[] ∨ operatorID≤0 ∨ isBlank reason then .error .voidParams
  else if ids.any (fun id => decide (id≤0)) then .error .voucherIdInvalid
  else voidVouchers operatorID now ids.eraseDups db

def closeVouchers (status : VoucherStatus) (type : LedgerType)
    (requestID : BenefitUserVoucher → String) (remaining : BenefitUserVoucher → Int) :
    List BenefitUserVoucher → BenefitDB → Except BenefitError BenefitDB
  | [], db => .ok db
  | v :: vs, db =>
    (closeVoucher v status (remaining v) (requestID v) type db).bind fun db =>
      closeVouchers status type requestID remaining vs db

def moveShares (activityID : Int) (target : ShareStatus) (db : BenefitDB) : BenefitDB :=
  { db with shares := db.shares.map fun s =>
      if s.activityId=activityID ∧ s.status=.available then { s with status := target } else s }

def updateActivity (activityID : Int) (f : BenefitActivity → BenefitActivity) (db : BenefitDB) : BenefitDB :=
  { db with activities := Keyed.modify BenefitActivity.id activityID f db.activities }

def terminateBenefitActivity (db : BenefitDB) (activityID : Int) (mode : TerminateMode)
    (reason : String) (now : Int) : Except BenefitError BenefitDB :=
  if isBlank reason then .error .blankReason else
  match db.activity? activityID with
  | none => .error .recordNotFound
  | some a =>
    if a.deleted then .error .recordNotFound
    else if a.status≠.published ∧ a.status≠.paused then .error .transition else
    let db := moveShares activityID .voided db
    let finish := updateActivity activityID fun a =>
      { a with status := .terminated, terminateMode := some mode }
    match mode with
    | .unused => .ok (finish db)
    | .all =>
      (closeVouchers .voided .void (fun _ => "void:" ++ toString now) (fun _ => 0) (db.vouchers.filter fun v =>
          decide (v.activityId=activityID ∧ (v.status=.active ∨ v.status=.exhausted))) db).bind
        fun db => .ok (finish db)

def expireBenefitActivityRecordsTx (db : BenefitDB) (activityID now : Int) :
    Except BenefitError BenefitDB :=
  match db.activity? activityID with
  | none => .error .recordNotFound
  | some a =>
    let db :=
      if (a.status=.published ∨ a.status=.paused) ∧ a.endsAt≤now then
        moveShares activityID .expired (updateActivity activityID (fun a => { a with status := .ended }) db)
      else db
    closeVouchers .expired .expire (fun v => "expire:" ++ toString v.expiresAt) (·.remainingQuota)
      (db.vouchers.filter fun v =>
        decide (v.activityId=activityID ∧ v.status=.active ∧ v.expiresAt≤now)) db

structure BenefitVoucherRequestAllocation where
  activityID : Int
  voucherID : Int
  quota : Int

def getBenefitVoucherRequestAllocations :
    Except BenefitError (List BenefitVoucherRequestAllocation) :=
  if isBlank requestID then .error .allocationParams else
  let ledgers := db.ledger.filter fun l => l.requestId=requestID ∧
    (l.type=.preConsume ∨ l.type=.settleDelta ∨ l.type=.settleRollback)
  if db.requestRows requestID .refund≠[] then .ok [] else
  let entry := fun v : Int =>
    let rows := ledgers.filter fun l => decide (l.voucherId=v)
    { activityID := (rows.getLast?.map (·.activityId)).getD 0, voucherID := v,
      quota := sumReserved rows : BenefitVoucherRequestAllocation }
  .ok ((((ledgers.map (·.voucherId)).dedup.map entry).filter fun e => decide (e.quota>0)).insertionSort
    fun a b => a.voucherID≤b.voucherID)

end NewApi.Voucher

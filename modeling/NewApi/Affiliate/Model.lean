import Mathlib.Data.List.Sort
import NewApi.Lib.GoStrings
import NewApi.Lib.Keyed
import NewApi.Lib.Runs

/-! Affiliate rewards: the tables and the transactions of `model/affiliate.go`, `model/affiliate_risk.go`
and `model/affiliate_fraud.go`. A table with a unique `user_id` is a map from it; the other tables are
lists in id order. The clock and the settings a call reads are arguments of the call. -/
namespace NewApi.Affiliate
open Runs GoStrings

inductive RecordStatus where
  | pending | available | confiscated
  deriving DecidableEq

inductive WithdrawalStatus where
  | pending | approved | paid | rejected
  deriving DecidableEq

inductive RiskStatus where
  | active | removed
  deriving DecidableEq

inductive AlertStatus where
  | detected | resolved | dismissed
  deriving DecidableEq

inductive PayoutMethod where
  | usdt | alipay | wechat

inductive SourceType where
  | topup | subscription | redemption
  deriving DecidableEq

structure User where
  id : Int
  quota : Int := 0
  affCode : String := ""
  affQuota : Int := 0
  affHistory : Int := 0
  affCount : Int := 0
  inviterId : Int := 0
  deriving DecidableEq

structure AffiliateRecord where
  userId : Int
  inviteeId : Int
  level : Int
  sourceType : SourceType
  sourceId : String
  sourceQuota : Int
  rewardQuota : Int
  ratio : Int
  status : RecordStatus
  balanceAfterQuota : Int := 0
  availableTime : Int
  settledTime : Int := 0

structure AffiliateBalance where
  userId : Int
  pendingQuota : Int := 0
  availableQuota : Int := 0
  frozenQuota : Int := 0
  riskFrozenQuota : Int := 0
  confiscatedQuota : Int := 0
  withdrawnQuota : Int := 0
  transferredQuota : Int := 0
  totalQuota : Int := 0
  deriving DecidableEq

structure AffiliateWithdrawal where
  id : Int
  userId : Int
  quota : Int
  status : WithdrawalStatus
  adminId : Int := 0
  adminRemark : String := ""
  approvedTime : Int := 0
  paidTime : Int := 0
  rejectedTime : Int := 0

structure AffiliateRiskUser where
  id : Int
  status : RiskStatus := .active
  freezeAssets : Bool := false
  blockInviteCode : Bool := false
  detachedInvitees : Bool := false
  clearedQuota : Int := 0
  reason : String := ""
  adminId : Int := 0
  removedBy : Int := 0
  removeRemark : String := ""
  removedAt : Int := 0

structure AffiliateRiskDetachedInvitee where
  riskUserId : Int
  userId : Int
  inviteeId : Int
  restored : Bool := false
  restoredAt : Int := 0

structure AffiliateFraudAlert where
  id : Int
  inviterId : Int
  inviteeId : Int
  status : AlertStatus := .detected
  clawbackQuota : Int := 0
  adminId : Int := 0
  resolvedAt : Int := 0

structure AffiliateDB where
  users : List User
  balances : Int → Option AffiliateBalance := fun _ => none
  records : List AffiliateRecord := []
  withdrawals : List AffiliateWithdrawal := []
  risks : Int → Option AffiliateRiskUser := fun _ => none
  nextRiskId : Int := 1
  detached : List AffiliateRiskDetachedInvitee := []
  alerts : List AffiliateFraudAlert := []

inductive Invariant where
  | pending | frozen | total | frozenWithdrawal

inductive AffiliateError where
  | invalidUserId | recordNotFound | rewardOverflow | violated (invariant : Invariant)
  | quotaNotPositive | invalidPayout | invalidMinimum | minimumOutOfRange | belowMinimum (amount : Int)
  | invalidMethod | methodDisabled | payoutAccountMissing (method : PayoutMethod) | assetsFrozenWithdrawal | insufficientWithdrawal
  | invalidWithdrawalId | withdrawalClosed | approvalNotAllowed | invalidWithdrawalStatus
  | transferNotPositive | assetsFrozenTransfer | insufficientTransfer | topUpQuotaLimitExceeded
  | activeWithdrawals | userNotFound | noAction | reasonRequired | riskNotFound | alertNotFound
  | emptyAffCode | inviteeNotFound | inviterNotFound | ambiguousAffCode | affCodeBlocked | selfInvite
  | inviterBound | inviteCycle | chainUserMissing | chainTooDeep

def maxWalletQuota : Int := 2 ^ 63-1

namespace AffiliateDB

def user? (db : AffiliateDB) (id : Int) : Option User := Keyed.lookup User.id id db.users

def updateUser (db : AffiliateDB) (id : Int) (f : User → User) : AffiliateDB :=
  { db with users := Keyed.modify User.id id f db.users }

end AffiliateDB

variable (db : AffiliateDB) (userId : Int)

def seedBalance (legacy : User) : AffiliateBalance :=
  let available := if legacy.affQuota<0 then 0 else legacy.affQuota
  let total := if legacy.affHistory<available then available else legacy.affHistory
  { userId := legacy.id, availableQuota := available, transferredQuota := total-available, totalQuota := total }

def normalizeTotalQuotaFloor (b : AffiliateBalance) : AffiliateBalance×Bool :=
  let minTotal := b.pendingQuota+b.availableQuota+b.frozenQuota+b.riskFrozenQuota+b.withdrawnQuota + b.transferredQuota
  if b.totalQuota≥minTotal then (b,false) else ({ b with totalQuota := minTotal },true)

/-- `saveAffiliateBalanceTx`, with the legacy mirror of `syncLegacyAffiliateBalanceTx`. -/
def saveAffiliateBalanceTx (b : AffiliateBalance) : AffiliateDB :=
  { db.updateUser b.userId fun u => { u with affQuota := b.availableQuota, affHistory := b.totalQuota } with
    balances := Function.update db.balances b.userId (some b) }

def getAffiliateBalanceForUpdateTx :
    Except AffiliateError (AffiliateDB×AffiliateBalance) :=
  if userId≤0 then .error .invalidUserId else
  match db.user? userId with
  | none => .error .recordNotFound
  | some legacy =>
    let (db,row) := match db.balances userId with
      | some row => (db,row)
      | none =>
        let seed := seedBalance legacy
        ({ db with balances := Function.update db.balances userId (some seed) },seed)
    match normalizeTotalQuotaFloor row with
    | (b,true) => .ok (saveAffiliateBalanceTx db b,b)
    | (b,false) => .ok (db,b)

def queryAffiliateUserAssetsFrozenTx : Bool :=
  match db.risks userId with
  | some risk => decide (userId>0) && decide (risk.status=.active) && risk.freezeAssets
  | none => false

def affiliateBalanceSnapshotQuota (b : AffiliateBalance) : Int :=
  b.pendingQuota+b.availableQuota+b.frozenQuota+b.riskFrozenQuota

def rewardRatioInvalid (ratio : Int) : Bool := decide (ratio≤0 ∨ ratio>100)

def AffiliateRecord.sameSource (r : AffiliateRecord) (sourceType : SourceType) (sourceId : String)
    (userId level : Int) : Bool :=
  decide (r.sourceType=sourceType ∧ r.sourceId=sourceId ∧ r.userId=userId ∧ r.level=level)

/-- `delay` is the settlement delay of the settings. -/
def createAffiliateRewardRecordTx (userId inviteeId level : Int) (sourceType : SourceType)
    (sourceId : String) (sourceQuota ratio now delay : Int) : Except AffiliateError AffiliateDB :=
  if userId≤0 ∨ rewardRatioInvalid ratio then .ok db
  else if sourceQuota>maxWalletQuota.tdiv ratio then .error .rewardOverflow else
  let rewardQuota := (sourceQuota*ratio).tdiv 100
  if rewardQuota≤0 then .ok db
  else if db.records.any (·.sameSource sourceType sourceId userId level) then .ok db else
  (getAffiliateBalanceForUpdateTx db userId).bind fun (db,balance) =>
    let balance := { balance with
      pendingQuota := balance.pendingQuota+rewardQuota
      totalQuota := balance.totalQuota+rewardQuota }
    let record : AffiliateRecord :=
      { userId := userId, inviteeId := inviteeId, level := level, sourceType := sourceType, sourceId := sourceId
        sourceQuota := sourceQuota, rewardQuota := rewardQuota, ratio := ratio, status := .pending
        balanceAfterQuota := affiliateBalanceSnapshotQuota balance, availableTime := now+delay }
    .ok (saveAffiliateBalanceTx { db with records := db.records++[record] } balance)

/-- Is the record pending and due, for the user of the call or, for `userId ≤ 0`, for anyone? -/
def AffiliateRecord.mature (r : AffiliateRecord) (userId now : Int) : Bool :=
  decide (r.status=.pending ∧ r.availableTime≤now ∧ (userId>0 → r.userId=userId))

def matureUsers (userId now : Int) : List Int :=
  (((db.records.filter (·.mature userId now)).map (·.userId)).dedup).insertionSort (· ≤ ·)

def loadBalances (db : AffiliateDB) : List Int → Except AffiliateError AffiliateDB
  | [] => .ok db
  | uid::uids => (getAffiliateBalanceForUpdateTx db uid).bind fun (db,_) => loadBalances db uids

/-- The last loop of the settlement: what came due moves out of the pending quota. -/
def creditSettled (quotaByUser : Int → Int) (db : AffiliateDB) : List Int → Except AffiliateError AffiliateDB
  | [] => .ok db
  | uid :: uids =>
    if quotaByUser uid=0 then creditSettled quotaByUser db uids else
    match db.balances uid with
    | none => .error .recordNotFound
    | some balance =>
      if balance.pendingQuota<quotaByUser uid then .error (.violated .pending) else
      let balance := { balance with pendingQuota := balance.pendingQuota-quotaByUser uid }
      let balance := if queryAffiliateUserAssetsFrozenTx db uid then
          { balance with riskFrozenQuota := balance.riskFrozenQuota+quotaByUser uid }
        else { balance with availableQuota := balance.availableQuota+quotaByUser uid }
      creditSettled quotaByUser (saveAffiliateBalanceTx db balance) uids

def settleMatureAffiliateRecordsTx (userId now : Int) : Except AffiliateError AffiliateDB :=
  if matureUsers db userId now=[] then .ok db else
  (loadBalances db (matureUsers db userId now)).bind fun loaded =>
    creditSettled
      (fun uid => ((db.records.filter fun r => r.mature userId now && decide (r.userId=uid)).map (·.rewardQuota)).sum)
      { loaded with records := loaded.records.map fun r =>
          if r.mature userId now then { r with status := .available, settledTime := now } else r }
      (matureUsers db userId now)

/-- The minimum the settings ask for, as a quota; its conversion is not modelled. -/
inductive MinimumWithdrawal where
  | unset | invalid | outOfRange | atLeast (amount quota : Int)

structure AffiliatePayoutAccount where
  usdtAddress : String := ""
  alipayAccount : String := ""
  alipayQrPath : String := ""
  wechatAccount : String := ""
  wechatQrPath : String := ""

/-- What a withdrawal is asked with: `payoutValid` says that its amounts and currencies are in order, and
no `method` stands for an unknown one. -/
structure WithdrawalRequest where
  quota : Int
  payoutValid : Bool := true
  minimum : MinimumWithdrawal := .unset
  method : Option PayoutMethod := some .usdt
  methodEnabled : Bool := true
  account : AffiliatePayoutAccount := {}

def checkWithdrawal (req : WithdrawalRequest) : Except AffiliateError PayoutMethod :=
  if req.quota≤0 then .error .quotaNotPositive
  else if req.payoutValid=false then .error .invalidPayout else
  let method := match req.method with
    | none => .error .invalidMethod
    | some method => if req.methodEnabled then .ok method else .error .methodDisabled
  match req.minimum with
  | .unset => method
  | .invalid => .error .invalidMinimum
  | .outOfRange => .error .minimumOutOfRange
  | .atLeast amount quota => if req.quota<quota then .error (.belowMinimum amount) else method

def payoutAccountReady (account : AffiliatePayoutAccount) : PayoutMethod → Bool
  | .usdt => !isBlank account.usdtAddress
  | .alipay => !(isBlank account.alipayAccount && isBlank account.alipayQrPath)
  | .wechat => !(isBlank account.wechatAccount && isBlank account.wechatQrPath)

def createAffiliateWithdrawalTx (method : PayoutMethod) (req : WithdrawalRequest) :
    Except AffiliateError AffiliateDB :=
  (getAffiliateBalanceForUpdateTx db userId).bind fun (db,balance) =>
    if queryAffiliateUserAssetsFrozenTx db userId then .error .assetsFrozenWithdrawal
    else if balance.availableQuota<req.quota then .error .insufficientWithdrawal
    else if payoutAccountReady req.account method=false then .error (.payoutAccountMissing method) else
    let withdrawal : AffiliateWithdrawal :=
      { id := db.withdrawals.length+1, userId := userId, quota := req.quota, status := .pending }
    .ok (saveAffiliateBalanceTx { db with withdrawals := db.withdrawals++[withdrawal] } { balance with
      availableQuota := balance.availableQuota-req.quota
      frozenQuota := balance.frozenQuota+req.quota })

def updateAffiliateWithdrawalStatus (withdrawalId adminId : Int) (remark : String)
    (target : WithdrawalStatus) (now : Int) : Except AffiliateError AffiliateDB :=
  if withdrawalId≤0 then .error .invalidWithdrawalId else
  match Keyed.lookup AffiliateWithdrawal.id withdrawalId db.withdrawals with
  | none => .error .recordNotFound
  | some withdrawal =>
    (getAffiliateBalanceForUpdateTx db withdrawal.userId).bind fun (db,balance) =>
      let finish := fun (stamp : AffiliateWithdrawal → AffiliateWithdrawal) (balance : AffiliateBalance) =>
        (.ok (saveAffiliateBalanceTx { db with
          withdrawals := Keyed.modify AffiliateWithdrawal.id withdrawalId
            (fun w => stamp { w with adminId := adminId, adminRemark := trimSpace remark, status := target })
            db.withdrawals } balance) : Except AffiliateError AffiliateDB)
      if withdrawal.status=target then .ok db
      else if withdrawal.status=.paid ∨ withdrawal.status=.rejected then .error .withdrawalClosed
      else if target=.approved ∧ withdrawal.status≠.pending then .error .approvalNotAllowed else
      match target with
      | .approved => finish (fun w => { w with approvedTime := now }) balance
      | .rejected =>
        if balance.frozenQuota<withdrawal.quota then .error (.violated .frozen) else
        finish (fun w => { w with rejectedTime := now }) { balance with
          frozenQuota := balance.frozenQuota-withdrawal.quota
          availableQuota := balance.availableQuota+withdrawal.quota }
      | .paid =>
        if balance.frozenQuota<withdrawal.quota then .error (.violated .frozen) else
        finish (fun w => { w with paidTime := now }) { balance with
          frozenQuota := balance.frozenQuota-withdrawal.quota
          withdrawnQuota := balance.withdrawnQuota+withdrawal.quota }
      | .pending => .error .invalidWithdrawalStatus

def transferAffiliateQuotaTx (userId quota : Int) : Except AffiliateError AffiliateDB :=
  (getAffiliateBalanceForUpdateTx db userId).bind fun (db,balance) =>
    if queryAffiliateUserAssetsFrozenTx db userId then .error .assetsFrozenTransfer
    else if balance.availableQuota<quota then .error .insufficientTransfer else
    match db.user? userId with
    | none => .error .recordNotFound
    | some user =>
      if user.quota>maxWalletQuota-quota then .error .topUpQuotaLimitExceeded else
      .ok (saveAffiliateBalanceTx (db.updateUser userId fun u => { u with quota := u.quota+quota }) { balance with
        availableQuota := balance.availableQuota-quota
        transferredQuota := balance.transferredQuota+quota })

def freezeAffiliateAssetsTx : Except AffiliateError AffiliateDB :=
  (getAffiliateBalanceForUpdateTx db userId).bind fun (db,balance) =>
    if balance.availableQuota≤0 then .ok (saveAffiliateBalanceTx db balance)
    else .ok (saveAffiliateBalanceTx db { balance with
      availableQuota := 0
      riskFrozenQuota := balance.riskFrozenQuota+balance.availableQuota })

def unfreezeAffiliateAssetsTx : Except AffiliateError AffiliateDB :=
  (getAffiliateBalanceForUpdateTx db userId).bind fun (db,balance) =>
    if balance.riskFrozenQuota≤0 then .ok db
    else .ok (saveAffiliateBalanceTx db { balance with
      riskFrozenQuota := 0
      availableQuota := balance.availableQuota+balance.riskFrozenQuota })

def AffiliateWithdrawal.open (w : AffiliateWithdrawal) : Bool :=
  decide (w.status=.pending ∨ w.status=.approved)

def clearAffiliateAssetsTx (userId adminId now : Int) :
    Except AffiliateError (AffiliateDB×Int) :=
  (getAffiliateBalanceForUpdateTx db userId).bind fun (db,balance) =>
    let cleared := balance.pendingQuota+balance.availableQuota+balance.riskFrozenQuota+balance.frozenQuota
    if cleared≤0 then .ok (db,cleared) else
    let withdrawals := db.withdrawals.map fun w =>
      if w.userId=userId ∧ w.open then
        { w with status := .rejected, adminId := adminId, adminRemark := "返佣风控清空资产", rejectedTime := now }
      else w
    let records := db.records.map fun r =>
      if r.userId=userId ∧ r.status=.pending then { r with status := .confiscated, settledTime := now } else r
    if balance.totalQuota<cleared then .error (.violated .total) else
    .ok (saveAffiliateBalanceTx { db with withdrawals := withdrawals, records := records } { balance with
      pendingQuota := 0
      availableQuota := 0
      riskFrozenQuota := 0
      frozenQuota := 0
      confiscatedQuota := balance.confiscatedQuota+cleared
      totalQuota := balance.totalQuota-cleared },cleared)

def AffiliateRecord.recoverable (r : AffiliateRecord) (inviterId inviteeId : Int) : Bool :=
  decide (r.userId=inviterId ∧ r.inviteeId=inviteeId ∧ (r.status=.pending ∨ r.status=.available))

def clawbackEarnings (inviterId inviteeId now : Int) :
    Except AffiliateError (AffiliateDB×Int) :=
  (getAffiliateBalanceForUpdateTx db inviterId).bind fun (db,balance) =>
    if db.withdrawals.any fun w => decide (w.userId=inviterId) && w.open then .error .activeWithdrawals
    else if balance.frozenQuota≠0 then .error (.violated .frozenWithdrawal) else
    let selected := db.records.filter (·.recoverable inviterId inviteeId)
    if selected=[] then .ok (db,0) else
    let records := db.records.map fun r =>
      if r.recoverable inviterId inviteeId then { r with status := .confiscated, settledTime := now } else r
    let pendingQuota := ((selected.filter fun r => decide (r.status=.pending)).map (·.rewardQuota)).sum
    let availableQuota := ((selected.filter fun r => decide (r.status≠.pending)).map (·.rewardQuota)).sum
    if balance.pendingQuota<pendingQuota then .error (.violated .pending) else
    let fromAvailable := if availableQuota>balance.availableQuota then balance.availableQuota else availableQuota
    let remaining := availableQuota-fromAvailable
    let fromRiskFrozen := if remaining>balance.riskFrozenQuota then balance.riskFrozenQuota else remaining
    let recovered := pendingQuota+fromAvailable+fromRiskFrozen
    if balance.totalQuota<recovered then .error (.violated .total) else
    .ok (saveAffiliateBalanceTx { db with records := records } { balance with
      pendingQuota := balance.pendingQuota-pendingQuota
      availableQuota := balance.availableQuota-fromAvailable
      riskFrozenQuota := balance.riskFrozenQuota-fromRiskFrozen
      confiscatedQuota := balance.confiscatedQuota+recovered
      totalQuota := balance.totalQuota-recovered },recovered)

/-- An active row is taken as it is, a removed one is reopened. -/
def getOrCreateActiveAffiliateRiskUserTx : AffiliateDB×AffiliateRiskUser :=
  match db.risks userId with
  | some risk =>
    if risk.status=.active then (db,risk) else
    let reopened := { risk with
      status := .active, freezeAssets := false, blockInviteCode := false, removedBy := 0, removeRemark := ""
      removedAt := 0 }
    ({ db with risks := Function.update db.risks userId (some reopened) },reopened)
  | none =>
    let risk : AffiliateRiskUser := { id := db.nextRiskId }
    ({ db with risks := Function.update db.risks userId (some risk), nextRiskId := db.nextRiskId+1 },risk)

def snapshotDetached (riskUserId userId : Int) (detached : List AffiliateRiskDetachedInvitee) (inviteeId : Int) :
    List AffiliateRiskDetachedInvitee :=
  if detached.any fun d => decide (d.riskUserId=riskUserId ∧ d.inviteeId=inviteeId) then
    detached.map fun d =>
      if d.riskUserId=riskUserId ∧ d.inviteeId=inviteeId then { d with restored := false, restoredAt := 0 } else d
  else detached++[{ riskUserId := riskUserId, userId := userId, inviteeId := inviteeId }]

def AffiliateDB.invitees : List User :=
  db.users.filter fun u => decide (u.inviterId=userId)

def detachAffiliateInviteesTx (riskUserId userId : Int) : AffiliateDB×Int :=
  let invitees := db.invitees userId
  if invitees=[] then (db,0) else
  let n : Int := invitees.length
  ({ db with
      detached := invitees.foldl (fun detached u => snapshotDetached riskUserId userId detached u.id) db.detached
      users := Keyed.modify User.id userId (fun u => { u with affCount := if u.affCount≥n then u.affCount-n else 0 })
        (db.users.map fun u => if u.inviterId=userId then { u with inviterId := 0 } else u) },n)

/-- The loop of `restoreAffiliateDetachedInviteesTx` over the snapshots that are not restored yet. -/
def restoreLoop (userId now : Int) : List AffiliateRiskDetachedInvitee → AffiliateDB → Int → AffiliateDB×Int
  | [], db, restored => (db,restored)
  | row :: rows, db, restored =>
    match db.user? row.inviteeId with
    | some invitee =>
      if invitee.inviterId≠0 then restoreLoop userId now rows db restored else
      restoreLoop userId now rows { db.updateUser row.inviteeId fun u => { u with inviterId := userId } with
        detached := db.detached.map fun d =>
          if d.riskUserId=row.riskUserId ∧ d.inviteeId=row.inviteeId then
            { d with restored := true, restoredAt := now } else d } (restored+1)
    | none => restoreLoop userId now rows db restored

def AffiliateDB.unrestored (riskUserId userId : Int) : List AffiliateRiskDetachedInvitee :=
  db.detached.filter fun d => decide (d.riskUserId=riskUserId ∧ d.userId=userId ∧ d.restored=false)

def restoreAffiliateDetachedInviteesTx (riskUserId userId now : Int) : AffiliateDB :=
  let (db,restored) := restoreLoop userId now (db.unrestored riskUserId userId) db 0
  if restored>0 then db.updateUser userId fun u => { u with affCount := u.affCount+restored } else db

structure AffiliateRiskApplyRequest where
  freezeAssets : Bool := false
  blockInviteCode : Bool := false
  detachInvitees : Bool := false
  clearAssets : Bool := false
  reason : String := ""

def setRisk (risk : AffiliateRiskUser) : AffiliateDB :=
  { db with risks := Function.update db.risks userId (some risk) }

def applyAffiliateRiskAction (userId adminId : Int) (req : AffiliateRiskApplyRequest) (now : Int) :
    Except AffiliateError AffiliateDB :=
  if userId≤0 then .error .invalidUserId
  else if req.clearAssets ∧ isBlank req.reason then .error .reasonRequired
  else if req.freezeAssets=false ∧ req.blockInviteCode=false ∧ req.detachInvitees=false ∧
      req.clearAssets=false then .error .noAction
  else if (db.user? userId).isNone then .error .userNotFound else
  let (db,risk) := getOrCreateActiveAffiliateRiskUserTx db userId
  let risk := { risk with
    freezeAssets := risk.freezeAssets || req.freezeAssets
    blockInviteCode := risk.blockInviteCode || req.blockInviteCode
    reason := trimSpace req.reason
    adminId := adminId }
  let db := setRisk db userId risk
  (if req.freezeAssets then freezeAffiliateAssetsTx db userId else .ok db).bind fun db =>
  let (db,risk) := if req.detachInvitees then
      let (db,detached) := detachAffiliateInviteesTx db risk.id userId
      if detached>0 then (setRisk db userId { risk with detachedInvitees := true },{ risk with detachedInvitees := true })
      else (db,risk)
    else (db,risk)
  if req.clearAssets then (clearAffiliateAssetsTx db userId adminId now).bind fun (db,cleared) =>
      .ok (setRisk db userId { risk with clearedQuota := risk.clearedQuota+cleared })
  else .ok db

def removeAffiliateRiskAction (userId adminId : Int) (restoreDetachedInvitees : Bool)
    (remark : String) (now : Int) : Except AffiliateError AffiliateDB :=
  match db.risks userId with
  | none => .error .riskNotFound
  | some risk =>
    if risk.status≠.active then .error .riskNotFound else
    (if risk.freezeAssets then unfreezeAffiliateAssetsTx db userId else .ok db).bind fun db =>
    let db := if restoreDetachedInvitees then restoreAffiliateDetachedInviteesTx db risk.id userId now else db
    .ok (setRisk db userId { risk with
      status := .removed, removedBy := adminId, removeRemark := trimSpace remark, removedAt := now
      freezeAssets := false, blockInviteCode := false })

def unbindAffiliateRelationship (alertId adminId : Int) (doClawback : Bool) (now : Int) :
    Except AffiliateError AffiliateDB :=
  match db.alerts.find? fun a => decide (a.id=alertId ∧ a.status=.detected) with
  | none => .error .alertNotFound
  | some alert =>
    (if doClawback then clawbackEarnings db alert.inviterId alert.inviteeId now else .ok (db,0)).bind fun (db,amount) =>
    let db := match db.user? alert.inviteeId with
      | some invitee =>
        if invitee.inviterId=alert.inviterId then
          (db.updateUser alert.inviteeId fun u => { u with inviterId := 0 }).updateUser alert.inviterId fun u =>
            if u.affCount>0 then { u with affCount := u.affCount-1 } else u
        else db
      | none => db
    .ok { db with
      alerts := db.alerts.map fun a =>
        if a.id=alertId ∧ a.status=.detected then
          { a with status := .resolved, clawbackQuota := amount, adminId := adminId, resolvedAt := now }
        else a }

def isAffiliateUserInviteCodeBlocked : Bool :=
  match db.risks userId with
  | some risk => decide (userId>0) && decide (risk.status=.active) && risk.blockInviteCode
  | none => false

def findAffiliateInviterByAffCodeTx (affCode : String) : Except AffiliateError User :=
  match db.users.filter fun u => decide (u.affCode=affCode) with
  | [] => .error .inviterNotFound
  | [inviter] => if isAffiliateUserInviteCodeBlocked db inviter.id then .error .affCodeBlocked else .ok inviter
  | _::_::_ => .error .ambiguousAffCode

/-- The loop of `ensureNoAffiliateInviteCycleTx`; `depth` is the number of rounds left of the 64. -/
def ensureNoCycleLoop (db : AffiliateDB) (inviteeId : Int) : Nat → List Int → Int → Except AffiliateError Unit
  | 0, _, currentId => if currentId>0 then .error .chainTooDeep else .ok ()
  | depth+1, visited, currentId =>
    if currentId≤0 then .ok ()
    else if currentId=inviteeId ∨ currentId∈visited then .error .inviteCycle else
    match db.user? currentId with
    | none => .error .chainUserMissing
    | some parent => ensureNoCycleLoop db inviteeId depth (currentId::visited) parent.inviterId

def ensureNoAffiliateInviteCycleTx (inviteeId inviterId : Int) : Except AffiliateError Unit :=
  ensureNoCycleLoop db inviteeId 64 [] inviterId

def bindUserInviterByAffCode (affCode : String) (force : Bool) :
    Except AffiliateError AffiliateDB :=
  if affCode="" then .error .emptyAffCode else
  match db.user? userId with
  | none => .error .inviteeNotFound
  | some invitee =>
    (findAffiliateInviterByAffCodeTx db affCode).bind fun inviter =>
      if invitee.id=inviter.id then .error .selfInvite
      else if invitee.inviterId=inviter.id then .ok db
      else if invitee.inviterId>0 ∧ force=false then .error .inviterBound else
      (ensureNoAffiliateInviteCycleTx db invitee.id inviter.id).bind fun _ =>
        let db := db.updateUser invitee.id fun u => { u with inviterId := inviter.id }
        let db := if invitee.inviterId>0 then
            db.updateUser invitee.inviterId fun u =>
              if u.affCount>0 then { u with affCount := u.affCount-1 } else u
          else db
        .ok (db.updateUser inviter.id fun u => { u with affCount := u.affCount+1 })

def unbindUserInviter : Except AffiliateError AffiliateDB :=
  match db.user? userId with
  | none => .error .inviteeNotFound
  | some invitee =>
    if invitee.inviterId≤0 then .ok db else
    .ok ((db.updateUser invitee.id fun u => { u with inviterId := 0 }).updateUser invitee.inviterId fun u =>
      if u.affCount>0 then { u with affCount := u.affCount-1 } else u)

inductive Op where
  | createAffiliateRewardRecord (userId inviteeId level : Int) (sourceType : SourceType) (sourceId : String)
      (sourceQuota ratio now delay : Int)
  | settleMatureAffiliateRecords (userId now : Int)
  | createAffiliateWithdrawalWithPayout (userId : Int) (req : WithdrawalRequest) (now : Int)
  | updateAffiliateWithdrawalStatus (withdrawalId adminId : Int) (remark : String) (target : WithdrawalStatus) (now : Int)
  | transferAffiliateQuotaToBalance (userId quota now : Int)
  | freezeAffiliateAssets (userId : Int)
  | unfreezeAffiliateAssets (userId : Int)
  | clearAffiliateAssets (userId adminId now : Int)
  | clawbackEarnings (inviterId inviteeId now : Int)
  | applyAffiliateRiskAction (userId adminId : Int) (req : AffiliateRiskApplyRequest) (now : Int)
  | removeAffiliateRiskAction (userId adminId : Int) (restoreDetachedInvitees : Bool) (remark : String) (now : Int)
  | unbindAffiliateRelationship (alertId adminId : Int) (doClawback : Bool) (now : Int)
  | bindUserInviterByAffCode (userId : Int) (affCode : String) (force : Bool)
  | unbindUserInviter (userId : Int)

def transact : Except AffiliateError AffiliateDB → AffiliateDB×Option AffiliateError
  | .ok db' => (db',none)
  | .error e => (db,some e)

def settleThen (userId now : Int) (main : AffiliateDB → Except AffiliateError AffiliateDB) :
    AffiliateDB×Option AffiliateError :=
  match settleMatureAffiliateRecordsTx db userId now with
  | .error e => (db,some e)
  | .ok settled => transact settled (main settled)

def exec : Op → AffiliateDB×Option AffiliateError
  | .createAffiliateRewardRecord userId inviteeId level sourceType sourceId sourceQuota ratio now delay =>
    transact db (createAffiliateRewardRecordTx db userId inviteeId level sourceType sourceId sourceQuota ratio now delay)
  | .settleMatureAffiliateRecords userId now => transact db (settleMatureAffiliateRecordsTx db userId now)
  | .createAffiliateWithdrawalWithPayout userId req now =>
    match checkWithdrawal req with
    | .error e => (db,some e)
    | .ok method => settleThen db userId now fun db => createAffiliateWithdrawalTx db userId method req
  | .updateAffiliateWithdrawalStatus withdrawalId adminId remark target now =>
    transact db (updateAffiliateWithdrawalStatus db withdrawalId adminId remark target now)
  | .transferAffiliateQuotaToBalance userId quota now =>
    if quota≤0 then (db,some .transferNotPositive)
    else settleThen db userId now fun db => transferAffiliateQuotaTx db userId quota
  | .freezeAffiliateAssets userId => transact db (freezeAffiliateAssetsTx db userId)
  | .unfreezeAffiliateAssets userId => transact db (unfreezeAffiliateAssetsTx db userId)
  | .clearAffiliateAssets userId adminId now =>
    transact db ((clearAffiliateAssetsTx db userId adminId now).map Prod.fst)
  | .clawbackEarnings inviterId inviteeId now =>
    transact db ((clawbackEarnings db inviterId inviteeId now).map Prod.fst)
  | .applyAffiliateRiskAction userId adminId req now => transact db (applyAffiliateRiskAction db userId adminId req now)
  | .removeAffiliateRiskAction userId adminId restore remark now =>
    transact db (removeAffiliateRiskAction db userId adminId restore remark now)
  | .unbindAffiliateRelationship alertId adminId doClawback now =>
    transact db (unbindAffiliateRelationship db alertId adminId doClawback now)
  | .bindUserInviterByAffCode userId affCode force => transact db (bindUserInviterByAffCode db userId affCode force)
  | .unbindUserInviter userId => transact db (unbindUserInviter db userId)

def step (op : Op) : AffiliateDB := (exec db op).1

section Rules
variable {db : AffiliateDB} {P : AffiliateDB → Prop} (h : P db)
include h

theorem getBalance_ensures (userId : Int)
    (hseed : ∀ row, P { db with balances := Function.update db.balances userId (some row) })
    (hsave : ∀ t b, P t → P (saveAffiliateBalanceTx t b)) :
    Ensures (fun p => P p.1) (fun _ => True) (getAffiliateBalanceForUpdateTx db userId) := by
  unfold getAffiliateBalanceForUpdateTx
  refine Ensures.guard trivial fun _ => ?_
  have hrow : ∀ p : AffiliateDB×AffiliateBalance, P p.1 →
      Ensures (fun p => P p.1) (fun _ : AffiliateError => True) (match p with
        | (db,row) => match normalizeTotalQuotaFloor row with
          | (b,true) => .ok (saveAffiliateBalanceTx db b,b)
          | (b,false) => .ok (db,b)) := by
    rintro ⟨t,row⟩ ht
    simp only
    split
    · exact hsave t _ ht
    · exact ht
  cases db.user? userId with
  | none => trivial
  | some legacy =>
    refine hrow _ ?_
    split
    · exact h
    · exact hseed _

theorem unbindRelationship_ensures {E : AffiliateError → Prop} (hE : E .alertNotFound) (alertId adminId : Int)
    (doClawback : Bool) (now : Int)
    (hclaw : ∀ inviterId inviteeId, Ensures (fun p => P p.1) E (clawbackEarnings db inviterId inviteeId now))
    (hcut : ∀ (t : AffiliateDB) (x : Int) (invitee : User), P t → t.user? x=some invitee →
      P ((t.updateUser x fun u => { u with inviterId := 0 }).updateUser invitee.inviterId fun u =>
        if u.affCount>0 then { u with affCount := u.affCount-1 } else u))
    (halerts : ∀ t alerts, P t → P { t with alerts := alerts }) :
    Ensures P E (unbindAffiliateRelationship db alertId adminId doClawback now) := by
  unfold unbindAffiliateRelationship
  cases db.alerts.find? fun a => decide (a.id=alertId ∧ a.status=.detected) with
  | none => exact hE
  | some alert =>
    refine Ensures.bind (P := fun p : AffiliateDB×Int => P p.1) (Ensures.ite (fun _ => hclaw _ _) fun _ => h)
      fun p hp => halerts _ _ ?_
    split
    next invitee hu =>
      split
      next he =>
        rw [← he]
        exact hcut p.1 _ invitee hp hu
      · exact hp
    · exact hp

end Rules

end NewApi.Affiliate

import NewApi.Activity.Split
import NewApi.Voucher.Reconcile

/-! Benefit activities: `CreateBenefitActivity`, `PublishBenefitActivity`, `ClaimBenefitActivity`,
`TransitionBenefitActivity` and `DeleteBenefitActivitiesByIDs` on the tables of the vouchers. What a transaction
reads from other tables (the group's row, the user's registration and payments) is an argument of its call. -/
namespace NewApi.Activity
open Voucher GoStrings
variable (db : BenefitDB)

inductive ActivityError where
  | voucher (err : BenefitError)
  | split (err : SplitError)
  | name               -- 福利活动名称长度必须在 1 到 128 个字符之间
  | group              -- 福利活动必须绑定有效分组
  | totals             -- 福利活动总预算、总额度和总份数必须大于 0
  | threshold          -- 福利活动领取门槛不能为负且个人有效期必须大于 0
  | period             -- 福利活动开始时间必须早于结束时间
  | recordNotFound     -- gorm.ErrRecordNotFound
  | notDraft           -- ErrBenefitActivityNotDraft
  | overlap            -- ErrBenefitActivityOverlap
  | notClaimable       -- ErrBenefitActivityNotClaimable
  | alreadyClaimed     -- ErrBenefitAlreadyClaimed
  | soldOut            -- ErrBenefitSoldOut
  | ineligible         -- ErrBenefitClaimIneligible
  | transition         -- ErrBenefitActivityTransition
  | emptyIds           -- 活动 ID 不能为空

def nextId (ids : List Int) : Int := ids.foldr max 0+1

def splitting {α : Type} (x : Except SplitError α) : Except ActivityError α := x.mapError .split

def vouching {α : Type} (x : Except BenefitError α) : Except ActivityError α := x.mapError .voucher

def validateBenefitActivity (draws : Draws) (a : BenefitActivity) : Except ActivityError BenefitActivity :=
  let plan := { a.plan with name := trimSpace a.plan.name }
  if plan.name="" ∨ plan.name.length>128 then .error .name
  else if a.groupId≤0 then .error .group
  else if plan.totalQuota≤0 ∨ plan.totalCount≤0 ∨
      (plan.fixedQuota≤0 ∧ plan.minQuota≤0 ∧ plan.maxQuota≤0 ∧ plan.totalAmountCents≤0) then .error .totals
  else if plan.claimPaidThresholdCents<0 ∨ plan.personalValidSeconds≤0 then .error .threshold
  else if a.startsAt≤0 ∨ a.endsAt≤a.startsAt then .error .period
  else (splitting (splitBenefitShares draws (splitInput plan))).bind fun _ => .ok { a with plan := plan }

def createBenefitActivity (draws : Draws) (groupActive : Bool) (a : BenefitActivity) :
    Except ActivityError BenefitDB :=
  (validateBenefitActivity draws a).bind fun a =>
    if !groupActive then .error .recordNotFound
    else .ok { db with activities := db.activities ++
      [{ a with id := nextId (db.activities.map (·.id)), status := .draft, terminateMode := none, deleted := false }] }

def stored? (activityID : Int) : Option BenefitActivity :=
  (db.activity? activityID).filter (!·.deleted)

def benefitActivityOverlap (a : BenefitActivity) : Bool :=
  db.activities.any fun b => !b.deleted && decide (b.groupId=a.groupId ∧ b.id≠a.id ∧
    (b.status=.published ∨ b.status=.paused) ∧ b.startsAt<a.endsAt ∧ b.endsAt>a.startsAt)

def newShares (first activityID : Int) : List BenefitShareAllocation → List BenefitActivityShare
  | [] => []
  | a :: allocations =>
    { id := first, activityId := activityID, quota := a.quota, status := .available, amountCents := a.amountCents } ::
      newShares (first+1) activityID allocations

def publishBenefitActivity (check draws : Draws) (groupExists : Bool) (activityID : Int) :
    Except ActivityError BenefitDB :=
  match stored? db activityID with
  | none => .error .recordNotFound
  | some a =>
    if a.status≠.draft then .error .notDraft else
    (validateBenefitActivity check a).bind fun a =>
      if !groupExists then .error .recordNotFound
      else if benefitActivityOverlap db a then .error .overlap else
      (splitting (prepareBenefitAllocations draws a.plan)).bind fun allocations =>
        .ok (updateActivity activityID (fun _ => { a with status := .published })
          { db with shares := db.shares++newShares (nextId (db.shares.map (·.id))) activityID allocations })

inductive ClaimReason where
  | ineligible | claimed | soldOut | inactive | notStarted | ended

structure BenefitClaimEligibility where
  eligible : Bool := false
  reason : Option ClaimReason := none
  paidAmountCents : Int := 0
  hasClaimed : Bool := false
  soldOut : Bool := false

structure Claimant where
  userId : Int
  createdAt : Int
  paidAmountCents : Int

def getBenefitClaimEligibility (user : Claimant) (a : BenefitActivity) (now : Int) :
    Except ActivityError BenefitClaimEligibility :=
  if a.status≠.published then .ok { reason := some .inactive }
  else if now<a.startsAt then .ok { reason := some .notStarted }
  else if now≥a.endsAt then .ok { reason := some .ended }
  else if user.userId∉db.users then .error .recordNotFound
  else
    let result : BenefitClaimEligibility := { paidAmountCents := user.paidAmountCents }
    if user.createdAt>0 ∧ now-user.createdAt<30*60 then .ok { result with reason := some .ineligible }
    else if db.vouchers.any (fun v => decide (v.activityId=a.id ∧ v.userId=user.userId)) then
      .ok { result with hasClaimed := true, reason := some .claimed }
    else if user.paidAmountCents<a.plan.claimPaidThresholdCents then .ok { result with reason := some .ineligible }
    else if db.shares.all (fun s => !decide (s.activityId=a.id ∧ s.status=.available)) then
      .ok { result with soldOut := true, reason := some .soldOut }
    else .ok { result with eligible := true }

/-- `tx.Create(&voucher)` under the unique indexes (activity_id, user_id) and share_id. -/
def createVoucher (v : BenefitUserVoucher) : Except ActivityError BenefitDB :=
  if db.vouchers.any (fun w => decide ((w.activityId=v.activityId ∧ w.userId=v.userId) ∨ w.shareId=v.shareId)) then
    .error .alreadyClaimed
  else .ok { db with vouchers := db.vouchers++[v] }

/-- `UPDATE ... WHERE id = ? AND status = 'available'` for the share that a voucher takes. -/
def takenBy (v : BenefitUserVoucher) (s : BenefitActivityShare) : BenefitActivityShare :=
  if s.status=.available then
    { s with status := .claimed, claimedByUserId := v.userId, claimedVoucherId := v.id }
  else s

def claimShare (share : BenefitActivityShare) (v : BenefitUserVoucher) (db : BenefitDB) : Except ActivityError BenefitDB :=
  if (db.shares.filter fun s => decide (s.id=share.id ∧ s.status=.available)).length≠1 then .error .soldOut
  else .ok { db with shares := Keyed.modify BenefitActivityShare.id share.id (takenBy v) db.shares }

/-- `pick` is the random draw among the shares that are left. -/
def claimBenefitActivity (activityID : Int) (user : Claimant) (pick : Nat) (now : Int) :
    Except ActivityError BenefitDB :=
  match stored? db activityID with
  | none => .error .recordNotFound
  | some a =>
    (vouching (expireBenefitActivityRecordsTx db activityID now)).bind fun db =>
      if a.status≠.published ∨ now<a.startsAt ∨ now≥a.endsAt then .error .notClaimable else
      (getBenefitClaimEligibility db user a now).bind fun eligibility =>
        if eligibility.hasClaimed then .error .alreadyClaimed
        else if !eligibility.eligible then .error (if eligibility.soldOut then .soldOut else .ineligible)
        else
          let shares := db.shares.filter fun s => decide (s.activityId=activityID ∧ s.status=.available)
          match shares[pick % shares.length]? with
          | none => .error .soldOut
          | some share =>
            let v : BenefitUserVoucher :=
              { id := nextId (db.vouchers.map (·.id)), activityId := a.id, shareId := share.id, userId := user.userId
                originalAmountCents := share.amountCents, originalQuota := share.quota, remainingQuota := share.quota
                usedQuota := 0, status := .active, expiresAt := now+a.plan.personalValidSeconds }
            (createVoucher db v).bind (claimShare share v)

def transitionBenefitActivity (groupExists : Bool) (activityID : Int) (target : ActivityStatus)
    (now : Int) : Except ActivityError BenefitDB :=
  match stored? db activityID with
  | none => .error .recordNotFound
  | some a =>
    match target with
    | .paused =>
      if a.status≠.published then .error .transition
      else .ok (updateActivity activityID (fun a => { a with status := .paused }) db)
    | .published =>
      if a.status≠.paused then .error .transition
      else if !groupExists then .error .recordNotFound
      else if benefitActivityOverlap db a then .error .overlap
      else .ok (updateActivity activityID (fun a => { a with status := .published }) db)
    | .ended =>
      if a.status≠.published ∧ a.status≠.paused then .error .transition
      else .ok (moveShares activityID .expired
        (updateActivity activityID (fun a => { a with status := .ended, endsAt := now }) db))
    | .draft | .terminated => .error .transition

inductive SkipReason where
  | hasClaimData | notDeletable | activeVoucher | notFound

structure BatchDeleteResult where
  deletedIds : List Int := []
  skipped : List (Int×SkipReason) := []

def hasClaimData (a : BenefitActivity) : Bool :=
  db.vouchers.any (fun v => decide (v.activityId=a.id)) || db.shares.any (fun s => decide (s.activityId=a.id))

def overdue (a : BenefitActivity) (now : Int) : Bool :=
  decide ((a.status=.published ∨ a.status=.paused) ∧ a.endsAt>0 ∧ a.endsAt≤now)

/-- The records of an activity brought up to date before it is deleted, and its status then. -/
def closeRecords (a : BenefitActivity) (now : Int) (db : BenefitDB) : Except BenefitError (BenefitDB×ActivityStatus) :=
  if a.status=.ended ∨ a.status=.terminated then (expireBenefitActivityRecordsTx db a.id now).map fun db => (db,a.status)
  else if overdue a now then
    .ok (updateActivity a.id (fun a => { a with status := .ended }) (moveShares a.id .expired db),.ended)
  else .ok (db,a.status)

def hasActiveVoucher (activityID : Int) : Bool :=
  db.vouchers.any fun v => decide (v.activityId=activityID ∧ v.status=.active ∧ v.remainingQuota>0)

def deleteActivity (a : BenefitActivity) (now : Int) (db : BenefitDB) :
    Except BenefitError (BenefitDB×Option SkipReason) :=
  if a.status=.draft ∧ hasClaimData db a then .ok (db,some .hasClaimData) else
  (closeRecords a now db).bind fun (db,status) =>
    if status≠.draft ∧ status≠.ended ∧ status≠.terminated then .ok (db,some .notDeletable)
    else if (status=.ended ∨ (status=.terminated ∧ a.terminateMode=some .unused)) ∧ hasActiveVoucher db a.id then
      .ok (db,some .activeVoucher)
    else .ok (updateActivity a.id (fun a => { a with deleted := true }) db,none)

def deleteActivities (now : Int) : List BenefitActivity → BatchDeleteResult → BenefitDB →
    Except BenefitError (BenefitDB×BatchDeleteResult)
  | [], result, db => .ok (db,result)
  | a :: rest, result, db =>
    (deleteActivity a now db).bind fun (db,skipped) =>
      deleteActivities now rest (match skipped with
        | none => { result with deletedIds := result.deletedIds++[a.id] }
        | some reason => { result with skipped := result.skipped++[(a.id,reason)] }) db

def deleteBenefitActivitiesByIDs (ids : List Int) (now : Int) :
    Except ActivityError (BenefitDB×BatchDeleteResult) :=
  if ids=[] then .error .emptyIds else
  let uniqueIDs := ids.eraseDups
  let activities := db.activities.filter fun a => !a.deleted && decide (a.id∈uniqueIDs)
  (vouching (deleteActivities now activities {} db)).map fun (db,result) =>
    (db,{ result with skipped := result.skipped ++
      (uniqueIDs.filter fun id => !activities.any fun a => decide (a.id=id)).map fun id => (id,.notFound) })

inductive ActivityOp where
  | create (draws : Draws) (groupActive : Bool) (activity : BenefitActivity)
  | publish (check draws : Draws) (groupExists : Bool) (activityID : Int)
  | claim (activityID : Int) (user : Claimant) (pick : Nat)
  | transition (groupExists : Bool) (activityID : Int) (target : ActivityStatus)
  | delete (ids : List Int)
  | voucher (op : VoucherOp)

def clocked (now : Int) : VoucherOp → VoucherOp
  | .reserve requestID userID groupID amount _ => .reserve requestID userID groupID amount now
  | .settle requestID delta _ => .settle requestID delta now
  | .void ids operatorID reason _ => .void ids operatorID reason now
  | .terminate activityID mode reason _ => .terminate activityID mode reason now
  | .expire activityID _ => .expire activityID now
  | op => op

def ActivityOp.call (now : Int) : ActivityOp → Except ActivityError BenefitDB
  | .create draws groupActive activity => createBenefitActivity db draws groupActive activity
  | .publish check draws groupExists activityID => publishBenefitActivity db check draws groupExists activityID
  | .claim activityID user pick => claimBenefitActivity db activityID user pick now
  | .transition groupExists activityID target => transitionBenefitActivity db groupExists activityID target now
  | .delete ids => (deleteBenefitActivitiesByIDs db ids now).map (·.1)
  | .voucher op => vouching ((clocked now op).call db)

def activityStep (op : Int×ActivityOp) : BenefitDB := Runs.commit db (op.2.call db op.1)

def emptyTables (users : List Int) : BenefitDB := ⟨users,[],[],[],[]⟩

end NewApi.Activity

import NewApi.Lib.Runs
import NewApi.Payment.Orders

/-! Promo codes: `model/promo_code.go`. A code counts its redemptions and its reservations; a reservation
holds a place for an order until it is settled by a usage, released, or reclaimed after its time. -/
namespace NewApi.Promo
open Runs GoStrings Payment

inductive PromoStatus where
  | enabled | disabled | used
  deriving DecidableEq

inductive DiscountType where
  | percent | fixed
  deriving DecidableEq

inductive ReservationStatus where
  | reserved | settled | released
  deriving DecidableEq

structure PromoCode where
  id : Int
  name : String := ""
  code : String := ""
  deletedId : Int := 0
  deleted : Bool := false
  status : PromoStatus := .enabled
  discountType : DiscountType := .percent
  discountValue : Int := 1
  appliesToTopup : Bool := false
  appliesToAllSubscription : Bool := false
  subscriptionPlanIds : List Int := []
  maxRedeemCount : Int := 0
  redeemedCount : Int := 0
  reservedCount : Int := 0
  updatedTime : Int := 0
  expiredTime : Int := 0

structure PromoCodeUsage where
  promoCodeId : Int
  userId : Int
  orderType : OrderKind
  orderNo : String
  originalAmount : Rat := 0
  discountAmount : Rat := 0
  paidAmount : Rat := 0
  createdTime : Int := 0

structure PromoCodeReservation where
  promoCodeId : Int
  orderType : OrderKind
  orderNo : String
  status : ReservationStatus
  createdTime : Int := 0
  updatedTime : Int := 0

structure PromoDB where
  promos : List PromoCode
  reservations : List PromoCodeReservation := []
  usages : List PromoCodeUsage := []

inductive PromoError where
  | recordNotFound | emptyCode | emptyName | invalidDiscountType | discountNotPositive | percentAbove100 | noScope
  | negativeLimit | expiryPast | limitBelowCounts | codeExists | unavailable | expired | notApplicable | limitReached
  deriving DecidableEq

def PromoCodeReservation.key (r : PromoCodeReservation) : Int×OrderKind×String :=
  (r.promoCodeId,r.orderType,r.orderNo)

def PromoCodeUsage.key (u : PromoCodeUsage) : Int×String := (u.promoCodeId,u.orderNo)

namespace PromoDB

/-- The row whether or not it is deleted, as an unscoped query finds it. -/
def promo? (db : PromoDB) (id : Int) : Option PromoCode := Keyed.lookup PromoCode.id id db.promos

/-- The row a scoped query finds: soft-deleted rows are left out. -/
def livePromo? (db : PromoDB) (id : Int) : Option PromoCode :=
  (db.promo? id).filter fun p => p.deleted=false

def updatePromo (db : PromoDB) (id : Int) (f : PromoCode → PromoCode) : PromoDB :=
  { db with promos := Keyed.modify PromoCode.id id f db.promos }

def reservation? (db : PromoDB) (promoCodeId : Int) (orderType : OrderKind) (orderNo : String) :
    Option PromoCodeReservation :=
  Keyed.lookup PromoCodeReservation.key (promoCodeId,orderType,orderNo) db.reservations

def usage? (db : PromoDB) (promoCodeId : Int) (orderNo : String) : Option PromoCodeUsage :=
  Keyed.lookup PromoCodeUsage.key (promoCodeId,orderNo) db.usages

def putReservation (db : PromoDB) (promoCodeId : Int) (orderType : OrderKind) (orderNo : String)
    (status : ReservationStatus) (now : Int) : PromoDB :=
  match db.reservation? promoCodeId orderType orderNo with
  | some _ =>
    { db with
      reservations := Keyed.modify PromoCodeReservation.key (promoCodeId,orderType,orderNo)
        (fun r => { r with status := status, updatedTime := now }) db.reservations }
  | none =>
    let reservation : PromoCodeReservation :=
      { promoCodeId := promoCodeId, orderType := orderType, orderNo := orderNo, status := status, createdTime := now
        updatedTime := now }
    { db with reservations := db.reservations++[reservation] }

end PromoDB

variable (db : PromoDB) (orders : OrderTables)

def promoReservationTTLSeconds : Int := topUpQueryWindowSeconds

def promoAppliesToTarget (promo : PromoCode) (target : OrderKind) (planId : Int) : Bool :=
  match target with
  | .topup => promo.appliesToTopup
  | .subscription =>
    promo.appliesToAllSubscription || (decide (planId>0) && promo.subscriptionPlanIds.contains planId)

def PromoCodeReservation.reclaimable (r : PromoCodeReservation) (orders : OrderTables) (promoCodeId now : Int) : Bool :=
  decide (r.promoCodeId=promoCodeId ∧ r.status=.reserved ∧ r.updatedTime<now-promoReservationTTLSeconds) &&
    !promoReservationCallbackEligible orders now r.orderType r.orderNo

def PromoCodeReservation.reclaim (orders : OrderTables) (promoCodeId now : Int) (r : PromoCodeReservation) :
    PromoCodeReservation :=
  if r.reclaimable orders promoCodeId now then { r with status := .released, updatedTime := now } else r

/-- The row after `n` reservations of it were reclaimed. -/
def PromoCode.giveBack (n now : Int) (p : PromoCode) : PromoCode :=
  { p with reservedCount := if p.reservedCount≥n then p.reservedCount-n else 0, updatedTime := now }

/-- Returns the loaded row with its count brought up to date. -/
def reclaimExpiredPromoReservationsTx (promo : PromoCode) (now : Int) :
    PromoDB×PromoCode :=
  if promo.id≤0 ∨ promo.reservedCount≤0 then (db,promo) else
  let affected : Int := (db.reservations.filter (·.reclaimable orders promo.id now)).length
  if affected=0 then (db,promo) else
  let reclaimed := if affected>promo.reservedCount then promo.reservedCount else affected
  ({ db.updatePromo promo.id (PromoCode.giveBack reclaimed now) with
      reservations := db.reservations.map (PromoCodeReservation.reclaim orders promo.id now) },
    { promo with reservedCount := promo.reservedCount-reclaimed })

/-- The capacity condition of the conditional updates, which read the row itself. -/
def PromoCode.hasCapacity (p : PromoCode) : Bool :=
  decide (p.maxRedeemCount=0 ∨ p.redeemedCount+p.reservedCount<p.maxRedeemCount)

def PromoCode.reservableAt (p : PromoCode) (now : Int) : Bool :=
  decide (p.deleted=false ∧ p.status=.enabled ∧ (p.expiredTime=0 ∨ p.expiredTime≥now)) && p.hasCapacity

def reservePromoCodeForOrderTx (promoCodeId : Int) (orderType : OrderKind)
    (orderNo : String) (planId now : Int) : Except PromoError PromoDB :=
  let orderNo := trimSpace orderNo
  if promoCodeId≤0 ∨ orderNo="" then .ok db else
  match db.livePromo? promoCodeId with
  | none => .error .recordNotFound
  | some promo =>
    let (db,promo) := reclaimExpiredPromoReservationsTx db orders promo now
    let existing := (db.reservation? promoCodeId orderType orderNo).map (·.status)
    if existing=some .reserved ∨ existing=some .settled then .ok db
    else if promo.status≠.enabled then .error .unavailable
    else if promo.expiredTime≠0 ∧ promo.expiredTime<now then .error .expired
    else if promoAppliesToTarget promo orderType planId=false then .error .notApplicable
    else if (db.promo? promoCodeId).any (·.reservableAt now)=false then .error .limitReached else
    .ok ((db.updatePromo promoCodeId fun p =>
      { p with reservedCount := p.reservedCount+1, updatedTime := now }).putReservation
        promoCodeId orderType orderNo .reserved now)

def releasePromoCodeReservationTx (promoCodeId : Int) (orderType : OrderKind)
    (orderNo : String) (now : Int) : Except PromoError PromoDB :=
  if promoCodeId≤0 ∨ isBlank orderNo then .ok db
  else if (db.promo? promoCodeId).isNone then .error .recordNotFound else
  match db.reservation? promoCodeId orderType orderNo with
  | none => .ok db
  | some reservation =>
    if reservation.status≠.reserved then .ok db
    else if promoReservationCallbackEligible orders now reservation.orderType reservation.orderNo then .ok db else
    .ok ((db.updatePromo promoCodeId fun p =>
      if p.reservedCount>0 then { p with reservedCount := p.reservedCount-1, updatedTime := now } else p).putReservation
        promoCodeId orderType orderNo .released now)

def promoCodeStatusAfterRedemption (currentStatus : PromoStatus) (maxRedeemCount redeemedCount increment : Int) :
    PromoStatus :=
  if increment>0 ∧ maxRedeemCount>0 ∧ redeemedCount+increment≥maxRedeemCount then .used else currentStatus

/-- The row after `promoCodeSettlementUpdates` of the loaded `promo`. -/
def promoCodeSettlementUpdates (promo : PromoCode) (now : Int) (hasActiveReservation : Bool) (p : PromoCode) :
    PromoCode :=
  { p with
    redeemedCount := p.redeemedCount+1
    updatedTime := now
    status := promoCodeStatusAfterRedemption promo.status promo.maxRedeemCount promo.redeemedCount 1
    reservedCount := if hasActiveReservation then (if p.reservedCount>0 then p.reservedCount-1 else 0)
      else p.reservedCount }

structure UsageRequest where
  promoCodeId : Int
  userId : Int
  orderType : OrderKind
  orderNo : String
  originalAmount : Rat := 0
  discountAmount : Rat := 0
  paidAmount : Rat := 0

def recordPromoCodeUsageTx (req : UsageRequest) (enforceLimit : Bool)
    (now : Int) : Except PromoError PromoDB :=
  if req.promoCodeId≤0 ∨ req.userId≤0 ∨ isBlank req.orderNo then .ok db
  else if (db.usage? req.promoCodeId req.orderNo).isSome then .ok db else
  match db.promo? req.promoCodeId with
  | none => if enforceLimit then .error .recordNotFound else .ok db
  | some promo =>
    let (db,promo) := reclaimExpiredPromoReservationsTx db orders promo now
    let hasActiveReservation := decide
      ((db.reservation? req.promoCodeId req.orderType req.orderNo).map (·.status)=some .reserved)
    if enforceLimit ∧ hasActiveReservation=false ∧ (db.promo? req.promoCodeId).any (·.hasCapacity)=false then
      .error .limitReached else
    let db := db.updatePromo req.promoCodeId (promoCodeSettlementUpdates promo now hasActiveReservation)
    let usage : PromoCodeUsage :=
      { promoCodeId := req.promoCodeId, userId := req.userId, orderType := req.orderType, orderNo := req.orderNo
        originalAmount := req.originalAmount, discountAmount := req.discountAmount, paidAmount := req.paidAmount
        createdTime := now }
    .ok ({ db with usages := db.usages++[usage] }.putReservation req.promoCodeId req.orderType req.orderNo .settled now)

structure PromoUpdate where
  id : Int
  name : String
  code : String
  status : PromoStatus := .enabled
  discountType : String := ""
  discountValue : Int
  appliesToTopup : Bool := false
  appliesToAllSubscription : Bool := false
  subscriptionPlanIds : List Int := []
  maxRedeemCount : Int := 0
  expiredTime : Int := 0

def parseDiscountType (raw : String) : Option DiscountType :=
  let text := toLower (trimSpace raw)
  if text="" ∨ text="percent" then some .percent else if text="fixed" then some .fixed else none

/-- The normalized name, code and discount type, or the first check that fails. -/
def validatePromoCode (upper : Char → Char) (req : PromoUpdate) (now : Int) : Except PromoError (String×String×DiscountType) :=
  let code := toUpper upper (trimSpace req.code)
  let name := trimSpace req.name
  if code="" then .error .emptyCode
  else if name="" then .error .emptyName else
  match parseDiscountType req.discountType with
  | none => .error .invalidDiscountType
  | some discountType =>
    if req.discountValue≤0 then .error .discountNotPositive
    else if discountType=.percent ∧ req.discountValue>100 then .error .percentAbove100
    else if req.appliesToTopup=false ∧ req.appliesToAllSubscription=false ∧ req.subscriptionPlanIds=[] then
      .error .noScope
    else if req.maxRedeemCount<0 then .error .negativeLimit
    else if req.expiredTime≠0 ∧ req.expiredTime<now then .error .expiryPast
    else .ok (name,code,discountType)

/-- A live row with the code is a conflict, a deleted one gives its code free. -/
def preparePromoCodeForWriteTx (db : PromoDB) (code : String) (currentId : Int) : Except PromoError PromoDB :=
  match db.promos.find? fun p => decide (p.code=code ∧ p.deletedId=0 ∧ (currentId>0 → p.id≠currentId)) with
  | none => .ok db
  | some existing =>
    if existing.deleted=false then .error .codeExists
    else .ok (db.updatePromo existing.id fun p => if p.deletedId=0 then { p with deletedId := existing.id } else p)

def PromoUpdate.write (req : PromoUpdate) (name code : String) (discountType : DiscountType) (now : Int)
    (p : PromoCode) : PromoCode :=
  { p with
    name := name
    code := code
    status := req.status
    discountType := discountType
    discountValue := req.discountValue
    appliesToTopup := req.appliesToTopup
    appliesToAllSubscription := req.appliesToAllSubscription
    subscriptionPlanIds := req.subscriptionPlanIds
    maxRedeemCount := req.maxRedeemCount
    updatedTime := now
    expiredTime := req.expiredTime }

def updatePromoCode (upper : Char → Char) (req : PromoUpdate) (now : Int) : Except PromoError PromoDB :=
  (validatePromoCode upper req now).bind fun (name,code,discountType) =>
  match db.livePromo? req.id with
  | none => .error .recordNotFound
  | some current =>
    let (db,current) := reclaimExpiredPromoReservationsTx db orders current now
    if req.maxRedeemCount>0 ∧ req.maxRedeemCount<current.redeemedCount+current.reservedCount then
      .error .limitBelowCounts else
    (preparePromoCodeForWriteTx db code req.id).bind fun db =>
    .ok (db.updatePromo req.id (req.write name code discountType now))

def deletePromoCodeById (db : PromoDB) (id : Int) : PromoDB :=
  match db.livePromo? id with
  | none => db
  | some _ => db.updatePromo id fun p => { p with deletedId := p.id, deleted := true }

inductive Op where
  | reserve (orders : OrderTables) (promoCodeId : Int) (orderType : OrderKind) (orderNo : String) (planId now : Int)
  | release (orders : OrderTables) (promoCodeId : Int) (orderType : OrderKind) (orderNo : String) (now : Int)
  | reclaim (orders : OrderTables) (promoCodeId now : Int)
  | record (orders : OrderTables) (req : UsageRequest) (enforceLimit : Bool) (now : Int)
  | update (orders : OrderTables) (req : PromoUpdate) (now : Int)
  | delete (promoCodeId : Int)

def exec (upper : Char → Char) (db : PromoDB) : Op → Except PromoError PromoDB
  | .reserve orders promoCodeId orderType orderNo planId now =>
    reservePromoCodeForOrderTx db orders promoCodeId orderType orderNo planId now
  | .release orders promoCodeId orderType orderNo now =>
    releasePromoCodeReservationTx db orders promoCodeId orderType orderNo now
  | .reclaim orders promoCodeId now =>
    match db.promo? promoCodeId with
    | none => .error .recordNotFound
    | some promo => .ok (reclaimExpiredPromoReservationsTx db orders promo now).1
  | .record orders req enforceLimit now => recordPromoCodeUsageTx db orders req enforceLimit now
  | .update orders req now => updatePromoCode db orders upper req now
  | .delete promoCodeId => .ok (deletePromoCodeById db promoCodeId)

def step (upper : Char → Char) (db : PromoDB) (op : Op) : PromoDB := commit db (exec upper db op)

end NewApi.Promo

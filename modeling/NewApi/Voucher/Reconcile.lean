import NewApi.Voucher.Conservation

/-! Balances against the ledger over every run of the voucher transactions: what the
allocation query reports for a voucher is what its stored balance has lost. -/
namespace NewApi.Voucher
open Option Keyed Runs List BenefitDB
open BenefitVoucherRequestAllocation (voucherID)

def OutcomeKept (db db' : BenefitDB) : Prop :=
  ∀ t r v, t≠.void → t≠.expire → db'.row? t r v=db.row? t r v

variable {db db' : BenefitDB}

theorem OutcomeKept.trans {db'' : BenefitDB} (h : OutcomeKept db db') (h' : OutcomeKept db' db'') : OutcomeKept db db'' :=
  fun t r v hv he => (h' t r v hv he).trans (h t r v hv he)

variable {r reason : String}

theorem OutcomeKept.closed (h : OutcomeKept db db') (hc : Closed db r) : Closed db' r := by
  constructor <;> intro v v' <;> simp only [h _ _ _ (by decide : LedgerType.settleDelta≠.void) (by decide),
    h _ _ _ (by decide : LedgerType.preConsume≠.void) (by decide),
    h _ _ _ (by decide : LedgerType.settleRollback≠.void) (by decide),
    h _ _ _ (by decide : LedgerType.refund≠.void) (by decide)]
  · exact hc.settled v v'
  · exact hc.rolled v v'
  · exact hc.refunded v v'

variable {status : VoucherStatus}

theorem closeVoucher_cells {v : BenefitUserVoucher} {remaining : Int} {type : LedgerType} (hstatus : terminal status=true)
    (htype : type=.void ∨ type=.expire) (hc : Cells db)
    (h : closeVoucher v status remaining r type db=.ok db') : Cells db' ∧ OutcomeKept db db' := by
  have hdead : ¬ live status := by
    rw [live_iff,hstatus]
    simp
  have hedit : Edit db db' r v.id :=
    (Edit.updateVoucher (fun _ _ _ hl => absurd hl hdead) r).trans (Edit.createLedger h)
  have hcreated := row?_createLedger h
  simp only at hcreated
  have hrow : ∀ t, t≠.void → t≠.expire → db'.row? t r v.id=db.row? t r v.id := by
    intro t hv he
    rw [hcreated t,if_neg]
    · rfl
    rcases htype with rfl | rfl
    · exact hv
    · exact he
  have hself : (db'.row? type r v.id).isSome := by
    rw [hcreated type,if_pos rfl]
    rfl
  refine ⟨hc.neutral hedit (requestId_mem hself) (fun t _ hv he => ?_) ?_,fun t r' v' hv he => ?_⟩
  · rw [hrow t hv he]
    exact SameRow.refl _
  · intro w' hw' hl
    rw [vouchers_createLedger h] at hw'
    obtain ⟨w,hw,hww⟩ := mem_modify hw'
    by_cases hid : w.id=v.id
    · rw [if_pos hid] at hww
      subst hww
      exact absurd hl hdead
    · rw [if_neg hid] at hww
      exact hww ▸ hw
  · by_cases hcell : (r',v')=(r,v.id)
    · simp only [Prod.mk.injEq] at hcell
      rw [hcell.1,hcell.2]
      exact hrow t hv he
    · exact hedit.rows t r' v' hcell

theorem closeVouchers_cells {type : LedgerType} {requestID : BenefitUserVoucher → String} {remaining : BenefitUserVoucher → Int}
    (hstatus : terminal status=true) (htype : type=.void ∨ type=.expire) (vs : List BenefitUserVoucher) :
    ∀ {db db' : BenefitDB}, closeVouchers status type requestID remaining vs db=.ok db' → Cells db →
      Cells db' ∧ OutcomeKept db db' := by
  induction vs with
  | nil =>
    intro db db' h hc
    cases h
    exact ⟨hc,fun _ _ _ _ _ => rfl⟩
  | cons v vs ih =>
    intro db db' h hc
    obtain ⟨db1,hclose,hloop⟩ := bind_ok h
    obtain ⟨hc1,hk1⟩ := closeVoucher_cells hstatus htype hc hclose
    obtain ⟨hc',hk'⟩ := ih hloop hc1
    exact ⟨hc',hk1.trans hk'⟩

variable {operatorID now activityID v : Int}

theorem voidVouchers_cells (ids : List Int) : ∀ {db db' : BenefitDB}, voidVouchers operatorID now ids db=.ok db' → Cells db →
      Cells db' ∧ OutcomeKept db db' := by
  induction ids with
  | nil =>
    intro db db' h hc
    cases h
    exact ⟨hc,fun _ _ _ _ _ => rfl⟩
  | cons id ids ih =>
    intro db db' h hc
    simp only [voidVouchers] at h
    split at h
    · exact ih h hc
    split at h
    · exact ih h hc
    obtain ⟨db1,hclose,hloop⟩ := bind_ok h
    obtain ⟨hc1,hk1⟩ := closeVoucher_cells rfl (Or.inl rfl) hc hclose
    obtain ⟨hc',hk'⟩ := ih hloop hc1
    exact ⟨hc',hk1.trans hk'⟩

theorem Inv.congr (h : Inv db) (hv : db'.vouchers=db.vouchers) (hl : db'.ledger=db.ledger) : Inv db' := by
  obtain ⟨users,activities,shares,vouchers,ledger⟩ := db
  obtain ⟨users',activities',shares',vouchers',ledger'⟩ := db'
  simp only at hv hl
  subst hv hl
  exact ⟨⟨h.cells.vouchers,h.cells.ledger,fun r v => ⟨(h.cells.cell r v).reserved,
    (h.cells.cell r v).named,(h.cells.cell r v).settlePre,(h.cells.cell r v).rollbackSettle,
    (h.cells.cell r v).refundPre,(h.cells.cell r v).refundRolled,(h.cells.cell r v).actual,
    (h.cells.cell r v).cancelled⟩,h.cells.balanced⟩,
    fun r => ⟨(h.closed r).settled,(h.closed r).rolled,(h.closed r).refunded⟩⟩

theorem Inv.of_kept (h : Inv db) (hk : Cells db' ∧ OutcomeKept db db') : Inv db' :=
  ⟨hk.1,fun r => hk.2.closed (h.closed r)⟩

theorem void_inv {ids : List Int} (hi : Inv db) (h : voidBenefitVouchers db ids operatorID reason now=.ok db') : Inv db' := by
  unfold voidBenefitVouchers at h
  split at h
  · cases h
  split at h
  · cases h
  · exact hi.of_kept (voidVouchers_cells _ h hi.cells)

theorem terminate_inv {mode : TerminateMode} (hi : Inv db)
    (h : terminateBenefitActivity db activityID mode reason now=.ok db') : Inv db' := by
  simp only [terminateBenefitActivity] at h
  split at h
  · cases h
  split at h
  · cases h
  split at h
  · cases h
  split at h
  · cases h
  have hi1 : Inv (moveShares activityID .voided db) := hi.congr rfl rfl
  split at h
  · cases h
    exact hi1.congr rfl rfl
  · obtain ⟨db1,hclose,hok⟩ := bind_ok h
    cases hok
    exact (hi1.of_kept (closeVouchers_cells rfl (Or.inl rfl) _ hclose hi1.cells)).congr rfl rfl

theorem expire_inv (hi : Inv db) (h : expireBenefitActivityRecordsTx db activityID now=.ok db') : Inv db' := by
  simp only [expireBenefitActivityRecordsTx] at h
  split at h
  · cases h
  split at h
  · have hi1 : Inv (moveShares activityID .expired
        (updateActivity activityID (fun a => { a with status := .ended }) db)) := hi.congr rfl rfl
    exact hi1.of_kept (closeVouchers_cells rfl (Or.inr rfl) _ h hi1.cells)
  · exact hi.of_kept (closeVouchers_cells rfl (Or.inr rfl) _ h hi.cells)

def allocatedQuota (db : BenefitDB) (r : String) (v : Int) : Int :=
  match getBenefitVoucherRequestAllocations db r with
  | .ok allocations => ((allocations.filter fun e => decide (e.voucherID=v)).map (·.quota)).sum
  | .error _ => 0

theorem sumReserved_cell (hu : Keyed.Unique BenefitVoucherLedger.key db.ledger) (r : String) (v : Int) :
    sumReserved ((db.ledger.filter fun l => l.requestId=r ∧
      (l.type=.preConsume ∨ l.type=.settleDelta ∨ l.type=.settleRollback)).filter fun l => decide (l.voucherId=v)) =
      rowAmount (db.row? .preConsume r v)+rowAmount (db.row? .settleDelta r v) + rowAmount (db.row? .settleRollback r v) := by
  have hfilter : (db.ledger.filter fun l => l.requestId=r ∧
      (l.type=.preConsume ∨ l.type=.settleDelta ∨ l.type=.settleRollback)).filter (fun l => decide (l.voucherId=v)) =
      db.ledger.filter fun l => (decide (l.key=(v,r,.preConsume)) ||
        decide (l.key=(v,r,.settleDelta))) || decide (l.key=(v,r,.settleRollback)) := by
    rw [List.filter_filter]
    apply filter_congr
    intro l _
    simp only [BenefitVoucherLedger.key,Prod.mk.injEq,← Bool.decide_and,← Bool.decide_or]
    congr 1
    apply propext
    tauto
  have hsum := fun t => sum_filter_key hu (v,r,t) (-·.quotaDelta)
  rw [sumReserved,hfilter,sum_filter_or,sum_filter_or,hsum,hsum,hsum]
  · rfl
  · intro l hl
    simp only [decide_eq_true_eq] at hl
    simp [hl]
  · intro l hl
    simp only [Bool.or_eq_true,decide_eq_true_eq] at hl
    rcases hl with hl | hl <;> simp [hl]

theorem Cells.rows_none (hc : Cells db) (h : db.row? .preConsume r v=none) :
    db.row? .settleDelta r v=none ∧ db.row? .settleRollback r v=none ∧ db.row? .refund r v=none := by
  have hcell := hc.cell r v
  have hs : db.row? .settleDelta r v=none := by
    rw [← not_isSome_iff_eq_none]
    intro hs
    have hp := hcell.settlePre hs
    simp [h] at hp
  refine ⟨hs,?_,?_⟩
  · rw [← not_isSome_iff_eq_none]
    intro hb
    have hs' := hcell.rollbackSettle hb
    simp [hs] at hs'
  · rw [← not_isSome_iff_eq_none]
    intro hf
    have hp := hcell.refundPre hf
    simp [h] at hp

theorem Cells.cellQuota_nonneg (hc : Cells db) (hl : db.voucherLive v) :
    0 ≤ rowAmount (db.row? .preConsume r v)+rowAmount (db.row? .settleDelta r v) + rowAmount (db.row? .settleRollback r v) := by
  have hcell := hc.cell r v
  have hpos := hcell.reserved
  rcases hb : db.row? .settleRollback r v with _ | b
  · rcases hs : db.row? .settleDelta r v with _ | s
    · simpa using hpos
    have hact := hcell.actual (by rw [hs]; rfl) hb
    rw [hs] at hact
    simpa using hact
  · have hcancel := hcell.cancelled hl (by rw [hb]; rfl)
    rw [hb] at hcancel
    omega

theorem sum_reported (entry : Int → BenefitVoucherRequestAllocation) (hentry : ∀ x, (entry x).voucherID=x)
    (ids : List Int) (v : Int) (hout : v∉ids → (entry v).quota=0) (hpos : 0≤(entry v).quota) :
    ((((((ids.dedup.map entry).filter fun e => decide (e.quota>0)).insertionSort
      fun a b => a.voucherID≤b.voucherID).filter fun e => decide (e.voucherID=v))).map (·.quota)).sum = (entry v).quota := by
  set entries := (ids.dedup.map entry).filter fun e => decide (e.quota>0) with hentries
  have hunique : Keyed.Unique voucherID entries := by
    have hmap : (ids.dedup.map entry).map voucherID=ids.dedup := by
      rw [List.map_map]
      exact (map_congr_left fun x _ => hentry x).trans (List.map_id _)
    refine List.Nodup.sublist (List.Sublist.map _ filter_sublist) ?_
    rw [hmap]
    exact nodup_dedup ids
  have hsort := (((perm_insertionSort (fun a b : BenefitVoucherRequestAllocation =>
    a.voucherID≤b.voucherID) entries).filter fun e => decide (e.voucherID=v)).map (·.quota)).sum_eq
  rw [hsort,sum_filter_key hunique]
  rcases hfind : Keyed.lookup voucherID v entries with _ | e
  · have hnone := lookup_eq_none.mp hfind
    by_cases hv : v∈ids
    · by_contra hne
      refine hnone (entry v) (mem_filter.mpr ⟨?_,?_⟩) (hentry v)
      · exact mem_map.mpr ⟨v,mem_dedup.mpr hv,rfl⟩
      simp only [map_none,getD_none] at hne
      simp only [gt_iff_lt,decide_eq_true_eq]
      omega
    · simp [hout hv]
  · obtain ⟨hmem,hid⟩ := lookup_some hfind
    obtain ⟨x,-,hx⟩ := mem_map.mp (mem_of_mem_filter hmem)
    have hxv : x=v := by
      rw [← hentry x,hx]
      exact hid
    rw [← hx,hxv]
    rfl

theorem allocatedQuota_eq (hi : Inv db) (r : String) (hl : db.voucherLive v) : allocatedQuota db r v=db.cellQuota r v := by
  have hempty : db.row? .preConsume r v=none → db.cellQuota r v=0 := by
    intro h
    obtain ⟨hs,hb,hf⟩ := hi.cells.rows_none h
    simp [cellQuota,h,hs,hb,hf]
  unfold allocatedQuota getBenefitVoucherRequestAllocations
  by_cases hname : GoStrings.isBlank r=true
  · rw [if_pos hname]
    refine (hempty ?_).symm
    rw [← not_isSome_iff_eq_none]
    intro hp
    have hn := (hi.cells.cell r v).named hp
    simp [hname] at hn
  rw [if_neg hname]
  by_cases hrefund : db.requestRows r .refund=[]
  · have hnone := requestRows_nil.mp hrefund v
    have hheld := sumReserved_cell hi.cells.ledger r v
    simp only [hrefund,ne_eq,not_true_eq_false,if_false]
    rw [sum_reported _ (fun _ => rfl),hheld,cellQuota,hnone]
    · rfl
    · intro hv
      rw [filter_eq_nil_iff.mpr]
      · rfl
      intro l hmem he
      exact hv (mem_map.mpr ⟨l,hmem,by simpa using he⟩)
    · rw [hheld]
      exact hi.cells.cellQuota_nonneg hl
  · simp only [ne_eq,hrefund,not_false_eq_true,if_true,filter_nil,map_nil,sum_nil]
    obtain ⟨l,hmem⟩ := exists_mem_of_ne_nil _ hrefund
    have hrow := row?_of_mem_requestRows hi.cells.ledger hmem
    rcases hp : db.row? .preConsume r v with _ | pre
    · exact (hempty hp).symm
    have hf := (hi.closed r).refunded l.voucherId v (by rw [hrow]; rfl) (by rw [hp]; rfl)
    rw [cellQuota,if_pos hf]

def requestSettled (db : BenefitDB) (r : String) : Prop :=
  db.requestRows r .settleDelta≠[] ∧ db.requestRows r .settleRollback=[]

instance (db : BenefitDB) : DecidablePred (requestSettled db) := fun r =>
  inferInstanceAs (Decidable (db.requestRows r .settleDelta≠[] ∧ db.requestRows r .settleRollback=[]))

theorem cellUsed_eq (hi : Inv db) (r : String) (v : Int) :
    db.cellUsed r v = if requestSettled db r then db.cellQuota r v else 0 := by
  by_cases hsettled : requestSettled db r
  · rw [if_pos hsettled]
    rcases hp : db.row? .preConsume r v with _ | pre
    · obtain ⟨hs,hb,hf⟩ := hi.cells.rows_none hp
      simp [cellUsed,cellQuota,hp,hs,hb,hf]
    · obtain ⟨l,hmem⟩ := exists_mem_of_ne_nil _ hsettled.1
      have hs := (hi.closed r).settled l.voucherId v
        (by rw [row?_of_mem_requestRows hi.cells.ledger hmem]; rfl) (by rw [hp]; rfl)
      rw [cellUsed,if_pos ⟨hs,by rw [requestRows_nil.mp hsettled.2 v]; rfl⟩]
  · rw [if_neg hsettled,cellUsed,if_neg]
    rintro ⟨hs,hb⟩
    obtain ⟨l,hl⟩ := isSome_iff_exists.mp hs
    have hrolled : db.requestRows r .settleRollback≠[] := fun h =>
      hsettled ⟨ne_nil_of_mem (requestRows_of_row? hl),h⟩
    obtain ⟨b,hmem⟩ := exists_mem_of_ne_nil _ hrolled
    have hsome := (hi.closed r).rolled b.voucherId v (by rw [row?_of_mem_requestRows hi.cells.ledger hmem]; rfl) hs
    simp [isNone_iff_eq_none.mp hb] at hsome

/-- Stored balances and ledger agree on the live vouchers; `S` is any finite set of request
ids that has those of the ledger. -/
def Reconciled (db : BenefitDB) : Prop :=
  ∀ w ∈ db.vouchers, live w.status → 0≤w.remainingQuota ∧ ∀ S : Finset String, db.requestIds ⊆ S →
      w.originalQuota-w.remainingQuota = ∑ r∈S, allocatedQuota db r w.id ∧
      w.usedQuota = ∑ r∈S with requestSettled db r, allocatedQuota db r w.id

theorem Inv.reconciled (hi : Inv db) : Reconciled db := by
  intro w hw hl
  obtain ⟨hpos,hsum⟩ := hi.cells.balanced w hw hl
  refine ⟨hpos,fun S hS => ?_⟩
  obtain ⟨hq,hu⟩ := hsum S hS
  have hall := fun r => allocatedQuota_eq hi r (v := w.id) ⟨w,hw,rfl,hl⟩
  simp only [hall,hq,hu,Finset.sum_filter,cellUsed_eq hi,true_and]

inductive VoucherOp where
  | reserve (requestID : String) (userID groupID amount now : Int)
  | refundAdditional (requestID : String) (amount : Int)
  | settle (requestID : String) (delta now : Int)
  | rollback (requestID : String) (delta : Int)
  | refund (requestID : String)
  | void (ids : List Int) (operatorID : Int) (reason : String) (now : Int)
  | terminate (activityID : Int) (mode : TerminateMode) (reason : String) (now : Int)
  | expire (activityID now : Int)

def VoucherOp.call (db : BenefitDB) : VoucherOp → Except BenefitError BenefitDB
  | .reserve requestID userID groupID amount now =>
    (reserveBenefitVoucherQuota db requestID userID groupID amount now).map (·.1)
  | .refundAdditional requestID amount => refundBenefitVoucherAdditional db requestID amount
  | .settle requestID delta now => settleBenefitVoucherQuota db requestID delta now
  | .rollback requestID delta => rollbackBenefitVoucherSettlement db requestID delta
  | .refund requestID => refundBenefitVoucherQuota db requestID
  | .void ids operatorID reason now => voidBenefitVouchers db ids operatorID reason now
  | .terminate activityID mode reason now => terminateBenefitActivity db activityID mode reason now
  | .expire activityID now => expireBenefitActivityRecordsTx db activityID now

def voucherStep (db : BenefitDB) (op : VoucherOp) : BenefitDB := Runs.commit db (op.call db)

/-- The request has neither been refunded nor settled for good: what the sibling transactions check before they touch a
reservation. -/
def reservationOpen (db : BenefitDB) (r : String) : Prop :=
  db.requestRows r .refund=[] ∧ (db.requestRows r .settleDelta=[] ∨ db.requestRows r .settleRollback≠[])

def releasesOpen (db : BenefitDB) : VoucherOp → Prop
  | .refundAdditional r amount => reservationOpen db r ∨
    refundReplayed (db.requestRows r .preConsume) (db.requestRows r .refundAdditional) amount=true
  | _ => True

instance (db : BenefitDB) (r : String) : Decidable (reservationOpen db r) :=
  inferInstanceAs (Decidable (_ ∧ (_ ∨ _)))

instance (db : BenefitDB) : (op : VoucherOp) → Decidable (releasesOpen db op)
  | .refundAdditional _ _ => inferInstanceAs (Decidable (_ ∨ _))
  | .reserve .. | .settle .. | .rollback .. | .refund .. | .void .. | .terminate .. | .expire .. =>
    inferInstanceAs (Decidable True)

theorem reservationOpen.releasable (hi : Inv db) (h : reservationOpen db r) : Releasable db r := by
  intro v
  refine ⟨requestRows_nil.mp h.1 v,fun hs => ?_⟩
  rcases h.2 with hnone | hrolled
  · simp [requestRows_nil.mp hnone v] at hs
  obtain ⟨b,hmem⟩ := exists_mem_of_ne_nil _ hrolled
  exact (hi.closed r).rolled b.voucherId v (by rw [row?_of_mem_requestRows hi.cells.ledger hmem]; rfl) hs

theorem refundAdditional_replay {amount : Int}
    (hreplay : refundReplayed (db.requestRows r .preConsume) (db.requestRows r .refundAdditional) amount=true)
    (h : refundBenefitVoucherAdditional db r amount=.ok db') : db'=db := by
  simp only [refundBenefitVoucherAdditional,hreplay,if_true] at h
  split at h
  · cases h
  split at h
  · cases h
  · cases h
    rfl

theorem voucherStep_inv (db : BenefitDB) (op : VoucherOp) (hi : Inv db) (hok : releasesOpen db op) :
    Inv (voucherStep db op) := by
  refine commit_of_ok hi fun db' h => ?_
  cases op with
  | reserve requestID userID groupID amount now =>
    obtain ⟨out,hout,h⟩ := map_ok h
    cases h
    exact reserve_inv hi hout
  | refundAdditional requestID amount =>
    rcases hok with hopen | hreplay
    · exact refundAdditional_inv hi (hopen.releasable hi) h
    · exact refundAdditional_replay hreplay h ▸ hi
  | settle requestID delta now => exact settle_inv hi h
  | rollback requestID delta => exact rollback_inv hi h
  | refund requestID => exact refund_inv hi h
  | void ids operatorID reason now => exact void_inv hi h
  | terminate activityID mode reason now => exact terminate_inv hi h
  | expire activityID now => exact expire_inv hi h

/-- Vouchers as they are claimed: full, unused, with no ledger rows yet. -/
structure Claimed (db : BenefitDB) : Prop where
  vouchers : Keyed.Unique BenefitUserVoucher.id db.vouchers
  full : ∀ w∈db.vouchers, 0≤w.originalQuota ∧ w.remainingQuota=w.originalQuota ∧ w.usedQuota=0
  ledger : db.ledger=[]

theorem Claimed.inv (h : Claimed db) : Inv db := by
  have hrow : ∀ t r v, db.row? t r v=none := by
    intro t r v
    rw [row?,h.ledger]
    rfl
  refine ⟨⟨h.vouchers,by rw [h.ledger]; exact nodup_nil,fun r v => ?_,?_⟩,fun r => ?_⟩
  · constructor <;> simp [hrow]
  · intro w hw _
    obtain ⟨hquota,hrem,hused⟩ := h.full w hw
    refine ⟨by omega,fun S _ => ?_⟩
    simp [cellUsed,cellQuota,hrow,hrem,hused]
  · constructor <;> simp [hrow]

/-- Every run in which partial refunds are asked of open reservations only keeps balances
and ledger reconciled. -/
theorem vouchers_reconciled (db : BenefitDB) (ops : List VoucherOp) (h : Claimed db)
    (hok : Runs.Guarded voucherStep releasesOpen ops db) : Reconciled (Runs.run voucherStep ops db) :=
  (hok.invariant voucherStep_inv h.inv).reconciled

def claimedExample : BenefitDB where
  users := [1]
  activities := [{ id := 1, groupId := 1, status := .published, startsAt := 0, endsAt := 100 }]
  shares := []
  vouchers := [{ id := 1, activityId := 1, userId := 1, originalQuota := 10, remainingQuota := 10,
                 usedQuota := 0, status := .active, expiresAt := 100 }]
  ledger := []

theorem claimedExample_claimed : Claimed claimedExample := by
  refine ⟨nodup_singleton _,?_,rfl⟩
  intro w hw
  simp only [claimedExample,mem_singleton] at hw
  subst hw
  decide

theorem vouchers_reconciled_partial_refund :
    Reconciled (Runs.run voucherStep [.reserve "r" 1 1 8 5,.refundAdditional "r" 3,.settle "r" 2 6] claimedExample) :=
  vouchers_reconciled claimedExample _ claimedExample_claimed (by decide)

theorem settled_reservation_released : Claimed claimedExample ∧
      ¬ Reconciled (Runs.run voucherStep [.reserve "r" 1 1 8 5,.settle "r" 0 6,.refundAdditional "r" 8] claimedExample) := by
  refine ⟨claimedExample_claimed,fun h => ?_⟩
  have hw := h { id := 1, activityId := 1, userId := 1, originalQuota := 10, remainingQuota := 10,
                 usedQuota := 8, status := .active, expiresAt := 100 } (by decide) (Or.inl rfl)
  have hused := (hw.2 _ (Finset.Subset.refl _)).2
  revert hused
  decide

end NewApi.Voucher

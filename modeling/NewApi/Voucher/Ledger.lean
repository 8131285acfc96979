import NewApi.Voucher.Model

/-! The ledger read cell by cell. A cell is one voucher of one request: at most one row of
each type. Every loop of the voucher transactions edits one cell per round, so the
accounting invariant is kept cell by cell and only then summed over the requests. -/
namespace NewApi.Voucher
open Option List Keyed BenefitVoucherLedger

def rowAmount (l : Option BenefitVoucherLedger) : Int := (l.map (-·.quotaDelta)).getD 0

@[simp] theorem rowAmount_none : rowAmount none = 0 := rfl
@[simp] theorem rowAmount_some (l : BenefitVoucherLedger) : rowAmount (some l) = -l.quotaDelta := rfl

def live (s : VoucherStatus) : Prop := s=.active ∨ s=.exhausted

theorem live_iff (s : VoucherStatus) : live s ↔ terminal s=false := by
  cases s <;> simp [live,terminal]

theorem live_statusOf (n : Int) : live (statusOf n) := by
  by_cases h : n=0 <;> simp [live,statusOf,h]

namespace BenefitDB

def requestIds (db : BenefitDB) : Finset String := (db.ledger.map (·.requestId)).toFinset

def cellQuota (db : BenefitDB) (r : String) (v : Int) : Int :=
  if (db.row? .refund r v).isSome then 0
  else rowAmount (db.row? .preConsume r v)+rowAmount (db.row? .settleDelta r v) + rowAmount (db.row? .settleRollback r v)

def cellUsed (db : BenefitDB) (r : String) (v : Int) : Int :=
  if (db.row? .settleDelta r v).isSome ∧ (db.row? .settleRollback r v).isNone
  then db.cellQuota r v else 0

def voucherLive (db : BenefitDB) (v : Int) : Prop := ∃ w∈db.vouchers, w.id=v ∧ live w.status

@[simp] theorem row?_updateVoucher (db : BenefitDB) (id : Int) (f) (t : LedgerType) (r : String) (v : Int) :
    (db.updateVoucher id f).row? t r v=db.row? t r v := rfl

theorem row?_updateLedger (db : BenefitDB) (k : LedgerKey) (f : BenefitVoucherLedger → BenefitVoucherLedger)
    (hf : ∀ l, (f l).key=l.key) (t : LedgerType) (r : String) (v : Int) : (db.updateLedger k f).row? t r v =
      if (v,r,t)=k then (db.row? t r v).map f else db.row? t r v := by
  rw [row?,updateLedger,lookup_modify _ _ _ _ hf]
  by_cases h : (v,r,t)=k
  · rw [if_pos h,if_pos h,← h]
    rfl
  · rw [if_neg h,if_neg h]
    rfl

variable {db : BenefitDB} {l : BenefitVoucherLedger}

theorem createLedger_ok {db' : BenefitDB} (h : db.createLedger l=.ok db') :
    db.row? l.type l.requestId l.voucherId=none ∧ db'={ db with ledger := db.ledger++[l] } := by
  unfold createLedger at h
  split at h
  · cases h
  rename_i hn
  have hn : db.row? l.type l.requestId l.voucherId=none := not_isSome_iff_eq_none.mp hn
  exact ⟨hn,by cases h; rfl⟩

theorem row?_append (db : BenefitDB) (l : BenefitVoucherLedger) (t : LedgerType) (r : String) (v : Int) :
    ({ db with ledger := db.ledger++[l] } : BenefitDB).row? t r v =
      (db.row? t r v).or (if l.key=(v,r,t) then some l else none) := by
  rw [row?,Keyed.lookup_append,Keyed.lookup_cons,Keyed.lookup_nil]
  rfl

variable {r : String} {t : LedgerType} {v : Int}

theorem row?_key (h : db.row? t r v=some l) :
    l∈db.ledger ∧ l.voucherId=v ∧ l.requestId=r ∧ l.type=t := by
  obtain ⟨hm,hk⟩ := lookup_some h
  simp only [key,Prod.mk.injEq] at hk
  exact ⟨hm,hk⟩

theorem requestId_mem (h : (db.row? t r v).isSome) : r∈db.requestIds := by
  obtain ⟨l,hl⟩ := isSome_iff_exists.mp h
  obtain ⟨hm,-,hr,-⟩ := row?_key hl
  exact List.mem_toFinset.mpr (List.mem_map.mpr ⟨l,hm,hr⟩)

theorem mem_requestRows : l∈db.requestRows r t ↔ l∈db.ledger ∧ l.requestId=r ∧ l.type=t := by
  simp [requestRows]

theorem row?_of_mem_requestRows (hu : Keyed.Unique key db.ledger) {t : LedgerType}
    (h : l∈db.requestRows r t) : db.row? t r l.voucherId=some l := by
  obtain ⟨hm,hr,ht⟩ := mem_requestRows.mp h
  have hl := lookup_of_mem hu hm
  rw [key,hr,ht] at hl
  exact hl

theorem requestRows_of_row? (h : db.row? t r v=some l) : l∈db.requestRows r t := by
  obtain ⟨hm,-,hr,ht⟩ := row?_key h
  exact mem_requestRows.mpr ⟨hm,hr,ht⟩

theorem requestRows_nil : db.requestRows r t=[] ↔ ∀ v, db.row? t r v=none := by
  constructor
  · intro h v
    rcases hl : db.row? t r v with _ | l
    · rfl
    have hm := requestRows_of_row? hl
    simp [h] at hm
  · intro h
    rw [eq_nil_iff_forall_not_mem]
    intro l hl
    obtain ⟨hm,hr,ht⟩ := mem_requestRows.mp hl
    have hn := lookup_eq_none.mp (h l.voucherId) l hm
    exact hn (by simp [key,hr,ht])

theorem nodup_requestRows (hu : Keyed.Unique key db.ledger) (r : String) (t : LedgerType) :
    ((db.requestRows r t).map (·.voucherId)).Nodup := by
  have hsub : ((db.requestRows r t).map key).Nodup :=
    List.Nodup.sublist (List.Sublist.map _ filter_sublist) hu
  have hkey : (db.requestRows r t).map key =
      ((db.requestRows r t).map (·.voucherId)).map fun v => (v,r,t) := by
    rw [List.map_map]
    apply map_congr_left
    intro l hl
    obtain ⟨-,hr,ht⟩ := mem_requestRows.mp hl
    simp [key,hr,ht]
  rw [hkey] at hsub
  exact hsub.of_map _

end BenefitDB

open BenefitDB

structure CellOk (db : BenefitDB) (r : String) (v : Int) : Prop where
  reserved : 0≤rowAmount (db.row? .preConsume r v)
  named : (db.row? .preConsume r v).isSome → GoStrings.isBlank r=false
  settlePre : (db.row? .settleDelta r v).isSome → (db.row? .preConsume r v).isSome
  rollbackSettle : (db.row? .settleRollback r v).isSome → (db.row? .settleDelta r v).isSome
  refundPre : (db.row? .refund r v).isSome → (db.row? .preConsume r v).isSome
  refundRolled : (db.row? .refund r v).isSome → (db.row? .settleDelta r v).isSome → (db.row? .settleRollback r v).isSome
  actual : (db.row? .settleDelta r v).isSome → (db.row? .settleRollback r v)=none →
    0≤rowAmount (db.row? .preConsume r v)+rowAmount (db.row? .settleDelta r v)
  cancelled : db.voucherLive v → (db.row? .settleRollback r v).isSome →
    rowAmount (db.row? .settleDelta r v)+rowAmount (db.row? .settleRollback r v)=0

/-- The stored balance of a live voucher against its cells. `S` may be any set of requests
that has all those of the ledger. -/
def Balanced (db : BenefitDB) (w : BenefitUserVoucher) : Prop :=
  0 ≤ w.remainingQuota ∧ ∀ S : Finset String, db.requestIds ⊆ S →
    w.originalQuota-w.remainingQuota = ∑ r∈S, db.cellQuota r w.id ∧
    w.usedQuota = ∑ r∈S, db.cellUsed r w.id

structure Cells (db : BenefitDB) : Prop where
  vouchers : Keyed.Unique BenefitUserVoucher.id db.vouchers
  ledger : Keyed.Unique key db.ledger
  cell : ∀ r v, CellOk db r v
  balanced : ∀ w∈db.vouchers, live w.status → Balanced db w

/-- `db'` differs from `db` in the cell of `r` and `v` and in the voucher `v` only, and
does not revive a voucher. -/
structure Edit (db db' : BenefitDB) (r : String) (v : Int) : Prop where
  rows : ∀ t r' v', (r',v')≠(r,v) → db'.row? t r' v'=db.row? t r' v'
  ids : db.requestIds ⊆ db'.requestIds
  vouchers : Keyed.Unique BenefitUserVoucher.id db.vouchers → Keyed.Unique BenefitUserVoucher.id db'.vouchers
  ledger : Keyed.Unique key db.ledger → Keyed.Unique key db'.ledger
  voucher : ∀ w'∈db'.vouchers, ∃ w∈db.vouchers, w'.id=w.id ∧ (w.id≠v → w'=w) ∧
    w'.originalQuota=w.originalQuota ∧ (live w'.status → live w.status)
  keep : ∀ w∈db.vouchers, w.id≠v → w∈db'.vouchers

variable {db db' : BenefitDB} {r r' : String} {v v' remaining used : Int}

section
variable (h : Edit db db' r v)
include h

theorem Edit.trans {db'' : BenefitDB} (h' : Edit db' db'' r v) : Edit db db'' r v where
  rows t r' v' hne := (h'.rows t r' v' hne).trans (h.rows t r' v' hne)
  ids := h.ids.trans h'.ids
  vouchers hu := h'.vouchers (h.vouchers hu)
  ledger hu := h'.ledger (h.ledger hu)
  voucher := by
    intro w'' hw''
    obtain ⟨w',hw',hid',heq',ho',hl'⟩ := h'.voucher w'' hw''
    obtain ⟨w,hw,hid,heq,ho,hl⟩ := h.voucher w' hw'
    refine ⟨w,hw,hid'.trans hid,?_,ho'.trans ho,fun hlive => hl (hl' hlive)⟩
    intro hne
    rw [heq' (hid ▸ hne),heq hne]
  keep w hw hne := h'.keep w (h.keep w hw hne) hne

theorem Edit.voucherLive {x : Int} (hl : db'.voucherLive x) : db.voucherLive x := by
  obtain ⟨w',hw',hid',hlive⟩ := hl
  obtain ⟨w,hw,hid,-,-,hback⟩ := h.voucher w' hw'
  exact ⟨w,hw,hid.symm.trans hid',hback hlive⟩

section
variable (hne : (r',v')≠(r,v))
include hne

theorem Edit.cellQuota_eq : db'.cellQuota r' v'=db.cellQuota r' v' := by
  simp only [cellQuota,h.rows _ r' v' hne]

theorem Edit.cellUsed_eq : db'.cellUsed r' v'=db.cellUsed r' v' := by
  simp only [cellUsed,h.rows _ r' v' hne,h.cellQuota_eq hne]

theorem CellOk.edit (hc : CellOk db r' v') : CellOk db' r' v' := by
  constructor <;> simp only [h.rows _ r' v' hne]
  · exact hc.reserved
  · exact hc.named
  · exact hc.settlePre
  · exact hc.rollbackSettle
  · exact hc.refundPre
  · exact hc.refundRolled
  · exact hc.actual
  · exact fun hl => hc.cancelled (h.voucherLive hl)

end

end

def SameRow (a b : Option BenefitVoucherLedger) : Prop :=
  a.isSome=b.isSome ∧ rowAmount a=rowAmount b

theorem SameRow.refl (a : Option BenefitVoucherLedger) : SameRow a a := ⟨rfl,rfl⟩

/-- The cell counts the same in both databases; refund_additional rows do not count. -/
def SameCell (db db' : BenefitDB) (r : String) (v : Int) : Prop :=
  ∀ t, t≠.refundAdditional → t≠.void → t≠.expire → SameRow (db'.row? t r v) (db.row? t r v)

theorem SameCell.cellQuota_eq (h : SameCell db db' r v) : db'.cellQuota r v=db.cellQuota r v := by
  simp only [cellQuota,(h .refund (by decide) (by decide) (by decide)).1,(h .preConsume (by decide) (by decide) (by decide)).2,
    (h .settleDelta (by decide) (by decide) (by decide)).2,
    (h .settleRollback (by decide) (by decide) (by decide)).2]

theorem SameCell.cellUsed_eq (h : SameCell db db' r v) : db'.cellUsed r v=db.cellUsed r v := by
  have hr := (h .settleRollback (by decide) (by decide) (by decide)).1
  simp only [cellUsed,h.cellQuota_eq,(h .settleDelta (by decide) (by decide) (by decide)).1, ← not_isSome,hr]

theorem CellOk.congr (hc : CellOk db r v) (h : SameCell db db' r v) (hl : db'.voucherLive v → db.voucherLive v) :
    CellOk db' r v := by
  have hp := h .preConsume (by decide) (by decide) (by decide)
  have hs := h .settleDelta (by decide) (by decide) (by decide)
  have hb := h .settleRollback (by decide) (by decide) (by decide)
  have hf := h .refund (by decide) (by decide) (by decide)
  constructor <;> simp only [hp.1,hp.2,hs.1,hs.2,hb.1,hb.2,hf.1]
  · exact hc.reserved
  · exact hc.named
  · exact hc.settlePre
  · exact hc.rollbackSettle
  · exact hc.refundPre
  · exact hc.refundRolled
  · intro h1 h2
    rw [← not_isSome_iff_eq_none,hb.1,not_isSome_iff_eq_none] at h2
    exact hc.actual h1 h2
  · exact fun hlive => hc.cancelled (hl hlive)

/-- The step rule of the accounting invariant: an edit whose cell stays in order, and that
moves the voucher's stored balance by what it moves in the cell, keeps the invariant. -/
theorem Cells.edit (hc : Cells db) (he : Edit db db' r v) (hr : r∈db'.requestIds) (hcell : CellOk db' r v)
    (hbal : ∀ w∈db.vouchers, ∀ w'∈db'.vouchers, w.id=v → w'.id=v → live w'.status → 0≤w'.remainingQuota ∧
      w.remainingQuota-w'.remainingQuota=db'.cellQuota r v-db.cellQuota r v ∧
      w'.usedQuota-w.usedQuota=db'.cellUsed r v-db.cellUsed r v) : Cells db' where
  vouchers := he.vouchers hc.vouchers
  ledger := he.ledger hc.ledger
  cell := by
    intro r' v'
    by_cases h : (r',v')=(r,v)
    · simp only [Prod.mk.injEq] at h
      rw [h.1,h.2]
      exact hcell
    · exact (hc.cell r' v').edit he h
  balanced := by
    intro w' hw' hl'
    obtain ⟨w,hw,hid,heq,ho,hl⟩ := he.voucher w' hw'
    obtain ⟨hpos,hsum⟩ := hc.balanced w hw (hl hl')
    by_cases hv : w.id=v
    · obtain ⟨hpos',hrem,hused⟩ := hbal w hw w' hw' hv (hid.trans hv) hl'
      refine ⟨hpos',fun S hS => ?_⟩
      obtain ⟨hq,hu⟩ := hsum S (he.ids.trans hS)
      have hq' := sum_move (f := fun r => db.cellQuota r v) (g := fun r => db'.cellQuota r v)
        (hS hr) (fun r' hne => he.cellQuota_eq (by simp [hne]))
      have hu' := sum_move (f := fun r => db.cellUsed r v) (g := fun r => db'.cellUsed r v)
        (hS hr) (fun r' hne => he.cellUsed_eq (by simp [hne]))
      rw [hv] at hq hu
      rw [hid,hv,hq',hu',ho]
      exact ⟨by omega,by omega⟩
    · have hsame : w'=w := heq hv
      subst hsame
      refine ⟨hpos,fun S hS => ?_⟩
      obtain ⟨hq,hu⟩ := hsum S (he.ids.trans hS)
      have hne : ∀ r', (r',w'.id)≠(r,v) := fun r' => by simp [hv]
      simp only [he.cellQuota_eq (hne _),he.cellUsed_eq (hne _)]
      exact ⟨hq,hu⟩

theorem Cells.neutral (hc : Cells db) (he : Edit db db' r v) (hr : r∈db'.requestIds) (hsame : SameCell db db' r v)
    (hvs : ∀ w'∈db'.vouchers, live w'.status → w'∈db.vouchers) : Cells db' := by
  refine hc.edit he hr ((hc.cell r v).congr hsame he.voucherLive) ?_
  intro w hw w' hw' hid hid' hl
  have heq : w=w' := by
    have h1 := lookup_of_mem hc.vouchers hw
    rw [hid.trans hid'.symm] at h1
    exact Option.some.inj (h1.symm.trans (lookup_of_mem hc.vouchers (hvs w' hw' hl)))
  subst heq
  rw [hsame.cellQuota_eq,hsame.cellUsed_eq]
  exact ⟨(hc.balanced w hw hl).1,by omega,by omega⟩

variable {status : VoucherStatus}

theorem Edit.updateVoucher (hl : ∀ w∈db.vouchers, w.id=v → live status → live w.status) (r : String) :
    Edit db (db.updateVoucher v (·.updates remaining used status)) r v where
  rows _ _ _ _ := rfl
  ids := Finset.Subset.refl _
  vouchers hu := hu.modify v (by intro w; rfl)
  ledger hu := hu
  voucher := by
    intro w' hw'
    obtain ⟨w,hw,he⟩ := mem_modify hw'
    by_cases h : w.id=v
    · rw [if_pos h] at he
      subst he
      exact ⟨w,hw,rfl,fun hne => absurd h hne,rfl,hl w hw h⟩
    · rw [if_neg h] at he
      subst he
      exact ⟨w',hw,rfl,fun _ => rfl,rfl,id⟩
  keep w hw hne := List.mem_map.mpr ⟨w,hw,if_neg hne⟩

theorem requestIds_updateLedger (db : BenefitDB) (k : LedgerKey)
    {f : BenefitVoucherLedger → BenefitVoucherLedger} (hf : ∀ l, (f l).key=l.key) :
    (db.updateLedger k f).requestIds=db.requestIds := by
  have hmap : ∀ ls : List BenefitVoucherLedger, ls.map (·.requestId)=(ls.map key).map (·.2.1) := by
    intro ls
    rw [List.map_map]
    rfl
  rw [requestIds,requestIds,hmap,hmap,updateLedger,map_key_modify _ _ _ hf]

theorem Edit.updateLedger {t : LedgerType} (f : BenefitVoucherLedger → BenefitVoucherLedger) (hf : ∀ l, (f l).key=l.key) :
    Edit db (db.updateLedger (v,r,t) f) r v where
  rows := by
    intro t' r' v' hne
    rw [row?_updateLedger db _ f hf,if_neg]
    intro he
    simp only [Prod.mk.injEq] at he
    exact hne (by rw [he.1,he.2.1])
  ids := (requestIds_updateLedger db (v,r,t) hf).symm.subset
  vouchers hu := hu
  ledger hu := hu.modify _ hf
  voucher w hw := ⟨w,hw,rfl,fun _ => rfl,rfl,id⟩
  keep _ hw _ := hw

variable {l : BenefitVoucherLedger}

theorem Edit.createLedger (h : db.createLedger l=.ok db') : Edit db db' l.requestId l.voucherId := by
  obtain ⟨hn,rfl⟩ := createLedger_ok h
  refine ⟨?_,?_,id,fun hu => hu.append hn,fun w hw => ⟨w,hw,rfl,fun _ => rfl,rfl,id⟩, fun _ hw _ => hw⟩
  · intro t r v hne
    have hk : l.key≠(v,r,t) := by
      intro he
      simp only [key,Prod.mk.injEq] at he
      exact hne (by rw [he.1,he.2.1])
    rw [row?_append,if_neg hk,or_none]
  · intro r hr
    simp only [requestIds,map_append,List.mem_toFinset,mem_append] at hr ⊢
    exact Or.inl hr

theorem row?_createLedger (h : db.createLedger l=.ok db') (t : LedgerType) : db'.row? t l.requestId l.voucherId =
      if t=l.type then some l else db.row? t l.requestId l.voucherId := by
  obtain ⟨hn,rfl⟩ := createLedger_ok h
  rw [row?_append]
  by_cases ht : t=l.type
  · subst ht
    simp [hn,key]
  · simp [key,ht,Ne.symm ht]

theorem vouchers_createLedger (h : db.createLedger l=.ok db') : db'.vouchers=db.vouchers := by
  obtain ⟨-,rfl⟩ := createLedger_ok h
  rfl

theorem eq_of_mem_updateVoucher (hu : Keyed.Unique BenefitUserVoucher.id db.vouchers)
    {v w' : BenefitUserVoucher} (hv : v∈db.vouchers) {f : BenefitUserVoucher → BenefitUserVoucher}
    (hw' : w'∈(db.updateVoucher v.id f).vouchers) (he : w'.id=v.id) : w'=f v := by
  obtain ⟨w,hw,hww⟩ := mem_modify hw'
  by_cases h : w.id=v.id
  · rw [if_pos h] at hww
    rw [hww]
    have h1 := lookup_of_mem hu hw
    have h2 := lookup_of_mem hu hv
    rw [h] at h1
    rw [Option.some.inj (h1.symm.trans h2)]
  · rw [if_neg h] at hww
    exact absurd (hww ▸ he) h

theorem eq_of_mem_id (hu : Keyed.Unique BenefitUserVoucher.id db.vouchers) {v w : BenefitUserVoucher}
    (hv : v∈db.vouchers) (hw : w∈db.vouchers) (he : w.id=v.id) : w=v := by
  have h1 := lookup_of_mem hu hw
  rw [he] at h1
  exact Option.some.inj (h1.symm.trans (lookup_of_mem hu hv))

theorem Cells.round (hc : Cells db) {v : BenefitUserVoucher} (hv : v∈db.vouchers) (hlive : live v.status)
    (he : Edit (db.updateVoucher v.id (·.updates remaining used status)) db' r v.id)
    (hvs : db'.vouchers=(db.updateVoucher v.id (·.updates remaining used status)).vouchers)
    (hr : r∈db'.requestIds) (hcell : CellOk db' r v.id) (hpos : 0≤remaining)
    (hquota : v.remainingQuota-remaining=db'.cellQuota r v.id-db.cellQuota r v.id)
    (hused : used=db'.cellUsed r v.id-db.cellUsed r v.id) : Cells db' ∧ Edit db db' r v.id := by
  have hback : ∀ w∈db.vouchers, w.id=v.id → live status → live w.status := by
    intro w hw hwid _
    rw [eq_of_mem_id hc.vouchers hv hw hwid]
    exact hlive
  have hedit := (Edit.updateVoucher hback r).trans he
  refine ⟨hc.edit hedit hr hcell ?_,hedit⟩
  intro w hw w' hw' hwid hwid' _
  rw [eq_of_mem_id hc.vouchers hv hw hwid]
  rw [hvs] at hw'
  rw [eq_of_mem_updateVoucher hc.vouchers hv hw' hwid']
  exact ⟨hpos,hquota,by simp only [BenefitUserVoucher.updates]; omega⟩

theorem mem_of_voucher? {id : Int} {v : BenefitUserVoucher} (h : db.voucher? id=some v) : v∈db.vouchers ∧ v.id=id :=
  lookup_some h

theorem voucher?_updateVoucher (db : BenefitDB) (id x remaining used : Int) (status : VoucherStatus) :
    (db.updateVoucher id (·.updates remaining used status)).voucher? x =
      if x=id then (db.voucher? id).map (·.updates remaining used status) else db.voucher? x :=
  lookup_modify _ _ _ _ fun _ => rfl

end NewApi.Voucher

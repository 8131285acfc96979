import NewApi.Voucher.Rounds

/-! Conservation of voucher quota against the ledger, over every run of the voucher
transactions. Each loop is a chain of rounds; a round edits one cell. -/
namespace NewApi.Voucher
open Runs Option List BenefitDB GoStrings
open BenefitVoucherLedger (key updates)

structure OpenCell (db : BenefitDB) (r : String) (v : Int) : Prop where
  settle : db.row? .settleDelta r v=none
  rollback : db.row? .settleRollback r v=none
  refund : db.row? .refund r v=none

variable {db db' db'' : BenefitDB} {r : String} {v userID groupID now amount refunded delta : Int}

section
variable (h : OpenCell db r v)
include h

theorem OpenCell.cellQuota : db.cellQuota r v=rowAmount (db.row? .preConsume r v) := by
  simp [BenefitDB.cellQuota,h.settle,h.rollback,h.refund]

theorem OpenCell.cellUsed : db.cellUsed r v=0 := by
  simp [BenefitDB.cellUsed,h.settle]

theorem OpenCell.ok (hpos : 0≤rowAmount (db.row? .preConsume r v)) (hname : isBlank r=false) : CellOk db r v := by
  constructor <;> simp [h.settle,h.rollback,h.refund,hpos,hname]

theorem OpenCell.congr (heq : ∀ t, t≠.preConsume → t≠.refundAdditional → db'.row? t r v=db.row? t r v) : OpenCell db' r v := by
  constructor
  · rw [heq _ (by decide) (by decide),h.settle]
  · rw [heq _ (by decide) (by decide),h.rollback]
  · rw [heq _ (by decide) (by decide),h.refund]

end

/-- The request is still open: no cell of it is settled, rolled back or refunded. -/
def OpenRequest (db : BenefitDB) (r : String) : Prop := ∀ v, OpenCell db r v

theorem OpenRequest.edit (h : OpenRequest db r) (he : Edit db db' r v)
    (hcell : ∀ t, t≠.preConsume → t≠.refundAdditional → db'.row? t r v=db.row? t r v) : OpenRequest db' r := by
  intro x
  by_cases hx : x=v
  · subst hx
    exact (h x).congr hcell
  · exact (h x).congr fun t _ _ => he.rows t r x (by simp [hx])

def Frame (db db' : BenefitDB) (r : String) : Prop :=
  ∀ t r' v, r'≠r → db'.row? t r' v=db.row? t r' v

theorem Frame.refl (db : BenefitDB) (r : String) : Frame db db r := fun _ _ _ _ => rfl

theorem Frame.trans (h : Frame db db' r) (h' : Frame db' db'' r) :
    Frame db db'' r := fun t r' v hne => (h' t r' v hne).trans (h t r' v hne)

theorem Edit.frame (h : Edit db db' r v) : Frame db db' r :=
  fun t r' v' hne => h.rows t r' v' (by simp [hne])

variable {existing refunds pres : List BenefitVoucherLedger}

theorem reserveVoucher_cells {reserved : Int} {v : BenefitUserVoucher}
    (h : reserveVoucher r userID existing v reserved db=.ok db')
    (hc : Cells db) (hv : v∈db.vouchers) (hlive : live v.status) (hopen : OpenCell db r v.id)
    (hpre : ∀ pre∈existing, pre.voucherId=v.id → db.row? .preConsume r v.id=some pre)
    (hname : isBlank r=false) (h0 : 0≤reserved) (hle : reserved≤v.remainingQuota) : Cells db' ∧ Edit db db' r v.id ∧
      (∀ t, t≠.preConsume → db'.row? t r v.id=db.row? t r v.id) ∧
      rowAmount (db'.row? .preConsume r v.id)=rowAmount (db.row? .preConsume r v.id)+reserved := by
  simp only [reserveVoucher] at h
  split at h
  next pre hfind =>
    have hrow := hpre pre (mem_of_find?_eq_some hfind) (by simpa using find?_some hfind)
    obtain ⟨-,hvid,hrid,htype⟩ := row?_key hrow
    have hkey : pre.key=(v.id,r,.preConsume) := by
      rw [key,hvid,hrid,htype]
    rw [hkey] at h
    cases h
    have hrows := row?_updateLedger (db.updateVoucher v.id (·.updates (v.remainingQuota-reserved) 0
      (statusOf (v.remainingQuota-reserved)))) (v.id,r,.preConsume)
      (·.updates (pre.quotaDelta-reserved) (v.remainingQuota-reserved)) (fun _ => rfl)
    have hother := fun t (ht : t≠.preConsume) => (hrows t r v.id).trans (if_neg (by simp [ht]))
    have hself := hrows .preConsume r v.id
    rw [if_pos rfl,row?_updateVoucher,hrow,map_some] at hself
    have hopen' := hopen.congr fun t ht _ => hother t ht
    have hamount := (hc.cell r v.id).reserved
    rw [hrow,rowAmount_some] at hamount
    obtain ⟨hcells,hedit⟩ := hc.round hv hlive (Edit.updateLedger _ (by intro; rfl)) rfl (requestId_mem (by rw [hself]; rfl))
      (hopen'.ok (by rw [hself,rowAmount_some,updates]; simp only; omega) hname)
      (by omega)
      (by rw [hopen'.cellQuota,hopen.cellQuota,hself,hrow]; simp only [updates,rowAmount_some]; omega)
      (by rw [hopen'.cellUsed,hopen.cellUsed]; omega)
    exact ⟨hcells,hedit,hother,by
      rw [hself,hrow]; simp only [updates,rowAmount_some]; omega⟩
  · have hrow := (createLedger_ok h).1
    rw [row?_updateVoucher] at hrow
    have hcreated := row?_createLedger h
    simp only at hrow hcreated
    have hother : ∀ t, t≠.preConsume → db'.row? t r v.id=db.row? t r v.id := by
      intro t ht
      rw [hcreated t,if_neg ht]
      rfl
    have hself := hcreated .preConsume
    rw [if_pos rfl] at hself
    have hopen' := hopen.congr fun t ht _ => hother t ht
    obtain ⟨hcells,hedit⟩ := hc.round hv hlive (Edit.createLedger h) (vouchers_createLedger h)
      (requestId_mem (by rw [hself]; rfl))
      (hopen'.ok (by rw [hself]; simpa using h0) hname)
      (by omega)
      (by rw [hopen'.cellQuota,hopen.cellQuota,hself,hrow]; simp)
      (by rw [hopen'.cellUsed,hopen.cellUsed]; simp)
    exact ⟨hcells,hedit,hother,by rw [hself,hrow]; simp⟩

theorem reserveVouchers_cells (hname : isBlank r=false) (vs : List BenefitUserVoucher) :
    ∀ {remaining rest : Int} {first first' : Option BenefitVoucherReservation} {db db' : BenefitDB},
      reserveVouchers r userID existing vs remaining first db=.ok (db',rest,first') →
      Cells db → OpenRequest db r → (vs.map (·.id)).Nodup → (∀ v∈vs, v∈db.vouchers ∧ v.status=.active ∧ 0<v.remainingQuota) →
      (∀ pre∈existing, ∀ v∈vs, pre.voucherId=v.id → db.row? .preConsume r v.id=some pre) →
      Cells db' ∧ OpenRequest db' r ∧ Frame db db' r := by
  induction vs with
  | nil =>
    intro remaining rest first first' db db' h hc ho _ _ _
    cases h
    exact ⟨hc,ho,Frame.refl _ _⟩
  | cons v vs ih =>
    intro remaining rest first first' db db' h hc ho hn hvs hpre
    simp only [reserveVouchers] at h
    split at h
    · cases h
      exact ⟨hc,ho,Frame.refl _ _⟩
    next hrem =>
      obtain ⟨db1,hround,hrest⟩ := bind_ok h
      obtain ⟨hv,hactive,hquota⟩ := hvs v (by simp)
      have hdraw : 0≤(if v.remainingQuota>remaining then remaining else v.remainingQuota) ∧
          (if v.remainingQuota>remaining then remaining else v.remainingQuota)≤v.remainingQuota := by
        split <;> omega
      obtain ⟨hc1,he,hcell,-⟩ := reserveVoucher_cells hround hc hv (Or.inl hactive) (ho v.id)
        (fun pre hp hid => hpre pre hp v (by simp) hid) hname hdraw.1 hdraw.2
      obtain ⟨hne,hn⟩ := Keyed.Unique.cons hn
      obtain ⟨hc',ho',hf⟩ := ih hrest hc1 (ho.edit he fun t ht _ => hcell t ht) hn
        (fun w hw => ⟨he.keep w (hvs w (by simp [hw])).1 (hne w hw),(hvs w (by simp [hw])).2⟩)
        (fun pre hp w hw hid => by
          rw [he.rows _ r w.id (by simp [hne w hw])]
          exact hpre pre hp w (by simp [hw]) hid)
      exact ⟨hc',ho',he.frame.trans hf⟩

/-- The request's rows are complete: once one voucher of it is settled, rolled back or
refunded, so are all. -/
structure Closed (db : BenefitDB) (r : String) : Prop where
  settled : ∀ v v', (db.row? .settleDelta r v).isSome → (db.row? .preConsume r v').isSome → (db.row? .settleDelta r v').isSome
  rolled : ∀ v v', (db.row? .settleRollback r v).isSome → (db.row? .settleDelta r v').isSome →
    (db.row? .settleRollback r v').isSome
  refunded : ∀ v v', (db.row? .refund r v).isSome → (db.row? .preConsume r v').isSome → (db.row? .refund r v').isSome

theorem OpenRequest.closed (h : OpenRequest db r) : Closed db r where
  settled v _ hs := by simp [(h v).settle] at hs
  rolled v _ hs := by simp [(h v).rollback] at hs
  refunded v _ hs := by simp [(h v).refund] at hs

theorem Closed.frame {r' : String} (h : Closed db r') (hf : Frame db db' r) (hne : r'≠r) : Closed db' r' := by
  constructor <;> simp only [fun t v => hf t r' v hne]
  · exact h.settled
  · exact h.rolled
  · exact h.refunded

structure Inv (db : BenefitDB) : Prop where
  cells : Cells db
  closed : ∀ r, Closed db r

theorem Inv.of_frame (h : Inv db) (hc : Cells db') (hf : Frame db db' r) (hr : Closed db' r) : Inv db' := by
  refine ⟨hc,fun r' => ?_⟩
  by_cases hne : r'=r
  · subst hne
    exact hr
  · exact (h.closed r').frame hf hne

theorem available_spec {v : BenefitUserVoucher} (h : v∈(availableVouchers db userID groupID now).insertionSort voucherLe) :
    v∈db.vouchers ∧ v.status=.active ∧ 0<v.remainingQuota := by
  rw [mem_insertionSort] at h
  obtain ⟨hm,hp⟩ := mem_filter.mp h
  simp only [voucherAvailable,Bool.and_eq_true,decide_eq_true_eq] at hp
  exact ⟨hm,hp.1.1.1.2,hp.1.1.2⟩

theorem nodup_available (hu : Keyed.Unique BenefitUserVoucher.id db.vouchers) (userID groupID now : Int) :
    (((availableVouchers db userID groupID now).insertionSort voucherLe).map (·.id)).Nodup := by
  have hp := perm_insertionSort voucherLe (availableVouchers db userID groupID now)
  rw [(hp.map (·.id)).nodup_iff]
  exact List.Nodup.sublist (List.Sublist.map _ filter_sublist) hu

theorem reserve_inv {out : Option BenefitVoucherReservation} (hi : Inv db)
    (h : reserveBenefitVoucherQuota db r userID groupID amount now=.ok (db',out)) : Inv db' := by
  simp only [reserveBenefitVoucherQuota] at h
  split at h
  · cases h
  rename_i hparams
  have hname : isBlank r=false := by
    simp only [not_or,Bool.not_eq_true] at hparams
    exact hparams.1
  split at h
  · cases h
  split at h
  · cases h
  rename_i hrefund
  split at h
  · split at h
    · cases h
      exact hi
    · cases h
  next hsettle =>
    split at h
    · cases h
      exact hi
    · split at h
      · cases h
      obtain ⟨⟨db1,rest,first⟩,hloop,hfin⟩ := bind_ok h
      simp only at hfin
      split at hfin
      · cases hfin
      cases hfin
      simp only [not_or,not_not] at hsettle hrefund
      have hopen : OpenRequest db r := fun v =>
        ⟨requestRows_nil.mp hsettle.1 v,requestRows_nil.mp hsettle.2 v, requestRows_nil.mp hrefund v⟩
      obtain ⟨hc,ho,hf⟩ := reserveVouchers_cells hname _ hloop hi.cells hopen
        (nodup_available hi.cells.vouchers userID groupID now)
        (fun v hv => available_spec hv)
        (fun pre hp v _ hid => by
          rw [← hid]
          exact row?_of_mem_requestRows hi.cells.ledger (mem_of_mem_filter hp))
      exact hi.of_frame hc hf ho.closed

/-- Where a part of the reservation may still be released: the request is not refunded,
and a settlement of it was rolled back. -/
def Releasable (db : BenefitDB) (r : String) : Prop :=
  ∀ v, db.row? .refund r v=none ∧ ((db.row? .settleDelta r v).isSome → (db.row? .settleRollback r v).isSome)

theorem Releasable.cellUsed (h : Releasable db r) (v : Int) : db.cellUsed r v=0 := by
  rw [BenefitDB.cellUsed,if_neg]
  rintro ⟨hs,hb⟩
  have hsome := (h v).2 hs
  simp [isNone_iff_eq_none.mp hb] at hsome

structure Released (db db' : BenefitDB) (r : String) : Prop where
  frame : Frame db db' r
  outcome : ∀ t v, t≠.preConsume → t≠.refundAdditional → db'.row? t r v=db.row? t r v
  pre : ∀ v, (db'.row? .preConsume r v).isSome=(db.row? .preConsume r v).isSome

theorem Released.refl (db : BenefitDB) (r : String) : Released db db r :=
  ⟨Frame.refl _ _,fun _ _ _ _ => rfl,fun _ => rfl⟩

theorem Released.trans (h : Released db db' r) (h' : Released db' db'' r) : Released db db'' r :=
  ⟨h.frame.trans h'.frame,fun t v hp hr => (h'.outcome t v hp hr).trans (h.outcome t v hp hr),
    fun v => (h'.pre v).trans (h.pre v)⟩

theorem Edit.released (he : Edit db db' r v) (hcell : ∀ t, t≠.preConsume → t≠.refundAdditional → db'.row? t r v=db.row? t r v)
    (hpre : (db'.row? .preConsume r v).isSome=(db.row? .preConsume r v).isSome) : Released db db' r := by
  refine ⟨he.frame,fun t x hp hr => ?_,fun x => ?_⟩
  · by_cases hx : x=v
    · subst hx
      exact hcell t hp hr
    · exact he.rows t r x (by simp [hx])
  · by_cases hx : x=v
    · subst hx
      exact hpre
    · rw [he.rows _ r x (by simp [hx])]

theorem Releasable.released (h : Releasable db r) (hr : Released db db' r) : Releasable db' r := by
  intro v
  rw [hr.outcome _ v (by decide) (by decide),hr.outcome _ v (by decide) (by decide), hr.outcome _ v (by decide) (by decide)]
  exact h v

theorem Closed.released (h : Closed db r) (hr : Released db db' r) : Closed db' r where
  settled v v' := by
    rw [hr.outcome _ v (by decide) (by decide),hr.pre,hr.outcome _ v' (by decide) (by decide)]
    exact h.settled v v'
  rolled v v' := by
    rw [hr.outcome _ v (by decide) (by decide),hr.outcome _ v' (by decide) (by decide),
      hr.outcome _ v' (by decide) (by decide)]
    exact h.rolled v v'
  refunded v v' := by
    rw [hr.outcome _ v (by decide) (by decide),hr.pre,hr.outcome _ v' (by decide) (by decide)]
    exact h.refunded v v'

variable {pre : BenefitVoucherLedger}

theorem refundAdditionalRow_cells {remaining : Int} {pre' : BenefitVoucherLedger}
    (h : refundAdditionalRow r amount remaining refunds pre db=.ok (db',pre',refunded))
    (hrefunds : ∀ l∈refunds, l.requestId=r ∧ l.type=.refundAdditional)
    (hc : Cells db) (hrel : Releasable db r) (hrow : db.row? .preConsume r pre.voucherId=some pre) (hpos : 0<remaining) :
    Cells db' ∧ Edit db db' r pre.voucherId ∧ Released db db' r := by
  obtain ⟨-,-,hrid,htype⟩ := row?_key hrow
  have hkey : pre.key=(pre.voucherId,r,.preConsume) := by
    rw [key,hrid,htype]
  have hamount := (hc.cell r pre.voucherId).reserved
  rw [hrow,rowAmount_some] at hamount
  simp only [refundAdditionalRow] at h
  split at h
  · cases h
  rename_i v hv
  obtain ⟨hmem,hid⟩ := mem_of_voucher? hv
  split at h
  · obtain ⟨db1,hw,hok⟩ := bind_ok h
    cases hok
    obtain ⟨he,-,hvs,hrows,-⟩ := writeRefundAdditional_edit hw hrefunds
    refine ⟨hc.neutral he (he.ids (requestId_mem (by rw [hrow]; rfl))) ?_ ?_,he,
      he.released (fun t _ hne => hrows t hne) (by rw [hrows _ (by decide)])⟩
    · intro t hne _ _
      rw [hrows t hne]
      exact SameRow.refl _
    · intro w hw _
      exact hvs ▸ hw
  next hterm =>
    obtain ⟨db1,hw,hok⟩ := bind_ok h
    cases hok
    set refundAmount := if -pre.quotaDelta>remaining then remaining else -pre.quotaDelta with hdef
    have hbound : 0≤refundAmount ∧ refundAmount ≤ -pre.quotaDelta := by
      rw [hdef]
      split <;> omega
    obtain ⟨he,-,hvs,hrows,-⟩ := writeRefundAdditional_edit hw hrefunds
    rw [hkey] at he hvs hrows
    set db2 := db.updateVoucher v.id (·.updates (v.remainingQuota+refundAmount) 0 .active)
    have hpre := row?_updateLedger db2 (pre.voucherId,r,.preConsume)
      (·.updates (-(-pre.quotaDelta-refundAmount)) (v.remainingQuota+refundAmount)) (fun _ => rfl)
    have hother : ∀ t, t≠.preConsume → t≠.refundAdditional → db'.row? t r pre.voucherId=db.row? t r pre.voucherId := by
      intro t hp hra
      rw [hrows t hra,hpre,if_neg (by simp [hp])]
      rfl
    have hself : db'.row? .preConsume r pre.voucherId =
        some (pre.updates (-(-pre.quotaDelta-refundAmount)) (v.remainingQuota+refundAmount)) := by
      have hkept : db2.row? .preConsume r pre.voucherId=some pre := hrow
      rw [hrows _ (by decide),hpre,if_pos rfl,hkept]
      rfl
    have hlive : live v.status := (live_iff _).mpr (by simpa using hterm)
    have hedit2 : Edit db2 db' r v.id := hid ▸ (Edit.updateLedger _ (by intro; rfl)).trans he
    have hvlive : db.voucherLive pre.voucherId := ⟨v,hmem,hid,hlive⟩
    have hback : ∀ w∈db.vouchers, w.id=v.id → live .active → live w.status := by
      intro w hw hwid _
      rw [eq_of_mem_id hc.vouchers hmem hw hwid]
      exact hlive
    have hreleased : Released db db' r := by
      refine ((Edit.updateVoucher hback r).trans hedit2).released ?_ ?_
      · rw [hid]
        exact hother
      · rw [hid,hself,hrow]
        rfl
    have hrel' := hrel.released hreleased
    have hcell := hc.cell r pre.voucherId
    have hcell' : CellOk db' r pre.voucherId := by
      constructor
      · rw [hself,rowAmount_some,updates]
        simp only
        omega
      · intro _
        exact hcell.named (by rw [hrow]; rfl)
      · intro _
        rw [hself]
        rfl
      · rw [hother _ (by decide) (by decide),hother _ (by decide) (by decide)]
        exact hcell.rollbackSettle
      · intro _
        rw [hself]
        rfl
      · rw [hother _ (by decide) (by decide),(hrel _).1]
        intro hn
        cases hn
      · intro hs hn
        have hsome := (hrel' pre.voucherId).2 hs
        simp [hn] at hsome
      · intro _ hs
        rw [hother _ (by decide) (by decide),hother _ (by decide) (by decide)]
        rw [hother _ (by decide) (by decide)] at hs
        exact hcell.cancelled hvlive hs
    have hround := hc.round (r := r) hmem hlive hedit2 hvs (requestId_mem (by rw [hself]; rfl)) (hid ▸ hcell')
      (by have := (hc.balanced v hmem hlive).1; omega)
      (by
        rw [hid]
        simp only [cellQuota,(hrel _).1,(hrel' _).1,hother .settleDelta (by decide) (by decide),
          hother .settleRollback (by decide) (by decide),hself,hrow,rowAmount_some,
          updates]
        simp)
      (by rw [hrel.cellUsed,hrel'.cellUsed]; rfl)
    rw [hid] at hround
    exact ⟨hround.1,hround.2,hreleased⟩

theorem refundAdditionalRows_cells (hrefunds : ∀ l∈refunds, l.requestId=r ∧ l.type=.refundAdditional)
    (pres : List BenefitVoucherLedger) : ∀ {remaining rest : Int} {pres' : List BenefitVoucherLedger} {db db' : BenefitDB},
      refundAdditionalRows r amount refunds pres remaining db=.ok (db',pres',rest) →
      Cells db → Releasable db r → (pres.map (·.voucherId)).Nodup → (∀ pre∈pres, db.row? .preConsume r pre.voucherId=some pre) →
      Cells db' ∧ Released db db' r := by
  induction pres with
  | nil =>
    intro remaining rest pres' db db' h hc _ _ _
    cases h
    exact ⟨hc,Released.refl _ _⟩
  | cons pre pres ih =>
    intro remaining rest pres' db db' h hc hrel hn hrows
    simp only [refundAdditionalRows] at h
    split at h
    · cases h
      exact ⟨hc,Released.refl _ _⟩
    next hrem =>
      obtain ⟨⟨db1,pre1,refunded⟩,hround,hrest⟩ := bind_ok h
      obtain ⟨⟨db2,pres2,rest2⟩,hloop,hok⟩ := bind_ok hrest
      cases hok
      obtain ⟨hc1,he,hreleased⟩ := refundAdditionalRow_cells hround hrefunds hc hrel (hrows pre (by simp)) (by omega)
      obtain ⟨hne,hn⟩ := Keyed.Unique.cons hn
      obtain ⟨hc',hrest'⟩ := ih hloop hc1 (hrel.released hreleased) hn (fun l hl => by
        rw [he.rows _ r _ (by simp [hne l hl])]
        exact hrows l (by simp [hl]))
      exact ⟨hc',hreleased.trans hrest'⟩

theorem refundAdditional_inv (hi : Inv db) (hrel : Releasable db r)
    (h : refundBenefitVoucherAdditional db r amount=.ok db') : Inv db' := by
  simp only [refundBenefitVoucherAdditional] at h
  split at h
  · cases h
  split at h
  · cases h
  rename_i anchor rest hpres
  split at h
  · cases h
    exact hi
  · obtain ⟨⟨db1,pres',left⟩,hloop,hfin⟩ := bind_ok h
    simp only at hfin
    split at hfin
    · cases hfin
    cases hfin
    obtain ⟨hc1,hreleased⟩ := refundAdditionalRows_cells (fun l hl => (mem_requestRows.mp hl).2) _ hloop hi.cells hrel
      (by
        rw [map_reverse,nodup_reverse]
        exact nodup_requestRows hi.cells.ledger r .preConsume)
      (fun pre hp => row?_of_mem_requestRows hi.cells.ledger (mem_reverse.mp hp))
    have hanchor : anchor∈db.requestRows r .preConsume := by simp [hpres]
    obtain ⟨hlm,hlr,hlt⟩ := mem_requestRows.mp hanchor
    have hkey : anchor.key=(anchor.voucherId,r,.preConsume) := by
      rw [key,hlr,hlt]
    rw [hkey]
    set mark := fun l : BenefitVoucherLedger => { l with
      metadata := some { anchor.metadata.getD {} with
        lastRefundAmount := amount
        lastRefundVector := benefitVoucherRefundVector pres'.reverse } }
    have hmark := row?_updateLedger db1 (anchor.voucherId,r,.preConsume) mark (fun _ => rfl)
    have hedit : Edit db1 (db1.updateLedger (anchor.voucherId,r,.preConsume) mark) r anchor.voucherId :=
      Edit.updateLedger _ fun _ => rfl
    have hsame : ∀ t v, SameRow ((db1.updateLedger (anchor.voucherId,r,.preConsume) mark).row? t r v)
        (db1.row? t r v) := by
      intro t v
      rw [hmark]
      by_cases hk : (v,r,t)=(anchor.voucherId,r,LedgerType.preConsume)
      · rw [if_pos hk]
        cases db1.row? t r v <;> exact ⟨rfl,rfl⟩
      · rw [if_neg hk]
        exact SameRow.refl _
    have hrow : (db1.row? .preConsume r anchor.voucherId).isSome := by
      rw [hreleased.pre,row?_of_mem_requestRows hi.cells.ledger hanchor]
      rfl
    have hmarked : Released db1 (db1.updateLedger (anchor.voucherId,r,.preConsume) mark) r :=
      hedit.released (fun t hp _ => by rw [hmark,if_neg (by simp [hp])]) (hsame _ _).1
    refine hi.of_frame (hc1.neutral hedit (hedit.ids (requestId_mem hrow)) ?_ (fun _ hw _ => hw))
      (hreleased.frame.trans hedit.frame) (((hi.closed r).released hreleased).released hmarked)
    intro t _ _ _
    exact hsame t _

structure Marked (db db' : BenefitDB) (r : String) (t : LedgerType) (vs : List Int) : Prop where
  frame : Frame db db' r
  other : ∀ t' v, t'≠t → db'.row? t' r v=db.row? t' r v
  mark : ∀ v∈vs, (db'.row? t r v).isSome
  rest : ∀ v, v∉vs → db'.row? t r v=db.row? t r v

theorem Marked.nil (db : BenefitDB) (r : String) (t : LedgerType) : Marked db db r t [] :=
  ⟨Frame.refl _ _,fun _ _ _ => rfl,by simp,fun _ _ => rfl⟩

theorem Marked.cons {db db1 db' : BenefitDB} {r : String} {t : LedgerType} {v : Int} {vs : List Int}
    (he : Edit db db1 r v) (hother : ∀ t', t'≠t → db1.row? t' r v=db.row? t' r v)
    (hmark : (db1.row? t r v).isSome) (hv : v∉vs) (h : Marked db1 db' r t vs) : Marked db db' r t (v::vs) := by
  refine ⟨he.frame.trans h.frame,fun t' x hne => ?_,fun x hx => ?_,fun x hx => ?_⟩
  · rw [h.other t' x hne]
    by_cases hxv : x=v
    · subst hxv
      exact hother t' hne
    · exact he.rows t' r x (by simp [hxv])
  · rcases mem_cons.mp hx with rfl | hx
    · rw [h.rest x hv]
      exact hmark
    · exact h.mark x hx
  · simp only [mem_cons,not_or] at hx
    rw [h.rest x hx.2,he.rows t r x (by simp [hx.1])]

structure NewRow (db db' : BenefitDB) (r : String) (x : Int) (t : LedgerType) (l : BenefitVoucherLedger) : Prop where
  edit : Edit db db' r x
  vouchers : db'.vouchers=db.vouchers
  none : db.row? t r x=none
  other : ∀ t', t'≠t → db'.row? t' r x=db.row? t' r x
  self : db'.row? t r x=some l

variable {x remaining used : Int} {t : LedgerType} {l : BenefitVoucherLedger} {status : VoucherStatus}
  {voucher : BenefitUserVoucher}
variable {settled : BenefitVoucherLedger}

theorem NewRow.created (h : db.createLedger l=.ok db') (hr : l.requestId=r) (hx : l.voucherId=x)
    (ht : l.type=t) : NewRow db db' r x t l := by
  subst hr hx ht
  have hcreated := row?_createLedger h
  exact ⟨Edit.createLedger h,vouchers_createLedger h,(createLedger_ok h).1,fun _ hne => (hcreated _).trans (if_neg hne),
    (hcreated _).trans (if_pos rfl)⟩

/-- The cell of a dead voucher counts for no balance. -/
theorem NewRow.dead (h : NewRow db db' r x t l) (hc : Cells db) (hmem : voucher∈db.vouchers) (hid : voucher.id=x)
    (hterm : terminal voucher.status=true) (hcell : ¬ db'.voucherLive x → CellOk db' r x) : Cells db' := by
  have hdead : ∀ w∈db'.vouchers, w.id=x → ¬ live w.status := by
    intro w hw hwid hl
    rw [h.vouchers] at hw
    rw [eq_of_mem_id hc.vouchers hmem hw (hwid.trans hid.symm),live_iff,hterm] at hl
    cases hl
  refine hc.edit h.edit (requestId_mem (by rw [h.self]; rfl)) (hcell ?_) fun w _ w' hw' _ hwid' hl =>
    absurd hl (hdead w' hw' hwid')
  rintro ⟨w,hw,hwid,hl⟩
  exact hdead w hw hwid hl

theorem NewRow.round (h : NewRow (db.updateVoucher voucher.id (·.updates remaining used status)) db' r x t l) (hc : Cells db)
    (hmem : voucher∈db.vouchers) (hid : voucher.id=x) (hlive : live voucher.status) (hcell : CellOk db' r x)
    (hpos : 0≤remaining) (hquota : voucher.remainingQuota-remaining=db'.cellQuota r x-db.cellQuota r x)
    (hused : used=db'.cellUsed r x-db.cellUsed r x) : Cells db' ∧ Edit db db' r x := by
  subst hid
  exact hc.round hmem hlive h.edit h.vouchers (requestId_mem (by rw [h.self]; rfl)) hcell hpos hquota hused

theorem settleRow_cells {rest : Int} (h : settleRow r pre delta db=.ok (db',rest)) (hc : Cells db)
    (hopen : OpenCell db r pre.voucherId) (hrow : db.row? .preConsume r pre.voucherId=some pre) :
    Cells db' ∧ Edit db db' r pre.voucherId ∧ (∀ t, t≠.settleDelta → db'.row? t r pre.voucherId=db.row? t r pre.voucherId) ∧
      (db'.row? .settleDelta r pre.voucherId).isSome := by
  simp only [settleRow] at h
  split at h
  · cases h
  rename_i v hv
  obtain ⟨hmem,hid⟩ := mem_of_voucher? hv
  split at h
  · cases h
  rename_i hterm
  have hlive : live v.status := (live_iff _).mpr (by simpa using hterm)
  revert h
  generalize (if delta>0 then if delta>v.remainingQuota then v.remainingQuota else delta
    else if delta<0 then if -delta > -pre.quotaDelta then - -pre.quotaDelta else delta
    else 0)=localDelta
  intro h
  split at h
  · cases h
  split at h
  · cases h
  rename_i hactual hbalance
  obtain ⟨db1,hcreate,hok⟩ := bind_ok h
  cases hok
  obtain hn := NewRow.created (r := r) (x := pre.voucherId) (t := .settleDelta) hcreate rfl rfl rfl
  have hself := hn.self
  have hp := hn.other .preConsume (by decide)
  have hb := (hn.other .settleRollback (by decide)).trans hopen.rollback
  have hf := (hn.other .refund (by decide)).trans hopen.refund
  have hcell := hc.cell r pre.voucherId
  have hcell' : CellOk db' r pre.voucherId := by
    constructor <;> simp only [hp,hb,hf,hself,row?_updateVoucher,hrow,rowAmount_some]
    · simpa [hrow] using hcell.reserved
    · exact fun _ => hcell.named (by rw [hrow]; rfl)
    · exact fun _ => rfl
    · simp
    · simp
    · simp
    · intro _ _
      omega
    · simp
  obtain ⟨hc',hedit⟩ := hn.round hc hmem hid hlive hcell' (by omega) (by
      simp only [cellQuota,hp,hb,hf,hself,hopen.refund,hopen.settle,hopen.rollback,row?_updateVoucher,
        rowAmount_some,rowAmount_none]
      simp)
    (by
      rw [hopen.cellUsed]
      simp only [cellUsed,cellQuota,hp,hb,hf,hself,hrow,row?_updateVoucher,rowAmount_some,rowAmount_none]
      simp)
  exact ⟨hc',hedit,hn.other,by rw [hself]; rfl⟩

theorem settleRows_cells (pres : List BenefitVoucherLedger) :
    ∀ {delta rest : Int} {db db' : BenefitDB}, settleRows r pres delta db=.ok (db',rest) →
      Cells db → (pres.map (·.voucherId)).Nodup → (∀ pre∈pres, OpenCell db r pre.voucherId) →
      (∀ pre∈pres, db.row? .preConsume r pre.voucherId=some pre) →
      Cells db' ∧ Marked db db' r .settleDelta (pres.map (·.voucherId)) := by
  induction pres with
  | nil =>
    intro delta rest db db' h hc _ _ _
    cases h
    exact ⟨hc,Marked.nil _ _ _⟩
  | cons pre pres ih =>
    intro delta rest db db' h hc hn hopen hrows
    obtain ⟨⟨db1,rest1⟩,hround,hloop⟩ := bind_ok h
    obtain ⟨hc1,he,hother,hmark⟩ := settleRow_cells hround hc (hopen pre (by simp)) (hrows pre (by simp))
    simp only [map_cons,nodup_cons] at hn
    have hkeep : ∀ l∈pres, ∀ t, db1.row? t r l.voucherId=db.row? t r l.voucherId := by
      intro l hl t
      have hne : l.voucherId≠pre.voucherId := fun heq => hn.1 (heq ▸ mem_map_of_mem hl)
      exact he.rows t r _ (by simp [hne])
    obtain ⟨hc',hm⟩ := ih hloop hc1 hn.2 (fun l hl => (hopen l (by simp [hl])).congr fun t _ _ => hkeep l hl t)
      (fun l hl => (hkeep l hl _).trans (hrows l (by simp [hl])))
    exact ⟨hc',hm.cons he hother hmark hn.1⟩

theorem addZeroPres_cells (hname : isBlank r=false) (vs : List BenefitUserVoucher) :
    ∀ {known : List Int} {db db' : BenefitDB}, addZeroPres r known vs db=.ok db' →
      Cells db → OpenRequest db r → Cells db' ∧ OpenRequest db' r ∧ Frame db db' r := by
  induction vs with
  | nil =>
    intro known db db' h hc ho
    cases h
    exact ⟨hc,ho,Frame.refl _ _⟩
  | cons v vs ih =>
    intro known db db' h hc ho
    simp only [addZeroPres] at h
    split at h
    · exact ih h hc ho
    obtain ⟨db1,hcreate,hloop⟩ := bind_ok h
    have hcreated := NewRow.created (r := r) (x := v.id) (t := .preConsume) hcreate rfl rfl rfl
    have hopen1 := ho.edit hcreated.edit fun t ht _ => hcreated.other t ht
    have hself := hcreated.self
    have hc1 : Cells db1 := by
      refine hc.edit hcreated.edit (requestId_mem (by rw [hself]; rfl)) ((hopen1 v.id).ok (by rw [hself]; simp) hname) ?_
      intro w hw w' hw' hid hid' hl
      rw [hcreated.vouchers] at hw'
      have heq := eq_of_mem_id hc.vouchers hw hw' (hid'.trans hid.symm)
      subst heq
      rw [(hopen1 _).cellQuota,(ho _).cellQuota,(hopen1 _).cellUsed,(ho _).cellUsed,hself,hcreated.none]
      exact ⟨(hc.balanced w' hw hl).1,by simp,by simp⟩
    obtain ⟨hc',ho',hf⟩ := ih hloop hc1 hopen1
    exact ⟨hc',ho',hcreated.edit.frame.trans hf⟩

theorem settlementPres_cells (hname : isBlank r=false)
    (h : settlementPres db r pres delta now=.ok db') (hc : Cells db) (ho : OpenRequest db r) :
    Cells db' ∧ OpenRequest db' r ∧ Frame db db' r := by
  have hsame : Cells db ∧ OpenRequest db r ∧ Frame db db r := ⟨hc,ho,Frame.refl _ _⟩
  unfold settlementPres at h
  split at h
  · cases h
    exact hsame
  · split at h
    · split at h
      · cases h
      split at h
      · cases h
      · exact addZeroPres_cells hname _ h hc ho
    · cases h
      exact hsame

theorem settle_inv (hi : Inv db) (h : settleBenefitVoucherQuota db r delta now=.ok db') : Inv db' := by
  simp only [settleBenefitVoucherQuota] at h
  split at h
  · cases h
  rename_i hname
  split at h
  · cases h
    exact hi
  · split at h
    · cases h
    rename_i hdone
    split at h
    · split at h
      · cases h
      · cases h
        exact hi
    next hsettled =>
      simp only [not_or,not_not] at hdone hsettled
      have hopen : OpenRequest db r := fun v =>
        ⟨requestRows_nil.mp hsettled v,requestRows_nil.mp hdone.2 v,requestRows_nil.mp hdone.1 v⟩
      obtain ⟨db1,hpres,hrest⟩ := bind_ok h
      obtain ⟨⟨db2,rest⟩,hloop,hfin⟩ := bind_ok hrest
      simp only at hfin
      split at hfin
      · cases hfin
      cases hfin
      obtain ⟨hc1,ho1,hf1⟩ := settlementPres_cells (by simpa using hname) hpres hi.cells hopen
      set rows := db1.requestRows r .preConsume with hrows
      have hperm : (if delta<0 then rows.reverse else rows).Perm rows := by
        split
        · exact reverse_perm rows
        · exact List.Perm.refl _
      obtain ⟨hc2,hm⟩ := settleRows_cells _ hloop hc1
        ((hperm.map _).nodup_iff.mpr (nodup_requestRows hc1.ledger r .preConsume))
        (fun pre _ => ho1 pre.voucherId)
        (fun pre hp => row?_of_mem_requestRows hc1.ledger (hperm.mem_iff.mp hp))
      refine hi.of_frame hc2 (hf1.trans hm.frame) ⟨?_,?_,?_⟩
      · intro v v' _ hpre
        rw [hm.other _ _ (by decide)] at hpre
        obtain ⟨l,hl⟩ := isSome_iff_exists.mp hpre
        refine hm.mark v' (mem_map.mpr ⟨l,hperm.mem_iff.mpr (requestRows_of_row? hl),?_⟩)
        exact (row?_key hl).2.1
      · intro v v' hs
        rw [hm.other _ _ (by decide),(ho1 v).rollback] at hs
        cases hs
      · intro v v' hs
        rw [hm.other _ _ (by decide),(ho1 v).refund] at hs
        cases hs

theorem rolled_ok (hcell : CellOk db r x)
    (hother : ∀ t, t≠.settleRollback → db'.row? t r x=db.row? t r x) (hself : db'.row? .settleRollback r x=some l)
    (hrow : db.row? .settleDelta r x=some settled) (hrefund : db.row? .refund r x=none)
    (hcancelled : db'.voucherLive x → rowAmount (some settled)+rowAmount (some l)=0) : CellOk db' r x := by
  constructor <;> simp only [hother .preConsume (by decide),hother .settleDelta (by decide),hother .refund (by decide),
    hself,hrefund,hrow]
  · exact hcell.reserved
  · exact hcell.named
  · simpa [hrow] using hcell.settlePre
  · exact fun _ => rfl
  · simp
  · simp
  · simp
  · exact fun hl _ => hcancelled hl

theorem rollbackRow_cells (h : rollbackRow r pres settled db=.ok db') (hc : Cells db)
    (hpres : ∀ pre∈pres, pre.voucherId=settled.voucherId → db.row? .preConsume r settled.voucherId=some pre)
    (hrow : db.row? .settleDelta r settled.voucherId=some settled) (hrefund : db.row? .refund r settled.voucherId=none) :
    Cells db' ∧ Edit db db' r settled.voucherId ∧
      (∀ t, t≠.settleRollback → db'.row? t r settled.voucherId=db.row? t r settled.voucherId) ∧
      (db'.row? .settleRollback r settled.voucherId).isSome := by
  unfold rollbackRow at h
  split at h
  · cases h
  rename_i pre hfind
  have hpv : pre.voucherId=settled.voucherId := by simpa using find?_some hfind
  have hpre := hpres pre (mem_of_find?_eq_some hfind) hpv
  rw [hpv] at h
  split at h
  · cases h
  rename_i v hv
  obtain ⟨hmem,hid⟩ := mem_of_voucher? hv
  have hcell := hc.cell r settled.voucherId
  simp only at h
  split at h
  · cases h
  rename_i hinvalid
  split at h
  · cases h
  rename_i hbalance
  split at h
  next hterm =>
    have hn := NewRow.created (r := r) (x := settled.voucherId) (t := .settleRollback) h rfl rfl rfl
    refine ⟨hn.dead hc hmem hid hterm fun hdead => ?_,hn.edit,hn.other,by rw [hn.self]; rfl⟩
    exact rolled_ok hcell (fun t ht => hn.other t ht) hn.self hrow hrefund fun hl => absurd hl hdead
  next hterm =>
    have hlive : live v.status := (live_iff _).mpr (by simpa using hterm)
    have hn := NewRow.created (r := r) (x := settled.voucherId) (t := .settleRollback) h rfl rfl rfl
    have hp := hn.other .preConsume (by decide)
    have hs := hn.other .settleDelta (by decide)
    have hf := hn.other .refund (by decide)
    have hnone := hn.none
    simp only [row?_updateVoucher] at hnone hp hs hf
    obtain ⟨hc',hedit⟩ := hn.round hc hmem hid hlive
      (rolled_ok hcell (fun t ht => hn.other t ht) hn.self hrow hrefund fun _ => by simp) (by omega)
      (by
        simp only [cellQuota,hp,hs,hf,hn.self,hrefund,hnone,hrow,rowAmount_some,rowAmount_none]
        simp)
      (by
        simp only [cellUsed,cellQuota,hp,hs,hf,hn.self,hrefund,hnone,hrow,hpre,rowAmount_some, rowAmount_none]
        simp)
    exact ⟨hc',hedit,hn.other,by rw [hn.self]; rfl⟩

theorem rollbackRows_cells (rows : List BenefitVoucherLedger) : ∀ {db db' : BenefitDB}, rollbackRows r pres rows db=.ok db' →
      Cells db → (rows.map (·.voucherId)).Nodup → (∀ pre∈pres, db.row? .preConsume r pre.voucherId=some pre) →
      (∀ l∈rows, db.row? .settleDelta r l.voucherId=some l) → (∀ l∈rows, db.row? .refund r l.voucherId=none) →
      Cells db' ∧ Marked db db' r .settleRollback (rows.map (·.voucherId)) := by
  induction rows with
  | nil =>
    intro db db' h hc _ _ _ _
    cases h
    exact ⟨hc,Marked.nil _ _ _⟩
  | cons l rows ih =>
    intro db db' h hc hn hpres hrows hrefund
    obtain ⟨db1,hround,hloop⟩ := bind_ok h
    obtain ⟨hc1,he,hother,hmark⟩ := rollbackRow_cells hround hc
      (fun pre hp hv => hv ▸ hpres pre hp) (hrows l (by simp)) (hrefund l (by simp))
    simp only [map_cons,nodup_cons] at hn
    have hkeep : ∀ x t, t≠.settleRollback → db1.row? t r x=db.row? t r x := by
      intro x t ht
      by_cases hx : x=l.voucherId
      · rw [hx]
        exact hother t ht
      · exact he.rows t r x (by simp [hx])
    obtain ⟨hc',hm⟩ := ih hloop hc1 hn.2 (fun pre hp => (hkeep _ _ (by decide)).trans (hpres pre hp))
      (fun x hx => (hkeep _ _ (by decide)).trans (hrows x (by simp [hx])))
      (fun x hx => (hkeep _ _ (by decide)).trans (hrefund x (by simp [hx])))
    exact ⟨hc',hm.cons he hother hmark hn.1⟩

theorem rollback_inv (hi : Inv db) (h : rollbackBenefitVoucherSettlement db r delta=.ok db') : Inv db' := by
  simp only [rollbackBenefitVoucherSettlement] at h
  split at h
  · cases h
  split at h
  · cases h
    exact hi
  next hstate =>
    simp only [not_or,not_not] at hstate
    obtain ⟨-,hsettled,hrolled⟩ := hstate
    split at h
    · cases h
    have hrefund : ∀ v, db.row? .refund r v=none := by
      obtain ⟨l,hl⟩ := exists_mem_of_ne_nil _ hsettled
      have hrow := row?_of_mem_requestRows hi.cells.ledger hl
      have hcell := hi.cells.cell r l.voucherId
      intro v
      rcases hv : db.row? .refund r v with _ | x
      · rfl
      have hpre := hcell.settlePre (by rw [hrow]; rfl)
      have hs := (hi.closed r).refunded v l.voucherId (by rw [hv]; rfl) hpre
      have hb := hcell.refundRolled hs (by rw [hrow]; rfl)
      rw [requestRows_nil.mp hrolled] at hb
      cases hb
    obtain ⟨hc,hm⟩ := rollbackRows_cells _ h hi.cells (nodup_requestRows hi.cells.ledger r _)
      (fun pre hp => row?_of_mem_requestRows hi.cells.ledger hp)
      (fun l hl => row?_of_mem_requestRows hi.cells.ledger hl) (fun l _ => hrefund l.voucherId)
    refine hi.of_frame hc hm.frame ⟨?_,?_,?_⟩
    · intro v v'
      rw [hm.other _ _ (by decide),hm.other _ _ (by decide),hm.other _ _ (by decide)]
      exact (hi.closed r).settled v v'
    · intro v v' _ hs
      rw [hm.other _ _ (by decide)] at hs
      obtain ⟨l,hl⟩ := isSome_iff_exists.mp hs
      exact hm.mark v' (mem_map.mpr ⟨l,requestRows_of_row? hl,(row?_key hl).2.1⟩)
    · intro v v' hs
      rw [hm.other _ _ (by decide),hrefund] at hs
      cases hs

theorem refunded_ok (hcell : CellOk db r x) (hother : ∀ t, t≠.refund → db'.row? t r x=db.row? t r x)
    (hself : db'.row? .refund r x=some l) (hrow : db.row? .preConsume r x=some pre)
    (hrolled : (db.row? .settleDelta r x).isSome → (db.row? .settleRollback r x).isSome)
    (hcancelled : db'.voucherLive x → (db.row? .settleRollback r x).isSome →
      rowAmount (db.row? .settleDelta r x)+rowAmount (db.row? .settleRollback r x)=0) : CellOk db' r x := by
  constructor <;> simp only [hother .preConsume (by decide),hother .settleDelta (by decide),
    hother .settleRollback (by decide),hself]
  · exact hcell.reserved
  · exact hcell.named
  · exact hcell.settlePre
  · exact hcell.rollbackSettle
  · exact fun _ => by rw [hrow]; rfl
  · exact fun _ => hrolled
  · exact hcell.actual
  · exact hcancelled

theorem refundRow_cells (h : refundRow r pre db=.ok db') (hc : Cells db) (hrow : db.row? .preConsume r pre.voucherId=some pre)
    (hrolled : (db.row? .settleDelta r pre.voucherId).isSome → (db.row? .settleRollback r pre.voucherId).isSome) :
    Cells db' ∧ Edit db db' r pre.voucherId ∧ (∀ t, t≠.refund → db'.row? t r pre.voucherId=db.row? t r pre.voucherId) ∧
      (db'.row? .refund r pre.voucherId).isSome := by
  have hcell := hc.cell r pre.voucherId
  simp only [refundRow] at h
  split at h
  · cases h
  rename_i v hv
  obtain ⟨hmem,hid⟩ := mem_of_voucher? hv
  split at h
  next hterm =>
    have hn := NewRow.created (r := r) (x := pre.voucherId) (t := .refund) h rfl rfl rfl
    refine ⟨hn.dead hc hmem hid hterm fun hdead => ?_,hn.edit,hn.other,by rw [hn.self]; rfl⟩
    exact refunded_ok hcell (fun t ht => hn.other t ht) hn.self hrow hrolled fun hl => absurd hl hdead
  next hterm =>
    have hlive : live v.status := (live_iff _).mpr (by simpa using hterm)
    have hvlive : db.voucherLive pre.voucherId := ⟨v,hmem,hid,hlive⟩
    have hn := NewRow.created (r := r) (x := pre.voucherId) (t := .refund) h rfl rfl rfl
    have hnone := hn.none
    have hother := hn.other
    simp only [row?_updateVoucher] at hnone hother
    have hheld : db.cellQuota r pre.voucherId = -pre.quotaDelta := by
      rw [cellQuota,hnone,hrow]
      rcases hb : db.row? .settleRollback r pre.voucherId with _ | b
      · have hs : db.row? .settleDelta r pre.voucherId=none := by
          rw [← not_isSome_iff_eq_none]
          intro hs
          have hsome := hrolled hs
          rw [hb] at hsome
          cases hsome
        simp [hs]
      · have hcancel := hcell.cancelled hvlive (by rw [hb]; rfl)
        rw [hb] at hcancel
        simp only [isSome_none,Bool.false_eq_true,if_false,rowAmount_some] at hcancel ⊢
        omega
    have hunused : ∀ x : BenefitDB,
        ((x.row? .settleDelta r pre.voucherId).isSome → (x.row? .settleRollback r pre.voucherId).isSome) →
        x.cellUsed r pre.voucherId=0 := by
      intro x hx
      rw [cellUsed,if_neg]
      rintro ⟨hs,hb⟩
      have hsome := hx hs
      rw [isNone_iff_eq_none.mp hb] at hsome
      cases hsome
    have hbalanced := (hc.balanced v hmem hlive).1
    have hreserved := hcell.reserved
    rw [hrow,rowAmount_some] at hreserved
    obtain ⟨hc',hedit⟩ := hn.round hc hmem hid hlive
      (refunded_ok hcell hother hn.self hrow hrolled fun _ => hcell.cancelled hvlive) (by omega)
      (by
        rw [hheld]
        simp only [cellQuota,hn.self]
        simp)
      (by
        rw [hunused db hrolled,hunused db' (by
          rw [hother _ (by decide),hother _ (by decide)]
          exact hrolled)]
        rfl)
    exact ⟨hc',hedit,hother,by rw [hn.self]; rfl⟩

theorem refundRows_cells (pres : List BenefitVoucherLedger) : ∀ {db db' : BenefitDB}, refundRows r pres db=.ok db' →
      Cells db → (pres.map (·.voucherId)).Nodup → (∀ pre∈pres, db.row? .preConsume r pre.voucherId=some pre) →
      (∀ v, (db.row? .settleDelta r v).isSome → (db.row? .settleRollback r v).isSome) →
      Cells db' ∧ Marked db db' r .refund (pres.map (·.voucherId)) := by
  induction pres with
  | nil =>
    intro db db' h hc _ _ _
    cases h
    exact ⟨hc,Marked.nil _ _ _⟩
  | cons pre pres ih =>
    intro db db' h hc hn hrows hrolled
    obtain ⟨db1,hround,hloop⟩ := bind_ok h
    obtain ⟨hc1,he,hother,hmark⟩ := refundRow_cells hround hc (hrows pre (by simp)) (hrolled _)
    simp only [map_cons,nodup_cons] at hn
    have hkeep : ∀ x t, t≠.refund → db1.row? t r x=db.row? t r x := by
      intro x t ht
      by_cases hx : x=pre.voucherId
      · rw [hx]
        exact hother t ht
      · exact he.rows t r x (by simp [hx])
    obtain ⟨hc',hm⟩ := ih hloop hc1 hn.2 (fun l hl => (hkeep _ _ (by decide)).trans (hrows l (by simp [hl]))) (fun v => by
        rw [hkeep v _ (by decide),hkeep v _ (by decide)]
        exact hrolled v)
    exact ⟨hc',hm.cons he hother hmark hn.1⟩

theorem refund_inv (hi : Inv db) (h : refundBenefitVoucherQuota db r=.ok db') : Inv db' := by
  simp only [refundBenefitVoucherQuota] at h
  split at h
  · cases h
  split at h
  · cases h
    exact hi
  · split at h
    · cases h
      exact hi
    next hcounts =>
      have hrolled : ∀ v, (db.row? .settleDelta r v).isSome → (db.row? .settleRollback r v).isSome := by
        intro v hs
        obtain ⟨l,hl⟩ := isSome_iff_exists.mp hs
        have hpos := length_pos_of_mem (requestRows_of_row? hl)
        obtain ⟨b,hb⟩ := exists_mem_of_length_pos (show 0<(db.requestRows r .settleRollback).length by omega)
        refine (hi.closed r).rolled b.voucherId v ?_ hs
        rw [row?_of_mem_requestRows hi.cells.ledger hb]
        rfl
      obtain ⟨hc,hm⟩ := refundRows_cells _ h hi.cells (nodup_requestRows hi.cells.ledger r _)
        (fun pre hp => row?_of_mem_requestRows hi.cells.ledger hp) hrolled
      refine hi.of_frame hc hm.frame ⟨?_,?_,?_⟩
      · intro v v'
        rw [hm.other _ _ (by decide),hm.other _ _ (by decide),hm.other _ _ (by decide)]
        exact (hi.closed r).settled v v'
      · intro v v'
        rw [hm.other _ _ (by decide),hm.other _ _ (by decide),hm.other _ _ (by decide)]
        exact (hi.closed r).rolled v v'
      · intro v v' _ hs
        rw [hm.other _ _ (by decide)] at hs
        obtain ⟨l,hl⟩ := isSome_iff_exists.mp hs
        exact hm.mark v' (mem_map.mpr ⟨l,requestRows_of_row? hl,(row?_key hl).2.1⟩)

end NewApi.Voucher

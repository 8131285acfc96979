import Mathlib.Algebra.Order.BigOperators.Group.Finset
import Mathlib.Algebra.Order.BigOperators.Group.List
import NewApi.Voucher.Conservation

/-! One request on the voucher tables, while no other request touches them: what it has drawn from each
voucher is the difference to the tables before it, so that its calls can be told to succeed and to move
exactly what they say. -/
namespace NewApi.Voucher
open Keyed List BenefitDB
open BenefitVoucherLedger (key)

def drawn (v : BenefitUserVoucher) (pre : BenefitVoucherLedger) : BenefitUserVoucher :=
  v.updates (v.remainingQuota+pre.quotaDelta) 0 (statusOf (v.remainingQuota+pre.quotaDelta))

def InGroup (db : BenefitDB) (g activityId : Int) : Prop :=
  ∃ a, db.activity? activityId=some a ∧ a.deleted=false ∧ a.groupId=g

structure Held (base : BenefitDB) (u g : Int) (v : BenefitUserVoucher) (pre : BenefitVoucherLedger) : Prop where
  active : v.status=.active
  quota : 0<v.remainingQuota
  reserved : pre.quotaDelta≤0
  left : 0≤v.remainingQuota+pre.quotaDelta
  owner : pre.userId=u
  activity : pre.activityId=v.activityId
  group : InGroup base g v.activityId

/-- The tables `db` are the tables `base` with the open reservations of the request `r` of the user `u` on
vouchers of the group `g`. -/
structure Drawn (base db : BenefitDB) (r : String) (u g : Int) : Prop where
  users : db.users=base.users
  activities : db.activities=base.activities
  ids : db.vouchers.map (·.id)=base.vouchers.map (·.id)
  unique : Keyed.Unique BenefitUserVoucher.id base.vouchers
  ledger : Keyed.Unique key db.ledger
  opened : OpenRequest db r
  free : ∀ id, db.row? .preConsume r id=none → db.voucher? id=base.voucher? id
  held : ∀ id pre, db.row? .preConsume r id=some pre → ∃ v, base.voucher? id=some v ∧ Held base u g v pre ∧
    db.voucher? id=some (drawn v pre)

variable {base db db' : BenefitDB} {r : String} {u g : Int}

theorem Drawn.vouchers (h : Drawn base db r u g) : Keyed.Unique BenefitUserVoucher.id db.vouchers := by
  have hu := h.unique
  rw [Keyed.Unique,← h.ids] at hu
  exact hu

theorem Drawn.activity? (h : Drawn base db r u g) (id : Int) : db.activity? id=base.activity? id := by
  rw [BenefitDB.activity?,h.activities]
  rfl

variable {id delta : Int} {v w : BenefitUserVoucher} {pre : BenefitVoucherLedger}

theorem Drawn.edit (h : Drawn base db r u g) (he : Edit db db' r id) (husers : db'.users=db.users)
    (hactivities : db'.activities=db.activities) (hids : db'.vouchers.map (·.id)=db.vouchers.map (·.id))
    (hothers : ∀ x, x≠id → db'.voucher? x=db.voucher? x)
    (hopen : ∀ t, t≠.preConsume → t≠.refundAdditional → db'.row? t r id=db.row? t r id)
    (hrow : db'.row? .preConsume r id=some pre)
    (hv : base.voucher? id=some v) (hheld : Held base u g v pre) (hdrawn : db'.voucher? id=some (drawn v pre)) :
    Drawn base db' r u g where
  users := husers.trans h.users
  activities := hactivities.trans h.activities
  ids := hids.trans h.ids
  unique := h.unique
  ledger := he.ledger h.ledger
  opened := h.opened.edit he hopen
  free x hx := by
    by_cases hxid : x=id
    · rw [hxid,hrow] at hx
      cases hx
    · rw [he.rows _ r x (by simp [hxid])] at hx
      rw [hothers x hxid]
      exact h.free x hx
  held x pre' hx := by
    by_cases hxid : x=id
    · rw [hxid,hrow] at hx
      cases hx
      exact ⟨v,hxid ▸ hv,hheld,hxid ▸ hdrawn⟩
    · rw [he.rows _ r x (by simp [hxid])] at hx
      obtain ⟨w,hw,hwheld,hwdrawn⟩ := h.held x pre' hx
      exact ⟨w,hw,hwheld,(hothers x hxid).trans hwdrawn⟩

def taken (base db : BenefitDB) (r : String) : Int :=
  ∑ id∈(base.vouchers.map (·.id)).toFinset, rowAmount (db.row? .preConsume r id)

theorem mem_ids (h : base.voucher? id=some v) : id∈(base.vouchers.map (·.id)).toFinset := by
  obtain ⟨hm,hid⟩ := mem_of_voucher? h
  exact mem_toFinset.mpr (mem_map.mpr ⟨v,hm,hid⟩)

theorem taken_edit (he : Edit db db' r id) (hv : base.voucher? id=some v) : taken base db' r=taken base db r +
      (rowAmount (db'.row? .preConsume r id)-rowAmount (db.row? .preConsume r id)) :=
  sum_move (f := fun id => rowAmount (db.row? .preConsume r id))
    (g := fun id => rowAmount (db'.row? .preConsume r id)) (mem_ids hv)
    fun x hx => by rw [he.rows _ r x (by simp [hx])]

theorem Drawn.sumReserved (h : Drawn base db r u g) : sumReserved (db.requestRows r .preConsume)=taken base db r := by
  have hnodup := nodup_requestRows h.ledger r .preConsume
  have hrows : ∀ l∈db.requestRows r .preConsume, rowAmount (db.row? .preConsume r l.voucherId) = -l.quotaDelta := by
    intro l hl
    rw [row?_of_mem_requestRows h.ledger hl,rowAmount_some]
  have hsum : Voucher.sumReserved (db.requestRows r .preConsume) =
      ∑ id∈((db.requestRows r .preConsume).map (·.voucherId)).toFinset, rowAmount (db.row? .preConsume r id) := by
    rw [sum_toFinset _ hnodup,map_map,Voucher.sumReserved]
    exact congrArg List.sum (map_congr_left fun l hl => (hrows l hl).symm)
  rw [hsum,taken]
  refine Finset.sum_subset (fun id hid => ?_) fun id _ hid => ?_
  · obtain ⟨l,hl,hlid⟩ := mem_map.mp (mem_toFinset.mp hid)
    obtain ⟨v,hv,-,-⟩ := h.held l.voucherId l (row?_of_mem_requestRows h.ledger hl)
    exact mem_ids (hlid ▸ hv)
  · cases hrow : db.row? .preConsume r id with
    | none => rfl
    | some l =>
      refine absurd ?_ hid
      exact mem_toFinset.mpr (mem_map.mpr ⟨l,requestRows_of_row? hrow,(row?_key hrow).2.1⟩)

def balance (db : BenefitDB) : Int := (db.vouchers.map (·.remainingQuota)).sum

theorem balance_updateVoucher {db : BenefitDB} (hu : Keyed.Unique BenefitUserVoucher.id db.vouchers)
    (hv : v∈db.vouchers) (remaining used : Int) (status : VoucherStatus) :
    balance (db.updateVoucher v.id (·.updates remaining used status)) = balance db+(remaining-v.remainingQuota) :=
  sum_modify hu hv _ _

theorem balance_eq {db : BenefitDB} (hu : Keyed.Unique BenefitUserVoucher.id db.vouchers) :
    balance db = ∑ id∈(db.vouchers.map (·.id)).toFinset, ((db.voucher? id).map (·.remainingQuota)).getD 0 := by
  rw [sum_toFinset _ hu,balance,map_map]
  refine congrArg List.sum (map_congr_left fun v hv => ?_)
  simp [BenefitDB.voucher?,lookup_of_mem hu hv]

theorem Drawn.balance (h : Drawn base db r u g) : balance db=Voucher.balance base-taken base db r := by
  rw [balance_eq h.vouchers,balance_eq h.unique,h.ids,taken,← Finset.sum_sub_distrib]
  refine Finset.sum_congr rfl fun id _ => ?_
  cases hrow : db.row? .preConsume r id with
  | none => rw [h.free id hrow,rowAmount_none,Int.sub_zero]
  | some pre =>
    obtain ⟨v,hv,-,hdrawn⟩ := h.held id pre hrow
    rw [hv,hdrawn,rowAmount_some]
    simp only [drawn,BenefitUserVoucher.updates,Option.map_some,Option.getD_some]
    omega

theorem Drawn.start (hids : Keyed.Unique BenefitUserVoucher.id base.vouchers)
    (hledger : Keyed.Unique key base.ledger) (hfresh : ∀ t v, base.row? t r v=none) (u g : Int) :
    Drawn base base r u g ∧ taken base base r=0 := by
  refine ⟨⟨rfl,rfl,rfl,hids,hledger,fun v => ⟨hfresh _ v,hfresh _ v,hfresh _ v⟩,fun _ _ => rfl,?_⟩,?_⟩
  · intro id pre hrow
    rw [hfresh] at hrow
    cases hrow
  · simp [taken,hfresh]

structure Usable (base db : BenefitDB) (u g : Int) (v : BenefitUserVoucher) : Prop where
  row : db.voucher? v.id=some v
  owner : v.userId=u
  active : v.status=.active
  quota : 0<v.remainingQuota
  group : InGroup base g v.activityId

theorem ids_updateVoucher (db : BenefitDB) (id remaining used : Int) (status : VoucherStatus) :
    (db.updateVoucher id (·.updates remaining used status)).vouchers.map (·.id)=db.vouchers.map (·.id) :=
  map_key_modify _ _ _ fun _ => rfl

theorem createLedger_of_none {l : BenefitVoucherLedger} (h : db.row? l.type l.requestId l.voucherId=none) :
    db.createLedger l=.ok { db with ledger := db.ledger++[l] } := by
  have hnone : Keyed.lookup key l.key db.ledger=none := h
  simp only [createLedger,hnone,Option.isSome_none,Bool.false_eq_true,if_false]

/-- A voucher as the request finds it: what its row has drawn is missing, the rest is as before. -/
structure Current (db : BenefitDB) (r : String) (w v : BenefitUserVoucher) : Prop where
  row : db.voucher? w.id=some v
  id : v.id=w.id
  activity : v.activityId=w.activityId
  left : v.remainingQuota=w.remainingQuota-rowAmount (db.row? .preConsume r w.id)
  updates : ∀ remaining status, v.updates remaining 0 status=w.updates remaining 0 status

theorem Drawn.current (h : Drawn base db r u g) (hw : base.voucher? w.id=some w) :
    ∃ v, Current db r w v ∧ (v=w ∨ live v.status) := by
  cases hrow : db.row? .preConsume r w.id with
  | none => exact ⟨w,⟨(h.free w.id hrow).trans hw,rfl,rfl,by simp [hrow],fun _ _ => rfl⟩,.inl rfl⟩
  | some pre =>
    obtain ⟨w',hw',hheld,hdrawn⟩ := h.held w.id pre hrow
    obtain rfl : w=w' := Option.some.inj (hw.symm.trans hw')
    refine ⟨drawn w pre,⟨hdrawn,rfl,rfl,?_,fun remaining status => ?_⟩,.inr (live_statusOf _)⟩
    · rw [hrow,rowAmount_some]
      simp only [drawn,BenefitUserVoucher.updates]
      omega
    · simp [drawn,BenefitUserVoucher.updates]

def putVoucher (db : BenefitDB) (w : BenefitUserVoucher) (pre : BenefitVoucherLedger) : BenefitDB :=
  db.updateVoucher w.id (·.updates (w.remainingQuota+pre.quotaDelta) 0 (statusOf (w.remainingQuota+pre.quotaDelta)))

theorem Drawn.put (h : Drawn base db r u g) (hw : base.voucher? w.id=some w) (hheld : Held base u g w pre)
    (he : Edit (putVoucher db w pre) db' r w.id) (husers : db'.users=db.users) (hactivities : db'.activities=db.activities)
    (hvs : db'.vouchers=(putVoucher db w pre).vouchers)
    (hopen : ∀ t, t≠.preConsume → t≠.refundAdditional → db'.row? t r w.id=db.row? t r w.id)
    (hrow : db'.row? .preConsume r w.id=some pre) :
    Drawn base db' r u g ∧ Edit db db' r w.id ∧ (∀ x, x≠w.id → db'.voucher? x=db.voucher? x) ∧
      taken base db' r=taken base db r+(-pre.quotaDelta-rowAmount (db.row? .preConsume r w.id)) := by
  obtain ⟨v,hcur,hlive⟩ := h.current hw
  have hback : ∀ x∈db.vouchers, x.id=w.id → live (statusOf (w.remainingQuota+pre.quotaDelta)) → live x.status := by
    intro x hx hxid _
    rw [eq_of_mem_id h.vouchers (mem_of_voucher? hcur.row).1 hx (hxid.trans hcur.id.symm)]
    obtain rfl | hlive := hlive
    · exact .inl hheld.active
    · exact hlive
  have hedit : Edit db db' r w.id := (Edit.updateVoucher hback r).trans he
  have hvoucher : ∀ x, db'.voucher? x=(putVoucher db w pre).voucher? x := fun x => by
    rw [BenefitDB.voucher?,hvs]
    rfl
  have hothers : ∀ x, x≠w.id → db'.voucher? x=db.voucher? x := fun x hx => by
    rw [hvoucher,putVoucher,voucher?_updateVoucher,if_neg hx]
  have hself : db'.voucher? w.id=some (drawn w pre) := by
    rw [hvoucher,putVoucher,voucher?_updateVoucher,if_pos rfl,hcur.row,Option.map_some,hcur.updates]
    rfl
  refine ⟨h.edit hedit husers hactivities ?_ hothers hopen hrow hw hheld hself,hedit,hothers,?_⟩
  · rw [hvs]
    exact ids_updateVoucher _ _ _ _ _
  · rw [taken_edit hedit hw,hrow,rowAmount_some]

theorem Drawn.reserveVoucher (h : Drawn base db r u g) (hv : Usable base db u g v) {existing : List BenefitVoucherLedger}
    (hfind : existing.find? (fun pre => decide (pre.voucherId=v.id))=db.row? .preConsume r v.id)
    {reserved : Int} (h0 : 0≤reserved) (hle : reserved≤v.remainingQuota) :
    ∃ db', Voucher.reserveVoucher r u existing v reserved db=.ok db' ∧ Drawn base db' r u g ∧
      Edit db db' r v.id ∧ (∀ x, x≠v.id → db'.voucher? x=db.voucher? x) ∧ taken base db' r=taken base db r+reserved := by
  cases hrow : db.row? .preConsume r v.id with
  | none =>
    have hw : base.voucher? v.id=some v := (h.free v.id hrow).symm.trans hv.row
    set pre : BenefitVoucherLedger :=
      { activityId := v.activityId, voucherId := v.id, userId := u, requestId := r, type := .preConsume,
        quotaDelta := -reserved, balanceAfter := v.remainingQuota-reserved } with hpre
    have hheld : Held base u g v pre :=
      ⟨hv.active,hv.quota,by simp only [hpre]; omega,by simp only [hpre]; omega,rfl,rfl,hv.group⟩
    have hcreate : (putVoucher db v pre).createLedger pre =
        .ok { putVoucher db v pre with ledger := db.ledger++[pre] } := createLedger_of_none hrow
    obtain ⟨hdrawn,hedit,hothers,htaken⟩ := h.put hw hheld (Edit.createLedger hcreate) rfl rfl rfl
      (fun t ht _ => (row?_createLedger hcreate t).trans (if_neg ht)) ((row?_createLedger hcreate _).trans (if_pos rfl))
    refine ⟨_,?_,hdrawn,hedit,hothers,?_⟩
    · simp only [Voucher.reserveVoucher,hfind,hrow]
      exact hcreate
    · rw [htaken,hrow,rowAmount_none]
      simp only [hpre]
      omega
  | some pre =>
    obtain ⟨w,hw,hheld,hdrawn⟩ := h.held v.id pre hrow
    have hvw : v=drawn w pre := Option.some.inj (hv.row.symm.trans hdrawn)
    have hid : v.id=w.id := by
      rw [hvw]
      rfl
    have hleft : v.remainingQuota=w.remainingQuota+pre.quotaDelta := by
      rw [hvw]
      rfl
    set pre' := pre.updates (pre.quotaDelta-reserved) (v.remainingQuota-reserved) with hpre'
    have hbalance : w.remainingQuota+pre'.quotaDelta=v.remainingQuota-reserved := by
      simp only [hpre',BenefitVoucherLedger.updates]
      omega
    have hheld' : Held base u g w pre' := by
      have hreserved := hheld.reserved
      refine ⟨hheld.active,hheld.quota,?_,by omega,hheld.owner,hheld.activity,hheld.group⟩
      simp only [hpre',BenefitVoucherLedger.updates]
      omega
    obtain ⟨-,hvid,hrid,htype⟩ := row?_key hrow
    have hkey : pre.key=(w.id,r,.preConsume) := by
      rw [key,hvid,hrid,htype,hid]
    rw [hid] at hrow hw hfind ⊢
    have hrows := row?_updateLedger (putVoucher db w pre') (w.id,r,.preConsume)
      (·.updates (pre.quotaDelta-reserved) (v.remainingQuota-reserved)) (fun _ => rfl)
    have hedit : Edit (putVoucher db w pre') ((putVoucher db w pre').updateLedger (w.id,r,.preConsume)
        (·.updates (pre.quotaDelta-reserved) (v.remainingQuota-reserved))) r w.id :=
      Edit.updateLedger _ fun _ => rfl
    obtain ⟨hdrawn',hedit,hothers,htaken⟩ := h.put hw hheld' hedit rfl rfl rfl
      (fun t ht _ => (hrows t r w.id).trans (if_neg (by simp [ht]))) (by
        have hkept : (putVoucher db w pre').row? .preConsume r w.id=some pre := hrow
        rw [hrows,if_pos rfl,hkept]
        rfl)
    refine ⟨_,?_,hdrawn',hedit,hothers,?_⟩
    · simp only [Voucher.reserveVoucher,hid,hfind,hrow,hkey,putVoucher,hbalance]
    rw [htaken,hrow,rowAmount_some]
    simp only [hpre',BenefitVoucherLedger.updates]
    omega

theorem Usable.other (hv : Usable base db u g v) (hne : v.id≠id)
    (h : ∀ x, x≠id → db'.voucher? x=db.voucher? x) : Usable base db' u g v :=
  ⟨(h v.id hne).trans hv.row,hv.owner,hv.active,hv.quota,hv.group⟩

theorem Drawn.reserveVouchers (existing : List BenefitVoucherLedger) (vs : List BenefitUserVoucher) :
    ∀ (remaining : Int) (first : Option BenefitVoucherReservation) {db : BenefitDB}, Drawn base db r u g →
      (vs.map (·.id)).Nodup → (∀ v∈vs, Usable base db u g v) →
      (∀ v∈vs, existing.find? (fun pre => decide (pre.voucherId=v.id))=db.row? .preConsume r v.id) → 0<remaining →
      ∃ db' rest first', Voucher.reserveVouchers r u existing vs remaining first db=.ok (db',rest,first') ∧
        Drawn base db' r u g ∧ taken base db' r=taken base db r+(remaining-rest) ∧
        rest=max 0 (remaining-(vs.map (·.remainingQuota)).sum) ∧ (vs≠[] ∨ first.isSome → first'.isSome) := by
  induction vs with
  | nil =>
    intro remaining first db h _ _ _ hpos
    exact ⟨db,remaining,first,rfl,h,by omega,by simp; omega,by simp⟩
  | cons v vs ih =>
    intro remaining first db h hnodup husable hfind hpos
    have hv := husable v (by simp)
    have hquota := hv.quota
    obtain ⟨hne,hnodup⟩ := Keyed.Unique.cons hnodup
    set reserved := if v.remainingQuota>remaining then remaining else v.remainingQuota with hreserved
    have hbounds : 0<reserved ∧ reserved≤v.remainingQuota ∧ reserved=min remaining v.remainingQuota := by
      rw [hreserved]
      split <;> omega
    obtain ⟨db1,hround,hdrawn,hedit,hothers,htaken⟩ :=
      h.reserveVoucher hv (hfind v (by simp)) (by omega) hbounds.2.1
    have hstep : ∀ first, Voucher.reserveVouchers r u existing (v::vs) remaining first db =
        Voucher.reserveVouchers r u existing vs (remaining-reserved)
          (first.or (some { voucherID := v.id, activityID := v.activityId, userID := v.userId, reserved := 0,
                            balanceAfter := v.remainingQuota-reserved })) db1 := by
      intro first
      simp only [Voucher.reserveVouchers,if_neg (Int.not_le.mpr hpos)]
      rw [← hreserved,hround]
      rfl
    rw [hstep]
    obtain hdone | hmore : remaining=reserved ∨ reserved<remaining := by omega
    · have hloop : ∀ first db, Voucher.reserveVouchers r u existing vs (remaining-reserved) first db =
          .ok (db,remaining-reserved,first) := by
        intro first db
        cases vs with
        | nil => rfl
        | cons w ws => simp only [Voucher.reserveVouchers,if_pos (show remaining-reserved≤0 by omega)]
      rw [hloop]
      refine ⟨db1,_,_,rfl,hdrawn,by omega,?_,fun _ => by cases first <;> rfl⟩
      have hrest : 0≤(vs.map (·.remainingQuota)).sum := sum_nonneg fun x hx => by
        obtain ⟨w,hw,rfl⟩ := mem_map.mp hx
        exact (husable w (by simp [hw])).quota.le
      simp only [map_cons,sum_cons]
      omega
    · obtain ⟨db',rest,first',hloop,hdrawn',htaken',hrest,hfirst⟩ := ih (remaining-reserved)
        (first.or (some { voucherID := v.id, activityID := v.activityId, userID := v.userId, reserved := 0,
                          balanceAfter := v.remainingQuota-reserved })) hdrawn hnodup
        (fun w hw => (husable w (by simp [hw])).other (hne w hw) hothers)
        (fun w hw => by
          rw [hfind w (by simp [hw]),hedit.rows _ r w.id (by simp [hne w hw])]) (by omega)
      refine ⟨db',rest,first',hloop,hdrawn',by omega,?_,fun _ => ?_⟩
      · simp only [map_cons,sum_cons]
        omega
      · exact hfirst (.inr (by cases first <;> rfl))

/-- What the vouchers of the group hold for the user, as `GetBenefitVoucherAvailableQuota` sums it up. -/
def availableQuota (db : BenefitDB) (u g now : Int) : Int :=
  ((availableVouchers db u g now).map (·.remainingQuota)).sum

theorem Drawn.usable (h : Drawn base db r u g) {now : Int}
    (hv : v∈(availableVouchers db u g now).insertionSort voucherLe) : Usable base db u g v := by
  have hmem := (available_spec hv).1
  rw [mem_insertionSort] at hv
  have havail := (mem_filter.mp hv).2
  simp only [voucherAvailable,Bool.and_eq_true,decide_eq_true_eq] at havail
  obtain ⟨⟨⟨⟨howner,hactive⟩,hquota⟩,-⟩,hactivity⟩ := havail
  refine ⟨lookup_of_mem h.vouchers hmem,howner,hactive,hquota,?_⟩
  cases ha : db.activity? v.activityId with
  | none => simp [ha] at hactivity
  | some a =>
    simp only [ha,Bool.and_eq_true,decide_eq_true_eq,benefitVoucherActivityAvailable,Bool.not_eq_true'] at hactivity
    exact ⟨a,(h.activity? _).symm.trans ha,hactivity.2.1,hactivity.1⟩

theorem Drawn.existing (h : Drawn base db r u g) :
    (db.requestRows r .preConsume).filter (fun l => decide (l.userId=u))=db.requestRows r .preConsume := by
  rw [filter_eq_self]
  intro l hl
  obtain ⟨v,-,hheld,-⟩ := h.held l.voucherId l (row?_of_mem_requestRows h.ledger hl)
  simpa using hheld.owner

theorem find?_requestRows (db : BenefitDB) (r : String) (t : LedgerType) (id : Int) :
    (db.requestRows r t).find? (fun pre => decide (pre.voucherId=id))=db.row? t r id := by
  rw [BenefitDB.requestRows,find?_filter,BenefitDB.row?,Keyed.lookup]
  refine congrArg (fun p => db.ledger.find? p) (funext fun l => ?_)
  rw [Bool.eq_iff_iff]
  simp [key]
  tauto

theorem Drawn.reserve_eq (h : Drawn base db r u g) (hname : GoStrings.isBlank r=false) (hu : 0<u) (hg : 0<g)
    (huser : u∈base.users) (amount now : Int) (h0 : 0≤taken base db r) (hmore : taken base db r<amount) :
    reserveBenefitVoucherQuota db r u g amount now =
      if (availableVouchers db u g now).insertionSort voucherLe=[] then .error .voucherUnavailable else
      (Voucher.reserveVouchers r u (db.requestRows r .preConsume)
        ((availableVouchers db u g now).insertionSort voucherLe) (amount-taken base db r) none db).bind
        fun (db,remaining,first) =>
          if remaining>0 then .error .voucherUnavailable
          else .ok (db,first.map fun r => { r with reserved := amount }) := by
  have hsettle : db.requestRows r .settleDelta=[] := requestRows_nil.mpr fun v => (h.opened v).settle
  have hrollback : db.requestRows r .settleRollback=[] := requestRows_nil.mpr fun v => (h.opened v).rollback
  have hrefund : db.requestRows r .refund=[] := requestRows_nil.mpr fun v => (h.opened v).refund
  have hparams : ¬ (GoStrings.isBlank r=true ∨ u≤0 ∨ g≤0 ∨ amount≤0) := by
    rw [hname]
    simp
    omega
  have hnotin : ¬ u∉db.users := by
    rw [h.users]
    exact not_not.mpr huser
  simp only [reserveBenefitVoucherQuota,if_neg hparams,if_neg hnotin,hrefund,hsettle,hrollback,h.existing,
    h.sumReserved,ne_eq,not_true_eq_false,if_false,or_self,if_neg (Int.not_le.mpr hmore)]

theorem Drawn.reserve (h : Drawn base db r u g) (hname : GoStrings.isBlank r=false) (hu : 0<u) (hg : 0<g)
    (huser : u∈base.users) (amount now : Int) (h0 : 0≤taken base db r) (hmore : taken base db r<amount) :
    if amount-taken base db r≤availableQuota db u g now then
      ∃ db' res, reserveBenefitVoucherQuota db r u g amount now=.ok (db',some res) ∧ res.reserved=amount ∧
        Drawn base db' r u g ∧ taken base db' r=amount
    else reserveBenefitVoucherQuota db r u g amount now=.error .voucherUnavailable := by
  rw [h.reserve_eq hname hu hg huser amount now h0 hmore]
  have hperm := perm_insertionSort voucherLe (availableVouchers db u g now)
  have hsum : (((availableVouchers db u g now).insertionSort voucherLe).map (·.remainingQuota)).sum =
      availableQuota db u g now := (hperm.map _).sum_eq
  obtain ⟨db',rest,first,hloop,hdrawn,htaken,hrest,hfirst⟩ :=
    Drawn.reserveVouchers (db.requestRows r .preConsume) _ (amount-taken base db r) none h
      (nodup_available h.vouchers u g now) (fun v hv => h.usable hv) (fun v _ => find?_requestRows db r _ v.id)
      (by omega)
  rw [hsum] at hrest
  split
  next hle =>
    have hvs : (availableVouchers db u g now).insertionSort voucherLe≠[] := by
      intro hnil
      rw [hnil] at hsum
      simp at hsum
      omega
    have hzero : rest=0 := by omega
    obtain ⟨res,hres⟩ := Option.isSome_iff_exists.mp (hfirst (.inl hvs))
    refine ⟨db',{ res with reserved := amount },?_,rfl,hdrawn,by omega⟩
    rw [if_neg hvs,hloop]
    simp [Except.bind,hzero,hres]
  · split
    · rfl
    rw [hloop]
    simp only [Except.bind]
    rw [if_pos (by omega)]

def zeroPre (r : String) (v : BenefitUserVoucher) : BenefitVoucherLedger :=
  { activityId := v.activityId, voucherId := v.id, userId := v.userId, requestId := r, type := .preConsume,
    quotaDelta := 0, balanceAfter := v.remainingQuota }

theorem Drawn.addZero (h : Drawn base db r u g) (hv : Usable base db u g v) (hrow : db.row? .preConsume r v.id=none) :
    ∃ db', db.createLedger (zeroPre r v)=.ok db' ∧ Drawn base db' r u g ∧ Edit db db' r v.id ∧
      db'.vouchers=db.vouchers ∧ (db'.row? .preConsume r v.id).isSome := by
  have hquota := hv.quota
  have hcreate : db.createLedger (zeroPre r v)=.ok { db with ledger := db.ledger++[zeroPre r v] } :=
    createLedger_of_none hrow
  have hsame : drawn v (zeroPre r v)=v := by
    have hactive := hv.active
    have hne : v.remainingQuota≠0 := by omega
    simp [drawn,BenefitUserVoucher.updates,zeroPre,statusOf,hne,← hactive]
  have hself := (row?_createLedger hcreate .preConsume).trans (if_pos rfl)
  refine ⟨_,hcreate,?_,Edit.createLedger hcreate,rfl,Option.isSome_of_eq_some hself⟩
  refine h.edit (Edit.createLedger hcreate) rfl rfl rfl (fun _ _ => rfl)
    (fun t ht _ => (row?_createLedger hcreate t).trans (if_neg ht)) hself ((h.free v.id hrow).symm.trans hv.row) ?_ ?_
  · exact ⟨hv.active,hquota,Int.le_refl 0,by simp only [zeroPre]; omega,hv.owner,rfl,hv.group⟩
  · exact hv.row.trans (congrArg some hsame.symm)

theorem Drawn.addZeroPres (vs : List BenefitUserVoucher) :
    ∀ (known : List Int) {db : BenefitDB}, Drawn base db r u g → (∀ v∈vs, Usable base db u g v) →
      (∀ id, id∈known ↔ (db.row? .preConsume r id).isSome) →
      ∃ db', Voucher.addZeroPres r known vs db=.ok db' ∧ Drawn base db' r u g ∧ db'.vouchers=db.vouchers ∧
        (∀ id, (db.row? .preConsume r id).isSome → (db'.row? .preConsume r id).isSome) ∧
        ∀ v∈vs, (db'.row? .preConsume r v.id).isSome := by
  induction vs with
  | nil =>
    intro known db h _ _
    exact ⟨db,rfl,h,rfl,fun _ hid => hid,by simp⟩
  | cons v vs ih =>
    intro known db h husable hknown
    by_cases hin : v.id∈known
    · obtain ⟨db',hloop,hdrawn,hvs,hkeep,hall⟩ := ih known h (fun w hw => husable w (by simp [hw])) hknown
      refine ⟨db',by rw [Voucher.addZeroPres,if_pos hin,hloop],hdrawn,hvs,hkeep,fun w hw => ?_⟩
      obtain rfl | hw := mem_cons.mp hw
      · exact hkeep w.id ((hknown w.id).mp hin)
      · exact hall w hw
    · have hrow : db.row? .preConsume r v.id=none := by
        rw [← Option.not_isSome_iff_eq_none]
        exact fun hsome => hin ((hknown v.id).mpr hsome)
      obtain ⟨db1,hcreate,hdrawn1,hedit,hvs1,hself⟩ := h.addZero (husable v (by simp)) hrow
      have hrows : ∀ id, (db1.row? .preConsume r id).isSome ↔ id=v.id ∨ (db.row? .preConsume r id).isSome := by
        intro id
        by_cases hid : id=v.id
        · simp [hid,hself]
        rw [hedit.rows _ r id (by simp [hid])]
        simp [hid]
      obtain ⟨db',hloop,hdrawn,hvs,hkeep,hall⟩ := ih (v.id::known) hdrawn1 (fun w hw => by
          have hwu := husable w (by simp [hw])
          exact ⟨by rw [BenefitDB.voucher?,hvs1]; exact hwu.row,hwu.owner,hwu.active,hwu.quota,hwu.group⟩)
        (fun id => by rw [mem_cons,hknown,hrows])
      refine ⟨db',?_,hdrawn,hvs.trans hvs1,fun id hid => hkeep id ((hrows id).mpr (.inr hid)),fun w hw => ?_⟩
      · rw [Voucher.addZeroPres,if_neg hin]
        exact (congrArg (fun out : Except BenefitError BenefitDB => out.bind fun db =>
          Voucher.addZeroPres r (v.id::known) vs db) hcreate).trans hloop
      · obtain rfl | hw := mem_cons.mp hw
        · exact hkeep w.id hself
        · exact hall w hw

def stored (db : BenefitDB) (id : Int) : Int := ((db.voucher? id).map (·.remainingQuota)).getD 0

structure Settleable (db : BenefitDB) (r : String) (pre : BenefitVoucherLedger) : Prop where
  row : ∃ v, db.voucher? pre.voucherId=some v ∧ terminal v.status=false ∧ 0≤v.remainingQuota
  fresh : db.row? .settleDelta r pre.voucherId=none
  reserved : pre.quotaDelta≤0

theorem settleRow_ok (hu : Keyed.Unique BenefitUserVoucher.id db.vouchers) (hpre : Settleable db r pre) (h0 : 0≤delta) :
    ∃ db', settleRow r pre delta db=.ok (db',max 0 (delta-stored db pre.voucherId)) ∧
      Keyed.Unique BenefitUserVoucher.id db'.vouchers ∧ balance db'=balance db-(delta-max 0 (delta-stored db pre.voucherId)) ∧
      (∀ x, x≠pre.voucherId → db'.voucher? x=db.voucher? x) ∧
      ∀ x, x≠pre.voucherId → db'.row? .settleDelta r x=db.row? .settleDelta r x := by
  obtain ⟨v,hv,hterm,hquota⟩ := hpre.row
  obtain ⟨hmem,hid⟩ := mem_of_voucher? hv
  have hreserved := hpre.reserved
  have hstored : stored db pre.voucherId=v.remainingQuota := by simp [stored,hv]
  rw [hstored]
  set localDelta := delta-max 0 (delta-v.remainingQuota) with hlocal
  have hbounds : 0≤localDelta ∧ localDelta≤v.remainingQuota := by omega
  have hplan : (if delta>0 then if delta>v.remainingQuota then v.remainingQuota else delta
      else if delta<0 then if -delta > -pre.quotaDelta then - -pre.quotaDelta else delta else 0)=localDelta := by
    split
    · split <;> omega
    · rw [if_neg (by omega)]
      omega
  set db1 := db.updateVoucher v.id (·.updates (v.remainingQuota-localDelta) (-pre.quotaDelta+localDelta)
    (statusOf (v.remainingQuota-localDelta))) with hdb1
  set row : BenefitVoucherLedger :=
    { activityId := pre.activityId, voucherId := pre.voucherId, userId := pre.userId, requestId := r,
      type := .settleDelta, quotaDelta := -localDelta, balanceAfter := v.remainingQuota-localDelta } with hrow
  have hcreate : db1.createLedger row=.ok { db1 with ledger := db1.ledger++[row] } := createLedger_of_none hpre.fresh
  refine ⟨{ db1 with ledger := db1.ledger++[row] },?_,?_,?_,?_,?_⟩
  · simp only [settleRow,hv,hterm,Bool.false_eq_true,if_false,hplan]
    rw [if_neg (by omega),if_neg (by omega),← hdb1,hcreate]
    simp only [Except.bind,hlocal]
    congr 2
    omega
  · exact hu.modify _ fun _ => rfl
  · have hmove := balance_updateVoucher hu hmem (v.remainingQuota-localDelta) (-pre.quotaDelta+localDelta)
      (statusOf (v.remainingQuota-localDelta))
    have hb : balance { db1 with ledger := db1.ledger++[row] }=balance db1 := rfl
    rw [hb,hmove]
    omega
  · intro x hx
    have hx' : x≠v.id := by rwa [hid]
    exact (voucher?_updateVoucher db v.id x _ _ _).trans (if_neg hx')
  · intro x hx
    have hne : (r,x)≠(row.requestId,row.voucherId) := by simp [hrow,hx]
    exact (Edit.createLedger hcreate).rows _ r x hne

theorem settleRows_ok (pres : List BenefitVoucherLedger) :
    ∀ (delta : Int) {db : BenefitDB}, Keyed.Unique BenefitUserVoucher.id db.vouchers →
      (pres.map (·.voucherId)).Nodup → (∀ pre∈pres, Settleable db r pre) → 0≤delta → ∃ db', settleRows r pres delta db =
          .ok (db',max 0 (delta-(pres.map fun pre => stored db pre.voucherId).sum)) ∧
        balance db'=balance db-(delta-max 0 (delta-(pres.map fun pre => stored db pre.voucherId).sum)) := by
  induction pres with
  | nil =>
    intro delta db _ _ _ h0
    refine ⟨db,?_,?_⟩
    · simp [settleRows,h0]
    · simp [h0]
  | cons pre pres ih =>
    intro delta db hu hnodup hpres h0
    obtain ⟨hne,hnodup⟩ := Keyed.Unique.cons hnodup
    obtain ⟨db1,hround,hu1,hbalance1,hothers,hrows⟩ := settleRow_ok hu (hpres pre (by simp)) h0
    have hstored : (pres.map fun l => stored db1 l.voucherId)=pres.map fun l => stored db l.voucherId :=
      map_congr_left fun l hl => by simp only [stored,hothers _ (hne l hl)]
    have hnonneg : 0≤(pres.map fun l => stored db l.voucherId).sum := sum_nonneg fun x hx => by
      obtain ⟨l,hl,rfl⟩ := mem_map.mp hx
      obtain ⟨v,hv,-,hquota⟩ := (hpres l (by simp [hl])).row
      simpa [stored,hv] using hquota
    have hfirst : 0 ≤ stored db pre.voucherId := by
      obtain ⟨v,hv,-,hquota⟩ := (hpres pre (by simp)).row
      simpa [stored,hv] using hquota
    obtain ⟨db',hloop,hbalance⟩ := ih (max 0 (delta-stored db pre.voucherId)) hu1 hnodup (fun l hl => by
        have hl' := hpres l (by simp [hl])
        exact ⟨by rw [hothers _ (hne l hl)]; exact hl'.row,(hrows _ (hne l hl)).trans hl'.fresh,hl'.reserved⟩)
      (by omega)
    rw [hstored] at hloop hbalance
    have hsplit : max 0 (max 0 (delta-stored db pre.voucherId)-(pres.map fun l => stored db l.voucherId).sum) =
        max 0 (delta-(stored db pre.voucherId+(pres.map fun l => stored db l.voucherId).sum)) := by omega
    rw [hsplit] at hloop hbalance
    refine ⟨db',?_,?_⟩
    · rw [settleRows,hround]
      simp only [Except.bind,map_cons,sum_cons]
      exact hloop
    · simp only [map_cons,sum_cons]
      omega

theorem Drawn.settleable (h : Drawn base db r u g) (hpre : pre∈db.requestRows r .preConsume) : Settleable db r pre := by
  obtain ⟨v,-,hheld,hdrawn⟩ := h.held pre.voucherId pre (row?_of_mem_requestRows h.ledger hpre)
  refine ⟨⟨drawn v pre,hdrawn,?_,hheld.left⟩,(h.opened _).settle,hheld.reserved⟩
  exact (live_iff _).mp (live_statusOf _)

theorem Drawn.settlementPres (h : Drawn base db r u g) {pres : List BenefitVoucherLedger}
    (hpres : db.requestRows r .preConsume=pre::pres) (now : Int) (hpos : 0<delta) :
    ∃ db', Voucher.settlementPres db r (pre::pres) delta now=.ok db' ∧ Drawn base db' r u g ∧
      db'.vouchers=db.vouchers ∧ ∀ v∈availableVouchers db u g now, (db'.row? .preConsume r v.id).isSome := by
  have hmem : pre∈db.requestRows r .preConsume := by simp [hpres]
  obtain ⟨v,-,hheld,-⟩ := h.held pre.voucherId pre (row?_of_mem_requestRows h.ledger hmem)
  obtain ⟨a,ha,hdeleted,hgroup⟩ := hheld.group
  have hactivity : db.activity? pre.activityId=some a := by rw [h.activity?,hheld.activity,ha]
  obtain ⟨db',hloop,hdrawn,hvs,-,hall⟩ := Drawn.addZeroPres
    ((availableVouchers db u g now).insertionSort voucherLe) ((pre::pres).map (·.voucherId)) h
    (fun v hv => h.usable hv) (fun id => by
      rw [← hpres,mem_map]
      constructor
      · rintro ⟨l,hl,rfl⟩
        rw [row?_of_mem_requestRows h.ledger hl]
        rfl
      · intro hsome
        obtain ⟨l,hl⟩ := Option.isSome_iff_exists.mp hsome
        exact ⟨l,requestRows_of_row? hl,(row?_key hl).2.1⟩)
  refine ⟨db',?_,hdrawn,hvs,fun v hv => hall v (by rwa [mem_insertionSort])⟩
  simp only [Voucher.settlementPres,if_pos hpos,hactivity,hdeleted,Bool.false_eq_true,if_false,hheld.owner,hgroup]
  exact hloop

theorem Drawn.available_le (h : Drawn base db r u g) (now : Int)
    (hall : ∀ v∈availableVouchers db u g now, (db.row? .preConsume r v.id).isSome) :
    availableQuota db u g now≤((db.requestRows r .preConsume).map fun pre => stored db pre.voucherId).sum := by
  have hnodup : ((availableVouchers db u g now).map (·.id)).Nodup :=
    List.Nodup.sublist (List.Sublist.map _ filter_sublist) h.vouchers
  have hleft : availableQuota db u g now = ∑ id∈((availableVouchers db u g now).map (·.id)).toFinset, stored db id := by
    rw [sum_toFinset _ hnodup,map_map,availableQuota]
    refine congrArg List.sum (map_congr_left fun v hv => ?_)
    simp [stored,BenefitDB.voucher?,lookup_of_mem h.vouchers (mem_of_mem_filter hv)]
  have hright : ((db.requestRows r .preConsume).map fun pre => stored db pre.voucherId).sum =
      ∑ id∈((db.requestRows r .preConsume).map (·.voucherId)).toFinset, stored db id := by
    rw [sum_toFinset _ (nodup_requestRows h.ledger r .preConsume),map_map]
    rfl
  rw [hleft,hright]
  refine Finset.sum_le_sum_of_subset_of_nonneg (fun id hid => ?_) fun id hid _ => ?_
  · obtain ⟨v,hv,rfl⟩ := mem_map.mp (mem_toFinset.mp hid)
    obtain ⟨l,hl⟩ := Option.isSome_iff_exists.mp (hall v hv)
    exact mem_toFinset.mpr (mem_map.mpr ⟨l,requestRows_of_row? hl,(row?_key hl).2.1⟩)
  · obtain ⟨l,hl,rfl⟩ := mem_map.mp (mem_toFinset.mp hid)
    obtain ⟨v,hv,-,hquota⟩ := (h.settleable hl).row
    simpa [stored,hv] using hquota

theorem availableQuota_nonneg (db : BenefitDB) (u g now : Int) : 0≤availableQuota db u g now :=
  sum_nonneg fun x hx => by
    obtain ⟨v,hv,rfl⟩ := mem_map.mp hx
    exact (available_spec (mem_insertionSort voucherLe |>.mpr hv)).2.2.le

theorem Drawn.settle (h : Drawn base db r u g) (hname : GoStrings.isBlank r=false) (htaken : 0<taken base db r)
    (now : Int) (h0 : 0≤delta) (hle : delta≤availableQuota db u g now) :
    ∃ db', settleBenefitVoucherQuota db r delta now=.ok db' ∧ Voucher.balance db'=Voucher.balance db-delta := by
  have hsettle : db.requestRows r .settleDelta=[] := requestRows_nil.mpr fun v => (h.opened v).settle
  have hrollback : db.requestRows r .settleRollback=[] := requestRows_nil.mpr fun v => (h.opened v).rollback
  have hrefund : db.requestRows r .refund=[] := requestRows_nil.mpr fun v => (h.opened v).refund
  cases hpres : db.requestRows r .preConsume with
  | nil =>
    have hsum := h.sumReserved
    rw [hpres] at hsum
    simp [Voucher.sumReserved] at hsum
    omega
  | cons pre pres =>
    -- for a positive difference the rows are completed first, for none they stay as they are
    have hrows : ∃ db1, Voucher.settlementPres db r (pre::pres) delta now=.ok db1 ∧ Drawn base db1 r u g ∧
        db1.vouchers=db.vouchers ∧
        delta≤((db1.requestRows r .preConsume).map fun pre => stored db1 pre.voucherId).sum := by
      obtain hpos | rfl : 0<delta ∨ delta=0 := by omega
      · obtain ⟨db1,heq,hdrawn,hvs,hall⟩ := h.settlementPres hpres now hpos
        have hsame : availableVouchers db1 u g now=availableVouchers db u g now := by
          have hact : db1.activities=db.activities := hdrawn.activities.trans h.activities.symm
          have hp : voucherAvailable db1 u g now=voucherAvailable db u g now := by
            funext v
            simp only [voucherAvailable,BenefitDB.activity?,hact]
          rw [availableVouchers,hvs,hp,availableVouchers]
        refine ⟨db1,heq,hdrawn,hvs,Int.le_trans ?_ (hdrawn.available_le now (by rw [hsame]; exact hall))⟩
        rw [availableQuota,hsame]
        exact hle
      · refine ⟨db,by simp [Voucher.settlementPres],h,rfl,sum_nonneg fun x hx => ?_⟩
        obtain ⟨l,hl,rfl⟩ := mem_map.mp hx
        obtain ⟨v,hv,-,hquota⟩ := (h.settleable hl).row
        simpa [stored,hv] using hquota
    obtain ⟨db1,heq,hdrawn,hvs,hcover⟩ := hrows
    obtain ⟨db',hloop,hbalance⟩ := settleRows_ok (db1.requestRows r .preConsume) delta hdrawn.vouchers
      (nodup_requestRows hdrawn.ledger r .preConsume) (fun l hl => hdrawn.settleable hl) h0
    have hrest : max 0 (delta-((db1.requestRows r .preConsume).map fun pre => stored db1 pre.voucherId).sum)=0 := by
      omega
    rw [hrest] at hloop hbalance
    refine ⟨db',?_,?_⟩
    · simp only [settleBenefitVoucherQuota,hname,Bool.false_eq_true,if_false,hpres,hsettle,hrollback,hrefund,
        cons_ne_nil,ne_eq,not_true_eq_false,or_self,heq,Except.bind,if_neg (Int.not_lt.mpr h0),hloop]
    · have hb : Voucher.balance db1=Voucher.balance db := by rw [Voucher.balance,hvs,Voucher.balance]
      rw [hbalance,hb]
      omega

end NewApi.Voucher

import NewApi.Promo.Model

/-! The usage rows of the promo codes: only `recordPromoCodeUsageTx` adds one, at most one for each order,
and no transaction adds or removes a code. -/
namespace NewApi.Promo
open List Runs GoStrings Payment

structure Booked (db : PromoDB) (added : List PromoCodeUsage) (db' : PromoDB) : Prop where
  usages : db'.usages=db.usages++added
  codes : db'.promos.map PromoCode.id=db.promos.map PromoCode.id

section Effects
variable {db db' db'' : PromoDB} {added more : List PromoCodeUsage}

theorem Booked.refl (db : PromoDB) : Booked db [] db := ⟨(append_nil _).symm,rfl⟩

theorem Booked.trans (h : Booked db added db') (h' : Booked db' more db'') : Booked db (added++more) db'' :=
  ⟨by rw [h'.usages,h.usages,append_assoc],h'.codes.trans h.codes⟩

theorem Booked.isSome (h : Booked db added db') (c : Int) : (db'.promo? c).isSome=(db.promo? c).isSome := by
  have hmem : ∀ t : PromoDB, (t.promo? c).isSome=true ↔ c∈t.promos.map PromoCode.id := by
    intro t
    rw [PromoDB.promo?,Keyed.lookup_isSome]
    simp
  rw [Bool.eq_iff_iff,hmem,hmem,h.codes]

theorem booked_updatePromo (db : PromoDB) (d : Int) {f : PromoCode → PromoCode} (hf : ∀ p, (f p).id=p.id) :
    Booked db [] (db.updatePromo d f) :=
  ⟨(append_nil _).symm,Keyed.map_key_modify PromoCode.id d db.promos hf⟩

theorem booked_putReservation (db : PromoDB) (d : Int) (t : OrderKind) (n : String) (st : ReservationStatus)
    (now : Int) : Booked db [] (db.putReservation d t n st now) := by
  unfold PromoDB.putReservation
  split <;> exact ⟨(append_nil _).symm,rfl⟩

theorem booked_reclaim (db : PromoDB) (orders : OrderTables) (promo : PromoCode) (now : Int) :
    Booked db [] (reclaimExpiredPromoReservationsTx db orders promo now).1 := by
  unfold reclaimExpiredPromoReservationsTx
  split
  · exact Booked.refl db
  simp only
  split
  · exact Booked.refl db
  · exact ⟨(append_nil _).symm,Keyed.map_key_modify PromoCode.id promo.id db.promos fun _ => rfl⟩

theorem reserve_booked (db : PromoDB) (orders : OrderTables) (promoCodeId : Int) (orderType : OrderKind)
    (orderNo : String) (planId now : Int) : Ensures (Booked db []) (fun _ => True)
      (reservePromoCodeForOrderTx db orders promoCodeId orderType orderNo planId now) := by
  unfold reservePromoCodeForOrderTx
  refine Ensures.ite (fun _ => Booked.refl db) fun _ => ?_
  cases db.livePromo? promoCodeId with
  | none => trivial
  | some promo =>
    have hreclaim := booked_reclaim db orders promo now
    refine Ensures.ite (fun _ => hreclaim) fun _ => Ensures.guard trivial fun _ => ?_
    refine Ensures.guard trivial fun _ => Ensures.guard trivial fun _ => ?_
    refine Ensures.guard trivial fun _ => ?_
    have hcount := booked_updatePromo (reclaimExpiredPromoReservationsTx db orders promo now).1 promoCodeId
      (f := fun p => { p with reservedCount := p.reservedCount+1, updatedTime := now }) fun _ => rfl
    exact (hreclaim.trans hcount).trans (booked_putReservation _ _ _ _ _ _)

theorem release_booked (db : PromoDB) (orders : OrderTables) (promoCodeId : Int) (orderType : OrderKind)
    (orderNo : String) (now : Int) : Ensures (Booked db []) (fun _ => True)
      (releasePromoCodeReservationTx db orders promoCodeId orderType orderNo now) := by
  unfold releasePromoCodeReservationTx
  refine Ensures.ite (fun _ => Booked.refl db) fun _ => Ensures.guard trivial fun _ => ?_
  cases db.reservation? promoCodeId orderType orderNo with
  | none => exact Booked.refl db
  | some reservation =>
    refine Ensures.ite (fun _ => Booked.refl db) fun _ => Ensures.ite (fun _ => Booked.refl db) fun _ => ?_
    have hcount := booked_updatePromo db promoCodeId (f := fun p =>
      if p.reservedCount>0 then { p with reservedCount := p.reservedCount-1, updatedTime := now } else p)
      fun p => by split <;> rfl
    exact hcount.trans (booked_putReservation _ _ _ _ _ _)

/-- A usage is due: the order has a code whose row exists, a user and a number, and none is recorded yet. -/
def usageDue (db : PromoDB) (req : UsageRequest) : Bool :=
  decide (0<req.promoCodeId ∧ 0<req.userId) && !isBlank req.orderNo && (db.promo? req.promoCodeId).isSome &&
    (db.usage? req.promoCodeId req.orderNo).isNone

theorem record_booked (db : PromoDB) (orders : OrderTables) (req : UsageRequest) (enforceLimit : Bool) (now : Int) :
    Ensures (fun db' => ∃ added : List PromoCodeUsage, Booked db added db' ∧ added.length=(if usageDue db req then 1 else 0) ∧
        ∀ u∈added, u.promoCodeId=req.promoCodeId ∧ u.orderNo=req.orderNo ∧ u.orderType=req.orderType)
      (fun _ => True) (recordPromoCodeUsageTx db orders req enforceLimit now) := by
  have hnone : usageDue db req=false → ∃ added : List PromoCodeUsage, Booked db added db ∧
      added.length=(if usageDue db req then 1 else 0) ∧
      ∀ u∈added, u.promoCodeId=req.promoCodeId ∧ u.orderNo=req.orderNo ∧ u.orderType=req.orderType :=
    fun hd => ⟨[],Booked.refl db,by rw [hd]; rfl,fun u hu => absurd hu not_mem_nil⟩
  unfold recordPromoCodeUsageTx
  refine Ensures.ite (fun hbad => hnone ?_) fun hgood => Ensures.ite (fun hused => hnone ?_) fun hunused => ?_
  · obtain hbad | hbad | hbad := hbad
    · simp [usageDue,Int.not_lt.mpr hbad]
    · simp [usageDue,Int.not_lt.mpr hbad]
    · simp [usageDue,hbad]
  · obtain ⟨u,hu⟩ := Option.isSome_iff_exists.mp hused
    simp [usageDue,hu]
  cases hp : db.promo? req.promoCodeId with
  | none => exact Ensures.guard trivial fun _ => hnone (by simp [usageDue,hp])
  | some promo =>
    refine Ensures.guard trivial fun _ => ?_
    set usage : PromoCodeUsage :=
      { promoCodeId := req.promoCodeId, userId := req.userId, orderType := req.orderType, orderNo := req.orderNo
        originalAmount := req.originalAmount, discountAmount := req.discountAmount, paidAmount := req.paidAmount
        createdTime := now }
    have hinsert : ∀ t : PromoDB, Booked t [usage] { t with usages := t.usages++[usage] } := fun t => ⟨rfl,rfl⟩
    have hwrite := ((booked_reclaim db orders promo now).trans
      (booked_updatePromo _ req.promoCodeId (f := promoCodeSettlementUpdates
        (reclaimExpiredPromoReservationsTx db orders promo now).2 now
        (decide (((reclaimExpiredPromoReservationsTx db orders promo now).1.reservation? req.promoCodeId req.orderType
          req.orderNo).map (·.status)=some .reserved))) fun _ => rfl)).trans (hinsert _)
    refine ⟨[usage],hwrite.trans (booked_putReservation _ _ _ _ _ _),?_,fun u hu => ?_⟩
    · rw [not_or,not_or,Int.not_le,Int.not_le] at hgood
      have hdue : usageDue db req=true := by
        have hfresh : db.usage? req.promoCodeId req.orderNo=none := by simpa using hunused
        simp [usageDue,hgood,hp,hfresh]
      rw [hdue]
      rfl
    · rw [mem_singleton.mp hu]
      exact ⟨rfl,rfl,rfl⟩

end Effects

end NewApi.Promo

import Mathlib.Algebra.Order.BigOperators.Group.List
import Mathlib.Algebra.Order.Group.Int
import NewApi.Promo.Model

/-! The counters of a promo code: whatever the order of reservations, releases, reclaims, usages, changes of
the limit and deletions, the two counts on the row are the counts of the rows behind them, and the limit is
passed only by usages that were recorded without regard to it. -/
namespace NewApi.Promo
open Option Keyed List Runs GoStrings Payment

def weight (status : ReservationStatus) (c : Int) (r : PromoCodeReservation) : Int :=
  if r.promoCodeId=c ∧ r.status=status then 1 else 0

def PromoDB.inStatus (db : PromoDB) (status : ReservationStatus) (c : Int) : Int :=
  (db.reservations.map (weight status c)).sum

def PromoDB.used (db : PromoDB) (c : Int) : Int :=
  (db.usages.map fun u => if u.promoCodeId=c then 1 else 0).sum

def PromoCode.counts (p : PromoCode) : Int×Int×Int := (p.redeemedCount,p.reservedCount,p.maxRedeemCount)

open PromoDB (putReservation inStatus usage? promo?)
open PromoCode (counts giveBack)
open PromoCodeReservation (key reclaimable)

/-- The unique indexes, and that a settled reservation of the code has its usage. -/
structure Indexed (c : Int) (db : PromoDB) : Prop where
  reservations : Keyed.Unique key db.reservations
  usages : Keyed.Unique PromoCodeUsage.key db.usages
  settled : ∀ r∈db.reservations, r.promoCodeId=c → r.status=.settled → (db.usage? c r.orderNo).isSome

/-- The row counts what the tables hold; `forced` usages may stand above the limit. -/
structure Counted (c forced : Int) (db : PromoDB) (redeemed reserved limit : Int) : Prop where
  row : (db.promo? c).map counts=some (redeemed,reserved,limit)
  held : reserved=db.inStatus .reserved c
  used : redeemed=db.used c
  settled : redeemed=db.inStatus .settled c
  bound : 0<limit → redeemed+reserved≤limit+forced

section Tables
variable {db : PromoDB} {c : Int}

theorem inStatus_nonneg (db : PromoDB) (status : ReservationStatus) (c : Int) : 0≤db.inStatus status c :=
  sum_nonneg fun x hx => by
    obtain ⟨r,-,rfl⟩ := mem_map.mp hx
    unfold weight
    split <;> omega

theorem promo?_updatePromo (db : PromoDB) (c d : Int) {f : PromoCode → PromoCode} (hf : ∀ p, (f p).id=p.id) :
    (db.updatePromo d f).promo? c = if c=d then (db.promo? d).map f else db.promo? c :=
  lookup_modify PromoCode.id d c db.promos hf

theorem inStatus_putReservation (hu : Keyed.Unique key db.reservations) (d : Int)
    (t : OrderKind) (n : String) (st : ReservationStatus) (now : Int) (s : ReservationStatus) (c : Int) :
    (db.putReservation d t n st now).inStatus s c=db.inStatus s c+(if d=c ∧ st=s then 1 else 0) -
      if d=c ∧ (db.reservation? d t n).map (·.status)=some s then 1 else 0 := by
  unfold putReservation
  cases hr : db.reservation? d t n with
  | none =>
    simp [inStatus,weight]
  | some r =>
    obtain ⟨hmem,hkey⟩ := lookup_some hr
    have hsum := sum_modify hu hmem (fun r => { r with status := st, updatedTime := now }) (weight s c)
    have hd : r.promoCodeId=d := congrArg Prod.fst hkey
    rw [hkey] at hsum
    simp only [inStatus,hsum,weight,hd,map_some,Option.some.injEq]
    omega

variable {d now : Int} {st : ReservationStatus}

theorem mem_putReservation {t : OrderKind} {n : String} {r : PromoCodeReservation}
    (h : r∈(db.putReservation d t n st now).reservations) : (r.key=(d,t,n) ∧ r.status=st) ∨ r∈db.reservations := by
  unfold putReservation at h
  split at h
  · obtain ⟨x,hx,rfl⟩ := mem_modify h
    split
    next hk =>
      exact .inl ⟨hk,rfl⟩
    · exact .inr hx
  · obtain h | h := mem_append.mp h
    · exact .inr h
    rw [mem_singleton.mp h]
    exact .inl ⟨rfl,rfl⟩

theorem unique_putReservation (hu : Keyed.Unique key db.reservations) (d : Int) (t : OrderKind)
    (n : String) (st : ReservationStatus) (now : Int) :
    Keyed.Unique key (db.putReservation d t n st now).reservations := by
  unfold putReservation
  split
  · exact hu.modify _ fun _ => rfl
  next hnone =>
    exact hu.append hnone

theorem putReservation_promos (db : PromoDB) (d : Int) (t : OrderKind) (n : String) (st : ReservationStatus) (now : Int) :
    (db.putReservation d t n st now).promos=db.promos ∧ (db.putReservation d t n st now).usages=db.usages := by
  unfold putReservation
  split <;> exact ⟨rfl,rfl⟩

theorem Indexed.putReservation (h : Indexed c db) {t : OrderKind} {n : String}
    (hs : d=c → st=.settled → (db.usage? c n).isSome) : Indexed c (db.putReservation d t n st now) := by
  obtain ⟨-,husages⟩ := putReservation_promos db d t n st now
  refine ⟨unique_putReservation h.reservations d t n st now,?_,fun r hr hc hst => ?_⟩
  · rw [husages]
    exact h.usages
  · rw [usage?,husages]
    obtain ⟨hkey,hstatus⟩ | hr := mem_putReservation hr
    · have hd : r.promoCodeId=d := congrArg Prod.fst hkey
      have hn : r.orderNo=n := congrArg (·.2.2) hkey
      rw [hn]
      exact hs (hd.symm.trans hc) (hstatus.symm.trans hst)
    · exact h.settled r hr hc hst

theorem Indexed.updatePromo (h : Indexed c db) (d : Int) (f : PromoCode → PromoCode) :
    Indexed c (db.updatePromo d f) := ⟨h.reservations,h.usages,h.settled⟩

end Tables

section Reclaim
variable {db : PromoDB} {c forced redeemed reserved limit : Int}

theorem reclaimable_iff {r : PromoCodeReservation} {orders : OrderTables} {d now : Int}
    (h : r.reclaimable orders d now=true) : r.promoCodeId=d ∧ r.status=.reserved := by
  simp only [reclaimable,Bool.and_eq_true,decide_eq_true_eq] at h
  exact ⟨h.1.1,h.1.2.1⟩

variable {s : ReservationStatus} (orders : OrderTables)

theorem weight_reclaim (d now : Int) (hs : s≠.released) (c : Int) (r : PromoCodeReservation) :
    weight s c (PromoCodeReservation.reclaim orders d now r) =
      weight s c r - if d=c ∧ s=.reserved ∧ r.reclaimable orders d now=true then 1 else 0 := by
  unfold PromoCodeReservation.reclaim
  split
  next hr =>
    obtain ⟨hd,hst⟩ := reclaimable_iff hr
    cases s <;> simp_all [weight]
  next hr =>
    simp [hr]

theorem inStatus_reclaim (d now : Int) (hs : s≠.released) (c : Int) (rows : List PromoCodeReservation) :
    ((rows.map (PromoCodeReservation.reclaim orders d now)).map (weight s c)).sum=(rows.map (weight s c)).sum -
      if d=c ∧ s=.reserved then ((rows.filter (·.reclaimable orders d now)).length : Int) else 0 := by
  induction rows with
  | nil => simp
  | cons r rows ih =>
    have hr := weight_reclaim orders d now hs c r
    simp only [map_cons,sum_cons,ih,hr]
    by_cases hc : d=c ∧ s=.reserved
    · rw [if_pos hc,if_pos hc,filter_cons]
      by_cases hrec : r.reclaimable orders d now=true
      · rw [if_pos ⟨hc.1,hc.2,hrec⟩,if_pos hrec,length_cons]
        omega
      · rw [if_neg fun h => hrec h.2.2,if_neg hrec]
        omega
    · rw [if_neg hc,if_neg hc,if_neg fun h => hc ⟨h.1,h.2.1⟩]
      omega

theorem reclaim_tables (h : Indexed c db) (orders : OrderTables) (promo : PromoCode) (now : Int) :
    Indexed c (reclaimExpiredPromoReservationsTx db orders promo now).1 ∧
      (reclaimExpiredPromoReservationsTx db orders promo now).1.usages=db.usages := by
  unfold reclaimExpiredPromoReservationsTx
  split
  · exact ⟨h,rfl⟩
  simp only
  split
  · exact ⟨h,rfl⟩
  refine ⟨⟨?_,h.usages,fun r hr hc hs => ?_⟩,rfl⟩
  · have hkey : key ∘ PromoCodeReservation.reclaim orders promo.id now=key := by
      funext r
      simp only [Function.comp_apply,PromoCodeReservation.reclaim]
      split <;> rfl
    rw [Keyed.Unique,List.map_map,hkey]
    exact h.reservations
  · obtain ⟨x,hx,rfl⟩ := mem_map.mp hr
    unfold PromoCodeReservation.reclaim at hc hs ⊢
    split at hs
    · cases hs
    rename_i hrec
    rw [if_neg hrec] at hc ⊢
    exact h.settled x hx hc hs

theorem reclaim_other (db : PromoDB) (orders : OrderTables) {promo : PromoCode} (hne : c≠promo.id) (now : Int) :
    (reclaimExpiredPromoReservationsTx db orders promo now).1.promo? c=db.promo? c ∧ ∀ s, s≠.released →
        (reclaimExpiredPromoReservationsTx db orders promo now).1.inStatus s c=db.inStatus s c := by
  unfold reclaimExpiredPromoReservationsTx
  split
  · exact ⟨rfl,fun _ _ => rfl⟩
  simp only
  split
  · exact ⟨rfl,fun _ _ => rfl⟩
  refine ⟨?_,fun s hs => ?_⟩
  · have hlookup := promo?_updatePromo db c promo.id (f := giveBack
      (if ((db.reservations.filter (·.reclaimable orders promo.id now)).length : Int)>promo.reservedCount then
        promo.reservedCount else ((db.reservations.filter (·.reclaimable orders promo.id now)).length : Int)) now)
      fun _ => rfl
    rw [if_neg hne] at hlookup
    exact hlookup
  · have hsum := inStatus_reclaim orders promo.id now hs c db.reservations
    rw [if_neg fun h => hne h.1.symm,sub_zero] at hsum
    exact hsum

theorem reclaim_self (h : Counted c forced db redeemed reserved limit) (orders : OrderTables) {promo : PromoCode}
    (hp : db.promo? c=some promo) (now : Int) :
    ∀ r, reclaimExpiredPromoReservationsTx db orders promo now=r → ∃ reserved', Counted c forced r.1 redeemed reserved' limit ∧
      r.2.counts=(redeemed,reserved',limit) ∧ (r.1=db ∨ reserved'<reserved) := by
  rintro _ rfl
  have hid : promo.id=c := (lookup_some hp).2
  have hrow := h.row
  rw [hp,map_some,Option.some.injEq] at hrow
  have hcounts := hrow
  simp only [counts,Prod.mk.injEq] at hrow
  obtain ⟨hredeemed,hreserved,hlimit⟩ := hrow
  unfold reclaimExpiredPromoReservationsTx
  split
  · exact ⟨reserved,h,hcounts,.inl rfl⟩
  simp only
  set n : Int := ((db.reservations.filter (·.reclaimable orders promo.id now)).length : Int) with hn
  split
  · exact ⟨reserved,h,hcounts,.inl rfl⟩
  have hheld := inStatus_reclaim orders promo.id now (s := .reserved) (by decide) c db.reservations
  have hset := inStatus_reclaim orders promo.id now (s := .settled) (by decide) c db.reservations
  rw [if_pos ⟨hid,rfl⟩,← hn] at hheld
  rw [if_neg fun h => ReservationStatus.noConfusion h.2,Int.sub_zero] at hset
  have hnonneg : 0≤((db.reservations.map (PromoCodeReservation.reclaim orders promo.id now)).map (weight .reserved c)).sum :=
    inStatus_nonneg { db with reservations := db.reservations.map (PromoCodeReservation.reclaim orders promo.id now) } .reserved c
  have hheld' := h.held
  rw [inStatus] at hheld'
  have hle : ¬ n>promo.reservedCount := by omega
  have hn0 : 0<n := by omega
  simp only [if_neg hle]
  refine ⟨reserved-n,⟨?_,?_,h.used,?_,fun hl => ?_⟩,?_,.inr (by omega)⟩
  · have hlookup := promo?_updatePromo db c promo.id (f := giveBack n now) fun _ => rfl
    rw [if_pos hid.symm,hid,hp] at hlookup
    rw [hid]
    refine (congrArg (Option.map counts) hlookup).trans ?_
    simp only [map_some,counts,giveBack,Option.some.injEq,Prod.mk.injEq]
    rw [if_pos (by omega)]
    exact ⟨hredeemed,by omega,hlimit⟩
  · rw [h.held]
    exact hheld.symm
  · rw [h.settled]
    exact hset.symm
  · have := h.bound hl
    omega
  · simp only [counts,Prod.mk.injEq]
    exact ⟨hredeemed,by omega,hlimit⟩

end Reclaim

section Calls
variable {db : PromoDB} {c forced : Int}

structure InOrder (c forced : Int) (db : PromoDB) : Prop where
  indexed : Indexed c db
  counted : ∃ redeemed reserved limit, Counted c forced db redeemed reserved limit

variable {forced' d redeemed reserved limit : Int}

theorem InOrder.mono (h : InOrder c forced db) (hle : forced≤forced') : InOrder c forced' db := by
  obtain ⟨redeemed,reserved,limit,hc⟩ := h.counted
  exact ⟨h.indexed,redeemed,reserved,limit,
    { hc with bound := fun hl => (hc.bound hl).trans (Int.add_le_add_left hle limit) }⟩

theorem reclaim_inOrder (h : InOrder c forced db) (orders : OrderTables) {promo : PromoCode}
    (hp : db.promo? d=some promo) (now : Int) : ∀ r, reclaimExpiredPromoReservationsTx db orders promo now=r → Indexed c r.1 ∧
      ∃ redeemed reserved limit, Counted c forced r.1 redeemed reserved limit ∧ (d=c →
        r.2.counts=(redeemed,reserved,limit) ∧ (r.1=db ∨ (0<limit → redeemed+reserved<limit+forced))) := by
  rintro _ rfl
  obtain ⟨redeemed,reserved,limit,hc⟩ := h.counted
  obtain ⟨hindexed,husages⟩ := reclaim_tables h.indexed orders promo now
  have hid : promo.id=d := (lookup_some hp).2
  refine ⟨hindexed,?_⟩
  by_cases hd : d=c
  · subst hd
    obtain ⟨reserved',hc',hcounts,hfall⟩ := reclaim_self hc orders hp now _ rfl
    refine ⟨redeemed,reserved',limit,hc',fun _ => ⟨hcounts,hfall.imp_right fun hlt hl => ?_⟩⟩
    have := hc.bound hl
    omega
  · obtain ⟨hrow,hstatus⟩ := reclaim_other db orders (fun he => hd (hid.symm.trans he.symm)) now
    refine ⟨redeemed,reserved,limit,⟨?_,?_,?_,?_,hc.bound⟩,fun he => absurd he hd⟩
    · rw [hrow]
      exact hc.row
    · rw [hstatus .reserved (by decide)]
      exact hc.held
    · rw [PromoDB.used,husages]
      exact hc.used
    · rw [hstatus .settled (by decide)]
      exact hc.settled

theorem Counted.capacity (h : Counted c forced db redeemed reserved limit)
    (hcap : (db.promo? c).any (·.hasCapacity)=true) : limit=0 ∨ redeemed+reserved<limit := by
  have hrow := h.row
  cases hp : db.promo? c with
  | none =>
    rw [hp] at hrow
    cases hrow
  | some p =>
    rw [hp] at hrow hcap
    simp only [map_some,counts,Option.some.injEq,Prod.mk.injEq] at hrow
    simp only [any_some,PromoCode.hasCapacity,decide_eq_true_eq] at hcap
    obtain ⟨h1,h2,h3⟩ := hrow
    omega

variable {f : PromoCode → PromoCode}

theorem Counted.write (h : Counted c forced db redeemed reserved limit) (hi : Indexed c db) {t : OrderKind}
    {n : String} {st : ReservationStatus} {now : Int}
    (hf : ∀ p, (f p).id=p.id) (redeemed' reserved' : Int) {usages : List PromoCodeUsage}
    (hrow : d=c → ∀ p, p.counts=(redeemed,reserved,limit) → (f p).counts=(redeemed',reserved',limit))
    (hheld : d=c → reserved'=reserved+(if st=.reserved then 1 else 0) -
      if (db.reservation? d t n).map (·.status)=some .reserved then 1 else 0)
    (hsettled : d=c → redeemed'=redeemed+(if st=.settled then 1 else 0) -
      if (db.reservation? d t n).map (·.status)=some .settled then 1 else 0)
    (husages : (usages.map fun u => if u.promoCodeId=c then (1 : Int) else 0).sum =
      db.used c + if d=c then redeemed'-redeemed else 0)
    (hbound : if d=c then 0<limit → redeemed'+reserved'≤limit+forced' else forced≤forced') :
    ∃ redeemed reserved limit, Counted c forced'
      (({ db.updatePromo d f with usages := usages } : PromoDB).putReservation d t n st now)
      redeemed reserved limit := by
  obtain ⟨hpromos,hus⟩ := putReservation_promos { db.updatePromo d f with usages := usages } d t n st now
  have hunique : Keyed.Unique key
      ({ db.updatePromo d f with usages := usages } : PromoDB).reservations := hi.reservations
  have hsum := fun s => inStatus_putReservation hunique d t n st now s c
  have hlookup := promo?_updatePromo db c d hf
  have hres : ({ db.updatePromo d f with usages := usages } : PromoDB).reservation? d t n=db.reservation? d t n := rfl
  have hin : ∀ s, ({ db.updatePromo d f with usages := usages } : PromoDB).inStatus s c=db.inStatus s c := fun _ => rfl
  simp only [hres,hin] at hsum
  have hpromo : ((({ db.updatePromo d f with usages := usages } : PromoDB).putReservation d t n st now).promo? c) =
      if c=d then (db.promo? d).map f else db.promo? c := by
    rw [promo?,hpromos]
    exact hlookup
  have hh := h.held
  have hs := h.settled
  have hu := h.used
  by_cases hd : d=c
  · subst hd
    rw [if_pos rfl] at hpromo husages hbound
    have hrow0 := h.row
    obtain ⟨p,hp,hcounts⟩ := map_eq_some_iff.mp hrow0
    refine ⟨redeemed',reserved',limit,⟨?_,?_,?_,?_,hbound⟩⟩
    · rw [hpromo,hp]
      exact congrArg some (hrow rfl p hcounts)
    · have := hheld rfl
      rw [hsum .reserved]
      simp only [true_and]
      omega
    · rw [PromoDB.used,hus,husages]
      omega
    · have := hsettled rfl
      rw [hsum .settled]
      simp only [true_and]
      omega
  · rw [if_neg fun he => hd he.symm] at hpromo
    rw [if_neg hd] at husages hbound
    refine ⟨redeemed,reserved,limit,⟨?_,?_,?_,?_,fun hl => ?_⟩⟩
    · rw [hpromo]
      exact h.row
    · rw [hsum .reserved,if_neg fun hc => hd hc.1,if_neg fun hc => hd hc.1]
      omega
    · rw [PromoDB.used,hus,husages]
      omega
    · rw [hsum .settled,if_neg fun hc => hd hc.1,if_neg fun hc => hd hc.1]
      omega
    · have := h.bound hl
      omega

section
variable (h : InOrder c forced db)
include h

theorem reserve_inOrder (hforced : 0≤forced) (orders : OrderTables) (promoCodeId : Int)
    (orderType : OrderKind) (orderNo : String) (planId now : Int) : Ensures (InOrder c forced) (fun _ => True)
      (reservePromoCodeForOrderTx db orders promoCodeId orderType orderNo planId now) := by
  unfold reservePromoCodeForOrderTx
  refine Ensures.ite (fun _ => h) fun _ => ?_
  cases hlive : db.livePromo? promoCodeId with
  | none => trivial
  | some promo =>
    have hp : db.promo? promoCodeId=some promo := (filter_eq_some_iff.mp hlive).1
    obtain ⟨hi,redeemed,reserved,limit,hc,-⟩ := reclaim_inOrder h orders hp now _ rfl
    simp only
    set t := (reclaimExpiredPromoReservationsTx db orders promo now).1
    refine Ensures.ite (fun _ => ⟨hi,redeemed,reserved,limit,hc⟩) fun hstatus => ?_
    refine Ensures.guard trivial fun _ => Ensures.guard trivial fun _ => ?_
    refine Ensures.guard trivial fun _ => Ensures.guard trivial fun hrow => ?_
    rw [not_or] at hstatus
    refine ⟨(hi.updatePromo _ _).putReservation fun _ hs => ReservationStatus.noConfusion hs,?_⟩
    refine hc.write hi (f := fun p => { p with reservedCount := p.reservedCount+1, updatedTime := now })
      (fun _ => rfl) redeemed (reserved+1) (fun _ p hcounts => ?_) (fun _ => ?_)
      (fun _ => ?_) ?_ ?_
    · simp only [counts,Prod.mk.injEq] at hcounts ⊢
      exact ⟨hcounts.1,by omega,hcounts.2.2⟩
    · rw [if_neg hstatus.1,if_pos rfl]
      omega
    · rw [if_neg hstatus.2,if_neg (by decide)]
      omega
    · rw [sub_self,ite_self,add_zero]
      rfl
    · split
      next hd =>
        subst hd
        intro hl
        have hcap : (t.promo? promoCodeId).any (·.hasCapacity)=true := by
          cases hq : t.promo? promoCodeId with
          | none => simp [hq] at hrow
          | some q =>
            simp only [hq,any_some,PromoCode.reservableAt,Bool.not_eq_false,Bool.and_eq_true] at hrow
            exact hrow.2
        have := hc.capacity hcap
        omega
      · exact le_rfl

theorem release_inOrder (orders : OrderTables) (promoCodeId : Int) (orderType : OrderKind) (orderNo : String) (now : Int) :
    Ensures (InOrder c forced) (fun _ => True) (releasePromoCodeReservationTx db orders promoCodeId orderType orderNo now) := by
  unfold releasePromoCodeReservationTx
  refine Ensures.ite (fun _ => h) fun _ => Ensures.guard trivial fun _ => ?_
  cases hr : db.reservation? promoCodeId orderType orderNo with
  | none => exact h
  | some reservation =>
    refine Ensures.ite (fun _ => h) fun hres => Ensures.ite (fun _ => h) fun _ => ?_
    obtain ⟨redeemed,reserved,limit,hc⟩ := h.counted
    have hres : reservation.status=.reserved := not_not.mp hres
    refine ⟨(h.indexed.updatePromo _ _).putReservation fun _ hs => ReservationStatus.noConfusion hs,?_⟩
    have hpos : promoCodeId=c → 1≤reserved := by
      intro hd
      have hsum := inStatus_putReservation h.indexed.reservations promoCodeId orderType orderNo .released now .reserved c
      have hnonneg := inStatus_nonneg (db.putReservation promoCodeId orderType orderNo .released now) .reserved c
      rw [if_neg fun hx => ReservationStatus.noConfusion hx.2,if_pos ⟨hd,by rw [hr,map_some,hres]⟩] at hsum
      have := hc.held
      omega
    refine hc.write h.indexed (f := fun p =>
        if p.reservedCount>0 then { p with reservedCount := p.reservedCount-1, updatedTime := now } else p)
      (fun p => by split <;> rfl) redeemed (reserved-1) (fun hd p hcounts => ?_)
      (fun _ => ?_) (fun _ => ?_) ?_ ?_
    · simp only [counts,Prod.mk.injEq] at hcounts
      have := hpos hd
      rw [if_pos (by omega)]
      simp only [counts,Prod.mk.injEq]
      exact ⟨hcounts.1,by omega,hcounts.2.2⟩
    · rw [hr,map_some,hres,if_pos rfl,if_neg (by decide)]
      omega
    · rw [hr,map_some,hres,if_neg (by decide),if_neg (by decide)]
      omega
    · rw [sub_self,ite_self,add_zero]
      rfl
    · split
      · intro hl
        have := hc.bound hl
        omega
      · exact le_rfl

theorem record_effect (hforced : 0≤forced) (orders : OrderTables) (req : UsageRequest) (enforceLimit : Bool) (now : Int) :
    Ensures (fun db' => InOrder c forced db' ∨ (InOrder c (forced+1) db' ∧ enforceLimit=false ∧
        req.promoCodeId=c ∧ db.usages.length<db'.usages.length ∧
        (db.reservation? req.promoCodeId req.orderType req.orderNo).map (·.status)≠some .reserved)) (fun _ => True)
      (recordPromoCodeUsageTx db orders req enforceLimit now) := by
  unfold recordPromoCodeUsageTx
  refine Ensures.ite (fun _ => .inl h) fun _ => Ensures.ite (fun _ => .inl h) fun hnone => ?_
  have hnone : db.usage? req.promoCodeId req.orderNo=none := by simpa using hnone
  cases hp : db.promo? req.promoCodeId with
  | none => exact Ensures.guard trivial fun _ => .inl h
  | some promo =>
    obtain ⟨hi,redeemed,reserved,limit,hc,hfall⟩ := reclaim_inOrder h orders hp now _ rfl
    obtain ⟨-,husages⟩ := reclaim_tables h.indexed orders promo now
    simp only
    set t := (reclaimExpiredPromoReservationsTx db orders promo now).1
    set loaded := (reclaimExpiredPromoReservationsTx db orders promo now).2
    set status := (t.reservation? req.promoCodeId req.orderType req.orderNo).map (·.status) with hstatus
    refine Ensures.guard trivial fun hlimit => ?_
    set usage : PromoCodeUsage :=
      { promoCodeId := req.promoCodeId, userId := req.userId, orderType := req.orderType, orderNo := req.orderNo
        originalAmount := req.originalAmount, discountAmount := req.discountAmount, paidAmount := req.paidAmount
        createdTime := now }
    have hunsettled : req.promoCodeId=c → status≠some .settled := by
      intro hd hs
      rw [hstatus] at hs
      obtain ⟨r,hr,hset⟩ := map_eq_some_iff.mp hs
      obtain ⟨hmem,hkey⟩ := lookup_some hr
      have hcode : r.promoCodeId=req.promoCodeId := congrArg Prod.fst hkey
      have hno : r.orderNo=req.orderNo := congrArg (·.2.2) hkey
      have hsome := hi.settled r hmem (hcode.trans hd) hset
      rw [usage?,husages,hno,← hd] at hsome
      rw [usage?] at hnone
      rw [hnone] at hsome
      cases hsome
    have hpos : req.promoCodeId=c → status=some .reserved → 1≤reserved := by
      intro hd hs
      have hsum := inStatus_putReservation hi.reservations req.promoCodeId req.orderType req.orderNo .settled now
        .reserved c
      have hnonneg := inStatus_nonneg (t.putReservation req.promoCodeId req.orderType req.orderNo .settled now)
        .reserved c
      rw [if_neg fun hx => ReservationStatus.noConfusion hx.2,if_pos ⟨hd,hs⟩] at hsum
      have := hc.held
      omega
    set f := promoCodeSettlementUpdates loaded now (decide (status=some .reserved)) with hf
    have hwritten : Indexed c ({ t.updatePromo req.promoCodeId f with usages := t.usages++[usage] } : PromoDB) := by
      refine ⟨hi.reservations,?_,fun r hr hrc hrs => ?_⟩
      · rw [husages]
        exact h.indexed.usages.append hnone
      · have hsome := hi.settled r hr hrc hrs
        rw [usage?] at hsome ⊢
        rw [Keyed.lookup_append]
        cases hl : Keyed.lookup PromoCodeUsage.key (c,r.orderNo) t.usages with
        | none =>
          rw [hl] at hsome
          cases hsome
        | some x => rfl
    have hindexed : Indexed c (({ t.updatePromo req.promoCodeId f with usages := t.usages++[usage] } :
        PromoDB).putReservation req.promoCodeId req.orderType req.orderNo .settled now) := by
      refine hwritten.putReservation fun hd _ => ?_
      rw [usage?,Keyed.lookup_append,← hd]
      cases Keyed.lookup PromoCodeUsage.key (req.promoCodeId,req.orderNo) t.usages with
      | none => simp [Keyed.lookup,usage,PromoCodeUsage.key]
      | some x => rfl
    -- the books with whatever number of forced usages the limit asks for
    have hwrite : ∀ forced', (req.promoCodeId=c → 0<limit →
        redeemed+1+(reserved - if status=some .reserved then 1 else 0)≤limit+forced') → forced≤forced' →
        InOrder c forced' (({ t.updatePromo req.promoCodeId f with usages := t.usages++[usage] } :
          PromoDB).putReservation req.promoCodeId req.orderType req.orderNo .settled now) := by
      intro forced' hbound hle
      refine ⟨hindexed,hc.write hi (f := f) (fun _ => rfl) (redeemed+1)
        (reserved - if status=some .reserved then 1 else 0) (fun hd p hcounts => ?_)
        (fun _ => ?_) (fun hd => ?_) ?_ ?_⟩
      · simp only [counts,Prod.mk.injEq] at hcounts
        simp only [hf,promoCodeSettlementUpdates,counts,Prod.mk.injEq]
        refine ⟨by omega,?_,hcounts.2.2⟩
        by_cases hs : status=some .reserved
        · have := hpos hd hs
          simp only [hs,decide_true,if_true]
          rw [if_pos (by omega)]
          omega
        · simp only [hs,decide_false,Bool.false_eq_true,if_false]
          omega
      · rw [if_neg (c := ReservationStatus.settled=.reserved) (by decide),add_zero]
      · rw [if_neg (hunsettled hd),if_pos rfl]
        omega
      · rw [map_append,sum_append]
        simp only [map_cons,map_nil,sum_cons,sum_nil,usage]
        rw [PromoDB.used]
        omega
      · split
        next hd =>
          exact hbound hd
        · exact hle
    by_cases hd : req.promoCodeId=c
    · by_cases hactive : status=some .reserved
      · refine .inl (hwrite forced (fun _ hl => ?_) le_rfl)
        have := hc.bound hl
        rw [if_pos hactive]
        omega
      · have hcapacity : enforceLimit=true → 0<limit → redeemed+reserved<limit := by
          intro he hl
          have hcap : (t.promo? c).any (·.hasCapacity)=true := by
            simpa [he,hactive,hd] using hlimit
          have := hc.capacity hcap
          omega
        cases henf : enforceLimit with
        | true =>
          refine .inl (hwrite forced (fun _ hl => ?_) le_rfl)
          have := hcapacity henf hl
          rw [if_neg hactive]
          omega
        | false =>
          obtain ⟨-,hsame | hless⟩ := hfall hd
          · refine .inr ⟨hwrite (forced+1) (fun _ hl => ?_) (by omega),rfl,hd,?_,?_⟩
            · have := hc.bound hl
              rw [if_neg hactive]
              omega
            · rw [(putReservation_promos _ _ _ _ _ _).2,length_append]
              exact husages ▸ Nat.lt_succ_self _
            · rw [← hsame]
              exact hactive
          · refine .inl (hwrite forced (fun _ hl => ?_) le_rfl)
            have := hless hl
            rw [if_neg hactive]
            omega
    · exact .inl (hwrite forced (fun hd' => absurd hd' hd) le_rfl)

theorem InOrder.updatePromo (d : Int) (hid : ∀ p, (f p).id=p.id)
    (hcounts : ∀ p, (f p).counts=p.counts) : InOrder c forced (db.updatePromo d f) := by
  obtain ⟨redeemed,reserved,limit,hc⟩ := h.counted
  refine ⟨h.indexed.updatePromo d f,redeemed,reserved,limit,?_,hc.held,hc.used,hc.settled,hc.bound⟩
  rw [promo?_updatePromo _ _ _ hid]
  split
  next he =>
    have hcomp : counts ∘ f=counts := funext hcounts
    rw [Option.map_map,hcomp,← he]
    exact hc.row
  · exact hc.row

end

theorem prepare_inOrder (hi : Indexed c db) (hc : Counted c forced db redeemed reserved limit) (code : String)
    (currentId : Int) : Ensures (fun db' => Indexed c db' ∧ Counted c forced db' redeemed reserved limit) (fun _ => True)
      (preparePromoCodeForWriteTx db code currentId) := by
  unfold preparePromoCodeForWriteTx
  split
  · exact ⟨hi,hc⟩
  rename_i existing _
  refine Ensures.guard trivial fun _ => ⟨hi.updatePromo _ _,?_,hc.held,hc.used,hc.settled,hc.bound⟩
  rw [promo?_updatePromo _ _ _ fun p => by split <;> rfl]
  split
  next he =>
    have hcomp : (counts ∘ fun p => if p.deletedId=0 then { p with deletedId := existing.id } else p) =
        counts := by
      funext p
      simp only [Function.comp_apply]
      split <;> rfl
    rw [Option.map_map,hcomp,← he]
    exact hc.row
  · exact hc.row

theorem update_inOrder (h : InOrder c forced db) (hforced : 0≤forced) (upper : Char → Char) (orders : OrderTables)
    (req : PromoUpdate) (now : Int) {out : Except PromoError PromoDB} (hout : updatePromoCode db orders upper req now=out) :
    Ensures (InOrder c forced) (fun _ => True) out := by
  subst hout
  unfold updatePromoCode
  generalize validatePromoCode upper req now=checked
  refine Ensures.bind (P := fun _ => True) ?_ fun fields _ => ?_
  · cases checked <;> trivial
  cases hlive : db.livePromo? req.id with
  | none => trivial
  | some current =>
    have hp : db.promo? req.id=some current := (filter_eq_some_iff.mp hlive).1
    obtain ⟨hi,redeemed,reserved,limit,hc,hfall⟩ := reclaim_inOrder h orders hp now _ rfl
    simp only
    refine Ensures.guard trivial fun hlimit => ?_
    refine (prepare_inOrder hi hc fields.2.1 req.id).bind fun t ht => ?_
    obtain ⟨hi',hc'⟩ := ht
    refine ⟨hi'.updatePromo _ _,?_⟩
    have hlookup := promo?_updatePromo t c req.id (f := req.write fields.1 fields.2.1 fields.2.2 now) fun _ => rfl
    by_cases hd : req.id=c
    · obtain ⟨hcounts,-⟩ := hfall hd
      simp only [counts,Prod.mk.injEq] at hcounts
      refine ⟨redeemed,reserved,req.maxRedeemCount,?_,hc'.held,hc'.used,hc'.settled,fun hl => ?_⟩
      · have hrow := hc'.row
        obtain ⟨p,hp',hpc⟩ := map_eq_some_iff.mp hrow
        simp only [counts,Prod.mk.injEq] at hpc
        rw [hlookup,if_pos hd.symm,hd,hp']
        simp only [map_some,counts,PromoUpdate.write,Option.some.injEq,Prod.mk.injEq]
        exact ⟨hpc.1,hpc.2.1,trivial⟩
      · omega
    · refine ⟨redeemed,reserved,limit,?_,hc'.held,hc'.used,hc'.settled,hc'.bound⟩
      rw [hlookup,if_neg fun he => hd he.symm]
      exact hc'.row

theorem delete_inOrder (h : InOrder c forced db) (id : Int) : InOrder c forced (deletePromoCodeById db id) := by
  unfold deletePromoCodeById
  split
  · exact h
  · exact h.updatePromo id (fun _ => rfl) fun _ => rfl

/-- The usage is recorded without regard to the limit, for an order that holds no reservation. -/
def forces (upper : Char → Char) (c : Int) (db : PromoDB) : Op → Bool
  | .record orders req false now =>
    decide (req.promoCodeId=c ∧ db.usages.length<(step upper db (.record orders req false now)).usages.length ∧
      (db.reservation? req.promoCodeId req.orderType req.orderNo).map (·.status)≠some .reserved)
  | _ => false

theorem step_inOrder (h : InOrder c forced db) (hforced : 0≤forced) (upper : Char → Char) (op : Op) :
    InOrder c (forced + if forces upper c db op then 1 else 0) (step upper db op) := by
  have hkept : ∀ out : Except PromoError PromoDB, Ensures (InOrder c forced) (fun _ => True) out →
      InOrder c forced (commit db out) := by
    intro out ho
    cases out with
    | ok db' => exact ho
    | error e => exact h
  cases op with
  | reserve orders d t n planId now =>
    exact (hkept _ (reserve_inOrder h hforced orders d t n planId now)).mono (Int.add_zero forced).ge
  | release orders d t n now => exact (hkept _ (release_inOrder h orders d t n now)).mono (Int.add_zero forced).ge
  | reclaim orders d now =>
    refine (hkept _ ?_).mono (Int.add_zero forced).ge
    unfold exec
    simp only
    cases hp : db.promo? d with
    | none => trivial
    | some promo =>
      obtain ⟨hi,redeemed,reserved,limit,hc,-⟩ := reclaim_inOrder h orders hp now _ rfl
      exact ⟨hi,redeemed,reserved,limit,hc⟩
  | record orders req enforceLimit now =>
    have heffect := record_effect h hforced orders req enforceLimit now
    cases hout : recordPromoCodeUsageTx db orders req enforceLimit now with
    | error e =>
      have hstep : step upper db (.record orders req enforceLimit now)=db := by
        rw [step,exec,hout]
        rfl
      rw [hstep]
      exact h.mono (by split <;> omega)
    | ok db' =>
      have hstep : step upper db (.record orders req enforceLimit now)=db' := by
        rw [step,exec,hout]
        rfl
      rw [hout] at heffect
      rw [hstep]
      obtain hin | ⟨hin,henforce,hd,hlen,hst⟩ := heffect
      · exact hin.mono (by split <;> omega)
      subst henforce
      have hf : forces upper c db (.record orders req false now)=true := by
        rw [forces,hstep]
        exact decide_eq_true ⟨hd,hlen,hst⟩
      rw [if_pos hf]
      exact hin
  | update orders req now =>
    rw [step,exec]
    generalize hout : updatePromoCode db orders upper req now=out
    exact (hkept out (update_inOrder h hforced upper orders req now hout)).mono (Int.add_zero forced).ge
  | delete d => exact (delete_inOrder h d).mono (Int.add_zero forced).ge

end Calls

/-- A code nobody has used or reserved yet, in tables whose unique indexes hold. -/
structure Fresh (c : Int) (db : PromoDB) : Prop where
  reservations : Keyed.Unique key db.reservations
  usages : Keyed.Unique PromoCodeUsage.key db.usages
  row : ∃ p, db.promo? c=some p ∧ p.redeemedCount=0 ∧ p.reservedCount=0
  unreserved : ∀ r∈db.reservations, r.promoCodeId≠c
  unused : ∀ u∈db.usages, u.promoCodeId≠c

theorem Fresh.inOrder {c : Int} {db : PromoDB} (h : Fresh c db) : InOrder c 0 db := by
  obtain ⟨p,hp,hredeemed,hreserved⟩ := h.row
  have hzero : ∀ s, db.inStatus s c=0 := fun s => sum_eq_zero fun x hx => by
    obtain ⟨r,hr,rfl⟩ := mem_map.mp hx
    exact if_neg fun hc => h.unreserved r hr hc.1
  have hused : db.used c=0 := sum_eq_zero fun x hx => by
    obtain ⟨u,hu,rfl⟩ := mem_map.mp hx
    exact if_neg (h.unused u hu)
  refine ⟨⟨h.reservations,h.usages,fun r hr hc => absurd hc (h.unreserved r hr)⟩,0,0,p.maxRedeemCount,?_,
    (hzero _).symm,hused.symm,(hzero _).symm,fun hl => by omega⟩
  rw [hp,map_some,counts,hredeemed,hreserved]

theorem run_inOrder {c : Int} {db : PromoDB} {forced : Int} (h : InOrder c forced db) (hforced : 0≤forced) (upper : Char → Char)
    (ops : List Op) :
    InOrder c (forced+(events (step upper) (fun db op => if forces upper c db op then [op] else []) ops db).length) (run (step upper) ops db) := by
  induction ops generalizing db forced with
  | nil => exact h.mono (Int.add_zero forced).ge
  | cons op ops ih =>
    refine (ih (step_inOrder h hforced upper op) (by split <;> omega)).mono ?_
    rw [events,length_append]
    split
    · rw [length_singleton]
      omega
    · rw [length_nil]
      omega

theorem length_filter_weight {ρ : Type} (p : ρ → Bool) (rows : List ρ) :
    ((rows.filter p).length : Int)=(rows.map fun r => if p r then 1 else 0).sum := by
  rw [← sum_filter]
  simp

/-- Over every run the row counts its reservations and usages, no order has two usages, and the limit is passed by no
more than the usages recorded without regard to it. -/
theorem promo_counters_exact {c : Int} {db : PromoDB} (h : Fresh c db) (upper : Char → Char) (ops : List Op) :
    ∃ p, (run (step upper) ops db).promo? c=some p ∧ p.reservedCount=((run (step upper) ops db).reservations.filter fun r =>
        decide (r.promoCodeId=c ∧ r.status=.reserved)).length ∧
      p.redeemedCount=((run (step upper) ops db).usages.filter fun u => decide (u.promoCodeId=c)).length ∧
      p.redeemedCount=((run (step upper) ops db).reservations.filter fun r => decide (r.promoCodeId=c ∧ r.status=.settled)).length ∧
      (∀ orderNo, ((run (step upper) ops db).usages.filter fun u => decide (u.promoCodeId=c ∧ u.orderNo=orderNo)).length≤1) ∧
      (0<p.maxRedeemCount → p.redeemedCount+p.reservedCount≤p.maxRedeemCount +
        (events (step upper) (fun db op => if forces upper c db op then [op] else []) ops db).length) := by
  have hrun := run_inOrder h.inOrder le_rfl upper ops
  obtain ⟨redeemed,reserved,limit,hc⟩ := hrun.counted
  obtain ⟨p,hp,hcounts⟩ := map_eq_some_iff.mp hc.row
  simp only [counts,Prod.mk.injEq] at hcounts
  obtain ⟨rfl,rfl,rfl⟩ := hcounts
  refine ⟨p,hp,?_,?_,?_,fun orderNo => ?_,fun hl => ?_⟩
  · rw [length_filter_weight,hc.held]
    simp only [decide_eq_true_eq]
    rfl
  · rw [length_filter_weight,hc.used]
    simp only [decide_eq_true_eq]
    rfl
  · rw [length_filter_weight,hc.settled]
    simp only [decide_eq_true_eq]
    rfl
  · have hkey := sum_filter_key hrun.indexed.usages (c,orderNo) fun _ => 1
    have hsame : ((run (step upper) ops db).usages.filter fun u => decide (u.promoCodeId=c ∧ u.orderNo=orderNo)) =
        (run (step upper) ops db).usages.filter fun u => decide (u.key=(c,orderNo)) := by
      refine filter_congr fun u _ => ?_
      simp [PromoCodeUsage.key]
    have hlen : (((run (step upper) ops db).usages.filter fun u => decide (u.key=(c,orderNo))).length : Int)≤1 := by
      have hmap : (((run (step upper) ops db).usages.filter fun u => decide (u.key=(c,orderNo))).map
          fun _ => (1 : Int)).sum=((run (step upper) ops db).usages.filter fun u => decide (u.key=(c,orderNo))).length := by
        simp
      rw [← hmap,hkey]
      cases Keyed.lookup PromoCodeUsage.key (c,orderNo) (run (step upper) ops db).usages with
      | none => decide
      | some u => exact le_rfl
    rw [hsame]
    omega
  · have := hc.bound hl
    rwa [zero_add] at this

def onePlace : PromoDB := { promos := [{ id := 7, appliesToTopup := true, maxRedeemCount := 1 }] }

/-- The place is reserved for one order, a second order is paid without a reservation, and the first is paid. -/
def overbooked : List Op :=
  [.reserve {} 7 .topup "A" 0 100,.reserve {} 7 .topup "B" 0 101,
    .record {} { promoCodeId := 7, userId := 1, orderType := .topup, orderNo := "B" } false 102,
    .record {} { promoCodeId := 7, userId := 1, orderType := .topup, orderNo := "A" } true 103]

theorem promo_counters_exact_overbooked : ((run (step Char.toUpper) overbooked onePlace).promo? 7).map counts=some (2,0,1) ∧
      ∃ p, (run (step Char.toUpper) overbooked onePlace).promo? 7=some p ∧
        p.redeemedCount=((run (step Char.toUpper) overbooked onePlace).usages.filter fun u => decide (u.promoCodeId=7)).length := by
  have hfresh : Fresh 7 onePlace :=
    ⟨nodup_nil,nodup_nil,⟨_,rfl,rfl,rfl⟩,fun r hr => absurd hr not_mem_nil, fun u hu => absurd hu not_mem_nil⟩
  obtain ⟨p,hp,-,hredeemed,-⟩ := promo_counters_exact hfresh Char.toUpper overbooked
  exact ⟨by decide +kernel,p,hp,hredeemed⟩

end NewApi.Promo

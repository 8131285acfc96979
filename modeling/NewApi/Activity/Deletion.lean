import NewApi.Activity.Budget

/-! Soft-deleted activities and the quota of their vouchers. The deletion looks at the balances of the moment; a
request that holds the rest of a voucher can give it back afterwards. Where no such request is open at the deletion,
no quota is stranded by any later run. -/
namespace NewApi.Activity
open Keyed Runs List Voucher BenefitDB

def Alive (now : Int) (v : BenefitUserVoucher) : Prop := terminal v.status=false ∧ now<v.expiresAt

instance (now : Int) (v : BenefitUserVoucher) : Decidable (Alive now v) := inferInstanceAs (Decidable (_ ∧ _))

variable {now' activityID : Int}

theorem Alive.mono {now : Int} {v : BenefitUserVoucher} (h : Alive now' v) (hle : now≤now') : Alive now v :=
  ⟨h.1,by have := h.2; omega⟩

def Unheld (db : BenefitDB) (x : Int) : Prop :=
  ∀ r, reservationOpen db r → rowAmount (db.row? .preConsume r x)=0

def Quiet (now x : Int) (db : BenefitDB) : Prop :=
  ∀ w, db.voucher? x=some w → Alive now w → w.remainingQuota≤0 ∧ Unheld db x

def Dead (x : Int) (db : BenefitDB) : Prop := ∀ w, db.voucher? x=some w → terminal w.status=true

def ExhaustedEmpty (db : BenefitDB) : Prop :=
  ∀ x w, db.voucher? x=some w → w.status=.exhausted → w.remainingQuota≤0

variable {db db' : BenefitDB} {r : String} {x y now : Int}

theorem Quiet.mono (h : Quiet now x db) (hle : now≤now') : Quiet now' x db :=
  fun w hw halive => h w hw (halive.mono hle)

variable {status : VoucherStatus}

theorem voucher?_of_updated {used remaining : Int}
    (hvs : db'.vouchers=(db.updateVoucher x (·.updates remaining used status)).vouchers) (y : Int) :
    db'.voucher? y = if y=x then (db.voucher? x).map (·.updates remaining used status) else db.voucher? y := by
  rw [← voucher?_updateVoucher,BenefitDB.voucher?,hvs]
  rfl

variable {w' : BenefitUserVoucher} {rolls : Prop}

theorem round_voucher (h : Round rolls r x db db') (hw' : db'.voucher? y=some w') :
    db.voucher? y=some w' ∨ (y=x ∧ ∃ v remaining used status, db.voucher? x=some v ∧ terminal v.status=false ∧
      StatusFits remaining status ∧ (¬ rolls → v.remainingQuota≤0 → rowAmount (db.row? .preConsume r x)=0 → remaining≤0) ∧
      w'=v.updates remaining used status) := by
  obtain hsame | ⟨v,remaining,used,status,hfound,halive,hfits,hspent,hvs⟩ := h.voucher
  · rw [BenefitDB.voucher?,hsame] at hw'
    exact .inl hw'
  · rw [voucher?_of_updated hvs] at hw'
    split at hw'
    next heq =>
      rw [hfound] at hw'
      cases hw'
      exact .inr ⟨heq,v,remaining,used,status,hfound,halive,hfits,hspent,rfl⟩
    · exact .inl hw'

theorem Dead.round (hd : Dead y db) (h : Round rolls r x db db') : Dead y db' := by
  intro w' hw'
  obtain hw | ⟨rfl,v,remaining,used,status,hfound,halive,-⟩ := round_voucher h hw'
  · exact hd w' hw
  rw [hd v hfound] at halive
  cases halive

theorem ExhaustedEmpty.round (he : ExhaustedEmpty db) (h : Round rolls r x db db') : ExhaustedEmpty db' := by
  intro y w' hw' hstatus
  obtain hw | ⟨-,v,remaining,used,status,-,-,hfits,-,rfl⟩ := round_voucher h hw'
  · exact he y w' hw hstatus
  · exact (hfits.exhausted hstatus).le

theorem reservationOpen_back (h : Round False r x db db') {r' : String} (hopen : reservationOpen db' r') :
    reservationOpen db r' := by
  have hback : ∀ t v, t≠.settleRollback → db'.row? t r' v=none → db.row? t r' v=none := by
    intro t v _ hnone
    by_cases hcell : (r',v)=(r,x)
    · simp only [Prod.mk.injEq] at hcell
      obtain ⟨rfl,rfl⟩ := hcell
      rw [← Option.not_isSome_iff_eq_none] at hnone ⊢
      exact fun hsome => hnone (h.grows t hsome)
    · rw [← h.rows t r' v hcell]
      exact hnone
  obtain ⟨hrefund,hsettle⟩ := hopen
  refine ⟨requestRows_nil.mpr fun v => hback _ v (by decide) (requestRows_nil.mp hrefund v),?_⟩
  obtain hsettle | hrolled := hsettle
  · exact .inl (requestRows_nil.mpr fun v => hback _ v (by decide) (requestRows_nil.mp hsettle v))
  refine .inr fun hnil => hrolled (requestRows_nil.mpr fun v => ?_)
  rw [← Option.not_isSome_iff_eq_none]
  intro hsome
  have hnone := requestRows_nil.mp hnil v
  by_cases hcell : (r',v)=(r,x)
  · simp only [Prod.mk.injEq] at hcell
    obtain ⟨rfl,rfl⟩ := hcell
    obtain hbefore | hfalse := h.rolled hsome
    · rw [hnone] at hbefore
      cases hbefore
    · exact hfalse
  · rw [h.rows _ r' v hcell,hnone] at hsome
    cases hsome

def HoldsNone (now : Int) (r : String) (x : Int) (db : BenefitDB) : Prop :=
  ∀ w, db.voucher? x=some w → Alive now w → rowAmount (db.row? .preConsume r x)=0

theorem Quiet.round (hq : Quiet now y db) (hz : HoldsNone now r y db) (h : Round False r x db db') :
    Quiet now y db' ∧ HoldsNone now r y db' := by
  have hzero : ∀ w, db.voucher? y=some w → Alive now w → rowAmount (db'.row? .preConsume r y)=0 := by
    intro w hw halive
    by_cases hxy : y=x
    · subst hxy
      refine h.pre (hz w hw halive) fun w' hw' => ?_
      rw [hw] at hw'
      cases hw'
      exact (hq w hw halive).1
    · rw [h.other hxy]
      exact hz w hw halive
  have hunheld : ∀ w, db.voucher? y=some w → Alive now w → Unheld db' y := by
    intro w hw halive r' hopen
    by_cases hr : r'=r
    · subst hr
      exact hzero w hw halive
    · rw [h.rows _ r' y fun heq => hr (Prod.mk.inj heq).1]
      exact (hq w hw halive).2 r' (reservationOpen_back h hopen)
  constructor
  · intro w' hw' halive'
    obtain hw | ⟨rfl,v,remaining,used,status,hfound,halive,hfits,hspent,rfl⟩ := round_voucher h hw'
    · exact ⟨(hq w' hw halive').1,hunheld w' hw halive'⟩
    have hv : Alive now v := ⟨halive,halive'.2⟩
    exact ⟨hspent not_false (hq v hfound hv).1 (hz v hfound hv),hunheld v hfound hv⟩
  · intro w' hw' halive'
    obtain hw | ⟨rfl,v,remaining,used,status,hfound,halive,-,-,rfl⟩ := round_voucher h hw'
    · exact hzero w' hw halive'
    · exact hzero v hfound ⟨halive,halive'.2⟩

variable {X : Int → Prop}

theorem Dead.rounds {rolls : Prop} (hd : Dead y db) (h : Rounds rolls r X db db') : Dead y db' := by
  induction h with
  | refl => exact hd
  | tail _ hround ih =>
    obtain ⟨x,-,hround⟩ := hround
    exact ih.round hround

theorem ExhaustedEmpty.rounds {rolls : Prop} (he : ExhaustedEmpty db) (h : Rounds rolls r X db db') : ExhaustedEmpty db' := by
  induction h with
  | refl => exact he
  | tail _ hround ih =>
    obtain ⟨x,-,hround⟩ := hround
    exact ih.round hround

theorem Quiet.rounds (hq : Quiet now y db) (hz : HoldsNone now r y db) (h : Rounds False r X db db') : Quiet now y db' := by
  suffices hboth : Quiet now y db' ∧ HoldsNone now r y db' from hboth.1
  induction h with
  | refl => exact ⟨hq,hz⟩
  | tail _ hround ih =>
    obtain ⟨x,-,hround⟩ := hround
    exact ih.1.round ih.2 hround

theorem Quiet.holdsNone (hq : Quiet now y db) (hopen : reservationOpen db r) : HoldsNone now r y db :=
  fun w hw halive => (hq w hw halive).2 r hopen

theorem Quiet.rollback (hq : Quiet now y db) (hX : ¬ X y) (hnone : db.row? .preConsume r y=none)
    (h : Rounds True r X db db') : Quiet now y db' := by
  suffices hboth : Quiet now y db' ∧ db'.row? .preConsume r y=none from hboth.1
  induction h with
  | refl => exact ⟨hq,hnone⟩
  | @tail db1 db2 _ hround ih =>
    obtain ⟨x,hx,hround⟩ := hround
    obtain ⟨hq1,hnone1⟩ := ih
    have hne : y≠x := fun heq => hX (heq ▸ hx)
    have hnone2 : db2.row? .preConsume r y=none := by rw [hround.other hne,hnone1]
    refine ⟨fun w hw halive => ?_,hnone2⟩
    rw [hround.voucher?_other hne] at hw
    obtain ⟨hspent,hunheld⟩ := hq1 w hw halive
    refine ⟨hspent,fun r' hopen => ?_⟩
    by_cases hr : r'=r
    · rw [hr,hnone2]
      rfl
    · have hrows : ∀ t v, db2.row? t r' v=db1.row? t r' v := fun t v =>
        hround.rows t r' v fun heq => hr (Prod.mk.inj heq).1
      have hsame : ∀ t, db2.requestRows r' t=[] ↔ db1.requestRows r' t=[] := by
        intro t
        simp only [requestRows_nil,hrows]
      rw [hrows]
      refine hunheld r' ?_
      simpa only [reservationOpen,ne_eq,hsame] using hopen

theorem closing_voucher (h : Closing db db') (hw' : db'.voucher? y=some w') :
    db.voucher? y=some w' ∨ terminal w'.status=true := by
  obtain ⟨x,remaining,status,hstatus,hvs⟩ := h.voucher
  rw [voucher?_of_updated hvs] at hw'
  split at hw'
  · obtain ⟨v,-,rfl⟩ := Option.map_eq_some_iff.mp hw'
    exact .inr hstatus
  · exact .inl hw'

theorem closing_open (h : Closing db db') (r : String) : reservationOpen db' r ↔ reservationOpen db r := by
  have hsame : ∀ t, t≠.void → t≠.expire → (db'.requestRows r t=[] ↔ db.requestRows r t=[]) := by
    intro t hv he
    simp only [requestRows_nil,h.rows t _ _ hv he]
  simp only [reservationOpen,ne_eq,hsame .refund (by decide) (by decide),hsame .settleDelta (by decide) (by decide),
    hsame .settleRollback (by decide) (by decide)]

theorem closing_unheld (h : Closing db db') (x : Int) : Unheld db' x ↔ Unheld db x := by
  simp only [Unheld,closing_open h,h.rows .preConsume _ _ (by decide) (by decide)]

theorem Quiet.closing (hq : Quiet now y db) (h : Closing db db') : Quiet now y db' := by
  intro w' hw' halive
  obtain hw | hdead := closing_voucher h hw'
  · obtain ⟨hspent,hunheld⟩ := hq w' hw halive
    exact ⟨hspent,(closing_unheld h y).mpr hunheld⟩
  · rw [halive.1] at hdead
    cases hdead

theorem Quiet.closings (hq : Quiet now y db) (h : Closings db db') : Quiet now y db' := by
  induction h with
  | refl => exact hq
  | tail _ hclose ih => exact ih.closing hclose

theorem ExhaustedEmpty.closings (he : ExhaustedEmpty db) (h : Closings db db') : ExhaustedEmpty db' := by
  induction h with
  | refl => exact he
  | tail _ hclose ih =>
    intro y w' hw' hstatus
    obtain hw | hdead := closing_voucher hclose hw'
    · exact ih y w' hw hstatus
    rw [hstatus] at hdead
    cases hdead

theorem closings_unheld (h : Closings db db') (x : Int) : Unheld db' x ↔ Unheld db x := by
  induction h with
  | refl => exact Iff.rfl
  | tail _ hclose ih => exact (closing_unheld hclose x).trans ih

/-- What holds in every state at or after the time `now`. -/
structure Safe (now : Int) (db : BenefitDB) : Prop where
  books : Books db
  exhausted : ExhaustedEmpty db
  terminated : ∀ a∈db.activities, a.status=.terminated → a.terminateMode≠some .unused →
    ∀ c∈claims db, c.activityId=a.id → Dead c.id db
  quiet : ∀ a∈db.activities, a.deleted=true → ∀ c∈claims db, c.activityId=a.id → Quiet now c.id db

theorem Safe.mono (h : Safe now db) (hle : now≤now') : Safe now' db :=
  ⟨h.books,h.exhausted,h.terminated,fun a ha hd c hc hca => (h.quiet a ha hd c hc hca).mono hle⟩

theorem Safe.ofVouchers (h : Safe now db) (hb : Books db') (ha : db'.activities=db.activities)
    (hc : claims db'=claims db) (he : ExhaustedEmpty db') (hd : ∀ y, Dead y db → Dead y db')
    (hq : ∀ a∈db.activities, a.deleted=true → ∀ c∈claims db, c.activityId=a.id →
      Quiet now c.id db → Quiet now c.id db') : Safe now db' := by
  refine ⟨hb,he,?_,?_⟩
  · rw [ha,hc]
    exact fun a hmem hs hm c hcm hca => hd _ (h.terminated a hmem hs hm c hcm hca)
  · rw [ha,hc]
    exact fun a hmem hdel c hcm hca => hq a hmem hdel c hcm hca (h.quiet a hmem hdel c hcm hca)

theorem claims_rounds {rolls : Prop} (h : Rounds rolls r X db db') : db'.activities=db.activities ∧ claims db'=claims db := by
  induction h with
  | refl => exact ⟨rfl,rfl⟩
  | tail _ hround ih =>
    obtain ⟨x,-,hround⟩ := hround
    exact ⟨hround.activities.trans ih.1,(claims_round hround).trans ih.2⟩

theorem claims_closings (h : Closings db db') : claims db'=claims db := by
  induction h with
  | refl => rfl
  | tail _ hclose ih =>
    obtain ⟨x,remaining,status,-,hvs⟩ := hclose.voucher
    rw [← ih,claims,hvs]
    exact claims_updateVoucher _ x remaining 0 status

theorem Safe.rounds (h : Safe now db) (hr : Rounds False r X db db')
    (hz : ∀ y, Quiet now y db → HoldsNone now r y db) : Safe now db' :=
  h.ofVouchers (h.books.rounds hr).1 (claims_rounds hr).1 (claims_rounds hr).2 (h.exhausted.rounds hr)
    (fun _ hd => hd.rounds hr) fun _ _ _ c _ _ hq => hq.rounds (hz c.id hq) hr

theorem Safe.closings (h : Safe now db) (hc : Closings db db') : Safe now db' :=
  h.ofVouchers (h.books.closings hc).1 hc.tables.activities (claims_closings hc) (h.exhausted.closings hc)
    (fun _ hd _ hw => hc.dead hd hw) fun _ _ _ _ _ _ hq => hq.closings hc

/-- The deletion finds no open reservation on the vouchers of an activity whose vouchers are spent. -/
def DeletesIdle (db : BenefitDB) (now : Int) (ids : List Int) : Prop :=
  ∀ a∈db.activities, a.deleted=false → a.id∈ids → (∀ v∈db.vouchers, v.activityId=a.id → Alive now v → v.remainingQuota≤0) →
    ∀ v∈db.vouchers, v.activityId=a.id → Alive now v → Unheld db v.id

/-- The settlement that is rolled back has no live voucher of a soft-deleted activity. -/
def RollsBackStored (db : BenefitDB) (now : Int) (r : String) : Prop :=
  requestSettled db r → ∀ pre∈db.requestRows r .preConsume, ∀ v, db.voucher? pre.voucherId=some v → Alive now v →
    ∀ a∈db.activities, a.id=v.activityId → a.deleted=false

/-- No transaction goes back to a voucher whose activity has been deleted. -/
def Orderly (db : BenefitDB) (now : Int) : ActivityOp → Prop
  | .delete ids => DeletesIdle db now ids
  | .voucher (.rollback r _) => RollsBackStored db now r
  | .voucher op => releasesOpen db op
  | _ => True

theorem Safe.rollback (h : Safe now db) {delta : Int} (hok : rollbackBenefitVoucherSettlement db r delta=.ok db')
    (hstored : RollsBackStored db now r) : Safe now db' := by
  obtain rfl | ⟨hsettled,hrolled,hrounds⟩ := rollback_rounds hok
  · exact h
  refine h.ofVouchers (h.books.rounds hrounds).1 (claims_rounds hrounds).1 (claims_rounds hrounds).2
    (h.exhausted.rounds hrounds) (fun _ hd => hd.rounds hrounds) fun a ha hdel c hc hca hq => ?_
  by_cases hpre : ∃ pre∈db.requestRows r .preConsume, pre.voucherId=c.id
  · -- a voucher of the request is not alive, so that nothing is asked of it
    obtain ⟨pre,hmem,hid⟩ := hpre
    intro w' hw' halive
    exfalso
    obtain ⟨v,hv,hcv⟩ := mem_map.mp hc
    have hvid : db.voucher? c.id=some v := by
      rw [← hcv]
      exact lookup_of_mem h.books.vouchers hv
    have hdead : ¬ Alive now v := by
      intro hv'
      have := hstored ⟨hsettled,hrolled⟩ pre hmem v (hid ▸ hvid) hv' a ha (by rw [← hca,← hcv]; rfl)
      rw [hdel] at this
      cases this
    have hw'c : claimOf w'∈claims db := by
      rw [← (claims_rounds hrounds).2]
      exact mem_map_of_mem (mem_of_voucher? hw').1
    obtain ⟨v',hv'mem,hv'⟩ := mem_map.mp hw'c
    have hsame : v'=v := by
      refine eq_of_claim_key h.books.voucherIds hv'mem hv ?_
      rw [hv',hcv]
      exact (mem_of_voucher? hw').2
    subst hsame
    have hexp : w'.expiresAt=v'.expiresAt := (congrArg VoucherClaim.expiresAt hv').symm
    by_cases hterm : terminal v'.status=true
    · have hd : Dead c.id db := fun w hw => by
        rw [hvid] at hw
        cases hw
        exact hterm
      have := hd.rounds hrounds w' hw'
      rw [halive.1] at this
      cases this
    · exact hdead ⟨by simpa using hterm,hexp ▸ halive.2⟩
  · refine hq.rollback hpre ?_ hrounds
    cases hrow : db.row? .preConsume r c.id with
    | none => rfl
    | some pre => exact absurd ⟨pre,requestRows_of_row? hrow,(row?_key hrow).2.1⟩ hpre

variable {f : BenefitActivity → BenefitActivity}

theorem Safe.updateActivity (h : Safe now db) (hb : Books (Voucher.updateActivity activityID f db))
    (hid : ∀ a∈db.activities, a.id=activityID → (f a).id=a.id)
    (ht : ∀ a∈db.activities, a.id=activityID → (f a).status=.terminated → (f a).terminateMode≠some .unused →
      ∀ c∈claims db, c.activityId=a.id → Dead c.id db) (hq : ∀ a∈db.activities, a.id=activityID → (f a).deleted=true →
      ∀ c∈claims db, c.activityId=a.id → Quiet now c.id db) : Safe now (Voucher.updateActivity activityID f db) := by
  refine ⟨hb,h.exhausted,?_,?_⟩
  · intro a' ha' hs hm c hc hca
    obtain ⟨a,ha,he⟩ := mem_modify ha'
    by_cases heq : a.id=activityID
    · rw [if_pos heq] at he
      subst he
      exact ht a ha heq hs hm c hc (hca.trans (hid a ha heq))
    · rw [if_neg heq] at he
      subst he
      exact h.terminated a' ha hs hm c hc hca
  · intro a' ha' hdel c hc hca
    obtain ⟨a,ha,he⟩ := mem_modify ha'
    by_cases heq : a.id=activityID
    · rw [if_pos heq] at he
      subst he
      exact hq a ha heq hdel c hc (hca.trans (hid a ha heq))
    · rw [if_neg heq] at he
      subst he
      exact h.quiet a' ha hdel c hc hca

theorem Safe.advance (h : Safe now db) (hb : Books (Voucher.updateActivity activityID f db))
    (hf : ∀ a, (f a).id=a.id ∧ (f a).deleted=a.deleted ∧ (f a).status≠.terminated) :
    Safe now (Voucher.updateActivity activityID f db) :=
  h.updateActivity hb (fun a _ _ => (hf a).1) (fun a _ _ hs => absurd hs (hf a).2.2)
    fun a ha _ hdel c hc hca => h.quiet a ha ((hf a).2.1 ▸ hdel) c hc hca

theorem Safe.moveShares (h : Safe now db) (activityID : Int) (target : ShareStatus) (ht : target≠.claimed) :
    Safe now (Voucher.moveShares activityID target db) :=
  ⟨(h.books.moveShares activityID target ht).1,h.exhausted,h.terminated,h.quiet⟩

variable {a : BenefitActivity}

theorem Safe.create (h : Safe now db) {draws : Draws} {groupActive : Bool}
    (hok : createBenefitActivity db draws groupActive a=.ok db') : Safe now db' := by
  have hb := (h.books.create hok).1
  obtain ⟨a',-,hok⟩ := bind_ok hok
  split at hok
  · cases hok
  cases hok
  refine ⟨hb,h.exhausted,?_,?_⟩
  · intro b hbm hs hm c hc hca
    obtain hbm | hbm := mem_append.mp hbm
    · exact h.terminated b hbm hs hm c hc hca
    rw [mem_singleton.mp hbm] at hs
    cases hs
  · intro b hbm hdel c hc hca
    obtain hbm | hbm := mem_append.mp hbm
    · exact h.quiet b hbm hdel c hc hca
    rw [mem_singleton.mp hbm] at hdel
    cases hdel

variable {groupExists : Bool}

section
variable (h : Safe now db)
include h

theorem Safe.publish {check draws : Draws}
    (hok : publishBenefitActivity db check draws groupExists activityID=.ok db') : Safe now db' := by
  have hb := (h.books.publish hok).1
  unfold publishBenefitActivity at hok
  split at hok
  · cases hok
  rename_i stored hstored
  split at hok
  · cases hok
  obtain ⟨a,hvalid,hok⟩ := bind_ok hok
  split at hok
  · cases hok
  split at hok
  · cases hok
  obtain ⟨allocations,-,hok⟩ := bind_ok hok
  cases hok
  obtain ⟨-,hid,hdel⟩ := stored?_some hstored
  obtain ⟨haid,hadel,-⟩ := validate_ok hvalid
  refine ⟨hb,h.exhausted,?_,?_⟩
  · intro b hbm hs hm c hc hca
    obtain ⟨b0,hb0,he⟩ := mem_modify hbm
    split at he
    · rw [he] at hs
      cases hs
    · exact h.terminated b (he ▸ hb0) hs hm c hc hca
  · intro b hbm hd c hc hca
    obtain ⟨b0,hb0,he⟩ := mem_modify hbm
    split at he
    · rw [he] at hd
      exact absurd (hd.symm.trans (hadel.trans hdel)) (by decide)
    · exact h.quiet b (he ▸ hb0) hd c hc hca

theorem Safe.expire (hok : expireBenefitActivityRecordsTx db activityID now=.ok db') : Safe now db' := by
  simp only [expireBenefitActivityRecordsTx] at hok
  split at hok
  · cases hok
  rename_i a hstored
  obtain ⟨hmem,rfl⟩ := lookup_some hstored
  split at hok
  next hdue =>
    have hd : a.status≠.draft := fun hd => by simp [hd] at hdue
    have hb1 := (h.books.advance hmem hd (f := fun a => { a with status := .ended }) (fun _ => ⟨rfl,rfl⟩)
      fun _ _ h => by cases h).1
    exact ((h.advance hb1 fun _ => ⟨rfl,rfl,by simp⟩).moveShares a.id .expired (by decide)).closings
      (closeVouchers_closings rfl (Or.inr rfl) _ hok).1
  · exact h.closings (closeVouchers_closings rfl (Or.inr rfl) _ hok).1

theorem Safe.terminate {mode : TerminateMode} {reason : String}
    (hok : terminateBenefitActivity db activityID mode reason now=.ok db') : Safe now db' := by
  have hb := (h.books.terminate hok).1
  simp only [terminateBenefitActivity] at hok
  split at hok
  · cases hok
  split at hok
  · cases hok
  rename_i a hstored
  obtain ⟨hmem,rfl⟩ := lookup_some hstored
  split at hok
  · cases hok
  split at hok
  · cases hok
  have h1 := h.moveShares a.id .voided (by decide)
  split at hok
  · cases hok
    exact h1.updateActivity hb (fun _ _ _ => rfl) (fun _ _ _ _ hm => absurd rfl hm)
      fun b hbm _ hdel c hc hca => h1.quiet b hbm hdel c hc hca
  · obtain ⟨db2,hclose,hok⟩ := bind_ok hok
    cases hok
    obtain ⟨hclosings,hdone⟩ := closeVouchers_closings rfl (Or.inl rfl) _ hclose
    have h2 := h1.closings hclosings
    refine h2.updateActivity hb (fun _ _ _ => rfl) (fun b _ hbid _ _ c hc hca => ?_)
      fun b hbm _ hdel c hc hca => h2.quiet b hbm hdel c hc hca
    -- every voucher of the activity was closed before, or is closed now
    rw [claims_closings hclosings] at hc
    obtain ⟨v,hv,rfl⟩ := mem_map.mp hc
    by_cases hlive : v.status=.active ∨ v.status=.exhausted
    · exact fun w hw => hdone v (mem_filter.mpr ⟨hv,decide_eq_true ⟨hca.trans hbid,hlive⟩⟩) w hw
    have hterm : terminal v.status=true := by
      cases hs : v.status with
      | active => exact absurd (.inl hs) hlive
      | exhausted => exact absurd (.inr hs) hlive
      | expired | voided => rfl
    refine fun w hw => hclosings.dead (fun u hu => ?_) hw
    have hlook := lookup_of_mem h.books.vouchers hv
    have heq : u=v := Option.some.inj (hu.symm.trans hlook)
    rw [heq]
    exact hterm

theorem Safe.transition {target : ActivityStatus}
    (hok : transitionBenefitActivity db groupExists activityID target now'=.ok db') : Safe now db' := by
  have hb := (h.books.transition hok).1
  unfold transitionBenefitActivity at hok
  split at hok
  · cases hok
  rename_i a hstored
  obtain ⟨hmem,rfl,-⟩ := stored?_some hstored
  split at hok
  · split at hok
    · cases hok
    cases hok
    exact h.advance hb fun _ => ⟨rfl,rfl,by simp⟩
  · split at hok
    · cases hok
    split at hok
    · cases hok
    split at hok
    · cases hok
    cases hok
    exact h.advance hb fun _ => ⟨rfl,rfl,by simp⟩
  · split at hok
    · cases hok
    rename_i hstatus
    cases hok
    have hb1 := (h.books.advance hmem (fun hd => hstatus (by rw [hd]; decide))
      (f := fun a => { a with status := .ended, endsAt := now' }) (fun _ => ⟨rfl,rfl⟩) fun _ _ h => by cases h).1
    exact (h.advance hb1 fun _ => ⟨rfl,rfl,by simp⟩).moveShares a.id .expired (by decide)
  · cases hok
  · cases hok

end

theorem expire_activities (hok : expireBenefitActivityRecordsTx db activityID now=.ok db') :
    ∀ b∈db'.activities, ∃ b0∈db.activities, b.id=b0.id ∧ b.deleted=b0.deleted ∧ (b.status=b0.status ∨ b.status=.ended) := by
  simp only [expireBenefitActivityRecordsTx] at hok
  split at hok
  · cases hok
  split at hok
  · rw [(closeVouchers_closings rfl (Or.inr rfl) _ hok).1.tables.activities]
    intro b hb
    obtain ⟨b0,hb0,he⟩ := mem_modify hb
    refine ⟨b0,hb0,?_⟩
    rw [he]
    split
    · exact ⟨rfl,rfl,.inr rfl⟩
    · exact ⟨rfl,rfl,.inl rfl⟩
  · rw [(closeVouchers_closings rfl (Or.inr rfl) _ hok).1.tables.activities]
    exact fun b hb => ⟨b,hb,rfl,rfl,.inl rfl⟩

theorem Safe.claim (h : Safe now db) {user : Claimant} {pick : Nat}
    (hok : claimBenefitActivity db activityID user pick now=.ok db') : Safe now db' := by
  have hb := (h.books.claim hok).1
  obtain ⟨a,hmem,-,hdel,hopen,db1,hexpire,share,-,-,-,v,hactive,hv,-,hdb'⟩ := claim_cases hok
  have h1 := h.expire hexpire
  have hrow : ∀ b∈db1.activities, b.id=a.id → b.deleted=false ∧ b.status≠.terminated := by
    intro b hbm hbid
    obtain ⟨b0,hb0,hid0,hdel0,hst⟩ := expire_activities hexpire b hbm
    have heq : b0=a := inj_on_of_nodup_map h.books.activityIds hb0 hmem (hid0.symm.trans hbid)
    rw [heq] at hdel0 hst
    refine ⟨hdel0.trans hdel,fun ht => ?_⟩
    rw [ht,hopen] at hst
    obtain hst | hst := hst <;> cases hst
  have hactivities : db'.activities=db1.activities := by rw [hdb']
  have hclaims : claims db'=claims db1++[claimOf v] := by simp [claims,hdb']
  have hlook : ∀ x, db'.voucher? x=(db1.voucher? x).or (if v.id=x then some v else none) := by
    intro x
    rw [hdb',BenefitDB.voucher?,Keyed.lookup_append,Keyed.lookup_cons,Keyed.lookup_nil]
    rfl
  -- the vouchers that were there are the same
  have hold : ∀ c∈claims db1, db'.voucher? c.id=db1.voucher? c.id := by
    intro c hc
    obtain ⟨u,hu,rfl⟩ := mem_map.mp hc
    have hlu : db1.voucher? (claimOf u).id=some u := lookup_of_mem h1.books.vouchers hu
    rw [hlook,hlu]
    rfl
  refine ⟨hb,?_,?_,?_⟩
  · intro x w hw hstatus
    rw [hlook] at hw
    cases hx : db1.voucher? x with
    | some u =>
      rw [hx] at hw
      cases hw
      exact h1.exhausted x w hx hstatus
    | none =>
      rw [hx,Option.none_or] at hw
      split at hw
      · cases hw
        cases hactive.symm.trans hstatus
      · cases hw
  · intro b hbm hs hm c hc hca
    rw [hactivities] at hbm
    rw [hclaims] at hc
    obtain hc | hc := mem_append.mp hc
    · intro w hw
      rw [hold c hc] at hw
      exact h1.terminated b hbm hs hm c hc hca w hw
    · rw [mem_singleton.mp hc,hv] at hca
      exact absurd hs (hrow b hbm hca.symm).2
  · intro b hbm hbdel c hc hca
    rw [hactivities] at hbm
    rw [hclaims] at hc
    obtain hc | hc := mem_append.mp hc
    · intro w hw
      rw [hold c hc] at hw
      rw [hdb']
      exact h1.quiet b hbm hbdel c hc hca w hw
    · rw [mem_singleton.mp hc,hv] at hca
      rw [(hrow b hbm hca.symm).1] at hbdel
      cases hbdel

theorem closeVouchers_other {type : LedgerType} {requestID : BenefitUserVoucher → String}
    {remaining : BenefitUserVoucher → Int} (vs : List BenefitUserVoucher) :
    ∀ {db db' : BenefitDB}, closeVouchers status type requestID remaining vs db=.ok db' →
      (∀ v∈vs, y≠v.id) → db'.voucher? y=db.voucher? y := by
  induction vs with
  | nil =>
    intro db db' h _
    cases h
    rfl
  | cons v vs ih =>
    intro db db' h hne
    obtain ⟨db1,hclose,hloop⟩ := bind_ok h
    rw [ih hloop fun u hu => hne u (by simp [hu]),voucher?_of_updated (vouchers_createLedger hclose),
      if_neg (hne v (by simp))]

/-- The vouchers that are in time, and the claims on all of them, are as they were. -/
structure Untouched (now : Int) (db db' : BenefitDB) : Prop where
  inTime : ∀ y w, db.voucher? y=some w → now<w.expiresAt → db'.voucher? y=some w
  unheld : ∀ x, Unheld db' x ↔ Unheld db x
  claims : Activity.claims db'=Activity.claims db

theorem Untouched.refl (now : Int) (db : BenefitDB) : Untouched now db db := ⟨fun _ _ h _ => h,fun _ => Iff.rfl,rfl⟩

theorem Untouched.trans {db1 db2 db3 : BenefitDB} (h : Untouched now db1 db2) (h' : Untouched now db2 db3) :
    Untouched now db1 db3 :=
  ⟨fun y w hw hlt => h'.inTime y w (h.inTime y w hw hlt) hlt,fun x => (h'.unheld x).trans (h.unheld x),
    h'.claims.trans h.claims⟩

theorem expire_untouched (hu : Keyed.Unique BenefitUserVoucher.id db.vouchers)
    (hok : expireBenefitActivityRecordsTx db activityID now=.ok db') : Untouched now db db' := by
  have hdue : ∀ y w, db.voucher? y=some w → now<w.expiresAt → ∀ v∈db.vouchers.filter (fun v =>
      decide (v.activityId=activityID ∧ v.status=.active ∧ v.expiresAt≤now)), y≠v.id := by
    intro y w hw hlt v hv heq
    obtain ⟨hmem,hp⟩ := mem_filter.mp hv
    simp only [decide_eq_true_eq] at hp
    have hv := lookup_of_mem hu hmem
    rw [← heq] at hv
    have : w=v := Option.some.inj (hw.symm.trans hv)
    subst this
    omega
  simp only [expireBenefitActivityRecordsTx] at hok
  split at hok
  · cases hok
  split at hok
  · have hc := (closeVouchers_closings rfl (Or.inr rfl) _ hok).1
    refine ⟨fun y w hw hlt => (closeVouchers_other _ hok (hdue y w hw hlt)).trans hw,fun x => ?_,?_⟩
    · rw [closings_unheld hc x]
      exact Iff.rfl
    · rw [claims_closings hc]
      rfl
  · have hc := (closeVouchers_closings rfl (Or.inr rfl) _ hok).1
    exact ⟨fun y w hw hlt => (closeVouchers_other _ hok (hdue y w hw hlt)).trans hw,fun x => closings_unheld hc x,
      claims_closings hc⟩

theorem closeRecords_untouched {status : ActivityStatus} (hu : Keyed.Unique BenefitUserVoucher.id db.vouchers)
    (hok : closeRecords a now db=.ok (db',status)) : Untouched now db db' := by
  obtain ⟨-,-,hexpire⟩ | ⟨-,-,rfl⟩ | ⟨-,rfl⟩ := closeRecords_cases hok
  · exact expire_untouched hu hexpire
  · exact ⟨fun _ _ hw _ => hw,fun _ => Iff.rfl,rfl⟩
  · exact Untouched.refl now _

theorem Safe.closeRecords (h : Safe now db) {status : ActivityStatus} (hmem : a∈db.activities)
    (hok : closeRecords a now db=.ok (db',status)) :
    Safe now db' ∧ ∃ b∈db'.activities, b.id=a.id ∧ b.terminateMode=a.terminateMode ∧
      (status=.terminated → b.status=.terminated) := by
  obtain ⟨hclosed,rfl,hexpire⟩ | ⟨hdue,rfl,rfl⟩ | ⟨rfl,rfl⟩ := closeRecords_cases hok
  · refine ⟨h.expire hexpire,a,?_,rfl,rfl,id⟩
    -- an activity that has ended is not ended again
    simp only [expireBenefitActivityRecordsTx] at hexpire
    split at hexpire
    · cases hexpire
    rename_i b hstored
    have hb := lookup_of_mem h.books.activityIds hmem
    have heq : b=a := Option.some.inj (hstored.symm.trans hb)
    rw [heq,if_neg (by
      rintro ⟨hopen,-⟩
      obtain hc | hc := hclosed <;> rw [hc] at hopen <;> simp at hopen)] at hexpire
    rw [(closeVouchers_closings rfl (Or.inr rfl) _ hexpire).1.tables.activities]
    exact hmem
  · simp only [overdue,decide_eq_true_eq] at hdue
    have h1 := h.moveShares a.id .expired (by decide)
    have hb1 := (h1.books.advance hmem (fun hd => by simp [hd] at hdue) (f := fun a => { a with status := .ended })
      (fun _ => ⟨rfl,rfl⟩) fun _ _ h => by cases h).1
    refine ⟨h1.advance hb1 fun _ => ⟨rfl,rfl,by simp⟩,{ a with status := .ended },
      mem_map.mpr ⟨a,hmem,if_pos rfl⟩,rfl,rfl,fun h => by cases h⟩
  · exact ⟨h,a,hmem,rfl,rfl,id⟩

theorem closeRecords_draft (hok : closeRecords a now db=.ok (db',.draft)) : a.status=.draft := by
  obtain ⟨-,hstatus,-⟩ | ⟨-,hstatus,-⟩ | ⟨hstatus,-⟩ := closeRecords_cases hok
  · exact hstatus.symm
  · cases hstatus
  · exact hstatus.symm

variable {db₀ : BenefitDB} {ids : List Int}

theorem Safe.deleteActivity (h : Safe now db) (hunt : Untouched now db₀ db) (hbooks0 : Books db₀)
    (hidle : DeletesIdle db₀ now ids) {skipped : Option SkipReason}
    (hmem0 : a∈db₀.activities) (hmem : a∈db.activities) (hstored : a.deleted=false) (hid : a.id∈ids)
    (hok : deleteActivity a now db=.ok (db',skipped)) : Safe now db' ∧ Untouched now db₀ db' := by
  have hb := (h.books.deleteActivity hmem hok).1
  unfold Activity.deleteActivity at hok
  split at hok
  · cases hok
    exact ⟨h,hunt⟩
  rename_i hdraft
  obtain ⟨⟨db1,status⟩,hclose,hok⟩ := bind_ok hok
  obtain ⟨h1,b,hbm,hbid,hmode,hterm⟩ := h.closeRecords hmem hclose
  have hunt1 := hunt.trans (closeRecords_untouched h.books.vouchers hclose)
  simp only at hok
  split at hok
  · cases hok
    exact ⟨h1,hunt1⟩
  rename_i hdeletable
  split at hok
  · cases hok
    exact ⟨h1,hunt1⟩
  rename_i hactive
  cases hok
  refine ⟨h1.updateActivity hb (fun _ _ _ => rfl) (fun c hc hcid hs hm => ?_) fun c hc hcid _ d hd hda => ?_,?_⟩
  · exact h1.terminated c hc hs hm
  · -- the voucher of the deleted activity, as it was before the deletion
    have hlive : ∀ v∈db₀.vouchers, v.activityId=a.id → Alive now v → db1.voucher? v.id=some v :=
      fun v hv _ hv' => hunt1.inTime v.id v (lookup_of_mem hbooks0.vouchers hv) hv'.2
    have hspent : ∀ v∈db₀.vouchers, v.activityId=a.id → Alive now v → v.remainingQuota≤0 := by
      intro v hv hva hv'
      have hlook := hlive v hv hva hv'
      by_contra hrem
      have hstatus : v.status=.active := by
        cases hs : v.status with
        | active => rfl
        | exhausted => exact absurd (h1.exhausted v.id v hlook hs) hrem
        | expired | voided => exact absurd hv'.1 (by rw [hs]; decide)
      have hhas : hasActiveVoucher db1 a.id=true := by
        simp only [hasActiveVoucher,any_eq_true,decide_eq_true_eq]
        exact ⟨v,(mem_of_voucher? hlook).1,hva,hstatus,by omega⟩
      have hclaim : claimOf v∈claims db1 := mem_map_of_mem (mem_of_voucher? hlook).1
      -- which status it is deleted in
      have hcase : status=.draft ∨ (status=.terminated ∧ a.terminateMode≠some .unused) := by
        by_contra hno
        rw [not_or] at hno
        refine hactive ⟨?_,hhas⟩
        by_cases hended : status=.ended
        · exact .inl hended
        refine .inr ⟨?_,?_⟩
        · by_contra hne
          exact hdeletable ⟨hno.1,hended,hne⟩
        · by_contra hne
          refine hno.2 ⟨?_,hne⟩
          by_contra hne'
          exact hdeletable ⟨hno.1,hended,hne'⟩
      obtain hdr | ⟨htermin,hmode'⟩ := hcase
      · -- a draft has no vouchers
        have hadraft : a.status=.draft := closeRecords_draft (hdr ▸ hclose)
        have hvc : claimOf v∈claims db := by
          rw [hunt.claims]
          exact mem_map_of_mem hv
        obtain ⟨u,hu,huv⟩ := mem_map.mp hvc
        refine hdraft ⟨hadraft,?_⟩
        simp only [hasClaimData,Bool.or_eq_true,any_eq_true,decide_eq_true_eq]
        exact .inl ⟨u,hu,(congrArg VoucherClaim.activityId huv).trans hva⟩
      · have hdead := h1.terminated b hbm (hterm htermin) (by rw [hmode]; exact hmode') (claimOf v) hclaim
          (hva.trans hbid.symm) v hlook
        rw [hv'.1] at hdead
        cases hdead
    intro w hw halive
    obtain ⟨hwm,hwid⟩ := mem_of_voucher? hw
    have hwc : claimOf w∈claims db₀ := by
      rw [← hunt1.claims]
      exact mem_map_of_mem hwm
    obtain ⟨v,hv,hvw⟩ := mem_map.mp hwc
    have hexp : v.expiresAt=w.expiresAt := congrArg VoucherClaim.expiresAt hvw
    have hlook := hunt1.inTime v.id v (lookup_of_mem hbooks0.vouchers hv) (hexp ▸ halive.2)
    have hvid : v.id=d.id := (congrArg VoucherClaim.id hvw).trans hwid
    rw [hvid,hw] at hlook
    cases hlook
    obtain ⟨u,hu,rfl⟩ := mem_map.mp hd
    have huw : u=w := eq_of_claim_key h1.books.voucherIds hu hwm hvid.symm
    have hva : w.activityId=a.id := by
      rw [← huw]
      exact hda.trans hcid
    exact ⟨hspent w hv hva halive,(hunt1.unheld _).mpr (hvid ▸ hidle a hmem0 hstored hid hspent w hv hva halive)⟩
  · exact hunt1.trans ⟨fun _ _ hw _ => hw,fun _ => Iff.rfl,rfl⟩

theorem Safe.deleteActivities (hbooks0 : Books db₀) (hidle : DeletesIdle db₀ now ids) (activities : List BenefitActivity) :
    ∀ {result result' : BatchDeleteResult} {db db' : BenefitDB}, Safe now db → Untouched now db₀ db →
      (activities.map (·.id)).Nodup → (∀ a∈activities, a∈db₀.activities ∧ a∈db.activities ∧ a.deleted=false ∧ a.id∈ids) →
      deleteActivities now activities result db=.ok (db',result') → Safe now db' := by
  induction activities with
  | nil =>
    intro result result' db db' h _ _ _ hok
    cases hok
    exact h
  | cons a rest ih =>
    intro result result' db db' h hunt hn hmem hok
    obtain ⟨⟨db1,skipped⟩,hone,hrest⟩ := bind_ok hok
    obtain ⟨hmem0,hmem1,hstored,hid⟩ := hmem a (by simp)
    obtain ⟨h1,hunt1⟩ := h.deleteActivity hunt hbooks0 hidle hmem0 hmem1 hstored hid hone
    obtain ⟨hne,hn⟩ := Keyed.Unique.cons hn
    refine ih h1 hunt1 hn (fun b hb => ?_) hrest
    obtain ⟨hb0,hb1,hbs,hbid⟩ := hmem b (by simp [hb])
    exact ⟨hb0,deleteActivity_other hone hb1 (hne b hb),hbs,hbid⟩

theorem Safe.delete (h : Safe now db) {result : BatchDeleteResult} (hidle : DeletesIdle db now ids)
    (hok : deleteBenefitActivitiesByIDs db ids now=.ok (db',result)) : Safe now db' := by
  obtain ⟨_,hloop⟩ := deleteByIDs_ok hok
  refine Safe.deleteActivities h.books hidle _ h (Untouched.refl now db)
    (List.Nodup.sublist (List.Sublist.map _ filter_sublist) h.books.activityIds) (fun a ha => ?_) hloop
  obtain ⟨hmem,hp⟩ := mem_filter.mp ha
  simp only [Bool.and_eq_true,Bool.not_eq_true',decide_eq_true_eq,mem_eraseDups] at hp
  exact ⟨hmem,hmem,hp.1,hp.2⟩

theorem Safe.voucher (h : Safe now db) {op : VoucherOp} (hord : Orderly db now (.voucher (clocked now op)))
    (hok : (clocked now op).call db=.ok db') : Safe now db' := by
  cases op with
  | reserve requestID userID groupID amount _ =>
    obtain ⟨out,hout,hok⟩ := map_ok hok
    cases hok
    obtain hsame | ⟨hrefund,hsettle,hrounds⟩ := reserve_rounds h.books.vouchers hout
    · rw [hsame]
      exact h
    · exact h.rounds hrounds fun y hq => hq.holdsNone ⟨hrefund,.inl hsettle⟩
  | refundAdditional requestID amount =>
    obtain rfl | ⟨hreplay,hrounds⟩ := refundAdditional_rounds h.books.ledger hok
    · exact h
    obtain hopen | hreplayed := hord
    · exact h.rounds hrounds fun y hq => hq.holdsNone hopen
    rw [hreplay] at hreplayed
    cases hreplayed
  | settle requestID delta _ =>
    obtain rfl | ⟨hrefund,hsettle,hrounds⟩ := settle_rounds h.books.ledger hok
    · exact h
    · exact h.rounds hrounds fun y hq => hq.holdsNone ⟨hrefund,.inl hsettle⟩
  | rollback requestID delta => exact h.rollback hok hord
  | refund requestID =>
    obtain rfl | ⟨hrefund,hsettle,hrounds⟩ := refund_rounds h.books.ledger hok
    · exact h
    · exact h.rounds hrounds fun y hq => hq.holdsNone ⟨hrefund,hsettle⟩
  | void ids operatorID reason _ =>
    simp only [clocked,VoucherOp.call,voidBenefitVouchers] at hok
    split at hok
    · cases hok
    split at hok
    · cases hok
    · exact h.closings (voidVouchers_closings _ hok)
  | terminate activityID mode reason _ => exact h.terminate hok
  | expire activityID _ => exact h.expire hok

theorem Safe.step (op : ActivityOp) (h : Safe now db) (hord : Orderly db now op) : Safe now (activityStep db (now,op)) := by
  refine commit_of_ok h fun db' hok => ?_
  cases op with
  | create draws groupActive activity => exact h.create hok
  | publish check draws groupExists activityID => exact h.publish hok
  | claim activityID user pick => exact h.claim hok
  | transition groupExists activityID target => exact h.transition hok
  | delete ids =>
    obtain ⟨out,hout,hok⟩ := map_ok hok
    cases hok
    exact h.delete hord hout
  | voucher op =>
    refine h.voucher ?_ (vouching_ok hok)
    cases op <;> exact hord

/-- No soft-deleted activity has an active voucher with quota left and time to use it. -/
def NothingStranded (db : BenefitDB) (now : Int) : Prop :=
  ∀ a∈db.activities, a.deleted=true → ∀ v∈db.vouchers, v.activityId=a.id →
    ¬ (v.status=.active ∧ v.remainingQuota>0 ∧ v.expiresAt>now)

theorem Safe.nothingStranded (h : Safe now db) : NothingStranded db now := by
  rintro a ha hdel v hv hva ⟨hactive,hrem,hexp⟩
  have hq := h.quiet a ha hdel (claimOf v) (mem_map_of_mem hv) hva
  have hlook : db.voucher? (claimOf v).id=some v := lookup_of_mem h.books.vouchers hv
  have hspent := (hq v hlook ⟨by rw [hactive]; rfl,hexp⟩).1
  omega

theorem safe_empty (now : Int) (users : List Int) : Safe now (emptyTables users) where
  books := books_empty users
  exhausted x w hw := by cases hw
  terminated a ha := by cases ha
  quiet a ha := by cases ha

theorem Safe.run (ops : List (Int×ActivityOp)) : ∀ {start : Int} {db : BenefitDB}, Safe start db →
    (start::ops.map (·.1)).Pairwise (· ≤ ·) → Runs.Guarded activityStep (fun db op => Orderly db op.1 op.2) ops db →
    ∀ now, start≤now → (∀ op∈ops, op.1≤now) → Safe now (Runs.run activityStep ops db) := by
  induction ops with
  | nil => exact fun h _ _ now hle _ => h.mono hle
  | cons op ops ih =>
    intro start db h hclock hok now _ hall
    obtain ⟨hfirst,hrest⟩ := pairwise_cons.mp hclock
    have h1 := (h.mono (hfirst op.1 (by simp))).step op.2 hok.1
    exact ih h1 hrest hok.2 now (hall op (by simp)) fun o ho => hall o (by simp [ho])

/-- Where deletions find no open reservation on spent vouchers and no settlement on a live voucher of a deleted activity
is rolled back, no quota is ever stranded. -/
theorem deletion_strands_nothing (users : List Int) (ops : List (Int×ActivityOp)) (hclock : (ops.map (·.1)).Pairwise (· ≤ ·))
    (hok : Runs.Guarded activityStep (fun db op => Orderly db op.1 op.2) ops (emptyTables users)) {now : Int}
    (hnow : ∀ op∈ops, op.1≤now) : NothingStranded (Runs.run activityStep ops (emptyTables users)) now := by
  cases ops with
  | nil => exact (safe_empty now users).nothingStranded
  | cons op ops =>
    have hstart : (op.1::(op::ops).map (·.1)).Pairwise (· ≤ ·) := by
      refine pairwise_cons.mpr ⟨fun t ht => ?_,hclock⟩
      obtain rfl | ht := mem_cons.mp ht
      · exact Int.le_refl _
      · exact (pairwise_cons.mp hclock).1 t ht
    exact ((safe_empty op.1 users).run (op::ops) hstart hok now (hnow op (by simp)) hnow).nothingStranded

def claimedExample : List (Int×ActivityOp) :=
  [(1,.create noDraws true exampleDraft),(1,.publish noDraws noDraws true 1),(2,.claim 1 ⟨7,0,0⟩ 0)]

def expiredExample : List (Int×ActivityOp) :=
  claimedExample++[(60,.transition true 1 .ended),(61,.delete [1])]

theorem deletion_strands_nothing_expired : NothingStranded (Runs.run activityStep expiredExample (emptyTables [7])) 61 := by
  have hdead : ∀ v∈(Runs.run activityStep (claimedExample++[(60,.transition true 1 .ended)])
      (emptyTables [7])).vouchers, ¬ Alive 61 v := by decide +kernel
  refine deletion_strands_nothing [7] expiredExample (by decide) ?_ (by decide)
  exact ⟨trivial,trivial,trivial,trivial,fun a _ _ _ _ v hv _ halive => absurd halive (hdead v hv),trivial⟩

def refundedExample : List (Int×ActivityOp) :=
  claimedExample++[(3,.voucher (.reserve "q" 7 1 4 0)),(4,.transition true 1 .ended),(5,.delete [1]),
    (6,.voucher (.refund "q"))]

theorem deletion_strands_refund : (refundedExample.map (·.1)).Pairwise (· ≤ ·) ∧
    ¬ NothingStranded (Runs.run activityStep refundedExample (emptyTables [7])) 6 := by
  refine ⟨by decide,?_⟩
  unfold NothingStranded
  decide +kernel

end NewApi.Activity

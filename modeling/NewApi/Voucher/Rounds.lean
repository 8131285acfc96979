import Mathlib.Logic.Relation
import NewApi.Voucher.Ledger

/-! The transactions of a request as sequences of rounds. A round works on one cell, the request's rows of one
voucher, and may rewrite the balance of that voucher while it is alive. -/
namespace NewApi.Voucher
open Runs Option List BenefitDB
open BenefitVoucherLedger (key updates)

structure StatusFits (remaining : Int) (status : VoucherStatus) : Prop where
  alive : terminal status=false
  exhausted : status=.exhausted → remaining=0

theorem statusFits_statusOf (n : Int) : StatusFits n (statusOf n) := by
  by_cases h : n=0
  · simp only [statusOf,h,if_true]
    exact ⟨rfl,fun _ => rfl⟩
  · simp only [statusOf,h,if_false]
    exact ⟨rfl,fun h => by cases h⟩

theorem statusFits_active (n : Int) : StatusFits n .active := ⟨rfl,fun h => by cases h⟩

structure Round (rolls : Prop) (r : String) (x : Int) (db db' : BenefitDB) : Prop where
  users : db'.users=db.users
  activities : db'.activities=db.activities
  shares : db'.shares=db.shares
  ledger : Keyed.Unique key db.ledger → Keyed.Unique key db'.ledger
  rows : ∀ t r' x', (r',x')≠(r,x) → db'.row? t r' x'=db.row? t r' x'
  grows : ∀ t, (db.row? t r x).isSome → (db'.row? t r x).isSome
  rolled : (db'.row? .settleRollback r x).isSome → (db.row? .settleRollback r x).isSome ∨ rolls
  pre : rowAmount (db.row? .preConsume r x)=0 → (∀ w, db.voucher? x=some w → w.remainingQuota≤0) →
    rowAmount (db'.row? .preConsume r x)=0
  voucher : db'.vouchers=db.vouchers ∨ ∃ v remaining used status, db.voucher? x=some v ∧
    terminal v.status=false ∧ StatusFits remaining status ∧
    (¬ rolls → v.remainingQuota≤0 → rowAmount (db.row? .preConsume r x)=0 → remaining≤0) ∧
    db'.vouchers=(db.updateVoucher x (·.updates remaining used status)).vouchers

abbrev Rounds (rolls : Prop) (r : String) (X : Int → Prop) : BenefitDB → BenefitDB → Prop :=
  Relation.ReflTransGen fun db db' => ∃ x, X x ∧ Round rolls r x db db'

variable {y remaining used userID groupID now amount delta refunded : Int}

theorem Round.other {rolls : Prop} {r : String} {x : Int} {db db' : BenefitDB} (h : Round rolls r x db db')
    (hne : y≠x) (t : LedgerType) (r' : String) : db'.row? t r' y=db.row? t r' y :=
  h.rows t r' y fun heq => hne (Prod.mk.inj heq).2

variable {rolls : Prop} {r : String} {db db₁ db' : BenefitDB} {x : Int}

structure SameTables (db db' : BenefitDB) : Prop where
  users : db'.users=db.users
  activities : db'.activities=db.activities
  shares : db'.shares=db.shares

variable {l pre : BenefitVoucherLedger}

theorem SameTables.createLedger (h : db.createLedger l=.ok db') : SameTables db db' := by
  obtain ⟨-,rfl⟩ := createLedger_ok h
  exact ⟨rfl,rfl,rfl⟩

theorem Round.ofRows (he : Edit db db' r x) (hsame : SameTables db db') (hvs : db'.vouchers=db.vouchers)
    (hgrows : ∀ t, (db.row? t r x).isSome → (db'.row? t r x).isSome)
    (hrolled : (db'.row? .settleRollback r x).isSome → (db.row? .settleRollback r x).isSome ∨ rolls)
    (hpre : rowAmount (db.row? .preConsume r x)=0 → rowAmount (db'.row? .preConsume r x)=0) : Round rolls r x db db' :=
  ⟨hsame.users,hsame.activities,hsame.shares,he.ledger,he.rows,hgrows,hrolled,fun hz _ => hpre hz,.inl hvs⟩

variable {v w : BenefitUserVoucher} {status : VoucherStatus}

theorem Round.ofVoucher (hfound : db.voucher? x=some v) (halive : terminal v.status=false)
    (hstatus : StatusFits remaining status)
    (hspent : ¬ rolls → v.remainingQuota≤0 → rowAmount (db.row? .preConsume r x)=0 → remaining≤0)
    (he : Edit (db.updateVoucher x (·.updates remaining used status)) db' r x)
    (hsame : SameTables (db.updateVoucher x (·.updates remaining used status)) db')
    (hvs : db'.vouchers=(db.updateVoucher x (·.updates remaining used status)).vouchers)
    (hgrows : ∀ t, (db.row? t r x).isSome → (db'.row? t r x).isSome)
    (hrolled : (db'.row? .settleRollback r x).isSome → (db.row? .settleRollback r x).isSome ∨ rolls)
    (hpre : rowAmount (db.row? .preConsume r x)=0 → v.remainingQuota≤0 → rowAmount (db'.row? .preConsume r x)=0) :
    Round rolls r x db db' :=
  ⟨hsame.users,hsame.activities,hsame.shares,he.ledger,he.rows,hgrows,hrolled,
    fun hz hw => hpre hz (hw v hfound),.inr ⟨v,remaining,used,status,hfound,halive,hstatus,hspent,hvs⟩⟩

theorem grows_createLedger (h : db.createLedger l=.ok db') (t : LedgerType)
    (hsome : (db.row? t l.requestId l.voucherId).isSome) : (db'.row? t l.requestId l.voucherId).isSome := by
  rw [row?_createLedger h]
  split
  · rfl
  · exact hsome

variable {f : BenefitVoucherLedger → BenefitVoucherLedger} {t : LedgerType}

theorem row?_updateLedger_self (hf : ∀ l, (f l).key=l.key) :
    (db.updateLedger (x,r,t) f).row? t r x=(db.row? t r x).map f := by
  rw [row?_updateLedger _ _ _ hf,if_pos rfl]

theorem row?_updateLedger_ne {t t' : LedgerType} (hne : t'≠t) (hf : ∀ l, (f l).key=l.key) :
    (db.updateLedger (x,r,t) f).row? t' r x=db.row? t' r x := by
  rw [row?_updateLedger _ _ _ hf,if_neg (by simp [hne])]

theorem grows_updateLedger (hf : ∀ l, (f l).key=l.key) (t' : LedgerType) (h : (db.row? t' r x).isSome) :
    ((db.updateLedger (x,r,t) f).row? t' r x).isSome := by
  by_cases ht : t'=t
  · rw [ht,row?_updateLedger_self hf]
    simpa [ht] using h
  · rw [row?_updateLedger_ne ht hf]
    exact h

variable {existing pres refunds : List BenefitVoucherLedger} {type : LedgerType}

theorem reserveVoucher_round {reserved : Int} (h : reserveVoucher r userID existing v reserved db=.ok db')
    (hv : db.voucher? v.id=some v) (hactive : v.status=.active) (hpos : 0<v.remainingQuota)
    (hexisting : ∀ pre∈existing, pre.requestId=r ∧ pre.type=.preConsume) : Round False r v.id db db' := by
  have halive : terminal v.status=false := by rw [hactive]; rfl
  simp only [reserveVoucher] at h
  split at h
  next pre hfind =>
    obtain ⟨hrid,htype⟩ := hexisting pre (mem_of_find?_eq_some hfind)
    have hvid : pre.voucherId=v.id := by simpa using find?_some hfind
    have hkey : pre.key=(v.id,r,.preConsume) := by rw [key,hvid,hrid,htype]
    rw [hkey] at h
    cases h
    refine Round.ofVoucher hv halive (statusFits_statusOf _) (fun _ hle => by omega) (Edit.updateLedger _ fun _ => rfl)
      ⟨rfl,rfl,rfl⟩ rfl (grows_updateLedger fun _ => rfl) (fun ht => .inl ?_) (fun _ hle => by omega)
    rw [row?_updateLedger_ne (by decide)] at ht
    · exact ht
    · exact fun _ => rfl
  · refine Round.ofVoucher hv halive (statusFits_statusOf _) (fun _ hle => by omega) (Edit.createLedger h)
      (SameTables.createLedger h) (vouchers_createLedger h) (grows_createLedger h) (fun ht => .inl ?_)
      (fun _ hle => by omega)
    have hcreated := row?_createLedger h .settleRollback
    simp only at hcreated
    rw [hcreated,if_neg (by decide)] at ht
    exact ht

theorem Round.voucher?_other (h : Round rolls r x db db') (hne : y≠x) : db'.voucher? y=db.voucher? y := by
  obtain hsame | ⟨v,remaining,used,status,-,-,-,-,hvs⟩ := h.voucher
  · rw [BenefitDB.voucher?,hsame]
    rfl
  · have hmodify := voucher?_updateVoucher db x y remaining used status
    rw [if_neg hne] at hmodify
    rw [← hmodify,BenefitDB.voucher?,hvs]
    rfl

abbrev Anywhere : Int → Prop := fun _ => True

theorem reserveVouchers_rounds (hexisting : ∀ pre∈existing, pre.requestId=r ∧ pre.type=.preConsume)
    (vs : List BenefitUserVoucher) :
    ∀ {remaining rest : Int} {first first' : Option BenefitVoucherReservation} {db db' : BenefitDB},
      reserveVouchers r userID existing vs remaining first db=.ok (db',rest,first') → (vs.map (·.id)).Nodup →
      (∀ v∈vs, db.voucher? v.id=some v ∧ v.status=.active ∧ 0<v.remainingQuota) → Rounds False r Anywhere db db' := by
  induction vs with
  | nil =>
    intro remaining rest first first' db db' h _ _
    cases h
    exact .refl
  | cons v vs ih =>
    intro remaining rest first first' db db' h hn hvs
    simp only [reserveVouchers] at h
    split at h
    · cases h
      exact .refl
    · obtain ⟨db1,hround,hrest⟩ := bind_ok h
      obtain ⟨hv,hactive,hquota⟩ := hvs v (by simp)
      have hr := reserveVoucher_round hround hv hactive hquota hexisting
      obtain ⟨hne,hn⟩ := Keyed.Unique.cons hn
      refine .head ⟨v.id,trivial,hr⟩ (ih hrest hn fun w hw => ?_)
      rw [hr.voucher?_other (hne w hw)]
      exact hvs w (by simp [hw])

theorem available_voucher? (hu : Keyed.Unique BenefitUserVoucher.id db.vouchers)
    (h : v∈availableVouchers db userID groupID now) : db.voucher? v.id=some v ∧ v.status=.active ∧ 0<v.remainingQuota := by
  obtain ⟨hmem,havail⟩ := mem_filter.mp h
  simp only [voucherAvailable,Bool.and_eq_true,decide_eq_true_eq] at havail
  exact ⟨Keyed.lookup_of_mem hu hmem,havail.1.1.1.2,havail.1.1.2⟩

theorem reserve_rounds {res : Option BenefitVoucherReservation} (hu : Keyed.Unique BenefitUserVoucher.id db.vouchers)
    (h : reserveBenefitVoucherQuota db r userID groupID amount now=.ok (db',res)) :
    db'=db ∨ (db.requestRows r .refund=[] ∧ db.requestRows r .settleDelta=[] ∧ Rounds False r Anywhere db db') := by
  simp only [reserveBenefitVoucherQuota] at h
  split at h
  · cases h
  split at h
  · cases h
  split at h
  · cases h
  rename_i hrefund
  split at h
  · split at h
    · cases h
      exact .inl rfl
    · cases h
  rename_i hsettled
  split at h
  · cases h
    exact .inl rfl
  split at h
  · cases h
  obtain ⟨⟨db1,rest,first⟩,hloop,hfin⟩ := bind_ok h
  simp only at hfin
  split at hfin
  · cases hfin
  cases hfin
  have hperm := perm_insertionSort voucherLe (availableVouchers db userID groupID now)
  refine .inr ⟨not_not.mp hrefund,not_not.mp fun h => hsettled (.inl h),?_⟩
  refine reserveVouchers_rounds (fun pre hp => (mem_requestRows.mp (mem_of_mem_filter hp)).2) _ hloop ?_
    fun v hv => available_voucher? hu (hperm.mem_iff.mp hv)
  rw [(hperm.map _).nodup_iff]
  exact List.Nodup.sublist (List.Sublist.map _ filter_sublist) hu

theorem Round.ofCreate (h : db.createLedger l=.ok db') (hrequest : l.requestId=r)
    (hvoucher : l.voucherId=x) (hroll : l.type=.settleRollback → rolls)
    (hpre : l.type=.preConsume → l.quotaDelta=0) : Round rolls r x db db' := by
  subst hrequest hvoucher
  have hcreated := row?_createLedger h
  refine Round.ofRows (Edit.createLedger h) (SameTables.createLedger h) (vouchers_createLedger h) (grows_createLedger h)
    (fun ht => ?_) (fun hz => ?_)
  · by_cases hl : l.type=.settleRollback
    · exact .inr (hroll hl)
    rw [hcreated,if_neg (Ne.symm hl)] at ht
    exact .inl ht
  · rw [hcreated]
    split
    next hl =>
      rw [rowAmount_some,hpre hl.symm]
      rfl
    · exact hz

theorem Round.ofVoucherCreate (hfound : db.voucher? x=some v) (halive : terminal v.status=false)
    (hstatus : StatusFits remaining status)
    (hspent : ¬ rolls → v.remainingQuota≤0 → rowAmount (db.row? .preConsume r x)=0 → remaining≤0)
    (h : (db.updateVoucher x (·.updates remaining used status)).createLedger l=.ok db') (hrequest : l.requestId=r)
    (hvoucher : l.voucherId=x) (hroll : l.type=.settleRollback → rolls) (hpre : l.type≠.preConsume) :
    Round rolls r x db db' := by
  subst hrequest hvoucher
  have hcreated := row?_createLedger h
  have hgrows := grows_createLedger h
  simp only [row?_updateVoucher] at hcreated hgrows
  refine Round.ofVoucher hfound halive hstatus hspent (Edit.createLedger h) (SameTables.createLedger h)
    (vouchers_createLedger h) hgrows (fun ht => ?_) (fun hz _ => ?_)
  · by_cases hl : l.type=.settleRollback
    · exact .inr (hroll hl)
    rw [hcreated,if_neg (Ne.symm hl)] at ht
    exact .inl ht
  · rw [hcreated,if_neg (Ne.symm hpre)]
    exact hz

theorem settleRow_round {rest : Int} (h : settleRow r pre delta db=.ok (db',rest))
    (hrow : db.row? .preConsume r pre.voucherId=some pre) : Round False r pre.voucherId db db' := by
  simp only [settleRow] at h
  split at h
  · cases h
  rename_i v hv
  split at h
  · cases h
  rename_i hterm
  set localDelta := if delta>0 then if delta>v.remainingQuota then v.remainingQuota else delta
    else if delta<0 then if -delta > -pre.quotaDelta then - -pre.quotaDelta else delta else 0 with hlocal
  split at h
  · cases h
  split at h
  · cases h
  obtain ⟨db1,hcreate,hok⟩ := bind_ok h
  cases hok
  obtain ⟨-,hid⟩ := mem_of_voucher? hv
  rw [hid] at hcreate
  refine Round.ofVoucherCreate hv (by simpa using hterm) (statusFits_statusOf _) (fun _ hle hz => ?_) hcreate rfl rfl
    (fun h => by cases h) (by simp)
  rw [hrow,rowAmount_some] at hz
  rw [hlocal]
  split
  · split <;> omega
  split
  · split <;> omega
  · omega

theorem settleRows_rounds (pres : List BenefitVoucherLedger) :
    ∀ {delta rest : Int} {db db' : BenefitDB}, settleRows r pres delta db=.ok (db',rest) →
      (pres.map (·.voucherId)).Nodup → (∀ pre∈pres, db.row? .preConsume r pre.voucherId=some pre) →
      Rounds False r Anywhere db db' := by
  induction pres with
  | nil =>
    intro delta rest db db' h _ _
    cases h
    exact .refl
  | cons pre pres ih =>
    intro delta rest db db' h hn hrows
    obtain ⟨⟨db1,rest1⟩,hround,hloop⟩ := bind_ok h
    have hr := settleRow_round hround (hrows pre (by simp))
    obtain ⟨hne,hn⟩ := Keyed.Unique.cons hn
    refine .head ⟨pre.voucherId,trivial,hr⟩ (ih hloop hn fun l hl => ?_)
    rw [hr.other (hne l hl)]
    exact hrows l (by simp [hl])

theorem addZeroPres_rounds (vs : List BenefitUserVoucher) :
    ∀ {known : List Int} {db db' : BenefitDB}, addZeroPres r known vs db=.ok db' → Rounds False r Anywhere db db' := by
  induction vs with
  | nil =>
    intro known db db' h
    cases h
    exact .refl
  | cons v vs ih =>
    intro known db db' h
    simp only [addZeroPres] at h
    split at h
    · exact ih h
    · obtain ⟨db1,hcreate,hrest⟩ := bind_ok h
      exact .head ⟨v.id,trivial,Round.ofCreate hcreate rfl rfl (fun h => by cases h) fun _ => rfl⟩ (ih hrest)

theorem settlementPres_rounds (h : settlementPres db r pres delta now=.ok db') : Rounds False r Anywhere db db' := by
  unfold settlementPres at h
  split at h
  · cases h
    exact .refl
  split at h
  · split at h
    · cases h
    split at h
    · cases h
    · exact addZeroPres_rounds _ h
  · cases h
    exact .refl

theorem Rounds.ledger {X : Int → Prop} (h : Rounds rolls r X db db')
    (hu : Keyed.Unique key db.ledger) : Keyed.Unique key db'.ledger := by
  induction h with
  | refl => exact hu
  | tail _ hround ih =>
    obtain ⟨x,-,hround⟩ := hround
    exact hround.ledger ih

theorem settle_rounds (hl : Keyed.Unique key db.ledger)
    (h : settleBenefitVoucherQuota db r delta now=.ok db') :
    db'=db ∨ (db.requestRows r .refund=[] ∧ db.requestRows r .settleDelta=[] ∧ Rounds False r Anywhere db db') := by
  simp only [settleBenefitVoucherQuota] at h
  split at h
  · cases h
  split at h
  · cases h
    exact .inl rfl
  split at h
  · cases h
  rename_i hterminal
  split at h
  · split at h
    · cases h
    · cases h
      exact .inl rfl
  rename_i hsettled
  obtain ⟨db1,hpres,h⟩ := bind_ok h
  obtain ⟨⟨db2,rest⟩,hrows,h⟩ := bind_ok h
  simp only at h
  split at h
  · cases h
  cases h
  have hfirst := settlementPres_rounds hpres
  have hl1 := hfirst.ledger hl
  refine .inr ⟨not_not.mp fun h => hterminal (.inl h),not_not.mp hsettled,hfirst.trans (settleRows_rounds _ hrows ?_ ?_)⟩
  · have hnodup := nodup_requestRows hl1 r .preConsume
    split
    · rw [map_reverse,nodup_reverse]
      exact hnodup
    · exact hnodup
  · intro pre hp
    refine row?_of_mem_requestRows hl1 ?_
    split at hp
    · exact mem_reverse.mp hp
    · exact hp

theorem writeRefundAdditional_edit {balanceAfter : Int} {restored : Bool} {m : CompensationMetadata}
    (h : writeRefundAdditional r refunds pre refunded balanceAfter restored m db=.ok db')
    (hrefunds : ∀ l∈refunds, l.requestId=r ∧ l.type=.refundAdditional) :
    Edit db db' r pre.voucherId ∧ SameTables db db' ∧ db'.vouchers=db.vouchers ∧
      (∀ t, t≠.refundAdditional → db'.row? t r pre.voucherId=db.row? t r pre.voucherId) ∧
      ∀ t, (db.row? t r pre.voucherId).isSome → (db'.row? t r pre.voucherId).isSome := by
  unfold writeRefundAdditional at h
  split at h
  next refund hfind =>
    obtain ⟨hr,ht⟩ := hrefunds refund (mem_of_find?_eq_some hfind)
    have hv : refund.voucherId=pre.voucherId := by simpa using find?_some hfind
    have hkey : refund.key=(pre.voucherId,r,.refundAdditional) := by
      rw [key,hv,hr,ht]
    have hkeep : ∀ l : BenefitVoucherLedger, (if restored then
        { l with quotaDelta := l.quotaDelta+refunded, balanceAfter := balanceAfter, metadata := some m }
        else { l with metadata := some m }).key=l.key := by
      intro l
      cases restored <;> rfl
    rw [hkey] at h
    cases h
    exact ⟨Edit.updateLedger _ hkeep,⟨rfl,rfl,rfl⟩,rfl,fun t hne => row?_updateLedger_ne hne hkeep, grows_updateLedger hkeep⟩
  · exact ⟨Edit.createLedger h,SameTables.createLedger h,vouchers_createLedger h,
      fun t hne => (row?_createLedger h t).trans (if_neg hne),grows_createLedger h⟩

theorem refundAdditionalRow_round {pre' : BenefitVoucherLedger}
    (h : refundAdditionalRow r amount remaining refunds pre db=.ok (db',pre',refunded))
    (hrefunds : ∀ l∈refunds, l.requestId=r ∧ l.type=.refundAdditional)
    (hrow : db.row? .preConsume r pre.voucherId=some pre) (hpos : 0<remaining) : Round False r pre.voucherId db db' := by
  obtain ⟨-,-,hrid,htype⟩ := row?_key hrow
  have hkey : pre.key=(pre.voucherId,r,.preConsume) := by rw [key,hrid,htype]
  simp only [refundAdditionalRow] at h
  split at h
  · cases h
  rename_i v hv
  split at h
  · obtain ⟨db1,hw,hok⟩ := bind_ok h
    cases hok
    obtain ⟨he,hsame,hvs,hrows,hgrows⟩ := writeRefundAdditional_edit hw hrefunds
    refine Round.ofRows he hsame hvs hgrows (fun ht => .inl ?_) (fun hz => ?_)
    · rw [hrows _ (by decide)] at ht
      exact ht
    · rw [hrows _ (by decide)]
      exact hz
  next hterm =>
    obtain ⟨db1,hw,hok⟩ := bind_ok h
    cases hok
    set refundAmount := if -pre.quotaDelta>remaining then remaining else -pre.quotaDelta with hdef
    obtain ⟨he,hsame,hvs,hrows,hgrows⟩ := writeRefundAdditional_edit hw hrefunds
    obtain ⟨-,hid⟩ := mem_of_voucher? hv
    rw [hkey,hid] at he hsame hvs hrows hgrows
    set db2 := db.updateVoucher pre.voucherId (·.updates (v.remainingQuota+refundAmount) 0 .active) with hdb2
    refine Round.ofVoucher hv (by simpa using hterm) (statusFits_active _) (fun _ hle hz => ?_)
      ((Edit.updateLedger _ (by intro; rfl)).trans he) ⟨hsame.users,hsame.activities,hsame.shares⟩ hvs (fun t ht => ?_)
      (fun ht => .inl ?_) (fun hz _ => ?_)
    · rw [hrow,rowAmount_some] at hz
      rw [hdef]
      split <;> omega
    · have hkept : (db2.row? t r pre.voucherId).isSome := ht
      refine hgrows t (grows_updateLedger ?_ t hkept)
      exact fun _ => rfl
    · rw [hrows _ (by decide),row?_updateLedger_ne (by decide)] at ht
      · exact ht
      · exact fun _ => rfl
    · have hkept : db2.row? .preConsume r pre.voucherId=some pre := hrow
      rw [hrow,rowAmount_some] at hz
      rw [hrows _ (by decide),row?_updateLedger_self,hkept]
      · simp only [map_some,rowAmount_some,updates]
        rw [hdef]
        split <;> omega
      · exact fun _ => rfl

theorem refundAdditionalRows_rounds (hrefunds : ∀ l∈refunds, l.requestId=r ∧ l.type=.refundAdditional)
    (pres : List BenefitVoucherLedger) : ∀ {remaining rest : Int} {pres' : List BenefitVoucherLedger} {db db' : BenefitDB},
      refundAdditionalRows r amount refunds pres remaining db=.ok (db',pres',rest) →
      (pres.map (·.voucherId)).Nodup → (∀ pre∈pres, db.row? .preConsume r pre.voucherId=some pre) →
      Rounds False r Anywhere db db' := by
  induction pres with
  | nil =>
    intro remaining rest pres' db db' h _ _
    cases h
    exact .refl
  | cons pre pres ih =>
    intro remaining rest pres' db db' h hn hrows
    simp only [refundAdditionalRows] at h
    split at h
    · cases h
      exact .refl
    next hrem =>
      obtain ⟨⟨db1,pre1,refunded⟩,hround,hrest⟩ := bind_ok h
      obtain ⟨⟨db2,pres2,rest2⟩,hloop,hok⟩ := bind_ok hrest
      cases hok
      have hr := refundAdditionalRow_round hround hrefunds (hrows pre (by simp)) (by omega)
      obtain ⟨hne,hn⟩ := Keyed.Unique.cons hn
      refine .head ⟨pre.voucherId,trivial,hr⟩ (ih hloop hn fun l hl => ?_)
      rw [hr.other (hne l hl)]
      exact hrows l (by simp [hl])

theorem refundAdditional_rounds (hl : Keyed.Unique key db.ledger)
    (h : refundBenefitVoucherAdditional db r amount=.ok db') :
    db'=db ∨ (refundReplayed (db.requestRows r .preConsume) (db.requestRows r .refundAdditional) amount=false ∧
      Rounds False r Anywhere db db') := by
  simp only [refundBenefitVoucherAdditional] at h
  split at h
  · cases h
  split at h
  · cases h
  rename_i anchor rest hpres
  split at h
  · cases h
    exact .inl rfl
  rename_i hreplay
  obtain ⟨⟨db1,pres',left⟩,hloop,hfin⟩ := bind_ok h
  simp only at hfin
  split at hfin
  · cases hfin
  cases hfin
  have hrounds := refundAdditionalRows_rounds (fun l hl => (mem_requestRows.mp hl).2) _ hloop (by
      rw [map_reverse,nodup_reverse]
      exact nodup_requestRows hl r .preConsume)
    (fun pre hp => row?_of_mem_requestRows hl (mem_reverse.mp hp))
  have hanchor : anchor∈db.requestRows r .preConsume := by simp [hpres]
  obtain ⟨-,hlr,hlt⟩ := mem_requestRows.mp hanchor
  have hkey : anchor.key=(anchor.voucherId,r,.preConsume) := by rw [key,hlr,hlt]
  rw [hkey]
  refine .inr ⟨by simpa using hreplay,hrounds.tail ⟨anchor.voucherId,trivial,?_⟩⟩
  refine Round.ofRows (Edit.updateLedger _ fun _ => rfl) ⟨rfl,rfl,rfl⟩ rfl (grows_updateLedger fun _ => rfl)
    (fun ht => .inl ?_) (fun hz => ?_)
  · rw [row?_updateLedger_ne (by decide)] at ht
    · exact ht
    · exact fun _ => rfl
  · rw [row?_updateLedger_self]
    · cases hrow : db1.row? .preConsume r anchor.voucherId with
      | none => rfl
      | some l =>
        rw [hrow] at hz
        exact hz
    · exact fun _ => rfl

theorem refundRow_round (h : refundRow r pre db=.ok db')
    (hrow : db.row? .preConsume r pre.voucherId=some pre) : Round False r pre.voucherId db db' := by
  simp only [refundRow] at h
  split at h
  · cases h
  rename_i v hv
  split at h
  · exact Round.ofCreate h rfl rfl (fun h => by cases h) (fun h => by cases h)
  rename_i hterm
  obtain ⟨-,hid⟩ := mem_of_voucher? hv
  rw [hid] at h
  refine Round.ofVoucherCreate hv (by simpa using hterm) ?_ (fun _ hle hz => ?_) h rfl rfl (fun h => by cases h) (by simp)
  · split
    next hdone =>
      exact ⟨rfl,fun _ => hdone.2⟩
    · exact statusFits_active _
  · rw [hrow,rowAmount_some] at hz
    omega

theorem refundRows_rounds (pres : List BenefitVoucherLedger) :
    ∀ {db db' : BenefitDB}, refundRows r pres db=.ok db' → (pres.map (·.voucherId)).Nodup →
      (∀ pre∈pres, db.row? .preConsume r pre.voucherId=some pre) → Rounds False r Anywhere db db' := by
  induction pres with
  | nil =>
    intro db db' h _ _
    cases h
    exact .refl
  | cons pre pres ih =>
    intro db db' h hn hrows
    obtain ⟨db1,hround,hloop⟩ := bind_ok h
    have hr := refundRow_round hround (hrows pre (by simp))
    obtain ⟨hne,hn⟩ := Keyed.Unique.cons hn
    refine .head ⟨pre.voucherId,trivial,hr⟩ (ih hloop hn fun l hl => ?_)
    rw [hr.other (hne l hl)]
    exact hrows l (by simp [hl])

theorem refund_rounds (hl : Keyed.Unique key db.ledger) (h : refundBenefitVoucherQuota db r=.ok db') :
    db'=db ∨ (db.requestRows r .refund=[] ∧
      (db.requestRows r .settleDelta=[] ∨ db.requestRows r .settleRollback≠[]) ∧ Rounds False r Anywhere db db') := by
  simp only [refundBenefitVoucherQuota] at h
  split at h
  · cases h
  split at h
  · cases h
    exact .inl rfl
  rename_i hrefund
  split at h
  · cases h
    exact .inl rfl
  rename_i hcount
  refine .inr ⟨not_not.mp fun h => hrefund (.inr h),?_,refundRows_rounds _ h (nodup_requestRows hl r .preConsume)
    fun pre hp => row?_of_mem_requestRows hl hp⟩
  by_contra hnot
  rw [not_or,not_not] at hnot
  refine hcount ⟨length_pos_iff.mpr hnot.1,?_⟩
  rw [hnot.2]
  exact length_pos_iff.mpr hnot.1

theorem rollbackRow_round {settled : BenefitVoucherLedger} (h : rollbackRow r pres settled db=.ok db') :
    ∃ pre∈pres, Round True r pre.voucherId db db' := by
  simp only [rollbackRow] at h
  split at h
  · cases h
  rename_i pre hfind
  refine ⟨pre,mem_of_find?_eq_some hfind,?_⟩
  split at h
  · cases h
  rename_i v hv
  obtain ⟨-,hid⟩ := mem_of_voucher? hv
  split at h
  · cases h
  split at h
  · cases h
  split at h
  · exact Round.ofCreate h rfl rfl (fun _ => trivial) (fun h => by cases h)
  rename_i hterm
  rw [hid] at h
  exact Round.ofVoucherCreate hv (by simpa using hterm) (statusFits_statusOf _) (fun h => absurd trivial h) h rfl rfl
    (fun _ => trivial) (by simp)

theorem rollbackRows_rounds (rows : List BenefitVoucherLedger) : ∀ {db db' : BenefitDB}, rollbackRows r pres rows db=.ok db' →
      Rounds True r (fun x => ∃ pre∈pres, pre.voucherId=x) db db' := by
  induction rows with
  | nil =>
    intro db db' h
    cases h
    exact .refl
  | cons settled rows ih =>
    intro db db' h
    obtain ⟨db1,hround,hloop⟩ := bind_ok h
    obtain ⟨pre,hpre,hr⟩ := rollbackRow_round hround
    exact .head ⟨pre.voucherId,⟨pre,hpre,rfl⟩,hr⟩ (ih hloop)

theorem rollback_rounds (h : rollbackBenefitVoucherSettlement db r delta=.ok db') :
    db'=db ∨ (db.requestRows r .settleDelta≠[] ∧ db.requestRows r .settleRollback=[] ∧
      Rounds True r (fun x => ∃ pre∈db.requestRows r .preConsume, pre.voucherId=x) db db') := by
  simp only [rollbackBenefitVoucherSettlement] at h
  split at h
  · cases h
  split at h
  · cases h
    exact .inl rfl
  rename_i hopen
  rw [not_or,not_or,not_not] at hopen
  split at h
  · cases h
  · exact .inr ⟨hopen.2.1,hopen.2.2,rollbackRows_rounds _ h⟩

structure Closing (db db' : BenefitDB) : Prop where
  users : db'.users=db.users
  activities : db'.activities=db.activities
  shares : db'.shares=db.shares
  ledger : Keyed.Unique key db.ledger → Keyed.Unique key db'.ledger
  rows : ∀ t r x, t≠.void → t≠.expire → db'.row? t r x=db.row? t r x
  voucher : ∃ x remaining status, terminal status=true ∧
    db'.vouchers=(db.updateVoucher x (·.updates remaining 0 status)).vouchers

abbrev Closings : BenefitDB → BenefitDB → Prop := Relation.ReflTransGen Closing

theorem closeVoucher_closing (hstatus : terminal status=true) (htype : type=.void ∨ type=.expire)
    (h : closeVoucher v status remaining r type db=.ok db') : Closing db db' := by
  have he := Edit.createLedger h
  have hcreated := row?_createLedger h
  have hsame := SameTables.createLedger h
  simp only at he hcreated
  refine ⟨hsame.users,hsame.activities,hsame.shares,he.ledger,fun t r' x hv hx => ?_,
    v.id,remaining,status,hstatus,vouchers_createLedger h⟩
  by_cases hcell : (r',x)=(r,v.id)
  · simp only [Prod.mk.injEq] at hcell
    have hne : t≠type := by
      rcases htype with rfl | rfl
      · exact hv
      · exact hx
    rw [hcell.1,hcell.2,hcreated,if_neg hne]
    rfl
  · exact he.rows t r' x hcell

theorem Closing.dead (h : Closing db db') {x : Int} (hdead : ∀ w, db.voucher? x=some w → terminal w.status=true)
    (hw : db'.voucher? x=some w) : terminal w.status=true := by
  obtain ⟨y,remaining,status,hstatus,hvs⟩ := h.voucher
  have hmodify := voucher?_updateVoucher db y x remaining 0 status
  rw [BenefitDB.voucher?,hvs] at hw
  rw [BenefitDB.voucher?,hw] at hmodify
  split at hmodify
  · obtain ⟨u,-,rfl⟩ := map_eq_some_iff.mp hmodify.symm
    exact hstatus
  · exact hdead w hmodify.symm

theorem Closings.dead (h : Closings db db') {x : Int} (hdead : ∀ w, db.voucher? x=some w → terminal w.status=true)
    (hw : db'.voucher? x=some w) : terminal w.status=true := by
  induction h generalizing w with
  | refl => exact hdead w hw
  | tail _ hclose ih => exact hclose.dead (fun u hu => ih hu) hw

theorem Closings.tables (h : Closings db db') : SameTables db db' := by
  induction h with
  | refl => exact ⟨rfl,rfl,rfl⟩
  | tail _ hclose ih =>
    exact ⟨hclose.users.trans ih.users,hclose.activities.trans ih.activities,hclose.shares.trans ih.shares⟩

theorem closeVouchers_closings {requestID : BenefitUserVoucher → String}
    {remaining : BenefitUserVoucher → Int} (hstatus : terminal status=true)
    (htype : type=.void ∨ type=.expire) (vs : List BenefitUserVoucher) :
    ∀ {db db' : BenefitDB}, closeVouchers status type requestID remaining vs db=.ok db' →
      Closings db db' ∧ ∀ v∈vs, ∀ w, db'.voucher? v.id=some w → terminal w.status=true := by
  induction vs with
  | nil =>
    intro db db' h
    cases h
    exact ⟨.refl,fun v hv => by cases hv⟩
  | cons v vs ih =>
    intro db db' h
    obtain ⟨db1,hclose,hloop⟩ := bind_ok h
    have hclosing := closeVoucher_closing hstatus htype hclose
    obtain ⟨hrest,hdone⟩ := ih hloop
    refine ⟨.head hclosing hrest,fun u hu w hw => ?_⟩
    obtain rfl | hu := mem_cons.mp hu
    · refine hrest.dead (fun w' hw' => ?_) hw
      have hmodify := voucher?_updateVoucher db u.id u.id (remaining u) 0 status
      rw [closeVoucher] at hclose
      rw [BenefitDB.voucher?,vouchers_createLedger hclose] at hw'
      rw [BenefitDB.voucher?,hw',if_pos rfl] at hmodify
      obtain ⟨u',-,rfl⟩ := map_eq_some_iff.mp hmodify.symm
      exact hstatus
    · exact hdone u hu w hw

theorem voidVouchers_closings {operatorID : Int} (ids : List Int) :
    ∀ {db db' : BenefitDB}, voidVouchers operatorID now ids db=.ok db' → Closings db db' := by
  induction ids with
  | nil =>
    intro db db' h
    cases h
    exact .refl
  | cons id ids ih =>
    intro db db' h
    simp only [voidVouchers] at h
    split at h
    · exact ih h
    split at h
    · exact ih h
    · obtain ⟨db1,hclose,hloop⟩ := bind_ok h
      exact .head (closeVoucher_closing rfl (Or.inl rfl) hclose) (ih hloop)

end NewApi.Voucher

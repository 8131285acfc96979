import Mathlib.Algebra.Order.BigOperators.Group.List
import Mathlib.Algebra.Order.Group.Int
import NewApi.Affiliate.Model

/-! The affiliate ledger: the buckets of every balance add up, and each of them is the sum of the
records and withdrawals it stands for. -/
namespace NewApi.Affiliate
open Function List Runs

/-- The balance a transaction would load: the row, or the one seeded from the legacy columns. -/
def AffiliateDB.balance (db : AffiliateDB) (u : Int) : AffiliateBalance :=
  match db.balances u with
  | some b => b
  | none => match db.user? u with
    | some legacy => seedBalance legacy
    | none => { userId := u }

def pendingOf (u : Int) (r : AffiliateRecord) : Int := if r.userId=u ∧ r.status=.pending then r.rewardQuota else 0

def openOf (u : Int) (w : AffiliateWithdrawal) : Int := if w.userId=u ∧ w.open=true then w.quota else 0

def paidOf (u : Int) (w : AffiliateWithdrawal) : Int := if w.userId=u ∧ w.status=.paid then w.quota else 0

/-- The balance of `u` agrees with the two tables; `due` is still counted as pending although its records
are settled already. -/
structure Book (records : List AffiliateRecord) (withdrawals : List AffiliateWithdrawal) (due : Int) (u : Int)
    (b : AffiliateBalance) : Prop where
  owner : b.userId=u
  total : b.totalQuota=b.pendingQuota+b.availableQuota+b.frozenQuota+b.riskFrozenQuota+b.withdrawnQuota + b.transferredQuota
  pending : b.pendingQuota=(records.map (pendingOf u)).sum+due
  frozen : b.frozenQuota=(withdrawals.map (openOf u)).sum
  withdrawn : b.withdrawnQuota=(withdrawals.map (paidOf u)).sum
  available_nonneg : 0≤b.availableQuota
  riskFrozen_nonneg : 0≤b.riskFrozenQuota
  confiscated_nonneg : 0≤b.confiscatedQuota
  transferred_nonneg : 0≤b.transferredQuota

structure Books (due : Int → Int) (db : AffiliateDB) : Prop where
  book : ∀ u, Book db.records db.withdrawals (due u) u (db.balance u)
  reward : ∀ r∈db.records, 0<r.rewardQuota
  quota : ∀ w∈db.withdrawals, 0<w.quota
  unique : Keyed.Unique AffiliateWithdrawal.id db.withdrawals
  ids : ∀ w∈db.withdrawals, w.id≤db.withdrawals.length

def Consistent (e : AffiliateError) : Prop := ∀ i, e≠.violated i

section Rows
variable {db : AffiliateDB} {due : Int → Int} {u v : Int} {b : AffiliateBalance}

theorem user?_updateUser (db : AffiliateDB) (u v : Int) {f : User → User} (hf : ∀ x, (f x).id=x.id) :
    (db.updateUser u f).user? v = if v=u then (db.user? u).map f else db.user? v :=
  Keyed.lookup_modify User.id u v db.users hf

theorem balance_save (db : AffiliateDB) (b : AffiliateBalance) (v : Int) :
    (saveAffiliateBalanceTx db b).balance v = if v=b.userId then b else db.balance v := by
  unfold AffiliateDB.balance saveAffiliateBalanceTx
  by_cases hv : v=b.userId
  · simp [hv]
  have huser : ({ db.updateUser b.userId fun u => { u with affQuota := b.availableQuota, affHistory := b.totalQuota }
      with balances := Function.update db.balances b.userId (some b) } : AffiliateDB).user? v=db.user? v := by
    have := user?_updateUser db b.userId v
      (f := fun u => { u with affQuota := b.availableQuota, affHistory := b.totalQuota }) fun _ => rfl
    rw [if_neg hv] at this
    exact this
  simp only [if_neg hv,update_of_ne hv,huser]

structure Same (db db' : AffiliateDB) : Prop where
  records : db'.records=db.records
  withdrawals : db'.withdrawals=db.withdrawals
  risks : db'.risks=db.risks
  balance : ∀ v, db'.balance v=db.balance v

structure Loaded (db : AffiliateDB) (u : Int) (db' : AffiliateDB) (b : AffiliateBalance) : Prop extends Same db db' where
  row : db'.balances u=some b
  value : b=db.balance u

theorem normalize_of_total (h : b.totalQuota=b.pendingQuota+b.availableQuota+b.frozenQuota+b.riskFrozenQuota +
    b.withdrawnQuota+b.transferredQuota) : normalizeTotalQuotaFloor b=(b,false) := by
  unfold normalizeTotalQuotaFloor
  simp only
  rw [if_pos (by omega)]

theorem getBalance_loaded (h : Books due db) (u : Int) :
    Ensures (fun p => Loaded db u p.1 p.2) Consistent (getAffiliateBalanceForUpdateTx db u) := by
  have hbook := h.book u
  unfold getAffiliateBalanceForUpdateTx
  refine Ensures.guard nofun fun _ => ?_
  cases huser : db.user? u with
  | none => exact fun i => nofun
  | some legacy =>
    cases hrow : db.balances u with
    | some row =>
      have hb : db.balance u=row := by rw [AffiliateDB.balance,hrow]
      rw [hb] at hbook
      simp only [normalize_of_total hbook.total]
      exact ⟨⟨rfl,rfl,rfl,fun _ => rfl⟩,hrow,hb.symm⟩
    | none =>
      have hb : db.balance u=seedBalance legacy := by rw [AffiliateDB.balance,hrow,huser]
      rw [hb] at hbook
      simp only [normalize_of_total hbook.total]
      refine ⟨⟨rfl,rfl,rfl,fun v => ?_⟩,update_self ..,hb.symm⟩
      by_cases hv : v=u
      · subst hv
        rw [hb]
        simp [AffiliateDB.balance]
      · simp only [AffiliateDB.balance,update_of_ne hv]
        rfl

variable {db' t : AffiliateDB} {ρ : Type}

theorem Same.books (h : Books due db) (hl : Same db db') : Books due db' := by
  refine ⟨fun v => ?_,?_,?_,?_,?_⟩
  · rw [hl.records,hl.withdrawals,hl.balance]
    exact h.book v
  · rw [hl.records]
    exact h.reward
  · rw [hl.withdrawals]
    exact h.quota
  · rw [hl.withdrawals]
    exact h.unique
  · rw [hl.withdrawals]
    exact h.ids

theorem Same.refl (db : AffiliateDB) : Same db db := ⟨rfl,rfl,rfl,fun _ => rfl⟩

theorem Same.trans {db1 db2 : AffiliateDB} (h : Same db db1) (h' : Same db1 db2) : Same db db2 :=
  ⟨h'.records.trans h.records,h'.withdrawals.trans h.withdrawals,h'.risks.trans h.risks,
    fun v => (h'.balance v).trans (h.balance v)⟩

theorem Same.frozen (h : Same db db') (u : Int) :
    queryAffiliateUserAssetsFrozenTx db' u=queryAffiliateUserAssetsFrozenTx db u := by
  rw [queryAffiliateUserAssetsFrozenTx,h.risks]
  rfl

structure Wrote (db : AffiliateDB) (u : Int) (records : List AffiliateRecord) (withdrawals : List AffiliateWithdrawal)
    (b : AffiliateBalance) (db' : AffiliateDB) : Prop where
  records : db'.records=records
  withdrawals : db'.withdrawals=withdrawals
  risks : db'.risks=db.risks
  balance : ∀ v, db'.balance v = if v=u then b else db.balance v

theorem Loaded.wrote (hl : Loaded db u t b) (hu : (db.balance u).userId=u) (records : List AffiliateRecord)
    (withdrawals : List AffiliateWithdrawal) (users : List User)
    (husers : ∀ v, v≠u → ({ t with users := users } : AffiliateDB).balance v=t.balance v) (b' : AffiliateBalance)
    (hb : b'.userId=b.userId) :
    Wrote db u records withdrawals b'
      (saveAffiliateBalanceTx { t with users := users, records := records, withdrawals := withdrawals } b') := by
  have hid : b'.userId=u := by rw [hb,hl.value,hu]
  refine ⟨rfl,rfl,hl.risks,fun v => ?_⟩
  rw [balance_save,hid]
  by_cases hv : v=u
  · rw [if_pos hv,if_pos hv]
  rw [if_neg hv,if_neg hv,← hl.balance]
  exact husers v hv

theorem Loaded.wrote_rows (hl : Loaded db u t b) (hu : (db.balance u).userId=u)
    {records : List AffiliateRecord} {withdrawals W : List AffiliateWithdrawal} {b' : AffiliateBalance}
    (hW : withdrawals=W) (hb : b'.userId=(db.balance u).userId) :
    Wrote db u records W b' (saveAffiliateBalanceTx { t with records := records, withdrawals := withdrawals } b') := by
  subst hW
  exact hl.wrote hu records withdrawals t.users (fun _ _ => rfl) b' (hb.trans (congrArg _ hl.value.symm))

theorem Wrote.books {R : List AffiliateRecord} {W : List AffiliateWithdrawal} (hw : Wrote db u R W b db')
    (hself : Book R W (due u) u b) (hother : ∀ v, v≠u → Book R W (due v) v (db.balance v)) (hreward : ∀ r∈R, 0<r.rewardQuota)
    (hquota : ∀ w∈W, 0<w.quota) (hunique : Keyed.Unique AffiliateWithdrawal.id W)
    (hids : ∀ w∈W, w.id≤W.length) : Books due db' := by
  refine ⟨fun v => ?_,hw.records ▸ hreward,hw.withdrawals ▸ hquota,hw.withdrawals ▸ hunique,hw.withdrawals ▸ hids⟩
  rw [hw.records,hw.withdrawals,hw.balance]
  by_cases hv : v=u
  · subst hv
    rw [if_pos rfl]
    exact hself
  · rw [if_neg hv]
    exact hother v hv

theorem Book.of_sums {R R' : List AffiliateRecord} {W W' : List AffiliateWithdrawal} {due due' : Int}
    (h : Book R W due u b) (hp : (R'.map (pendingOf u)).sum+due'=(R.map (pendingOf u)).sum+due)
    (ho : (W'.map (openOf u)).sum=(W.map (openOf u)).sum) (hpaid : (W'.map (paidOf u)).sum=(W.map (paidOf u)).sum) :
    Book R' W' due' u b :=
  { h with
    pending := h.pending.trans hp.symm
    frozen := h.frozen.trans ho.symm
    withdrawn := h.withdrawn.trans hpaid.symm }

theorem sum_map_map {f : ρ → ρ} {g : ρ → Int} {rows : List ρ} (h : ∀ r∈rows, g (f r)=g r) :
    ((rows.map f).map g).sum=(rows.map g).sum := by
  rw [map_map]
  exact congrArg List.sum (map_congr_left h)

theorem sum_nonneg {g : ρ → Int} {rows : List ρ} (h : ∀ r∈rows, 0≤g r) : 0≤(rows.map g).sum :=
  List.sum_nonneg fun x hx => by
    obtain ⟨r,hr,rfl⟩ := mem_map.mp hx
    exact h r hr

theorem Books.pending_nonneg (h : Books due db) (v : Int) : 0≤(db.records.map (pendingOf v)).sum :=
  sum_nonneg fun r hr => by
    unfold pendingOf
    split
    · exact (h.reward r hr).le
    · exact le_rfl

theorem Books.open_nonneg (h : Books due db) (v : Int) : 0≤(db.withdrawals.map (openOf v)).sum :=
  sum_nonneg fun w hw => by
    unfold openOf
    split
    · exact (h.quota w hw).le
    · exact le_rfl

theorem Books.paid_nonneg (h : Books due db) (v : Int) : 0≤(db.withdrawals.map (paidOf v)).sum :=
  sum_nonneg fun w hw => by
    unfold paidOf
    split
    · exact (h.quota w hw).le
    · exact le_rfl

end Rows

section Effects
variable {db : AffiliateDB} {due : Int → Int}

theorem createReward_effect (h : Books due db) (userId inviteeId level : Int) (sourceType : SourceType)
    (sourceId : String) (sourceQuota ratio now delay : Int) :
    Ensures (fun db' => Same db db' ∨ ∃ record : AffiliateRecord, record.userId=userId ∧
        record.inviteeId=inviteeId ∧ record.status=.pending ∧ 0<record.rewardQuota ∧
        Wrote db userId (db.records++[record]) db.withdrawals
          { db.balance userId with
            pendingQuota := (db.balance userId).pendingQuota+record.rewardQuota
            totalQuota := (db.balance userId).totalQuota+record.rewardQuota } db')
      Consistent
      (createAffiliateRewardRecordTx db userId inviteeId level sourceType sourceId sourceQuota ratio now delay) := by
  unfold createAffiliateRewardRecordTx
  refine Ensures.ite (fun _ => .inl (Same.refl db)) fun _ => Ensures.guard nofun fun _ => ?_
  refine Ensures.ite (fun _ => .inl (Same.refl db)) fun hpos => Ensures.ite (fun _ => .inl (Same.refl db)) fun _ => ?_
  refine (getBalance_loaded h userId).bind fun ⟨t,b⟩ hl => ?_
  have hv : b=db.balance userId := hl.value
  subst hv
  have hrecords : t.records=db.records := hl.records
  right
  simp only [hrecords]
  refine Exists.intro _ (And.intro ?_ (And.intro ?_ (And.intro ?_ (And.intro ?_
    (hl.wrote_rows (h.book userId).owner hl.withdrawals rfl)))))
  · rfl
  · rfl
  · rfl
  · exact Int.not_le.mp hpos

def settledBalance (frozen : Bool) (n : Int) (b : AffiliateBalance) : AffiliateBalance :=
  { b with
    pendingQuota := b.pendingQuota-n
    availableQuota := if frozen then b.availableQuota else b.availableQuota+n
    riskFrozenQuota := if frozen then b.riskFrozenQuota+n else b.riskFrozenQuota }

theorem settledBalance_zero (frozen : Bool) (b : AffiliateBalance) : settledBalance frozen 0 b=b := by
  cases frozen <;> simp [settledBalance]

structure Rewrote (db : AffiliateDB) (f : Int → AffiliateBalance) (db' : AffiliateDB) : Prop where
  records : db'.records=db.records
  withdrawals : db'.withdrawals=db.withdrawals
  risks : db'.risks=db.risks
  balance : ∀ v, db'.balance v=f v

theorem creditSettled_effect {q : Int → Int} (uids : List Int) (hnd : uids.Nodup)
    (howner : ∀ u, (db.balance u).userId=u) (hpending : ∀ u∈uids, q u≤(db.balance u).pendingQuota) :
    Ensures (Rewrote db fun v => if v∈uids then
        settledBalance (queryAffiliateUserAssetsFrozenTx db v) (q v) (db.balance v) else db.balance v)
      Consistent (creditSettled q db uids) := by
  induction uids generalizing db with
  | nil => exact ⟨rfl,rfl,rfl,fun v => by simp⟩
  | cons uid uids ih =>
    obtain ⟨hnot,hnd⟩ := nodup_cons.mp hnd
    unfold creditSettled
    refine Ensures.ite (fun hz => ?_) fun hnz => ?_
    · have hrest := ih hnd howner fun u hu => hpending u (mem_cons_of_mem _ hu)
      refine hrest.mono fun db' hr => ⟨hr.records,hr.withdrawals,hr.risks,fun v => (hr.balance v).trans ?_⟩
      by_cases hv : v=uid
      · subst hv
        rw [if_neg hnot,if_pos mem_cons_self,hz,settledBalance_zero]
      · simp [hv]
    · cases hrow : db.balances uid with
      | none => exact fun i => nofun
      | some b =>
        have hb : db.balance uid=b := by rw [AffiliateDB.balance,hrow]
        refine Ensures.ite (fun hlt => ?_) fun _ => ?_
        · have := hpending uid mem_cons_self
          rw [hb] at this
          omega
        · set b' : AffiliateBalance := if queryAffiliateUserAssetsFrozenTx db uid=true then
              { b with pendingQuota := b.pendingQuota-q uid, riskFrozenQuota := b.riskFrozenQuota+q uid }
            else { b with pendingQuota := b.pendingQuota-q uid, availableQuota := b.availableQuota+q uid } with hb'
          have hset : b'=settledBalance (queryAffiliateUserAssetsFrozenTx db uid) (q uid) (db.balance uid) := by
            rw [hb',hb,settledBalance]
            cases queryAffiliateUserAssetsFrozenTx db uid <;> rfl
          have hid : b'.userId=uid := by
            rw [hset]
            exact howner uid
          have hsave : ∀ v, (saveAffiliateBalanceTx db b').balance v = if v=uid then b' else db.balance v := by
            intro v
            rw [balance_save,hid]
          have hrest := @ih (saveAffiliateBalanceTx db b') hnd (fun u => by
              rw [hsave]
              split
              next hu =>
                rw [hid,hu]
              · exact howner u)
            (fun u hu => by
              have hne : u≠uid := by
                intro he
                rw [he] at hu
                exact hnot hu
              rw [hsave,if_neg hne]
              exact hpending u (mem_cons_of_mem _ hu))
          refine hrest.mono fun db' hr => ⟨hr.records,hr.withdrawals,hr.risks,fun v => (hr.balance v).trans ?_⟩
          rw [hsave]
          by_cases hv : v=uid
          · subst hv
            rw [if_neg hnot,if_pos rfl,if_pos mem_cons_self,hset]
          · simp only [mem_cons,hv,false_or,if_false]
            rfl

theorem loadBalances_same (h : Books due db) (uids : List Int) : Ensures (Same db) Consistent (loadBalances db uids) := by
  induction uids generalizing db with
  | nil => exact Same.refl db
  | cons uid uids ih =>
    refine (getBalance_loaded h uid).bind fun ⟨t,b⟩ hl => ?_
    exact (ih (hl.toSame.books h)).mono fun db' hs => hl.toSame.trans hs

def dueQuota (db : AffiliateDB) (userId now uid : Int) : Int :=
  ((db.records.filter fun r => r.mature userId now && decide (r.userId=uid)).map (·.rewardQuota)).sum

def settleRecord (userId now : Int) (r : AffiliateRecord) : AffiliateRecord :=
  if r.mature userId now then { r with status := .available, settledTime := now } else r

variable {userId now uid : Int}

theorem mem_matureUsers : uid∈matureUsers db userId now ↔ ∃ r∈db.records, r.mature userId now=true ∧ r.userId=uid := by
  rw [matureUsers,mem_insertionSort,mem_dedup]
  simp [and_assoc]

theorem matureUsers_nodup (userId now : Int) : (matureUsers db userId now).Nodup :=
  (perm_insertionSort _ _).nodup_iff.mpr (nodup_dedup _)

theorem dueQuota_eq_zero (h : uid∉matureUsers db userId now) : dueQuota db userId now uid=0 := by
  have hnil : db.records.filter (fun r => r.mature userId now && decide (r.userId=uid))=[] := by
    rw [filter_eq_nil_iff]
    intro r hr hc
    simp only [Bool.and_eq_true,decide_eq_true_eq] at hc
    exact h (mem_matureUsers.mpr ⟨r,hr,hc.1,hc.2⟩)
  rw [dueQuota,hnil]
  rfl

theorem pending_settled (records : List AffiliateRecord) (userId now v : Int) :
    ((records.map (settleRecord userId now)).map (pendingOf v)).sum +
      ((records.filter fun r => r.mature userId now && decide (r.userId=v)).map (·.rewardQuota)).sum =
      (records.map (pendingOf v)).sum := by
  induction records with
  | nil => rfl
  | cons r rs ih =>
    have hfilter : (((r::rs).filter fun r => r.mature userId now && decide (r.userId=v)).map (·.rewardQuota)).sum =
        (if r.mature userId now=true ∧ r.userId=v then r.rewardQuota else 0) +
          ((rs.filter fun r => r.mature userId now && decide (r.userId=v)).map (·.rewardQuota)).sum := by
      by_cases hm : r.mature userId now=true <;> by_cases hv : r.userId=v <;> simp [hm,hv]
    have hrow : pendingOf v (settleRecord userId now r) +
        (if r.mature userId now=true ∧ r.userId=v then r.rewardQuota else 0)=pendingOf v r := by
      unfold settleRecord pendingOf
      by_cases hm : r.mature userId now=true
      · have hst : r.status=.pending := by
          simp only [AffiliateRecord.mature,decide_eq_true_eq] at hm
          exact hm.1
        simp [hm,hst]
      · simp [hm]
    rw [hfilter]
    simp only [map_cons,sum_cons]
    omega

structure Settled (db : AffiliateDB) (userId now : Int) (db' : AffiliateDB) : Prop where
  records : db'.records=db.records.map (settleRecord userId now)
  withdrawals : db'.withdrawals=db.withdrawals
  risks : db'.risks=db.risks
  balance : ∀ v, db'.balance v =
    settledBalance (queryAffiliateUserAssetsFrozenTx db v) (dueQuota db userId now v) (db.balance v)

theorem dueQuota_nonneg (h : Books due db) (userId now v : Int) : 0≤dueQuota db userId now v :=
  sum_nonneg fun r hr => (h.reward r (mem_of_mem_filter hr)).le

theorem dueQuota_le (h : Books (fun _ => 0) db) (userId now v : Int) :
    dueQuota db userId now v≤(db.balance v).pendingQuota := by
  have hsum := pending_settled db.records userId now v
  have hrest : 0≤((db.records.map (settleRecord userId now)).map (pendingOf v)).sum := by
    refine sum_nonneg fun r hr => ?_
    obtain ⟨x,hx,rfl⟩ := mem_map.mp hr
    have hrew : (settleRecord userId now x).rewardQuota=x.rewardQuota := by
      unfold settleRecord
      split <;> rfl
    unfold pendingOf
    split
    · rw [hrew]
      exact (h.reward x hx).le
    · exact le_rfl
  have hp := (h.book v).pending
  rw [dueQuota]
  omega

theorem settle_effect (h : Books (fun _ => 0) db) (userId now : Int) :
    Ensures (Settled db userId now) Consistent (settleMatureAffiliateRecordsTx db userId now) := by
  unfold settleMatureAffiliateRecordsTx
  refine Ensures.ite (fun hnil => ?_) fun _ => ?_
  · have hdue : ∀ v, dueQuota db userId now v=0 := fun v => dueQuota_eq_zero (by rw [hnil]; exact not_mem_nil)
    refine ⟨?_,rfl,rfl,fun v => by rw [hdue,settledBalance_zero]⟩
    have hid : ∀ r∈db.records, settleRecord userId now r=r := by
      intro r hr
      unfold settleRecord
      rw [if_neg]
      intro hm
      have hmem : r.userId∈matureUsers db userId now := mem_matureUsers.mpr ⟨r,hr,hm,rfl⟩
      rw [hnil] at hmem
      cases hmem
    exact ((map_congr_left hid).trans (map_id' _)).symm
  · refine (loadBalances_same h _).bind fun t hs => ?_
    have hb : ∀ v, ({ t with records := t.records.map (settleRecord userId now) } : AffiliateDB).balance v =
        db.balance v := fun v => hs.balance v
    have hf : ∀ v, queryAffiliateUserAssetsFrozenTx { t with records := t.records.map (settleRecord userId now) } v =
        queryAffiliateUserAssetsFrozenTx db v := fun v => hs.frozen v
    have howner : ∀ v, (({ t with records := t.records.map (settleRecord userId now) } : AffiliateDB).balance v).userId =
        v := by
      intro v
      rw [hb]
      exact (h.book v).owner
    have hcredit := creditSettled_effect (q := dueQuota db userId now) (matureUsers db userId now)
      (matureUsers_nodup userId now) howner fun v _ => by
        rw [hb]
        exact dueQuota_le h userId now v
    refine hcredit.mono fun db' hr => ⟨hr.records.trans (by rw [hs.records]),hr.withdrawals.trans hs.withdrawals,
      hr.risks.trans hs.risks,fun v => (hr.balance v).trans ?_⟩
    rw [hb,hf]
    split
    · rfl
    next hv =>
      rw [dueQuota_eq_zero hv,settledBalance_zero]

theorem withdraw_effect (h : Books due db) (userId : Int) (method : PayoutMethod) (req : WithdrawalRequest) :
    Ensures (fun db' => queryAffiliateUserAssetsFrozenTx db userId=false ∧ req.quota≤(db.balance userId).availableQuota ∧
        Wrote db userId db.records
          (db.withdrawals++[{ id := db.withdrawals.length+1, userId := userId, quota := req.quota, status := .pending }])
          { db.balance userId with
            availableQuota := (db.balance userId).availableQuota-req.quota
            frozenQuota := (db.balance userId).frozenQuota+req.quota } db')
      Consistent (createAffiliateWithdrawalTx db userId method req) := by
  refine (getBalance_loaded h userId).bind fun ⟨t,b⟩ hl => ?_
  have hv : b=db.balance userId := hl.value
  subst hv
  have hwithdrawals : t.withdrawals=db.withdrawals := hl.withdrawals
  refine Ensures.guard nofun fun hf => Ensures.guard nofun fun hq => ?_
  refine Ensures.guard nofun fun _ => ⟨?_,Int.not_lt.mp hq,?_⟩
  · rw [← hl.frozen]
    simpa using hf
  · simp only [hwithdrawals]
    exact hl.records ▸ hl.wrote_rows (h.book userId).owner rfl rfl

def resolvedBalance (target : WithdrawalStatus) (n : Int) (b : AffiliateBalance) : AffiliateBalance :=
  match target with
  | .rejected => { b with frozenQuota := b.frozenQuota-n, availableQuota := b.availableQuota+n }
  | .paid => { b with frozenQuota := b.frozenQuota-n, withdrawnQuota := b.withdrawnQuota+n }
  | _ => b

theorem Books.quota_le_frozen (h : Books due db) {w : AffiliateWithdrawal} (hw : w∈db.withdrawals)
    (hopen : w.open=true) : w.quota≤(db.balance w.userId).frozenQuota := by
  rw [(h.book w.userId).frozen]
  have hle := single_le_sum (l := db.withdrawals.map (openOf w.userId)) (fun x hx => by
    obtain ⟨y,hy,rfl⟩ := mem_map.mp hx
    unfold openOf
    split
    · exact (h.quota y hy).le
    · exact le_rfl) (openOf w.userId w) (mem_map_of_mem hw)
  rwa [openOf,if_pos ⟨rfl,hopen⟩] at hle

theorem status_effect (h : Books due db) (withdrawalId adminId : Int) (remark : String) (target : WithdrawalStatus)
    (now : Int) : Ensures (fun db' => Same db db' ∨ ∃ (w : AffiliateWithdrawal) (f : AffiliateWithdrawal → AffiliateWithdrawal),
        Keyed.lookup AffiliateWithdrawal.id withdrawalId db.withdrawals=some w ∧ w.open=true ∧ target≠.pending ∧
        (∀ x, (f x).id=x.id ∧ (f x).userId=x.userId ∧ (f x).quota=x.quota ∧ (f x).status=target) ∧
        Wrote db w.userId db.records (Keyed.modify AffiliateWithdrawal.id withdrawalId f db.withdrawals)
          (resolvedBalance target w.quota (db.balance w.userId)) db')
      Consistent (updateAffiliateWithdrawalStatus db withdrawalId adminId remark target now) := by
  unfold updateAffiliateWithdrawalStatus
  refine Ensures.guard nofun fun _ => ?_
  cases hlookup : Keyed.lookup AffiliateWithdrawal.id withdrawalId db.withdrawals with
  | none => exact fun i => nofun
  | some w =>
    obtain ⟨hw,-⟩ := Keyed.lookup_some hlookup
    refine (getBalance_loaded h w.userId).bind fun p hl => ?_
    obtain ⟨t,b⟩ := p
    have hv : b=db.balance w.userId := hl.value
    subst hv
    have hwithdrawals : t.withdrawals=db.withdrawals := hl.withdrawals
    refine Ensures.ite (fun _ => .inl hl.toSame) fun hne => Ensures.guard nofun fun hclosed => ?_
    refine Ensures.guard nofun fun happrove => ?_
    have hopen : w.open=true := by
      rw [not_or] at hclosed
      cases hs : w.status <;> simp_all [AffiliateWithdrawal.open]
    have hfrozen := h.quota_le_frozen hw hopen
    simp only [hwithdrawals]
    have hwrote : ∀ (f : AffiliateWithdrawal → AffiliateWithdrawal) (b' : AffiliateBalance),
        b'.userId=(db.balance w.userId).userId →
        Wrote db w.userId db.records (Keyed.modify AffiliateWithdrawal.id withdrawalId f db.withdrawals) b'
          (saveAffiliateBalanceTx { t with
            withdrawals := Keyed.modify AffiliateWithdrawal.id withdrawalId f db.withdrawals } b') :=
      fun f b' hb => hl.records ▸ hl.wrote_rows (h.book w.userId).owner rfl hb
    cases target with
    | pending => simp [Ensures,Consistent]
    | approved =>
      refine .inr ⟨w,_,rfl,hopen,by decide,?_,hwrote _ _ ?_⟩
      · exact fun x => ⟨rfl,rfl,rfl,rfl⟩
      · rfl
    | rejected | paid =>
      refine Ensures.ite (fun hlt => absurd hfrozen (by omega)) fun _ => ?_
      refine .inr ⟨w,_,rfl,hopen,by decide,?_,hwrote _ _ ?_⟩
      · exact fun x => ⟨rfl,rfl,rfl,rfl⟩
      · rfl

theorem transfer_effect (h : Books due db) (userId quota : Int) :
    Ensures (fun db' => queryAffiliateUserAssetsFrozenTx db userId=false ∧ quota≤(db.balance userId).availableQuota ∧
        Wrote db userId db.records db.withdrawals
          { db.balance userId with
            availableQuota := (db.balance userId).availableQuota-quota
            transferredQuota := (db.balance userId).transferredQuota+quota } db')
      Consistent (transferAffiliateQuotaTx db userId quota) := by
  refine (getBalance_loaded h userId).bind fun ⟨t,b⟩ hl => ?_
  have hv : b=db.balance userId := hl.value
  subst hv
  refine Ensures.guard nofun fun hf => Ensures.guard nofun fun hq => ?_
  cases huser : t.user? userId with
  | none => exact fun i => nofun
  | some user =>
    refine Ensures.guard nofun fun _ => ⟨?_,Int.not_lt.mp hq,?_⟩
    · rw [← hl.frozen]
      simpa using hf
    · have husers : ∀ v, v≠userId →
          (t.updateUser userId fun u => { u with quota := u.quota+quota }).balance v=t.balance v := by
        intro v hv
        have := user?_updateUser t userId v (f := fun u => { u with quota := u.quota+quota }) fun _ => rfl
        rw [if_neg hv] at this
        simp only [AffiliateDB.balance,this]
        rfl
      have hw := hl.wrote (h.book userId).owner t.records t.withdrawals _ husers
        { db.balance userId with
          availableQuota := (db.balance userId).availableQuota-quota
          transferredQuota := (db.balance userId).transferredQuota+quota } rfl
      exact hl.records ▸ hl.withdrawals ▸ hw

def frozenBalance (b : AffiliateBalance) : AffiliateBalance :=
  { b with availableQuota := 0, riskFrozenQuota := b.riskFrozenQuota+b.availableQuota }

variable {b : AffiliateBalance}

theorem frozenBalance_of_zero (h : b.availableQuota=0) : frozenBalance b=b := by
  cases b
  simp_all [frozenBalance]

theorem freeze_effect (h : Books due db) (userId : Int) :
    Ensures (Wrote db userId db.records db.withdrawals (frozenBalance (db.balance userId))) Consistent
      (freezeAffiliateAssetsTx db userId) := by
  refine (getBalance_loaded h userId).bind fun ⟨t,b⟩ hl => ?_
  have hv : b=db.balance userId := hl.value
  subst hv
  refine Ensures.ite (fun hz => ?_) fun _ => hl.records ▸ hl.wrote_rows (h.book userId).owner hl.withdrawals rfl
  rw [frozenBalance_of_zero (le_antisymm hz (h.book userId).available_nonneg)]
  exact hl.records ▸ hl.wrote_rows (h.book userId).owner hl.withdrawals rfl

def unfrozenBalance (b : AffiliateBalance) : AffiliateBalance :=
  { b with riskFrozenQuota := 0, availableQuota := b.availableQuota+b.riskFrozenQuota }

theorem unfrozenBalance_of_zero (h : b.riskFrozenQuota=0) : unfrozenBalance b=b := by
  cases b
  simp_all [unfrozenBalance]

theorem unfreeze_effect (h : Books due db) (userId : Int) :
    Ensures (Wrote db userId db.records db.withdrawals (unfrozenBalance (db.balance userId))) Consistent
      (unfreezeAffiliateAssetsTx db userId) := by
  refine (getBalance_loaded h userId).bind fun ⟨t,b⟩ hl => ?_
  have hv : b=db.balance userId := hl.value
  subst hv
  refine Ensures.ite (fun hz => ?_) fun _ => hl.records ▸ hl.wrote_rows (h.book userId).owner hl.withdrawals rfl
  rw [unfrozenBalance_of_zero (le_antisymm hz (h.book userId).riskFrozen_nonneg)]
  refine ⟨hl.records,hl.withdrawals,hl.risks,fun v => ?_⟩
  rw [hl.balance]
  split
  next he =>
    rw [he]
  · rfl

def clearedQuota (b : AffiliateBalance) : Int :=
  b.pendingQuota+b.availableQuota+b.riskFrozenQuota+b.frozenQuota

def clearedBalance (b : AffiliateBalance) : AffiliateBalance :=
  { b with
    pendingQuota := 0
    availableQuota := 0
    riskFrozenQuota := 0
    frozenQuota := 0
    confiscatedQuota := b.confiscatedQuota+clearedQuota b
    totalQuota := b.totalQuota-clearedQuota b }

def clearRecord (userId now : Int) (r : AffiliateRecord) : AffiliateRecord :=
  if r.userId=userId ∧ r.status=.pending then { r with status := .confiscated, settledTime := now } else r

def clearWithdrawal (userId adminId now : Int) (w : AffiliateWithdrawal) : AffiliateWithdrawal :=
  if w.userId=userId ∧ w.open then
    { w with status := .rejected, adminId := adminId, adminRemark := "返佣风控清空资产", rejectedTime := now }
  else w

theorem clear_effect (h : Books (fun _ => 0) db) (userId adminId now : Int) :
    Ensures (fun p => (Same db p.1 ∧ clearedQuota (db.balance userId)=0 ∧ p.2=0) ∨
        (0<clearedQuota (db.balance userId) ∧ p.2=clearedQuota (db.balance userId) ∧
          Wrote db userId (db.records.map (clearRecord userId now))
            (db.withdrawals.map (clearWithdrawal userId adminId now)) (clearedBalance (db.balance userId)) p.1))
      Consistent (clearAffiliateAssetsTx db userId adminId now) := by
  have hbook := h.book userId
  have hp := h.pending_nonneg userId
  have ho := h.open_nonneg userId
  have hpaid := h.paid_nonneg userId
  rw [← hbook.frozen] at ho
  rw [← hbook.withdrawn] at hpaid
  have hpending := hbook.pending
  have htotal := hbook.total
  have := hbook.available_nonneg
  have := hbook.riskFrozen_nonneg
  have := hbook.transferred_nonneg
  refine (getBalance_loaded h userId).bind fun ⟨t,b⟩ hl => ?_
  have hv : b=db.balance userId := hl.value
  subst hv
  refine Ensures.ite (fun hz => .inl ⟨hl.toSame,?_,?_⟩) fun hnz => ?_
  · rw [clearedQuota]
    omega
  · simp only
    omega
  · refine Ensures.ite (fun hlt => ?_) fun _ => .inr ⟨Int.not_le.mp hnz,rfl,?_⟩
    · omega
    have hrecords : t.records=db.records := hl.records
    have hwithdrawals : t.withdrawals=db.withdrawals := hl.withdrawals
    simp only [hrecords,hwithdrawals]
    exact hl.wrote_rows (h.book userId).owner rfl rfl

def recoverableOf (status : RecordStatus) (inviterId inviteeId : Int) (r : AffiliateRecord) : Int :=
  if r.userId=inviterId ∧ r.inviteeId=inviteeId ∧ r.status=status then r.rewardQuota else 0

def clawbackRecord (inviterId inviteeId now : Int) (r : AffiliateRecord) : AffiliateRecord :=
  if r.recoverable inviterId inviteeId then { r with status := .confiscated, settledTime := now } else r

def recoveredBalance (p a : Int) (b : AffiliateBalance) : AffiliateBalance :=
  let fromAvailable := min a b.availableQuota
  let fromRiskFrozen := min (a-fromAvailable) b.riskFrozenQuota
  { b with
    pendingQuota := b.pendingQuota-p
    availableQuota := b.availableQuota-fromAvailable
    riskFrozenQuota := b.riskFrozenQuota-fromRiskFrozen
    confiscatedQuota := b.confiscatedQuota+(p+fromAvailable+fromRiskFrozen)
    totalQuota := b.totalQuota-(p+fromAvailable+fromRiskFrozen) }

theorem sum_recoverable (status : RecordStatus) (hs : status=.pending ∨ status=.available)
    (records : List AffiliateRecord) (inviterId inviteeId : Int) :
    (((records.filter (·.recoverable inviterId inviteeId)).filter fun r => decide (r.status=status)).map
      (·.rewardQuota)).sum=(records.map (recoverableOf status inviterId inviteeId)).sum := by
  rw [filter_filter,Keyed.sum_filter]
  refine congrArg List.sum (map_congr_left fun r _ => ?_)
  unfold recoverableOf AffiliateRecord.recoverable
  obtain rfl | rfl := hs <;> (congr 1; simp; tauto)

theorem recoverable_notPending (records : List AffiliateRecord) (inviterId inviteeId : Int) :
    (records.filter (·.recoverable inviterId inviteeId)).filter (fun r => decide (r.status≠.pending)) =
      (records.filter (·.recoverable inviterId inviteeId)).filter fun r => decide (r.status=.available) := by
  refine filter_congr fun r hr => ?_
  have hrec := (mem_filter.mp hr).2
  simp only [AffiliateRecord.recoverable,decide_eq_true_eq] at hrec
  obtain hs | hs := hrec.2.2 <;> rw [hs] <;> decide

theorem recoverable_le_pending (h : Books due db) (inviterId inviteeId : Int) :
    (db.records.map (recoverableOf .pending inviterId inviteeId)).sum≤(db.records.map (pendingOf inviterId)).sum := by
  refine sum_le_sum fun r hr => ?_
  have := h.reward r hr
  unfold recoverableOf pendingOf
  split
  next hc =>
    rw [if_pos ⟨hc.1,hc.2.2⟩]
  · split <;> omega

theorem recoverable_nonneg (h : Books due db) (status : RecordStatus) (inviterId inviteeId : Int) :
    0≤(db.records.map (recoverableOf status inviterId inviteeId)).sum :=
  sum_nonneg fun r hr => by
    unfold recoverableOf
    split
    · exact (h.reward r hr).le
    · exact le_rfl

/-- A clawback finds no record, or confiscates every record of the invitee and takes their quota from the
buckets as far as it goes. -/
theorem clawback_effect (h : Books (fun _ => 0) db) (inviterId inviteeId now : Int) :
    Ensures (fun p => (Same db p.1 ∧ (∀ r∈db.records, r.recoverable inviterId inviteeId=false) ∧ p.2=0) ∨
        (Wrote db inviterId (db.records.map (clawbackRecord inviterId inviteeId now)) db.withdrawals
            (recoveredBalance (db.records.map (recoverableOf .pending inviterId inviteeId)).sum
              (db.records.map (recoverableOf .available inviterId inviteeId)).sum (db.balance inviterId)) p.1 ∧
          p.2 = (recoveredBalance (db.records.map (recoverableOf .pending inviterId inviteeId)).sum
              (db.records.map (recoverableOf .available inviterId inviteeId)).sum
              (db.balance inviterId)).confiscatedQuota-(db.balance inviterId).confiscatedQuota))
      Consistent (clawbackEarnings db inviterId inviteeId now) := by
  have hbook := h.book inviterId
  refine (getBalance_loaded h inviterId).bind fun ⟨t,b⟩ hl => ?_
  have hv : b=db.balance inviterId := hl.value
  subst hv
  have hrecords : t.records=db.records := hl.records
  have hwithdrawals : t.withdrawals=db.withdrawals := hl.withdrawals
  simp only [hrecords,hwithdrawals]
  refine Ensures.guard nofun fun hopen => Ensures.ite (fun hne => ?_) fun hfrozen => ?_
  · exfalso
    apply hne
    rw [hbook.frozen]
    refine sum_eq_zero fun x hx => ?_
    obtain ⟨w,hw,rfl⟩ := mem_map.mp hx
    unfold openOf
    rw [if_neg]
    intro hc
    apply hopen
    rw [any_eq_true]
    exact ⟨w,hw,by simp [hc.1,hc.2]⟩
  · refine Ensures.ite (fun hnil => .inl ⟨hl.toSame,fun r hr => ?_,rfl⟩) fun _ => ?_
    · have := filter_eq_nil_iff.mp hnil r hr
      simpa using this
    · rw [recoverable_notPending,sum_recoverable .pending (.inl rfl),sum_recoverable .available (.inr rfl)]
      have hp := recoverable_le_pending h inviterId inviteeId
      have hpn := recoverable_nonneg h .pending inviterId inviteeId
      have han := recoverable_nonneg h .available inviterId inviteeId
      set p := (db.records.map (recoverableOf .pending inviterId inviteeId)).sum
      set a := (db.records.map (recoverableOf .available inviterId inviteeId)).sum
      set b := db.balance inviterId
      have hpend := hbook.pending
      have htotal := hbook.total
      have hpaid := h.paid_nonneg inviterId
      rw [← hbook.withdrawn] at hpaid
      have := hbook.available_nonneg
      have := hbook.riskFrozen_nonneg
      have := hbook.transferred_nonneg
      have hmin : (if a>b.availableQuota then b.availableQuota else a)=min a b.availableQuota := by
        split <;> omega
      have hmin' : (if a-min a b.availableQuota>b.riskFrozenQuota then b.riskFrozenQuota else a-min a b.availableQuota) =
          min (a-min a b.availableQuota) b.riskFrozenQuota := by
        split <;> omega
      simp only [hmin,hmin']
      refine Ensures.ite (fun hlt => ?_) fun _ => Ensures.ite (fun hlt => ?_) fun _ => .inr ⟨?_,?_⟩
      · omega
      · omega
      · exact hl.wrote_rows (h.book inviterId).owner rfl rfl
      simp only [recoveredBalance]
      omega

end Effects

end NewApi.Affiliate

import NewApi.Affiliate.Books

/-! Confiscation of rewards: a clearance takes everything a user holds, a clawback takes the rewards of
one invitee. The clearance leaves the records of settled rewards as they are, so that a later clawback
finds them again and takes their value from newer rewards. -/
namespace NewApi.Affiliate
open Function List Runs

/-- The database, and for each user the number of records there were at the latest clearance of the user. -/
structure Traced where
  db : AffiliateDB
  since : Int → Nat

def Op.confiscation : Op → Bool
  | .createAffiliateRewardRecord .. | .settleMatureAffiliateRecords .. | .freezeAffiliateAssets .. => true
  | .unfreezeAffiliateAssets .. | .clearAffiliateAssets .. | .clawbackEarnings .. => true
  | _ => false

def tracedStep (t : Traced) (op : Op) : Traced where
  db := step t.db op
  since := match op, (exec t.db op).2 with
    | .clearAffiliateAssets userId _ _, none => Function.update t.since userId t.db.records.length
    | _, _ => t.since

def heldQuota (b : AffiliateBalance) : Int := b.pendingQuota+b.availableQuota+b.riskFrozenQuota

def liveOf (u : Int) (r : AffiliateRecord) : Int :=
  if r.userId=u ∧ r.status≠.confiscated then r.rewardQuota else 0

structure Accounted (since : Int → Nat) (db : AffiliateDB) : Prop where
  bound : ∀ u, since u≤db.records.length
  settled : ∀ u, ∀ r∈db.records.take (since u), r.userId=u → r.status≠.pending
  value : ∀ u, heldQuota (db.balance u)=((db.records.drop (since u)).map (liveOf u)).sum

section Sums
variable {db : AffiliateDB} {since : Int → Nat} (u v inviteeId now : Int)

theorem sum_drop {ρ : Type} {g : ρ → Int} {rows : List ρ} {k : Nat} (h : ∀ r∈rows.take k, g r=0) :
    (rows.map g).sum=((rows.drop k).map g).sum := by
  have hsplit : (rows.map g).sum=((rows.take k).map g).sum+((rows.drop k).map g).sum := by
    rw [← sum_append,← map_append,take_append_drop]
  have hzero : ((rows.take k).map g).sum=0 := by
    refine sum_eq_zero fun x hx => ?_
    obtain ⟨r,hr,rfl⟩ := mem_map.mp hx
    exact h r hr
  omega

theorem Accounted.pending (ha : Accounted since db) (u : Int) :
    (db.records.map (pendingOf u)).sum=((db.records.drop (since u)).map (pendingOf u)).sum :=
  sum_drop fun r hr => if_neg fun hc => ha.settled u r hr hc.1 hc.2

theorem liveOf_settleRecord (userId now v : Int) (r : AffiliateRecord) : liveOf v (settleRecord userId now r)=liveOf v r := by
  unfold settleRecord
  split
  next hm =>
    simp only [AffiliateRecord.mature,decide_eq_true_eq] at hm
    simp [liveOf,hm.1]
  · rfl

theorem liveOf_clearRecord {u v : Int} (hv : v≠u) (now : Int) (r : AffiliateRecord) :
    liveOf v (clearRecord u now r)=liveOf v r := by
  unfold clearRecord
  split
  next hc =>
    have hne : r.userId≠v := fun he => hv (he.symm.trans hc.1)
    simp [liveOf,hne]
  · rfl

theorem liveOf_clawbackRecord (r : AffiliateRecord) :
    liveOf v (clawbackRecord u inviteeId now r)+(if v=u then
      recoverableOf .pending u inviteeId r+recoverableOf .available u inviteeId r else 0)=liveOf v r := by
  unfold clawbackRecord AffiliateRecord.recoverable liveOf recoverableOf
  by_cases hv : v=u
  · subst hv
    by_cases hu : r.userId=v <;> by_cases hi : r.inviteeId=inviteeId <;> cases hs : r.status <;>
      simp [hu,hi,hs]
  · by_cases hu : r.userId=u
    · subst hu
      simp [Ne.symm hv]
      split <;> simp [Ne.symm hv]
    · simp [hv,hu]

theorem live_clawback (rows : List AffiliateRecord) :
    ((rows.map (clawbackRecord u inviteeId now)).map (liveOf v)).sum+(if v=u then
      (rows.map (recoverableOf .pending u inviteeId)).sum+(rows.map (recoverableOf .available u inviteeId)).sum
      else 0)=(rows.map (liveOf v)).sum := by
  rw [← clawback_sum (liveOf_clawbackRecord u v inviteeId now) rows,sum_map_add]

theorem recoverable_le_live (h : Books (fun _ => 0) db) (u inviteeId : Int) (k : Nat) :
    ((db.records.drop k).map (recoverableOf .available u inviteeId)).sum +
      ((db.records.drop k).map (pendingOf u)).sum≤((db.records.drop k).map (liveOf u)).sum := by
  have hrow : ∀ r∈db.records.drop k, recoverableOf .available u inviteeId r+pendingOf u r≤liveOf u r := by
    intro r hr
    have hpos := h.reward r (mem_of_mem_drop hr)
    unfold recoverableOf pendingOf liveOf
    by_cases hu : r.userId=u <;> by_cases hi : r.inviteeId=inviteeId <;> cases hs : r.status <;> (simp [hu,hi]; try omega)
  revert hrow
  generalize db.records.drop k=rows
  intro hrow
  induction rows with
  | nil => simp
  | cons r rs ih =>
    have hr := hrow r mem_cons_self
    have hrest := ih fun x hx => hrow x (mem_cons_of_mem _ hx)
    simp only [map_cons,sum_cons]
    omega

end Sums

section Steps
variable {db db' : AffiliateDB} {since : Int → Nat} {u : Int} {t : Traced}

theorem Same.accounted (hs : Same db db') (ha : Accounted since db) : Accounted since db' := by
  refine ⟨?_,?_,fun v => ?_⟩
  · rw [hs.records]
    exact ha.bound
  · rw [hs.records]
    exact ha.settled
  · rw [hs.records,hs.balance]
    exact ha.value v

theorem Wrote.accounted {W : List AffiliateWithdrawal} {b : AffiliateBalance}
    (hw : Wrote db u db.records W b db') (ha : Accounted since db) (hb : heldQuota b=heldQuota (db.balance u)) :
    Accounted since db' := by
  refine ⟨?_,?_,fun v => ?_⟩
  · rw [hw.records]
    exact ha.bound
  · rw [hw.records]
    exact ha.settled
  · rw [hw.records,hw.balance,← ha.value v]
    split
    next hv =>
      rw [hv,hb]
    · rfl

theorem reward_accounted (ha : Accounted since db) {record : AffiliateRecord} (huser : record.userId=u)
    (hstatus : record.status=.pending)
    (hw : Wrote db u (db.records++[record]) db.withdrawals
      { db.balance u with
        pendingQuota := (db.balance u).pendingQuota+record.rewardQuota
        totalQuota := (db.balance u).totalQuota+record.rewardQuota } db') : Accounted since db' := by
  refine ⟨fun v => ?_,fun v r hr hv => ?_,fun v => ?_⟩
  · rw [hw.records,length_append]
    have := ha.bound v
    omega
  · rw [hw.records,take_append_of_le_length (ha.bound v)] at hr
    exact ha.settled v r hr hv
  · have hold := ha.value v
    rw [hw.records,hw.balance,drop_append_of_le_length (ha.bound v),sum_append_singleton]
    by_cases hv : v=u
    · subst hv
      have hown : liveOf v record=record.rewardQuota := by
        rw [liveOf,if_pos ⟨huser,by rw [hstatus]; decide⟩]
      rw [if_pos rfl,hown,← hold]
      simp only [heldQuota]
      omega
    · have hnone : liveOf v record=0 := by
        rw [liveOf,if_neg]
        exact fun hc => hv (hc.1.symm.trans huser)
      rw [if_neg hv,hnone,hold,add_zero]

theorem settled_accounted (ha : Accounted since db) {userId now : Int} (hs : Settled db userId now db') :
    Accounted since db' := by
  refine ⟨fun v => ?_,fun v r hr hv hp => ?_,fun v => ?_⟩
  · rw [hs.records,length_map]
    exact ha.bound v
  · rw [hs.records,← map_take] at hr
    obtain ⟨x,hx,rfl⟩ := mem_map.mp hr
    unfold settleRecord at hv hp
    split at hv
    next hm =>
      rw [if_pos hm] at hp
      cases hp
    next hm =>
      rw [if_neg hm] at hp
      exact ha.settled v x hx hv hp
  · rw [hs.records,← map_drop,sum_map_map fun r _ => liveOf_settleRecord userId now v r,← ha.value v, hs.balance]
    unfold settledBalance heldQuota
    simp only
    split <;> omega

theorem clear_accounted (h : Books (fun _ => 0) db) (ha : Accounted since db) (userId adminId now : Int) :
    Ensures (fun p => Accounted (Function.update since userId db.records.length) p.1) Consistent
      (clearAffiliateAssetsTx db userId adminId now) := by
  refine (clear_effect h userId adminId now).mono fun p he => ?_
  obtain ⟨hs,hz,-⟩ | ⟨-,-,hw⟩ := he
  · have hbook := h.book userId
    have hp := hbook.pending
    have hpn := h.pending_nonneg userId
    have hf := hbook.frozen
    have hfn := h.open_nonneg userId
    have han := hbook.available_nonneg
    have hrn := hbook.riskFrozen_nonneg
    rw [clearedQuota] at hz
    have hzero : (db.records.map (pendingOf userId)).sum=0 := by omega
    refine hs.accounted ⟨fun v => ?_,fun v r hr hv hpend => ?_,fun v => ?_⟩
    · by_cases hv : v=userId
      · rw [hv,update_self]
      rw [update_of_ne hv]
      exact ha.bound v
    · by_cases hvu : v=userId
      · subst hvu
        have hle := single_le_sum (l := db.records.map (pendingOf v)) (fun x hx => by
          obtain ⟨y,hy,rfl⟩ := mem_map.mp hx
          unfold pendingOf
          split
          · exact (h.reward y hy).le
          · exact le_rfl) (pendingOf v r) (mem_map_of_mem (mem_of_mem_take hr))
        have hpos := h.reward r (mem_of_mem_take hr)
        rw [hzero,pendingOf,if_pos ⟨hv,hpend⟩] at hle
        omega
      · rw [update_of_ne hvu] at hr
        exact ha.settled v r hr hv hpend
    · by_cases hv : v=userId
      · rw [hv,update_self,drop_length,heldQuota]
        simp only [map_nil,sum_nil]
        omega
      · rw [update_of_ne hv]
        exact ha.value v
  · refine ⟨fun v => ?_,fun v r hr hv hpend => ?_,fun v => ?_⟩
    · rw [hw.records,length_map]
      by_cases hv : v=userId
      · rw [hv,update_self]
      rw [update_of_ne hv]
      exact ha.bound v
    · rw [hw.records,← map_take] at hr
      obtain ⟨x,hx,rfl⟩ := mem_map.mp hr
      unfold clearRecord at hv hpend
      split at hv
      next hc =>
        rw [if_pos hc] at hpend
        cases hpend
      next hc =>
        rw [if_neg hc] at hpend
        by_cases hvu : v=userId
        · exact hc ⟨hv.trans hvu,hpend⟩
        rw [update_of_ne hvu] at hx
        exact ha.settled v x hx hv hpend
    · rw [hw.records,hw.balance]
      by_cases hv : v=userId
      · rw [hv,update_self,if_pos rfl,drop_of_length_le (by simp)]
        rfl
      · rw [update_of_ne hv,if_neg hv,← map_drop, sum_map_map fun r _ => liveOf_clearRecord hv now r]
        exact ha.value v

/-- The call claws back a settled reward that a clearance of its user has taken already. -/
def takesCleared (t : Traced) : Op → Bool
  | .clawbackEarnings inviterId inviteeId _ =>
    (t.db.records.take (t.since inviterId)).any fun r =>
      decide (r.userId=inviterId ∧ r.inviteeId=inviteeId ∧ r.status=.available)
  | _ => false

theorem recoverable_fresh (ha : Accounted since db) {inviterId inviteeId now : Int}
    (hok : takesCleared ⟨db,since⟩ (.clawbackEarnings inviterId inviteeId now)=false) {status : RecordStatus}
    (hs : status=.pending ∨ status=.available) : (db.records.map (recoverableOf status inviterId inviteeId)).sum =
      ((db.records.drop (since inviterId)).map (recoverableOf status inviterId inviteeId)).sum := by
  refine sum_drop fun r hr => if_neg fun hc => ?_
  obtain rfl | rfl := hs
  · exact ha.settled inviterId r hr hc.1 hc.2.2
  rw [takesCleared,any_eq_false] at hok
  exact hok r hr (by simpa using hc)

theorem clawback_accounted (h : Books (fun _ => 0) db) (ha : Accounted since db) {inviterId inviteeId now : Int}
    (hok : takesCleared ⟨db,since⟩ (.clawbackEarnings inviterId inviteeId now)=false) :
    Ensures (fun p => Accounted since p.1) Consistent (clawbackEarnings db inviterId inviteeId now) := by
  refine (clawback_effect h inviterId inviteeId now).mono fun p he => ?_
  obtain ⟨hs,-,-⟩ | ⟨hw,-⟩ := he
  · exact hs.accounted ha
  refine ⟨fun v => ?_,fun v r hr hv hpend => ?_,fun v => ?_⟩
  · rw [hw.records,length_map]
    exact ha.bound v
  · rw [hw.records,← map_take] at hr
    obtain ⟨x,hx,rfl⟩ := mem_map.mp hr
    unfold clawbackRecord at hv hpend
    split at hv
    next hc =>
      rw [if_pos hc] at hpend
      cases hpend
    next hc =>
      rw [if_neg hc] at hpend
      exact ha.settled v x hx hv hpend
  · have hlive := live_clawback inviterId v inviteeId now (db.records.drop (since v))
    rw [hw.records,hw.balance,← map_drop]
    by_cases hv : v=inviterId
    · subst hv
      have hvalue := ha.value v
      have hp := recoverable_fresh ha hok (.inl rfl)
      have hav := recoverable_fresh ha hok (.inr rfl)
      have hle := recoverable_le_live h v inviteeId (since v)
      have hpend := (h.book v).pending
      have hdrop := ha.pending v
      have han := (h.book v).available_nonneg
      have hrn := (h.book v).riskFrozen_nonneg
      have hrec := recoverable_nonneg h .available v inviteeId
      rw [heldQuota] at hvalue
      rw [if_pos rfl] at hlive ⊢
      rw [hp,hav]
      rw [hav] at hrec
      simp only [recoveredBalance,heldQuota]
      omega
    · rw [if_neg hv,add_zero] at hlive
      rw [if_neg hv,hlive]
      exact ha.value v

theorem tracedStep_accounted (h : Books (fun _ => 0) t.db) (ha : Accounted t.since t.db) {op : Op}
    (hop : op.confiscation=true) (hok : takesCleared t op=false) : Accounted (tracedStep t op).since (tracedStep t op).db := by
  have hkept : ∀ out : Except AffiliateError AffiliateDB, Ensures (Accounted t.since) Consistent out →
      Accounted t.since (transact t.db out).1 := by
    intro out ho
    cases out with
    | ok db' => exact ho
    | error e => exact ha
  cases op with
  | createAffiliateRewardRecord userId inviteeId level sourceType sourceId sourceQuota ratio now delay =>
    refine hkept _ ((createReward_effect h userId inviteeId level sourceType sourceId sourceQuota ratio now delay).mono
      fun db' he => ?_)
    obtain hs | ⟨record,huser,-,hstatus,-,hw⟩ := he
    · exact hs.accounted ha
    · exact reward_accounted ha huser hstatus hw
  | settleMatureAffiliateRecords userId now =>
    exact hkept _ ((settle_effect h userId now).mono fun _ hs => settled_accounted ha hs)
  | freezeAffiliateAssets userId =>
    refine hkept _ ((freeze_effect h userId).mono fun _ hw => hw.accounted ha ?_)
    simp only [heldQuota,frozenBalance]
    omega
  | unfreezeAffiliateAssets userId =>
    refine hkept _ ((unfreeze_effect h userId).mono fun _ hw => hw.accounted ha ?_)
    simp only [heldQuota,unfrozenBalance]
    omega
  | clawbackEarnings inviterId inviteeId now =>
    exact hkept _ ((clawback_accounted h ha hok).map fun _ hp => hp)
  | clearAffiliateAssets userId adminId now =>
    have hclear := clear_accounted h ha userId adminId now
    have hexec : exec t.db (.clearAffiliateAssets userId adminId now) =
        transact t.db ((clearAffiliateAssetsTx t.db userId adminId now).map Prod.fst) := rfl
    cases hc : clearAffiliateAssetsTx t.db userId adminId now with
    | ok p =>
      rw [hc] at hclear hexec
      simp only [tracedStep,step,hexec]
      exact hclear
    | error e =>
      rw [hc] at hexec
      simp only [tracedStep,step,hexec]
      exact ha
  | createAffiliateWithdrawalWithPayout => cases hop
  | updateAffiliateWithdrawalStatus | transferAffiliateQuotaToBalance | applyAffiliateRiskAction => cases hop
  | removeAffiliateRiskAction | unbindAffiliateRelationship | bindUserInviterByAffCode | unbindUserInviter => cases hop

theorem tracedRun_db (ops : List Op) (t : Traced) : (run tracedStep ops t).db=run step ops t.db := by
  induction ops generalizing t with
  | nil => rfl
  | cons op ops ih => exact ih (tracedStep t op)

theorem tracedRun_accounted (h : Books (fun _ => 0) t.db) (ha : Accounted t.since t.db) {ops : List Op}
    (hops : ∀ op∈ops, op.confiscation=true) (hok : Guarded tracedStep (fun t op => takesCleared t op=false) ops t) :
    Accounted (run tracedStep ops t).since (run tracedStep ops t).db := by
  induction ops generalizing t with
  | nil => exact ha
  | cons op ops ih =>
    exact ih (exec_kept h op).books (tracedStep_accounted h ha (hops op mem_cons_self) hok.1)
      (fun o ho => hops o (mem_cons_of_mem _ ho)) hok.2

end Steps

/-- Over every run from empty balances in which no clawback meets a settled reward from before the inviter's latest
clearance, a user holds the value of the records since then that were not clawed back. -/
theorem no_reward_confiscated_twice {db : AffiliateDB} (h : Empty db) {ops : List Op} (hops : ∀ op∈ops, op.confiscation=true)
    (hok : Guarded tracedStep (fun t op => takesCleared t op=false) ops ⟨db,fun _ => 0⟩) (u : Int) :
    ((run step ops db).balance u).pendingQuota+((run step ops db).balance u).availableQuota +
        ((run step ops db).balance u).riskFrozenQuota =
      ((((run step ops db).records.drop ((run tracedStep ops ⟨db,fun _ => 0⟩).since u)).filter fun r =>
        decide (r.userId=u ∧ r.status≠.confiscated)).map (·.rewardQuota)).sum ∧ ∀ inviteeId now db' taken,
        takesCleared (run tracedStep ops ⟨db,fun _ => 0⟩) (.clawbackEarnings u inviteeId now)=false →
        (∀ r∈(run step ops db).records.drop ((run tracedStep ops ⟨db,fun _ => 0⟩).since u),
          ¬ (r.userId=u ∧ r.inviteeId=inviteeId)) →
        clawbackEarnings (run step ops db) u inviteeId now=.ok (db',taken) → taken=0 := by
  have hdb := tracedRun_db ops ⟨db,fun _ => 0⟩
  have ha : Accounted (run tracedStep ops ⟨db,fun _ => 0⟩).since (run step ops db) := by
    rw [← hdb]
    refine tracedRun_accounted h.books ⟨fun v => Nat.zero_le _,fun v r hr => ?_,fun v => ?_⟩ hops hok
    · cases hr
    simp only
    rw [h.balance,h.records]
    rfl
  have hb := run_books h.books ops
  refine ⟨?_,fun inviteeId now db' taken hguard hnone hclaw => ?_⟩
  · have hv := ha.value u
    rw [Keyed.sum_filter]
    simp only [decide_eq_true_eq]
    exact hv
  · have heff := clawback_effect hb u inviteeId now
    rw [hclaw] at heff
    obtain ⟨-,-,hz⟩ | ⟨-,ht⟩ := heff
    · exact hz
    have hguard' : takesCleared ⟨run step ops db,(run tracedStep ops ⟨db,fun _ => 0⟩).since⟩
        (.clawbackEarnings u inviteeId now)=false := by
      rw [← hguard,← hdb]
    have hzero : ∀ status, ((run step ops db).records.drop ((run tracedStep ops ⟨db,fun _ => 0⟩).since u)
        |>.map (recoverableOf status u inviteeId)).sum=0 := by
      intro status
      refine sum_eq_zero fun x hx => ?_
      obtain ⟨r,hr,rfl⟩ := mem_map.mp hx
      exact if_neg fun hc => hnone r hr ⟨hc.1,hc.2.1⟩
    rw [recoverable_fresh ha hguard' (.inl rfl),recoverable_fresh ha hguard' (.inr rfl),hzero,hzero] at ht
    have hav := (hb.book u).available_nonneg
    have hrn := (hb.book u).riskFrozen_nonneg
    simp only [recoveredBalance] at ht
    omega

def clearedThenRewarded : List Op :=
  [.createAffiliateRewardRecord 1 2 1 .topup "t1" 1000 10 0 60,.settleMatureAffiliateRecords 0 60,
    .clearAffiliateAssets 1 9 61,.createAffiliateRewardRecord 1 3 1 .topup "t2" 500 10 62 60,
    .settleMatureAffiliateRecords 0 122]

theorem no_reward_confiscated_twice_fresh :
    (run step (clearedThenRewarded++[.clawbackEarnings 1 3 123]) newcomers).balance 1 =
        { userId := 1, confiscatedQuota := 150 } ∧
      ((((run step (clearedThenRewarded++[.clawbackEarnings 1 3 123]) newcomers).records.drop
        ((run tracedStep (clearedThenRewarded++[.clawbackEarnings 1 3 123]) ⟨newcomers,fun _ => 0⟩).since 1)).filter
          fun r => decide (r.userId=1 ∧ r.status≠.confiscated)).map (·.rewardQuota)).sum=0 := by
  have hbalance : (run step (clearedThenRewarded++[.clawbackEarnings 1 3 123]) newcomers).balance 1 =
      { userId := 1, confiscatedQuota := 150 } := by decide +kernel
  refine ⟨hbalance,?_⟩
  rw [← (no_reward_confiscated_twice newcomers_empty (by decide) (by decide +kernel) 1).1,hbalance]
  rfl

theorem reward_confiscated_twice :
    Empty newcomers ∧ (∀ op∈clearedThenRewarded++[.clawbackEarnings 1 2 123], op.confiscation=true) ∧
      (clawbackEarnings (run step clearedThenRewarded newcomers) 1 2 123).toOption.map Prod.snd=some 50 ∧
      heldQuota ((run step (clearedThenRewarded++[.clawbackEarnings 1 2 123]) newcomers).balance 1)=0 ∧
      ((((run step (clearedThenRewarded++[.clawbackEarnings 1 2 123]) newcomers).records.drop
        ((run tracedStep (clearedThenRewarded++[.clawbackEarnings 1 2 123]) ⟨newcomers,fun _ => 0⟩).since 1)).filter
          fun r => decide (r.userId=1 ∧ r.status≠.confiscated)).map (·.rewardQuota)).sum=50 :=
  ⟨newcomers_empty,by decide,by decide +kernel,by decide +kernel,by decide +kernel⟩

end NewApi.Affiliate

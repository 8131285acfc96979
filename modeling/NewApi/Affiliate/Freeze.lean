import NewApi.Affiliate.Books

/-! The risk freeze: while the active risk row of a user asks for it, nothing of the user's rewards is
available. Every call that makes a quota available consults the freeze, but for the rejection of a
withdrawal that was opened before it. -/
namespace NewApi.Affiliate
open Runs

/-- If the assets of the user are frozen, none of them is available. -/
def Sealed (db : AffiliateDB) (u : Int) : Prop :=
  queryAffiliateUserAssetsFrozenTx db u=true → (db.balance u).availableQuota=0

section Steps
variable {db db' : AffiliateDB} {u : Int}

theorem Sealed.of_balance (h : Sealed db u) (hr : db'.risks u=db.risks u) (hb : db'.balance u=db.balance u) : Sealed db' u := by
  intro hf
  rw [hb]
  apply h
  rwa [queryAffiliateUserAssetsFrozenTx,hr] at hf

theorem SameLedger.sealed (hs : SameLedger db db') (hr : db'.risks u=db.risks u) (h : Sealed db u) : Sealed db' u :=
  h.of_balance hr (hs.balance u)

theorem Same.sealed (hs : Same db db') (h : Sealed db u) : Sealed db' u :=
  h.of_balance (congrFun hs.risks u) (hs.balance u)

theorem Wrote.sealed {w : Int} {R : List AffiliateRecord} {W : List AffiliateWithdrawal} {b : AffiliateBalance}
    (hw : Wrote db w R W b db') (h : Sealed db u)
    (hb : u=w → queryAffiliateUserAssetsFrozenTx db u=true → (db.balance u).availableQuota=0 →
      b.availableQuota=0) : Sealed db' u := by
  intro hf
  rw [queryAffiliateUserAssetsFrozenTx,hw.risks] at hf
  rw [hw.balance]
  split
  · exact hb ‹_› hf (h hf)
  · exact h hf

theorem Settled.sealed {userId now : Int} (hs : Settled db userId now db') (h : Sealed db u) : Sealed db' u := by
  intro hf
  have hfrozen : queryAffiliateUserAssetsFrozenTx db u=true := by
    rwa [queryAffiliateUserAssetsFrozenTx,hs.risks] at hf
  rw [hs.balance,settledBalance,hfrozen]
  exact h hfrozen

abbrev Seals (out : Except AffiliateError AffiliateDB) : Prop := Ensures (fun db' => ∀ u, Sealed db' u) Consistent out

section
variable (hb : Books (fun _ => 0) db)
include hb

section
variable (h : ∀ u, Sealed db u)
include h

theorem createReward_seals (userId inviteeId level : Int)
    (sourceType : SourceType) (sourceId : String) (sourceQuota ratio now delay : Int) :
    Seals (createAffiliateRewardRecordTx db userId inviteeId level sourceType sourceId sourceQuota ratio now delay) :=
  (createReward_effect hb userId inviteeId level sourceType sourceId sourceQuota ratio now delay).mono fun db' he u => by
      obtain hs | ⟨record,-,-,-,-,hw⟩ := he
      · exact hs.sealed (h u)
      refine hw.sealed (h u) fun hu _ hz => ?_
      rw [← hu]
      exact hz

theorem settle_seals (userId now : Int) : Seals (settleMatureAffiliateRecordsTx db userId now) :=
  (settle_effect hb userId now).mono fun _ hs u => hs.sealed (h u)

theorem withdraw_seals (userId : Int) (method : PayoutMethod)
    (req : WithdrawalRequest) : Seals (createAffiliateWithdrawalTx db userId method req) :=
  (withdraw_effect hb userId method req).mono fun _ he u => he.2.2.sealed (h u) fun hu hf _ => by
    rw [hu,he.1] at hf
    cases hf

theorem transfer_seals (userId quota : Int) : Seals (transferAffiliateQuotaTx db userId quota) :=
  (transfer_effect hb userId quota).mono fun _ he u => he.2.2.sealed (h u) fun hu hf _ => by
    rw [hu,he.1] at hf
    cases hf

end

end

/-- The call rejects an open withdrawal of a user whose assets are frozen. -/
def rejectsFrozen (db : AffiliateDB) : Op → Bool
  | .updateAffiliateWithdrawalStatus withdrawalId _ _ .rejected _ =>
    match Keyed.lookup AffiliateWithdrawal.id withdrawalId db.withdrawals with
    | some w => w.open && queryAffiliateUserAssetsFrozenTx db w.userId
    | none => false
  | _ => false

theorem status_seals (hb : Books (fun _ => 0) db) (h : ∀ u, Sealed db u) {withdrawalId adminId : Int}
    {remark : String} {target : WithdrawalStatus} {now : Int}
    (hok : rejectsFrozen db (.updateAffiliateWithdrawalStatus withdrawalId adminId remark target now)=false) :
    Seals (updateAffiliateWithdrawalStatus db withdrawalId adminId remark target now) :=
  (status_effect hb withdrawalId adminId remark target now).mono fun db' he u => by
    obtain hs | ⟨w,f,hlookup,hopen,-,-,hw⟩ := he
    · exact hs.sealed (h u)
    refine hw.sealed (h u) fun hu hf hz => ?_
    subst hu
    cases target with
    | rejected => simp [rejectsFrozen,hlookup,hopen,hf] at hok
    | pending | approved | paid => exact hz

theorem frozenBalance_seals (hw : Wrote db u db.records db.withdrawals (frozenBalance (db.balance u)) db') {v : Int}
    (h : v≠u → Sealed db v) : Sealed db' v := by
  by_cases hv : v=u
  · intro _
    rw [hw.balance,if_pos hv]
    rfl
  · exact hw.sealed (h hv) fun hc => absurd hc hv

theorem clear_seals (hb : Books (fun _ => 0) db) (h : ∀ u, Sealed db u) (userId adminId now : Int) :
    Ensures (fun p => ∀ u, Sealed p.1 u) Consistent (clearAffiliateAssetsTx db userId adminId now) :=
  (clear_effect hb userId adminId now).mono fun p he u => by
    obtain ⟨hs,-,-⟩ | ⟨-,-,hw⟩ := he
    · exact hs.sealed (h u)
    · exact hw.sealed (h u) fun _ _ _ => rfl

theorem clawback_seals (hb : Books (fun _ => 0) db) (h : ∀ u, Sealed db u) (inviterId inviteeId now : Int) :
    Ensures (fun p => ∀ u, Sealed p.1 u) Consistent (clawbackEarnings db inviterId inviteeId now) :=
  (clawback_effect hb inviterId inviteeId now).mono fun p he u => by
    obtain ⟨hs,-,-⟩ | ⟨hw,-⟩ := he
    · exact hs.sealed (h u)
    refine hw.sealed (h u) fun hu _ hz => ?_
    have ha := recoverable_nonneg hb .available inviterId inviteeId
    rw [← hu] at ha ⊢
    simp only [recoveredBalance,hz]
    omega

end Steps

section Risk
variable {db : AffiliateDB} {u : Int}

theorem frozen_setRisk (db : AffiliateDB) (userId : Int) (risk : AffiliateRiskUser) (u : Int) :
    queryAffiliateUserAssetsFrozenTx (setRisk db userId risk) u =
      if u=userId then decide (u>0) && decide (risk.status=.active) && risk.freezeAssets
      else queryAffiliateUserAssetsFrozenTx db u := by
  unfold queryAffiliateUserAssetsFrozenTx setRisk
  by_cases hu : u=userId
  · simp [hu]
  · simp [hu]

theorem Sealed.setRisk (h : Sealed db u) {userId : Int} {risk : AffiliateRiskUser}
    (hrisk : u=userId → decide (u>0)=true → risk.status=.active → risk.freezeAssets=true →
      (db.balance u).availableQuota=0) : Sealed (setRisk db userId risk) u := by
  intro hf
  rw [(sameLedger_setRisk db userId risk).balance]
  rw [frozen_setRisk] at hf
  split at hf
  · simp only [Bool.and_eq_true,decide_eq_true_eq] at hf
    exact hrisk ‹_› (decide_eq_true hf.1.1) hf.1.2 hf.2
  · exact h hf

theorem getOrCreate_seals (h : ∀ u, Sealed db u) (userId : Int) :
    (∀ u, Sealed (getOrCreateActiveAffiliateRiskUserTx db userId).1 u) ∧
      (0<userId → (getOrCreateActiveAffiliateRiskUserTx db userId).2.freezeAssets=true →
        (db.balance userId).availableQuota=0) := by
  unfold getOrCreateActiveAffiliateRiskUserTx
  cases hrisk : db.risks userId with
  | none =>
    refine ⟨fun u => ?_,fun _ hf => nomatch hf⟩
    have hnew : Sealed (setRisk db userId { id := db.nextRiskId }) u := (h u).setRisk fun _ _ _ hf => nomatch hf
    exact hnew.of_balance rfl rfl
  | some risk =>
    by_cases hactive : risk.status=.active
    · simp only [if_pos hactive]
      refine ⟨h,fun hpos hf => h userId ?_⟩
      simp [queryAffiliateUserAssetsFrozenTx,hrisk,hpos,hactive,hf]
    · simp only [if_neg hactive]
      refine ⟨fun u => (h u).setRisk fun _ _ _ hf => ?_,fun _ hf => ?_⟩
      · cases hf
      · cases hf

theorem detach_risks (db : AffiliateDB) (riskUserId userId : Int) :
    (detachAffiliateInviteesTx db riskUserId userId).1.risks=db.risks := by
  unfold detachAffiliateInviteesTx
  simp only
  split <;> rfl

theorem restoreLoop_risks (userId now : Int) (rows : List AffiliateRiskDetachedInvitee) (db : AffiliateDB) (n : Int) :
    (restoreLoop userId now rows db n).1.risks=db.risks := by
  induction rows generalizing db n with
  | nil => rfl
  | cons row rows ih =>
    unfold restoreLoop
    split
    · split
      · exact ih db n
      · exact ih _ _
    · exact ih db n

theorem restore_risks (db : AffiliateDB) (riskUserId userId now : Int) :
    (restoreAffiliateDetachedInviteesTx db riskUserId userId now).risks=db.risks := by
  unfold restoreAffiliateDetachedInviteesTx
  have hloop := restoreLoop_risks userId now (db.unrestored riskUserId userId) db 0
  simp only
  split
  · exact hloop
  · exact hloop

theorem apply_seals (hb : Books (fun _ => 0) db) (h : ∀ u, Sealed db u) (userId adminId : Int)
    (req : AffiliateRiskApplyRequest) (now : Int) : Seals (applyAffiliateRiskAction db userId adminId req now) := by
  unfold applyAffiliateRiskAction
  refine Ensures.guard nofun fun hid => Ensures.guard nofun fun _ => ?_
  refine Ensures.guard nofun fun _ => Ensures.guard nofun fun _ => ?_
  have hget := sameLedger_getOrCreate db userId
  obtain ⟨hseal,hfree⟩ := getOrCreate_seals h userId
  rw [← hget.balance] at hfree
  have hbooks := hget.books hb
  set p := getOrCreateActiveAffiliateRiskUserTx db userId
  obtain ⟨db0,risk⟩ := p
  simp only at hseal hfree hbooks ⊢
  set risk' : AffiliateRiskUser := { risk with
    freezeAssets := risk.freezeAssets || req.freezeAssets
    blockInviteCode := risk.blockInviteCode || req.blockInviteCode
    reason := GoStrings.trimSpace req.reason
    adminId := adminId } with hrisk'
  have hset : Books (fun _ => 0) (setRisk db0 userId risk') := (sameLedger_setRisk db0 userId risk').books hbooks
  have hother : ∀ v, v≠userId → Sealed (setRisk db0 userId risk') v :=
    fun v hv => (hseal v).setRisk fun hc => absurd hc hv
  -- the row already asks for the freeze while the assets are being frozen
  refine Ensures.bind (P := fun t => Books (fun _ => 0) t ∧ (∀ v, Sealed t v) ∧
    (risk'.freezeAssets=true → (t.balance userId).availableQuota=0)) ?_ fun db1 h1 => ?_
  · refine Ensures.ite (fun _ => ?_) fun hno => ⟨hset,fun v => ?_,fun hf => ?_⟩
    · refine (freeze_effect hset userId).mono fun t hw => ⟨freeze_books hset hw,fun v => ?_,fun _ => ?_⟩
      · exact frozenBalance_seals hw (hother v)
      rw [hw.balance,if_pos rfl]
      rfl
    · refine (hseal v).setRisk fun hv _ _ hf => ?_
      rw [hv]
      exact hfree (Int.not_le.mp hid) (by simpa [hrisk',hno] using hf)
    · exact hfree (Int.not_le.mp hid) (by simpa [hrisk',hno] using hf)
  obtain ⟨hb1,hs1,hz1⟩ := h1
  have hclear : ∀ p : AffiliateDB×AffiliateRiskUser, (Books (fun _ => 0) p.1 ∧ (∀ v, Sealed p.1 v) ∧
      (p.2.freezeAssets=true → (p.1.balance userId).availableQuota=0)) →
      Seals (if req.clearAssets=true then
        (clearAffiliateAssetsTx p.1 userId adminId now).bind fun q =>
          .ok (setRisk q.1 userId { p.2 with clearedQuota := p.2.clearedQuota+q.2 })
      else .ok p.1) := by
    rintro ⟨db2,risk2⟩ ⟨hb2,hs2,hz2⟩
    refine Ensures.ite (fun _ => ?_) fun _ => hs2
    refine (clear_effect hb2 userId adminId now).bind fun q hq v => ?_
    have hsq : Sealed q.1 v := by
      obtain ⟨hs,-,-⟩ | ⟨-,-,hw⟩ := hq
      · exact hs.sealed (hs2 v)
      · exact hw.sealed (hs2 v) fun _ _ _ => rfl
    refine hsq.setRisk fun hv _ _ hf => ?_
    obtain ⟨hs,-,-⟩ | ⟨-,-,hw⟩ := hq
    · rw [hs.balance,hv]
      exact hz2 hf
    · rw [hw.balance,if_pos hv]
      rfl
  have hd := sameLedger_detach db1 risk'.id userId
  have hsd : ∀ v, Sealed (detachAffiliateInviteesTx db1 risk'.id userId).1 v :=
    fun v => hd.sealed (congrFun (detach_risks db1 risk'.id userId) v) (hs1 v)
  have hzd : risk'.freezeAssets=true →
      ((detachAffiliateInviteesTx db1 risk'.id userId).1.balance userId).availableQuota=0 := by
    rw [hd.balance]
    exact hz1
  refine hclear _ ?_
  split
  · split
    · refine ⟨(sameLedger_setRisk _ userId _).books (hd.books hb1),fun v => ?_,fun hf => ?_⟩
      · refine (hsd v).setRisk fun hv _ _ hf => ?_
        rw [hv]
        exact hzd hf
      · rw [(sameLedger_setRisk _ userId _).balance]
        exact hzd hf
    · exact ⟨hd.books hb1,hsd,hzd⟩
  · exact ⟨hb1,hs1,hz1⟩

theorem remove_seals (hb : Books (fun _ => 0) db) (h : ∀ u, Sealed db u) (userId adminId : Int) (restore : Bool)
    (remark : String) (now : Int) : Seals (removeAffiliateRiskAction db userId adminId restore remark now) := by
  unfold removeAffiliateRiskAction
  cases db.risks userId with
  | none => exact fun i => nofun
  | some risk =>
    refine Ensures.guard nofun fun _ => ?_
    refine Ensures.bind (P := fun t => ∀ v, v≠userId → Sealed t v) ?_ fun db1 h1 v => ?_
    · refine Ensures.ite (fun _ => ?_) fun _ v _ => h v
      exact (unfreeze_effect hb userId).mono fun t hw v hv => hw.sealed (h v) fun hc => absurd hc hv
    · intro hf
      rw [frozen_setRisk] at hf
      by_cases hv : v=userId
      · simp [hv] at hf
      rw [if_neg hv] at hf
      rw [(sameLedger_setRisk _ userId _).balance]
      refine (?_ : Sealed _ v) hf
      split
      · exact (sameLedger_restore db1 risk.id userId now).sealed (congrFun (restore_risks db1 risk.id userId now) v) (h1 v hv)
      · exact h1 v hv

theorem unbindRelationship_seals (hb : Books (fun _ => 0) db) (h : ∀ u, Sealed db u) (alertId adminId : Int)
    (doClawback : Bool) (now : Int) : Seals (unbindAffiliateRelationship db alertId adminId doClawback now) :=
  unbindRelationship_ensures (P := fun t => ∀ v, Sealed t v) h (fun _ => nofun) alertId adminId doClawback now
    (fun inviter invitee => clawback_seals hb h inviter invitee now)
    (fun t x _ ht _ v => ((sameLedger_setInviter t x 0).trans (sameLedger_decrement _ _)).sealed rfl (ht v))
    fun _ _ ht v => (ht v).of_balance rfl rfl

theorem bind_seals (h : ∀ u, Sealed db u) (userId : Int) (affCode : String) (force : Bool) :
    Ensures (fun db' => ∀ u, Sealed db' u) (fun _ => True) (bindUserInviterByAffCode db userId affCode force) := by
  unfold bindUserInviterByAffCode
  refine Ensures.guard trivial fun _ => ?_
  cases db.user? userId with
  | none => trivial
  | some invitee =>
    refine Ensures.bind (P := fun _ => True) ?_ fun inviter _ => ?_
    · cases findAffiliateInviterByAffCodeTx db affCode <;> trivial
    refine Ensures.guard trivial fun _ => Ensures.ite (fun _ => h) fun _ => ?_
    refine Ensures.guard trivial fun _ => Ensures.bind (P := fun _ => True) ?_ fun _ _ v => ?_
    · cases ensureNoAffiliateInviteCycleTx db invitee.id inviter.id <;> trivial
    refine SameLedger.sealed ?_ ?_ (h v)
    · refine ((sameLedger_setInviter db invitee.id inviter.id).trans ?_).trans (sameLedger_addCount _ _ 1)
      split
      · exact sameLedger_decrement _ _
      · exact SameLedger.refl _
    · split <;> rfl

theorem unbind_seals (h : ∀ u, Sealed db u) (userId : Int) : Seals (unbindUserInviter db userId) := by
  unfold unbindUserInviter
  cases db.user? userId with
  | none => exact fun i => nofun
  | some invitee =>
    refine Ensures.ite (fun _ => h) fun _ v => ?_
    exact ((sameLedger_setInviter db _ 0).trans (sameLedger_decrement _ _)).sealed rfl (h v)

end Risk

section Runs
variable {db : AffiliateDB}

theorem transact_seals (h : ∀ u, Sealed db u) {E : AffiliateError → Prop} {out : Except AffiliateError AffiliateDB}
    (ho : Ensures (fun db' => ∀ u, Sealed db' u) E out) (u : Int) : Sealed (transact db out).1 u := by
  cases out with
  | ok db' => exact ho u
  | error e => exact h u

theorem settleThen_seals (hb : Books (fun _ => 0) db) (h : ∀ u, Sealed db u) {userId now : Int}
    {main : AffiliateDB → Except AffiliateError AffiliateDB}
    (hmain : ∀ t, Books (fun _ => 0) t → (∀ u, Sealed t u) → Seals (main t)) (u : Int) :
    Sealed (settleThen db userId now main).1 u := by
  have hkeep := settle_keeps hb userId now
  have hseal := settle_seals hb h userId now
  unfold settleThen
  cases hs : settleMatureAffiliateRecordsTx db userId now with
  | error e => exact h u
  | ok t =>
    rw [hs] at hkeep hseal
    exact transact_seals hseal (hmain t hkeep hseal) u

/-- One call keeps the freeze, unless it rejects a withdrawal against it. The release of frozen assets is no
call of its own: it belongs to the removal of the risk row. -/
theorem step_sealed (hb : Books (fun _ => 0) db) (h : ∀ u, Sealed db u) {op : Op}
    (hop : ∀ u, op≠.unfreezeAffiliateAssets u) (hok : rejectsFrozen db op=false) (u : Int) : Sealed (step db op) u := by
  cases op with
  | createAffiliateRewardRecord => exact transact_seals h (createReward_seals hb h _ _ _ _ _ _ _ _ _) u
  | settleMatureAffiliateRecords => exact transact_seals h (settle_seals hb h _ _) u
  | createAffiliateWithdrawalWithPayout userId req now =>
    unfold step exec
    simp only
    split
    · exact h u
    · exact settleThen_seals hb h (fun t ht hs => withdraw_seals ht hs userId _ req) u
  | updateAffiliateWithdrawalStatus => exact transact_seals h (status_seals hb h hok) u
  | transferAffiliateQuotaToBalance userId quota now =>
    unfold step exec
    simp only
    split
    · exact h u
    · exact settleThen_seals hb h (fun t ht hs => transfer_seals ht hs userId quota) u
  | freezeAffiliateAssets userId =>
    exact transact_seals h ((freeze_effect hb userId).mono fun _ hw v => frozenBalance_seals hw fun _ => h v) u
  | unfreezeAffiliateAssets userId => exact absurd rfl (hop userId)
  | clearAffiliateAssets => exact transact_seals h ((clear_seals hb h _ _ _).map fun _ hp => hp) u
  | clawbackEarnings => exact transact_seals h ((clawback_seals hb h _ _ _).map fun _ hp => hp) u
  | applyAffiliateRiskAction => exact transact_seals h (apply_seals hb h _ _ _ _) u
  | removeAffiliateRiskAction => exact transact_seals h (remove_seals hb h _ _ _ _ _) u
  | unbindAffiliateRelationship => exact transact_seals h (unbindRelationship_seals hb h _ _ _ _) u
  | bindUserInviterByAffCode => exact transact_seals h (bind_seals h _ _ _) u
  | unbindUserInviter => exact transact_seals h (unbind_seals h _) u

end Runs

/-- Over every run from empty balances in which no call rejects an open withdrawal of a frozen user: while the risk row
of a user freezes the assets, nothing is available. -/
theorem frozen_assets_stay_frozen {db : AffiliateDB} (h : Empty db) {ops : List Op}
    (hops : ∀ op∈ops, ∀ u, op≠.unfreezeAffiliateAssets u)
    (hok : Guarded step (fun db op => rejectsFrozen db op=false) ops db) {u : Int}
    (hfrozen : queryAffiliateUserAssetsFrozenTx (run step ops db) u=true) : ((run step ops db).balance u).availableQuota=0 ∧
      ((run step ops db).balance u).riskFrozenQuota =
        ((run step ops db).balance u).totalQuota-((run step ops db).balance u).pendingQuota -
          ((run step ops db).balance u).frozenQuota-((run step ops db).balance u).withdrawnQuota -
          ((run step ops db).balance u).transferredQuota := by
  have hinv : Books (fun _ => 0) (run step ops db) ∧ ∀ v, Sealed (run step ops db) v := by
    have hstart : Books (fun _ => 0) db ∧ ∀ v, Sealed db v :=
      ⟨h.books,fun v _ => by rw [h.balance]⟩
    clear h hfrozen
    induction ops generalizing db with
    | nil => exact hstart
    | cons op ops ih =>
      exact ih (fun o ho => hops o (List.mem_cons_of_mem _ ho)) hok.2
        ⟨(exec_kept hstart.1 op).books,step_sealed hstart.1 hstart.2 (hops op List.mem_cons_self) hok.1⟩
  have hz := hinv.2 u hfrozen
  have ht := (hinv.1.book u).total
  refine ⟨hz,?_⟩
  omega

def frozenAfterWithdrawal : List Op :=
  [.createAffiliateRewardRecord 1 2 1 .topup "t1" 1000 10 0 60,.settleMatureAffiliateRecords 0 60,
    .createAffiliateWithdrawalWithPayout 1 { quota := 40, account := { usdtAddress := "x" } } 60,
    .applyAffiliateRiskAction 1 9 { freezeAssets := true } 61]

theorem frozen_assets_stay_frozen_paid : queryAffiliateUserAssetsFrozenTx
        (run step (frozenAfterWithdrawal++[.updateAffiliateWithdrawalStatus 1 9 "ok" .paid 62]) newcomers) 1=true ∧
      ((run step (frozenAfterWithdrawal++[.updateAffiliateWithdrawalStatus 1 9 "ok" .paid 62]) newcomers).balance
        1).riskFrozenQuota=60 ∧
      ((run step (frozenAfterWithdrawal++[.updateAffiliateWithdrawalStatus 1 9 "ok" .paid 62]) newcomers).balance
        1).availableQuota=0 :=
  ⟨by decide +kernel,by decide +kernel,
    (frozen_assets_stay_frozen newcomers_empty (by simp [frozenAfterWithdrawal]) (by decide +kernel) (by decide +kernel)).1⟩

theorem frozen_assets_released_by_rejection : Empty newcomers ∧ queryAffiliateUserAssetsFrozenTx
        (run step (frozenAfterWithdrawal++[.updateAffiliateWithdrawalStatus 1 9 "no" .rejected 62]) newcomers) 1=true ∧
      ((run step (frozenAfterWithdrawal++[.updateAffiliateWithdrawalStatus 1 9 "no" .rejected 62]) newcomers).balance
        1).availableQuota=40 :=
  ⟨newcomers_empty,by decide +kernel,by decide +kernel⟩

end NewApi.Affiliate

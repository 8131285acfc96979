import NewApi.Billing.Charge

/-! The wallet and the subscription as accounts of a session, the opening of a session over each of
them, and the charge after every run of its calls. -/
namespace NewApi.Billing
open Option Bool Funding Subscription BillingSession GoStrings Runs

variable {addDate : AddDate} {now : Int} {s : BillingSession} {down : Bool} {f : Call World} {w : World} {err : Option FundingError}

theorem refundAll_parts {s' : BillingSession} {faults : Faults} {logs : List RefundLog}
    (h : refundAll addDate now s faults=(s',logs)) :
    ∃ s1 errs s2 extraErr, s.fundingRefund addDate now faults.funding=(s1,errs) ∧
      (s1.extraReserved>0 ∧ s1.kind=.subscription ∧ s1.world.subscription.subscriptionId>0 ∧
          s1.call faults.undo (postConsumeSubscription (-s1.extraReserved))=(s2,extraErr) ∨
        ¬ (s1.extraReserved>0 ∧ s1.kind=.subscription ∧ s1.world.subscription.subscriptionId>0) ∧ s2=s1 ∧ extraErr=none) ∧
      Tokened s2 s' ∧ (.billingSource∈logs ↔ errs≠[]) ∧ (.extraReserved∈logs ↔ extraErr.isSome=true) := by
  unfold refundAll at h
  rcases hfunding : s.fundingRefund addDate now faults.funding with ⟨s1,errs⟩
  simp only [hfunding] at h
  rcases hextra : (if s1.extraReserved>0 ∧ s1.kind=.subscription ∧ s1.world.subscription.subscriptionId>0
      then s1.call faults.undo (postConsumeSubscription (-s1.extraReserved)) else (s1,none)) with ⟨s2,extraErr⟩
  simp only [hextra] at h
  rcases htoken : (if s2.tokenConsumed>0 ∧ s2.usesTokenQuota=true
      then s2.call faults.token (increaseTokenQuota s2.tokenConsumed) else (s2,none)) with ⟨s3,tokenErr⟩
  simp only [htoken,Prod.mk.injEq] at h
  obtain ⟨rfl,rfl⟩ := h
  refine ⟨s1,errs,s2,extraErr,rfl,?_,?_,?_,?_⟩
  · split at hextra
    next hcond =>
      exact Or.inl ⟨hcond.1,hcond.2.1,hcond.2.2,hextra⟩
    next hcond =>
      cases hextra
      exact Or.inr ⟨hcond,rfl,rfl⟩
  · split at htoken
    · have htokened := call_tokened_of (s := s2) faults.token _ fun w => increaseTokenQuota_token s2.tokenConsumed w
      rw [htoken] at htokened
      exact htokened
    · cases htoken
      exact Or.inl rfl
  · cases errs <;> cases extraErr <;> cases tokenErr <;> simp
  · cases errs <;> cases extraErr <;> cases tokenErr <;> simp

theorem call_eq
    (hf : f { s.world with down := down }=(w,err)) :
    s.call down f=(s.withWorld { w with down := false },err) := by
  simp only [BillingSession.call,hf]

theorem single_call
    (hf : f { s.world with down := down }=(w,err)) :
    single (s.call down f)=(s.withWorld { w with down := false },err.toList) := by
  rw [call_eq hf,BillingSession.single]

theorem fundingRefund_wallet (hk : s.kind=.wallet) (down : Bool) :
    s.fundingRefund addDate now down=single (s.call down WalletFunding.refund) := by
  simp only [BillingSession.fundingRefund,hk]

theorem fundingRefund_subscription (hk : s.kind=.subscription) (down : Bool) :
    s.fundingRefund addDate now down=single (s.call down SubscriptionFunding.refund) := by
  simp only [BillingSession.fundingRefund,hk]

theorem wallet_refund {w w' : World} {err : Option FundingError} (hpos : 0≤w.purse.consumed)
    (h : WalletFunding.refund w=(w',err)) : w'.wallet=w.wallet + if err.isSome then 0 else w.purse.consumed := by
  unfold WalletFunding.refund increaseUserQuota at h
  split at h
  · cases h
    simp only [isSome_none,false_eq_true,if_false]
    omega
  rw [if_neg (by omega)] at h
  split at h
  · cases h
    simp
  · cases h
    rfl

def WalletAt (base : Int) (s : BillingSession) (c : Int) : Prop :=
  s.kind=.wallet ∧ s.world.wallet=base-c ∧ s.world.purse.consumed=c

def WalletCharged (base : Int) (w : World) (c : Int) : Prop := w.wallet=base-c

theorem walletAccount (addDate : AddDate) (base : Int) : Account addDate (WalletAt base) (WalletCharged base) id where
  tokened := by
    intro s s' c h htoken
    have hfunds := htoken.sameFunds
    exact ⟨htoken.sameState.kind.trans h.1,hfunds.wallet.trans h.2.1,by rw [hfunds.purse]; exact h.2.2⟩
  funds := fun h hfunds => hfunds.wallet.trans h
  reserved := fun h _ _ => h
  reserve := by
    intro s s' c now down delta errs h _ hpos hcall
    simp only [BillingSession.reserveFunding,h.1,BillingSession.single,BillingSession.call,decreaseUserQuota,
      if_neg (show ¬ delta<0 by omega)] at hcall
    cases down with
    | true =>
      simp only [if_true,Prod.mk.injEq] at hcall
      obtain ⟨rfl,rfl⟩ := hcall
      exact ⟨sameState_withWorld _,Or.inr ⟨rfl,h⟩⟩
    | false =>
      simp only [false_eq_true,if_false,Prod.mk.injEq] at hcall
      obtain ⟨rfl,rfl⟩ := hcall
      refine ⟨sameState_withWorld _,Or.inl ⟨rfl,⟨h.1,?_,?_⟩,Or.inr h.1⟩⟩
      · simp only [world_withWorld,h.2.1]
        omega
      · simp only [world_withWorld,h.2.2]
  rollback := by
    intro s s' c now down delta errs h hpos hle hcall
    simp only [BillingSession.rollbackFundingReserve,h.1,BillingSession.single,BillingSession.call,
      increaseUserQuota,if_neg (show ¬ delta<0 by omega)] at hcall
    cases down with
    | true =>
      simp only [if_true,Prod.mk.injEq] at hcall
      obtain ⟨rfl,rfl⟩ := hcall
      exact ⟨sameState_withWorld _,Or.inr ⟨rfl,h⟩⟩
    | false =>
      simp only [false_eq_true,if_false,Prod.mk.injEq] at hcall
      obtain ⟨rfl,rfl⟩ := hcall
      refine ⟨sameState_withWorld _,Or.inl ⟨rfl,h.1,?_,?_⟩⟩
      · simp only [world_withWorld,h.2.1]
        omega
      · simp only [world_withWorld,h.2.2]
  settle := by
    intro s s' c now down delta errs h _ hcall
    simp only [BillingSession.fundingSettle,h.1,BillingSession.single,BillingSession.call, Prod.mk.injEq] at hcall
    obtain ⟨rfl,rfl⟩ := hcall
    refine ⟨sameState_withWorld _,?_⟩
    simp only [WalletFunding.settle,decreaseUserQuota,increaseUserQuota]
    by_cases hzero : delta=0
    · exact Or.inl (by simp [hzero,WalletCharged,h.2.1])
    by_cases hup : delta>0
    · cases down with
      | true => exact Or.inr (by simp [hzero,hup,show ¬ delta<0 by omega,WalletAt,h.1,h.2.1,h.2.2])
      | false =>
        refine Or.inl ⟨by simp [hzero,hup,show ¬ delta<0 by omega],?_⟩
        simp only [hzero,hup,show ¬ delta<0 by omega,if_true,if_false,false_eq_true,WalletCharged, world_withWorld,h.2.1,id]
        omega
    · cases down with
      | true => exact Or.inr (by simp [hzero,hup,WalletAt,h.1,h.2.1,h.2.2])
      | false =>
        refine Or.inl ⟨by simp [hzero,hup],?_⟩
        simp only [hzero,hup,show ¬ -delta<0 by omega,if_false,false_eq_true,WalletCharged, world_withWorld,h.2.1,id]
        omega
  refund := by
    intro s s' c now faults logs h hpre hnonneg hcall
    obtain ⟨s1,errs,s2,extraErr,hfunding,hextra,htoken,hlog,-⟩ := refundAll_parts hcall
    rcases hrefund : WalletFunding.refund { s.world with down := faults.funding } with ⟨w,err⟩
    have hreturned := wallet_refund (h.2.2.symm ▸ hnonneg.trans hpre) hrefund
    rw [fundingRefund_wallet (s := { s with refunded := true }) h.1,
      single_call (s := { s with refunded := true }) hrefund,Prod.mk.injEq] at hfunding
    obtain ⟨rfl,rfl⟩ := hfunding
    obtain ⟨-,hkind,-⟩ | ⟨-,rfl,rfl⟩ := hextra
    · exact absurd (hkind.symm.trans h.1) (by simp)
    refine ⟨(sameState_withWorld _).trans htoken.sameState,?_⟩
    have hwallet := htoken.sameFunds.wallet
    simp only [world_withWorld] at hwallet
    rw [WalletCharged,hwallet,hreturned,h.2.1,h.2.2]
    cases err with
    | none =>
      have hno : RefundLog.billingSource∉logs := fun hmem => hlog.mp hmem rfl
      simp only [kept,h.1,if_true,hno,if_false,isSome_none,false_eq_true,id]
      omega
    | some err =>
      have hyes : RefundLog.billingSource∈logs := hlog.mpr (by simp)
      simp only [kept,h.1,if_true,hyes,isSome_some,id]
      omega
  whole := by
    intro s c logs h hno _
    simp only [kept,h.1,if_true,hno,if_false]

structure SubscriptionAt (id base : Int) (s : BillingSession) (c : Int) : Prop where
  kind : s.kind=.subscription
  bound : s.world.subscription.subscriptionId=id
  base_nonneg : 0≤base
  parts : s.preConsumedQuota=s.world.subscription.preConsumed+s.extraReserved
  positive : 0<s.world.subscription.preConsumed
  extra : 0 ≤ s.extraReserved ∧ (0<s.extraReserved → 0 < id)
  row : ∃ row, s.world.subs.sub? id=some row ∧ row.amountUsed=base+c
  named : isBlank s.world.subscription.requestId=false
  record : ∃ userId, s.world.subs.record? s.world.subscription.requestId =
    some ⟨s.world.subscription.requestId,userId,id,s.world.subscription.preConsumed,.consumed⟩

def SubscriptionCharged (id base : Int) (w : World) (c : Int) : Prop :=
  w.subscription.subscriptionId=id ∧ used w.subs id=base+c

theorem SubscriptionAt.same {id base c : Int} {s' : BillingSession} (h : SubscriptionAt id base s c)
    (hstate : SameState s s') (hfunds : SameFunds s.world s'.world) : SubscriptionAt id base s' c := by
  obtain ⟨hkind,hbound,hbase,hparts,hpos,hextra,hrow,hnamed,hrecord⟩ := h
  refine ⟨hstate.kind.trans hkind,?_,hbase,?_,?_,?_,?_,?_,?_⟩
  · rwa [hfunds.subscription]
  · rwa [hstate.preConsumedQuota,hfunds.subscription,hstate.extraReserved]
  · rwa [hfunds.subscription]
  · rwa [hstate.extraReserved]
  · rwa [hfunds.subs]
  · rwa [hfunds.subscription]
  · rwa [hfunds.subs,hfunds.subscription]

theorem post_cases {w w' : World} {delta : Int} {err : Option FundingError} {row : UserSubscription}
    (hrow : w.subs.sub? w.subscription.subscriptionId=some row) (hdelta : delta≠0)
    (h : postConsumeSubscription delta w=(w',err)) :
    w'=w ∧ err.isSome=true ∨ err=none ∧ 0<w.subscription.subscriptionId ∧ w'={ w with
        subs := w.subs.updateSub w.subscription.subscriptionId (·.withUsed (max 0 (row.amountUsed+delta))) } := by
  unfold postConsumeSubscription at h
  rw [if_neg hdelta] at h
  split at h
  · cases h
    exact Or.inl ⟨rfl,rfl⟩
  rename_i hid
  split at h
  · cases h
    exact Or.inl ⟨rfl,rfl⟩
  rw [postDelta_eq hrow (by omega) hdelta] at h
  split at h
  next subs hsubs =>
    cases h
    split at hsubs
    · cases hsubs
    · cases hsubs
      exact Or.inr ⟨rfl,by omega,rfl⟩
  · cases h
    exact Or.inl ⟨rfl,rfl⟩

theorem SubscriptionAt.moved {id base c c' : Int} (h : SubscriptionAt id base s c) {down : Bool} {row : UserSubscription}
    (hrow : s.world.subs.sub? id=some row) (hused : row.amountUsed+c'=base+(c+c')) (hpos : 0≤c+c') :
    SubscriptionAt id base (s.withWorld { { s.world with
      subs := s.world.subs.updateSub id (·.withUsed (max 0 (row.amountUsed+c'))) } with down := down }) (c+c') := by
  refine ⟨h.kind,h.bound,h.base_nonneg,h.parts,h.positive,h.extra,?_,h.named,h.record⟩
  refine ⟨row.withUsed (max 0 (row.amountUsed+c')),?_,?_⟩
  · simp only [world_withWorld]
    rw [sub?_withUsed,if_pos rfl,hrow]
    rfl
  · have hbase := h.base_nonneg
    simp only [UserSubscription.withUsed]
    omega

section
variable (hk : s.kind=.subscription)
include hk

theorem reserveFunding_subscription (down : Bool) (delta : Int) :
    s.reserveFunding addDate now down delta=single (s.call down (postConsumeSubscription delta)) := by
  simp only [BillingSession.reserveFunding,hk]

theorem fundingSettle_subscription (down : Bool) (delta : Int) :
    s.fundingSettle addDate now down delta=single (s.call down (SubscriptionFunding.settle delta)) := by
  simp only [BillingSession.fundingSettle,hk]

theorem rollback_subscription (down : Bool) (delta : Int) :
    s.rollbackFundingReserve addDate now down delta=single (s.call down (postConsumeSubscription (-delta))) := by
  simp only [BillingSession.rollbackFundingReserve,hk]

end

theorem SubscriptionAt.post {id base c delta : Int} (h : SubscriptionAt id base s c) {down : Bool}
    {s' : BillingSession} {errs : Errors} (hdelta : delta≠0) (hpos : 0≤c+delta)
    (hcall : single (s.call down (postConsumeSubscription delta))=(s',errs)) :
    SameState s s' ∧ (errs=[] ∧ SubscriptionAt id base s' (c+delta) ∧ 0 < id ∨ errs.length=1 ∧ SubscriptionAt id base s' c) := by
  obtain ⟨row,hrow,hused⟩ := h.row
  rcases hpost : postConsumeSubscription delta { s.world with down := down } with ⟨w,err⟩
  rw [single_call hpost,Prod.mk.injEq] at hcall
  obtain ⟨rfl,rfl⟩ := hcall
  refine ⟨sameState_withWorld _,?_⟩
  have hbound := h.bound
  rcases post_cases (by rw [hbound]; exact hrow) hdelta hpost with ⟨rfl,herr⟩ | ⟨rfl,hid,rfl⟩
  · obtain ⟨e,rfl⟩ := isSome_iff_exists.mp herr
    exact Or.inr ⟨rfl,h.same (sameState_withWorld _) ⟨rfl,rfl,rfl,rfl⟩⟩
  · simp only [hbound] at hid ⊢
    exact Or.inl ⟨rfl,h.moved hrow (by omega) hpos,hid⟩

theorem SubscriptionAt.refund {id base c : Int} (h : SubscriptionAt id base s c) {down : Bool} {w : World}
    {err : Option FundingError}
    (hcall : SubscriptionFunding.refund { s.world with down := down }=(w,err)) :
    w.subscription=s.world.subscription ∧ ∃ row, w.subs.sub? id=some row ∧ (err.isSome=true ∧ row.amountUsed=base+c ∨
        err=none ∧ row.amountUsed=max 0 (base+c-s.world.subscription.preConsumed)) := by
  obtain ⟨row,hrow,hused⟩ := h.row
  obtain ⟨userId,hrecord⟩ := h.record
  have hpos := h.positive
  unfold SubscriptionFunding.refund at hcall
  rw [if_neg (by simp only; omega)] at hcall
  split at hcall
  · cases hcall
    exact ⟨rfl,row,hrow,Or.inl ⟨rfl,hused⟩⟩
  rcases refund_cases h.named hrecord hpos hrow with ⟨e,hrefund⟩ | hrefund
  · simp only [hrefund,Prod.mk.injEq] at hcall
    obtain ⟨rfl,rfl⟩ := hcall
    exact ⟨rfl,row,hrow,Or.inl ⟨rfl,hused⟩⟩
  · simp only [hrefund,Prod.mk.injEq] at hcall
    obtain ⟨rfl,rfl⟩ := hcall
    refine ⟨rfl,row.withUsed _,?_,Or.inr ⟨rfl,rfl⟩⟩
    rw [← hused]
    simp only [sub?_refundedTables,sub?_withUsed,if_true,hrow,map_some]

theorem subscriptionAccount (addDate : AddDate) (id base : Int) :
    Account addDate (SubscriptionAt id base) (SubscriptionCharged id base) fun c => max c (-base) where
  tokened := fun h htoken => h.same htoken.sameState htoken.sameFunds
  funds := by
    intro w w' c h hfunds
    rw [SubscriptionCharged,hfunds.subscription,hfunds.subs]
    exact h
  reserved := by
    intro s c now delta h hpos hpaid
    have hid : 0 < id := by
      obtain hid | hwallet := hpaid
      · rwa [h.bound] at hid
      · exact absurd (hwallet.symm.trans h.kind) (by simp)
    have hparts := h.parts
    have hextra := h.extra
    refine ⟨h.kind,h.bound,h.base_nonneg,?_,h.positive,⟨?_,fun _ => hid⟩,h.row,h.named,h.record⟩
    · simp only [BillingSession.reserved,h.kind,reduceCtorEq,if_false]
      change s.preConsumedQuota+delta=s.world.subscription.preConsumed+(s.extraReserved+delta)
      omega
    · simp only [BillingSession.reserved,h.kind,reduceCtorEq,if_false]
      omega
  reserve := by
    intro s s' c now down delta errs h hc hpos hcall
    rw [reserveFunding_subscription h.kind] at hcall
    obtain ⟨hstate,hcase⟩ := h.post (by omega) (by omega) hcall
    refine ⟨hstate,?_⟩
    obtain ⟨rfl,hat,hid⟩ | hfail := hcase
    · exact Or.inl ⟨rfl,hat,Or.inl (by rwa [hat.bound])⟩
    · exact Or.inr hfail
  rollback := by
    intro s s' c now down delta errs h hpos hle hcall
    rw [rollback_subscription h.kind] at hcall
    obtain ⟨hstate,hcase⟩ := h.post (by omega) (by omega) hcall
    refine ⟨hstate,?_⟩
    obtain ⟨rfl,hat,-⟩ | hfail := hcase
    · exact Or.inl ⟨rfl,hat⟩
    · exact Or.inr hfail
  settle := by
    intro s s' c now down delta errs h hc hcall
    obtain ⟨row,hrow,hused⟩ := h.row
    have hbase := h.base_nonneg
    have hbound := h.bound
    rw [fundingSettle_subscription h.kind] at hcall
    rcases hsettle : SubscriptionFunding.settle delta { s.world with down := down } with ⟨w,err⟩
    rw [single_call hsettle,Prod.mk.injEq] at hcall
    obtain ⟨rfl,rfl⟩ := hcall
    refine ⟨sameState_withWorld _,?_⟩
    unfold SubscriptionFunding.settle at hsettle
    by_cases hzero : delta=0
    · rw [if_pos hzero] at hsettle
      cases hsettle
      refine Or.inl ⟨rfl,hbound,?_⟩
      simp only [world_withWorld,used_eq hrow]
      omega
    · rw [if_neg hzero] at hsettle
      rcases post_cases (by rw [hbound]; exact hrow) hzero hsettle with ⟨rfl,herr⟩ | ⟨rfl,hid,rfl⟩
      · obtain ⟨e,rfl⟩ := isSome_iff_exists.mp herr
        exact Or.inr ⟨by simp,h.same (sameState_withWorld _) ⟨rfl,rfl,rfl,rfl⟩⟩
      · refine Or.inl ⟨rfl,hbound,?_⟩
        simp only [world_withWorld,hbound]
        rw [used_withUsed hrow,if_pos rfl]
        omega
  refund := by
    intro s s' c now faults logs h hpre hnonneg hcall
    obtain ⟨s1,errs,s2,extraErr,hfunding,hextra,htoken,hlog,hlogx⟩ := refundAll_parts hcall
    rcases hrefund : SubscriptionFunding.refund { s.world with down := faults.funding } with ⟨w,err⟩
    rw [fundingRefund_subscription (s := { s with refunded := true }) h.kind,
      single_call (s := { s with refunded := true }) hrefund,Prod.mk.injEq] at hfunding
    obtain ⟨rfl,rfl⟩ := hfunding
    obtain ⟨hsame,row,hrow,hused⟩ := h.refund hrefund
    have hbase := h.base_nonneg
    have hparts := h.parts
    have hpos := h.positive
    have hextra0 := h.extra
    have hbound : w.subscription.subscriptionId=id := by rw [hsame,h.bound]
    have hused1 : row.amountUsed=base+c - if .billingSource∈logs then 0
        else s.world.subscription.preConsumed := by
      obtain ⟨herr,hu⟩ | ⟨rfl,hu⟩ := hused
      · obtain ⟨e,rfl⟩ := isSome_iff_exists.mp herr
        rw [if_pos (hlog.mpr (by simp)),hu]
        omega
      · rw [if_neg (fun hmem => hlog.mp hmem rfl),hu]
        omega
    have hkept : kept s c logs=c-(if .billingSource∈logs then 0 else s.world.subscription.preConsumed) -
        (if .extraReserved∈logs then 0 else s.extraReserved) := by
      simp only [kept,h.kind,reduceCtorEq,if_false]
    have hkept_nonneg : 0≤kept s c logs := by
      rw [hkept]
      split <;> split <;> omega
    suffices hfinal : SameState { s with refunded := true } s2 ∧ s2.world.subscription.subscriptionId=id ∧
        used s2.world.subs id=base+kept s c logs by
      obtain ⟨hstate,hid,hcharge⟩ := hfinal
      have hfunds := htoken.sameFunds
      refine ⟨hstate.trans htoken.sameState,by rwa [hfunds.subscription],?_⟩
      rw [hfunds.subs,hcharge]
      omega
    obtain ⟨hsome,-,-,hpost⟩ | ⟨hnone,rfl,rfl⟩ := hextra
    · have hsome' : 0<s.extraReserved := hsome
      rcases hmove : postConsumeSubscription (-s.extraReserved) { w with down := faults.undo } with ⟨w',err'⟩
      have hcalled := (call_eq (s := { s with refunded := true }.withWorld { w with down := false }) hmove).symm.trans hpost
      rw [Prod.mk.injEq] at hcalled
      obtain ⟨rfl,rfl⟩ := hcalled
      rcases post_cases (by simp only [hbound]; exact hrow) (by omega) hmove with ⟨rfl,herr⟩ | ⟨rfl,-,rfl⟩
      · refine ⟨sameState_withWorld _,hbound,?_⟩
        simp only [world_withWorld,used_eq hrow,hused1,hkept,if_pos (hlogx.mpr herr)]
        omega
      · have hno : RefundLog.extraReserved∉logs := fun hmem => by simpa using hlogx.mp hmem
        refine ⟨sameState_withWorld _,hbound,?_⟩
        simp only [world_withWorld,hbound]
        rw [used_withUsed hrow,if_pos rfl,hkept,if_neg hno]
        split at hused1 <;> rename_i hbs
        · rw [if_pos hbs]
          omega
        · rw [if_neg hbs]
          omega
    · refine ⟨sameState_withWorld _,hbound,?_⟩
      have hzero : s.extraReserved=0 := by
        by_contra hne
        refine hnone ⟨?_,h.kind,?_⟩
        · change s.extraReserved>0
          omega
        · simp only [world_withWorld,hbound]
          exact hextra0.2 (by omega)
      have hno : RefundLog.extraReserved∉logs := fun hmem => by simpa using hlogx.mp hmem
      simp only [world_withWorld,used_eq hrow,hused1,hkept,if_neg hno,hzero]
      omega
  whole := by
    intro s c logs h hno hnox
    have hparts := h.parts
    simp only [kept,h.kind,reduceCtorEq,if_false,hno,hnox]
    omega

def SameBooks (w w' : World) : Prop := w'.wallet=w.wallet ∧ w'.subs=w.subs

theorem SameFunds.books {w w' : World} (h : SameFunds w w') : SameBooks w w' := ⟨h.wallet,h.subs⟩

theorem SameBooks.trans {w w' w'' : World} (h : SameBooks w w') (h' : SameBooks w' w'') : SameBooks w w'' :=
  ⟨h'.1.trans h.1,h'.2.trans h.2⟩

structure Ready (s s₁ : BillingSession) : Prop where
  kind : s₁.kind=s.kind
  extraReserved : s₁.extraReserved=s.extraReserved
  fundingSettled : s₁.fundingSettled=s.fundingSettled
  settled : s₁.settled=s.settled
  refunded : s₁.refunded=s.refunded
  funds : SameFunds s.world s₁.world

theorem takeToken_ready (down : Bool) (quota : Int) : Ready s (s.takeToken down quota).1 := by
  unfold takeToken
  split
  · have htokened := preConsumeTokenQuota_tokened (s := s) down quota
    rcases htoken : s.preConsumeTokenQuota down quota with ⟨s1,_ | err⟩
    all_goals
      rw [htoken] at htokened
      have hstate := htokened.sameState
      exact ⟨hstate.kind,hstate.extraReserved,hstate.fundingSettled,hstate.settled,hstate.refunded, htokened.sameFunds⟩
  · exact ⟨rfl,rfl,rfl,rfl,rfl,SameFunds.refl _⟩

theorem returnToken_funds (down : Bool) : SameFunds s.world (s.returnToken down).1.world := by
  unfold returnToken
  split
  · exact (call_tokened_of (s := s) down _ fun w => increaseTokenQuota_token s.tokenConsumed w).sameFunds
  · exact SameFunds.refl _

theorem preConsume_cases (addDate : AddDate) (now quota : Int) (faults : Faults) :
    (∃ s' code, s.preConsume addDate now quota faults=(s',some code) ∧ SameFunds s.world s'.world) ∨
      ∃ s1 s2 errs, Ready s s1 ∧ s1.fundingPreConsume addDate now faults.funding (s.effectiveQuota quota)=(s2,errs) ∧
        (errs=[] ∧ s.preConsume addDate now quota faults = ({ s2 with preConsumedQuota := s.effectiveQuota quota },none) ∨
          errs≠[] ∧ ∃ s' code, s.preConsume addDate now quota faults=(s',some code) ∧ SameFunds s2.world s'.world) := by
  unfold BillingSession.preConsume
  have hready := takeToken_ready (s := { s with trusted := s.shouldTrust }) faults.token (s.effectiveQuota quota)
  rcases htoken : { s with trusted := s.shouldTrust }.takeToken faults.token (s.effectiveQuota quota) with
    ⟨s1,_ | err⟩
  · rw [htoken] at hready
    have hready' : Ready s s1 :=
      ⟨hready.kind,hready.extraReserved,hready.fundingSettled,hready.settled,hready.refunded,hready.funds⟩
    rcases hfunding : s1.fundingPreConsume addDate now faults.funding (s.effectiveQuota quota) with
      ⟨s2,_ | ⟨err,errs⟩⟩
    · exact Or.inr ⟨s1,s2,[],hready',hfunding,Or.inl ⟨rfl,by simp only [htoken,hfunding]⟩⟩
    refine Or.inr ⟨s1,s2,err::errs,hready',hfunding,Or.inr ⟨by simp,(s2.returnToken faults.undo).1,
      apiErrorCode (err::errs++(s2.returnToken faults.undo).2.toList),?_,returnToken_funds _⟩⟩
    simp only [htoken,hfunding]
  · rw [htoken] at hready
    exact Or.inl ⟨s1,.preConsumeTokenQuotaFailed,by simp only [htoken],hready.funds⟩

theorem tryReserveUserQuota_cases {amount : Int} (hpos : 0<amount) (w : World) :
    (∃ err, tryReserveUserQuota amount w=(w,some err)) ∨
      tryReserveUserQuota amount w=({ w with wallet := w.wallet-amount },none) := by
  unfold tryReserveUserQuota
  rw [if_neg (by omega),if_neg (by omega)]
  split
  · exact Or.inl ⟨_,rfl⟩
  split
  · exact Or.inr rfl
  · exact Or.inl ⟨_,rfl⟩

theorem wallet_preConsume {w w' : World} {amount : Int} {err : Option FundingError}
    (h : WalletFunding.preConsume amount w=(w',err)) :
    err.isSome=true ∧ w'=w ∨ err=none ∧ amount≤0 ∧ w'=w ∨
      err=none ∧ 0<amount ∧ w'={ w with wallet := w.wallet-amount, purse.consumed := amount } := by
  unfold WalletFunding.preConsume at h
  split at h
  next hle =>
    cases h
    exact Or.inr (Or.inl ⟨rfl,hle,rfl⟩)
  rename_i hpos
  obtain ⟨e,hfail⟩ | hok := tryReserveUserQuota_cases (not_le.mp hpos) w
  · rw [hfail] at h
    cases h
    exact Or.inl ⟨rfl,rfl⟩
  · rw [hok] at h
    cases h
    exact Or.inr (Or.inr ⟨rfl,not_le.mp hpos,rfl⟩)

theorem fundingPreConsume_wallet (hk : s.kind=.wallet) (down : Bool) (amount : Int) :
    s.fundingPreConsume addDate now down amount=single (s.call down (WalletFunding.preConsume amount)) := by
  simp only [BillingSession.fundingPreConsume,hk]

theorem fundingPreConsume_subscription (hk : s.kind=.subscription) (down : Bool) (amount : Int) :
    s.fundingPreConsume addDate now down amount = single (s.call down (SubscriptionFunding.preConsume addDate now amount)) := by
  simp only [BillingSession.fundingPreConsume,hk]

theorem wallet_opens {info : RelayInfo} {w : World} {quota : Int} {faults : Faults} (hquota : 0≤quota)
    (hempty : w.purse.consumed=0) {s' : BillingSession} {code : Option ApiErrorCode}
    (h : (emptySession info .wallet w).preConsume addDate now quota faults=(s',code)) :
    code.isSome=true ∧ SameBooks w s'.world ∨
      code=none ∧ Ledgered (WalletAt w.wallet) (WalletCharged w.wallet) id s' {} ∧ s'.kind=.wallet := by
  rcases preConsume_cases (s := emptySession info .wallet w) addDate now quota faults with
    ⟨s0,c,hout,hfunds⟩ | ⟨s1,s2,errs,hready,hfunding,hout⟩
  · rw [hout,Prod.mk.injEq] at h
    obtain ⟨rfl,rfl⟩ := h
    exact Or.inl ⟨rfl,hfunds.books⟩
  have hk : s1.kind=.wallet := hready.kind
  rcases hpre : WalletFunding.preConsume ((emptySession info .wallet w).effectiveQuota quota)
      { s1.world with down := faults.funding } with ⟨w2,err⟩
  rw [fundingPreConsume_wallet hk,single_call hpre,Prod.mk.injEq] at hfunding
  obtain ⟨rfl,rfl⟩ := hfunding
  have hnonneg : 0≤(emptySession info .wallet w).effectiveQuota quota := by
    unfold effectiveQuota
    split
    · exact Int.le_refl 0
    · exact hquota
  have hfunds := hready.funds
  obtain ⟨hnil,hout⟩ | ⟨hne,s3,c,hout,hfunds3⟩ := hout
  · rw [hout,Prod.mk.injEq] at h
    obtain ⟨rfl,rfl⟩ := h
    refine Or.inr ⟨rfl,?_,hk⟩
    have hopen : WalletAt w.wallet { s1.withWorld { w2 with down := false } with
        preConsumedQuota := (emptySession info .wallet w).effectiveQuota quota }
        ((emptySession info .wallet w).effectiveQuota quota) := by
      rcases wallet_preConsume hpre with ⟨herr,-⟩ | ⟨-,hle,rfl⟩ | ⟨-,hpos,rfl⟩
      · rw [isSome_iff_exists] at herr
        obtain ⟨e,rfl⟩ := herr
        cases hnil
      · have hzero : (emptySession info .wallet w).effectiveQuota quota=0 := by omega
        refine ⟨hk,?_,?_⟩
        · rw [hzero]
          exact hfunds.wallet.trans (by simp [emptySession,newCompositeFunding,BillingSession.world])
        · rw [hzero]
          exact (congrArg WalletFunding.consumed hfunds.purse).trans hempty
      · exact ⟨hk,congrArg (· - _) hfunds.wallet,rfl⟩
    refine ⟨?_,?_,fun _ _ => ⟨Int.le_refl 0,hnonneg,?_⟩,?_,?_⟩
    · exact hready.fundingSettled.trans hready.settled.symm
    · intro hboth
      exact Bool.false_ne_true (hready.settled.symm.trans hboth.1)
    · simpa using hopen
    · intro hs
      exact absurd (hready.settled.symm.trans hs) Bool.false_ne_true
    · intro hr
      exact absurd (hready.refunded.symm.trans hr) Bool.false_ne_true
  · rw [hout,Prod.mk.injEq] at h
    obtain ⟨rfl,rfl⟩ := h
    refine Or.inl ⟨rfl,?_⟩
    rcases wallet_preConsume hpre with ⟨-,rfl⟩ | ⟨rfl,-⟩ | ⟨rfl,-⟩
    · exact hfunds.books.trans (SameFunds.books ⟨hfunds3.wallet,hfunds3.purse,hfunds3.subs,hfunds3.subscription⟩)
    · exact absurd rfl hne
    · exact absurd rfl hne

theorem subscription_preConsume {w w' : World} {amount : Int} {err : Option FundingError} (hpos : 0<amount)
    (h : SubscriptionFunding.preConsume addDate now amount w=(w',err)) :
    err.isSome=true ∧ w'.wallet=w.wallet ∧ w'.subs=w.subs ∨
      err = none ∧ ∃ subs res, preConsumeUserSubscription addDate w.subs w.subscription.requestId
          w.subscription.userId amount now=.ok (subs,res) ∧
        w'={ w with subs := subs, subscription := { w.subscription with amount := amount }.bound res } := by
  unfold SubscriptionFunding.preConsume at h
  simp only [hpos,if_true,SubscriptionFunding.preConsumeAmount] at h
  split at h
  · cases h
    exact Or.inl ⟨rfl,rfl,rfl⟩
  split at h
  next subs res hok =>
    cases h
    exact Or.inr ⟨rfl,subs,res,hok,rfl⟩
  · cases h
    exact Or.inl ⟨rfl,rfl,rfl⟩

theorem subscription_opens {info : RelayInfo} {w : World} {quota : Int} {faults : Faults} (hquota : 0<quota)
    (htable : TableOk w.subs) (hnew : w.subs.record? w.subscription.requestId=none)
    (hdue : NoResetDue addDate w.subs w.subscription.userId now) {s' : BillingSession} {code : Option ApiErrorCode}
    (h : (emptySession info .subscription w).preConsume addDate now quota faults=(s',code)) :
    code.isSome=true ∧ SameBooks w s'.world ∨ code=none ∧ s'.kind=.subscription ∧
        Ledgered (SubscriptionAt s'.world.subscription.subscriptionId (used w.subs s'.world.subscription.subscriptionId))
          (SubscriptionCharged s'.world.subscription.subscriptionId (used w.subs s'.world.subscription.subscriptionId))
          (fun c => max c (-used w.subs s'.world.subscription.subscriptionId)) s' {} := by
  rcases preConsume_cases (s := emptySession info .subscription w) addDate now quota faults with
    ⟨s0,c,hout,hfunds⟩ | ⟨s1,s2,errs,hready,hfunding,hout⟩
  · rw [hout,Prod.mk.injEq] at h
    obtain ⟨rfl,rfl⟩ := h
    exact Or.inl ⟨rfl,hfunds.books⟩
  have heffective : (emptySession info .subscription w).effectiveQuota quota=quota := by
    simp [effectiveQuota,shouldTrust,emptySession]
  rw [heffective] at hfunding hout
  have hk : s1.kind=.subscription := hready.kind
  have hfunds := hready.funds
  have hsubs : s1.world.subs=w.subs := hfunds.subs
  have hsub : s1.world.subscription=w.subscription := hfunds.subscription
  rcases hpre : SubscriptionFunding.preConsume addDate now quota { s1.world with down := faults.funding } with
    ⟨w2,err⟩
  rw [fundingPreConsume_subscription hk,single_call hpre,Prod.mk.injEq] at hfunding
  obtain ⟨rfl,rfl⟩ := hfunding
  obtain ⟨hnil,hout⟩ | ⟨hne,s3,c,hout,hfunds3⟩ := hout
  · rw [hout,Prod.mk.injEq] at h
    obtain ⟨rfl,rfl⟩ := h
    refine Or.inr ⟨rfl,hk,?_⟩
    rcases subscription_preConsume hquota hpre with ⟨herr,-⟩ | ⟨-,subs,res,hok,rfl⟩
    · rw [isSome_iff_exists] at herr
      obtain ⟨e,rfl⟩ := herr
      cases hnil
    · simp only [hsubs,hsub] at hok
      have hopened := preConsume_opened htable hnew hok
      rw [usedAfterResets_eq hdue] at hopened
      obtain ⟨row,hrow,-⟩ := hopened.row
      refine ⟨?_,?_,fun _ _ => ⟨Int.le_refl 0,by simp only; omega,?_⟩,?_,?_⟩
      · exact hready.fundingSettled.trans hready.settled.symm
      · intro hboth
        exact Bool.false_ne_true (hready.settled.symm.trans hboth.1)
      · have hextra : s1.extraReserved=0 := hready.extraReserved
        have hpaid := hopened.used res.userSubscriptionId
        rw [used_eq hrow,if_pos rfl] at hpaid
        have hname : s1.world.subscription.requestId=w.subscription.requestId := by rw [hsub]
        refine ⟨hk,rfl,htable.used_nonneg _,?_,?_,⟨?_,?_⟩,⟨row,hrow,?_⟩,?_,⟨w.subscription.userId,?_⟩⟩
        · change quota=res.preConsumed+s1.extraReserved
          rw [hopened.preConsumed,hextra,add_zero]
        · change 0<res.preConsumed
          rwa [hopened.preConsumed]
        · exact hextra.symm.le
        · intro hpos
          exact absurd hpos (by simp only [BillingSession.withWorld,hextra]; omega)
        · simp only [add_zero]
          exact hpaid
        · change isBlank s1.world.subscription.requestId=false
          rw [hname]
          exact hopened.named
        · change subs.record? s1.world.subscription.requestId =
            some ⟨s1.world.subscription.requestId,_,res.userSubscriptionId,res.preConsumed,.consumed⟩
          rw [hname,hopened.preConsumed]
          exact hopened.record
      · intro hs
        exact absurd (hready.settled.symm.trans hs) Bool.false_ne_true
      · intro hr
        exact absurd (hready.refunded.symm.trans hr) Bool.false_ne_true
  · rw [hout,Prod.mk.injEq] at h
    obtain ⟨rfl,rfl⟩ := h
    refine Or.inl ⟨rfl,?_⟩
    rcases subscription_preConsume hquota hpre with ⟨-,hwallet,hsame⟩ | ⟨rfl,-⟩
    · have hbooks : SameBooks w w2 := ⟨hwallet.trans hfunds.wallet,hsame.trans hfunds.subs⟩
      exact hbooks.trans ⟨hfunds3.wallet,hfunds3.subs⟩
    · exact absurd rfl hne

def OpenedOver (w : World) (s : BillingSession) : Prop :=
  s.kind=.wallet ∧ Ledgered (WalletAt w.wallet) (WalletCharged w.wallet) id s {} ∨ s.kind=.subscription ∧
      Ledgered (SubscriptionAt s.world.subscription.subscriptionId (used w.subs s.world.subscription.subscriptionId))
        (SubscriptionCharged s.world.subscription.subscriptionId (used w.subs s.world.subscription.subscriptionId))
        (fun c => max c (-used w.subs s.world.subscription.subscriptionId)) s {}

def Attempt (w : World) (out : Opening) : Prop :=
  match out with
  | (_,.ok s) => OpenedOver w s
  | (w',.error _) => SameBooks w w'

theorem tryWallet_attempt {w w' : World} (hbooks : SameBooks w w') {info : RelayInfo} {quota : Int}
    (hquota : 0≤quota) (faults : Faults) : Attempt w (tryWallet addDate now info quota faults w') := by
  unfold tryWallet
  split
  · exact hbooks
  split
  · exact hbooks
  split
  · exact hbooks
  simp only
  rcases hpre : (emptySession { info with userQuota := w'.wallet } .wallet
      { w' with purse := { userId := info.userId } }).preConsume addDate now quota faults with ⟨s',code⟩
  rcases wallet_opens hquota rfl hpre with ⟨hsome,hsame⟩ | ⟨rfl,hledger,hkind⟩
  · rw [isSome_iff_exists] at hsome
    obtain ⟨c,rfl⟩ := hsome
    exact hbooks.trans hsame
  · refine Or.inl ⟨hkind,?_⟩
    have hwallet : w'.wallet=w.wallet := hbooks.1
    simp only [hwallet] at hledger
    exact hledger

theorem trySubscription_attempt {w w' : World} (hbooks : SameBooks w w') {info : RelayInfo} (quota : Int)
    (faults : Faults) (htable : TableOk w.subs) (hnew : w.subs.record? info.requestId=none)
    (hdue : NoResetDue addDate w.subs info.userId now) : Attempt w (trySubscription addDate now info quota faults w') := by
  unfold trySubscription
  simp only
  have hpos : 0 < if quota≤0 then 1 else quota := by
    split
    · omega
    · omega
  have hsubs : w'.subs=w.subs := hbooks.2
  rcases hpre : (emptySession info .subscription
      { w' with subscription := { requestId := info.requestId, userId := info.userId,
                                  amount := if quota≤0 then 1 else quota } }).preConsume addDate now
      (if quota≤0 then 1 else quota) faults with ⟨s',code⟩
  rcases subscription_opens hpos (by simpa [hsubs] using htable) (by simpa [hsubs] using hnew)
    (by simpa [hsubs] using hdue) hpre with ⟨hsome,hsame⟩ | ⟨rfl,hkind,hledger⟩
  · rw [isSome_iff_exists] at hsome
    obtain ⟨c,rfl⟩ := hsome
    exact hbooks.trans hsame
  · refine Or.inr ⟨hkind,?_⟩
    simp only [hsubs] at hledger
    exact hledger

theorem Attempt.orElse {w : World} {first : Opening} {next : World → Opening} (hfirst : Attempt w first)
    (hnext : ∀ w', SameBooks w w' → Attempt w (next w')) : Attempt w (orElse first next) := by
  unfold Billing.orElse
  split
  next w' =>
    exact hnext w' hfirst
  · exact hfirst

theorem preConsume_composite {s' : BillingSession} {quota : Int} {faults : Faults} (hk : s.kind=.composite)
    (h : s.preConsume addDate now quota faults=(s',none)) : s'.kind=.composite := by
  rcases preConsume_cases (s := s) addDate now quota faults with
    ⟨s0,c,hout,-⟩ | ⟨s1,s2,errs,hready,hfunding,⟨-,hout⟩ | ⟨-,s3,c,hout,-⟩⟩
  · rw [hout] at h
    cases h
  · rw [hout] at h
    cases h
    simp only [BillingSession.fundingPreConsume,hready.kind,hk,callComposite] at hfunding
    have hkind : FundingKind.composite=s2.kind := congrArg (fun out => out.1.kind) hfunding
    exact hkind.symm
  · rw [hout] at h
    cases h

theorem tryBenefit_kind {w : World} {info : RelayInfo} {quota : Int} {faults : Faults} {out : Opening}
    (h : tryBenefit addDate now info quota faults w=some out) (hok : out.2=.ok s) : s.kind=.composite := by
  unfold tryBenefit at h
  split at h
  · cases h
  obtain ⟨groupID,-,h⟩ := bind_eq_some_iff.mp h
  split at h
  · cases h
    cases hok
  split at h
  · cases h
    cases hok
  split at h
  · simp only [Option.some.injEq] at h
    subst h
    unfold opening at hok
    split at hok
    next s' hpre =>
      cases hok
      exact preConsume_composite rfl hpre
    · cases hok
  · cases h

theorem newBillingSession_opened {w : World} {info : RelayInfo} {quota : Int} {faults : Faults}
    (hquota : 0≤quota) (htable : TableOk w.subs) (hnew : w.subs.record? info.requestId=none)
    (hdue : NoResetDue addDate w.subs info.userId now)
    (hok : (newBillingSession addDate now info quota faults w).2=.ok s) (hsingle : s.kind≠.composite) : OpenedOver w s := by
  have hwallet : ∀ w', SameBooks w w' → Attempt w (tryWallet addDate now info quota faults w') :=
    fun w' hbooks => tryWallet_attempt hbooks hquota faults
  have hsub : ∀ w', SameBooks w w' → Attempt w (trySubscription addDate now info quota faults w') :=
    fun w' hbooks => trySubscription_attempt hbooks quota faults htable hnew hdue
  have hrefl : SameBooks w w := ⟨rfl,rfl⟩
  unfold newBillingSession at hok
  simp only at hok
  split at hok
  next out hbenefit =>
    exact absurd (tryBenefit_kind hbenefit hok) hsingle
  suffices hattempt : ∀ out : Opening, Attempt w out → out.2=.ok s → OpenedOver w s by
    split at hok
    · exact hattempt _ (hsub w hrefl) hok
    split at hok
    · exact hattempt _ (hwallet w hrefl) hok
    split at hok
    · exact hattempt _ ((hwallet w hrefl).orElse hsub) hok
    split at hok
    · cases hok
    split at hok
    · cases hok
    · exact hattempt _ (hwallet w hrefl) hok
    refine hattempt _ ((hsub w hrefl).orElse fun w' hbooks => ?_) hok
    split
    · exact hbooks
    · exact hwallet w' hbooks
    · exact hbooks
  rintro ⟨w',out⟩ hattempt hout
  simp only at hout
  subst hout
  exact hattempt

def netCharge (s : BillingSession) (w w' : World) : Int :=
  if s.kind=.wallet then w.wallet-w'.wallet
  else used w'.subs s.world.subscription.subscriptionId-used w.subs s.world.subscription.subscriptionId

/-- A subscription's counter stops at zero, a wallet may go below. -/
def chargeFloor (s : BillingSession) (w : World) (charge : Int) : Int :=
  if s.kind=.wallet then charge else max charge (-used w.subs s.world.subscription.subscriptionId)

theorem Ledgered.run {At : BillingSession → Int → Prop} {Charged : World → Int → Prop} {floor : Int → Int}
    (hA : Account addDate At Charged floor) {t : Tally} (h : Ledgered At Charged floor s t) {calls : List SessionCall}
    (hcalls : Guarded (tallied addDate) (fun st c => settlesBeforeRefund st.1 c) calls (s,t)) :
    Ledgered At Charged floor (run (tallied addDate) calls (s,t)).1 (run (tallied addDate) calls (s,t)).2 ∧
      (Guarded (tallied addDate) (fun st c => compensated addDate st.1 c) calls (s,t) → t.left=0 →
        (run (tallied addDate) calls (s,t)).2.left=0) := by
  have hstep : ∀ (st : BillingSession×Tally) c, Ledgered At Charged floor st.1 st.2 → settlesBeforeRefund st.1 c →
      Ledgered At Charged floor (tallied addDate st c).1 (tallied addDate st c).2 := fun st c hst hc => hst.step hA c hc
  refine ⟨hcalls.invariant hstep h,fun hcomp hleft => ?_⟩
  have hboth : ∀ (st : BillingSession×Tally) c, Ledgered At Charged floor st.1 st.2 ∧ st.2.left=0 →
      settlesBeforeRefund st.1 c ∧ compensated addDate st.1 c →
      Ledgered At Charged floor (tallied addDate st c).1 (tallied addDate st c).2 ∧ (tallied addDate st c).2.left=0 :=
    fun st c hst hc => ⟨hstep st c hst.1 hc.1,hst.1.left_eq_zero hA hst.2 hc.2⟩
  exact ((hcalls.and hcomp).invariant hboth ⟨h,hleft⟩).2

/-- The charge of a session over one source after any calls and database failures, if it is not settled after its
refund: what the settlement committed, nothing after a refund, the reserved quota before either, and what failed
compensations left. -/
theorem session_charge {w : World} {info : RelayInfo} {quota : Int} {faults : Faults} {calls : List SessionCall}
    (hok : (newBillingSession addDate now info quota faults w).2=.ok s) (hsingle : s.kind≠.composite)
    (hquota : 0≤quota) (htable : TableOk w.subs) (hnew : w.subs.record? info.requestId=none)
    (hdue : NoResetDue addDate w.subs info.userId now)
    (hcalls : Guarded (tallied addDate) (fun st c => settlesBeforeRefund st.1 c) calls (s,{})) :
    netCharge s w (run (tallied addDate) calls (s,{})).1.world=chargeFloor s w
        (promised (run (tallied addDate) calls (s,{})).1 (run (tallied addDate) calls (s,{})).2 +
          (run (tallied addDate) calls (s,{})).2.left) ∧
      (Guarded (tallied addDate) (fun st c => compensated addDate st.1 c) calls (s,{}) →
        (run (tallied addDate) calls (s,{})).2.left=0) ∧ ¬ ((run (tallied addDate) calls (s,{})).1.settled=true ∧
        (run (tallied addDate) calls (s,{})).1.refunded=true) ∧
      ∀ c, settlesBeforeRefund (run (tallied addDate) calls (s,{})).1 c →
        (run (tallied addDate) calls (s,{})).1.settled=true ∨ (run (tallied addDate) calls (s,{})).1.refunded=true →
        sessionStep addDate (run (tallied addDate) calls (s,{})).1 c = (run (tallied addDate) calls (s,{})).1 := by
  obtain ⟨hkind,hledger⟩ | ⟨hkind,hledger⟩ := newBillingSession_opened hquota htable hnew hdue hok hsingle
  · obtain ⟨hfinal,hleft⟩ := hledger.run (walletAccount addDate w.wallet) hcalls
    refine ⟨?_,fun hcomp => hleft hcomp rfl,hfinal.apart,fun c hc hclosed => closed_step addDate hc hclosed⟩
    have hcharged := hfinal.charged fun hat _ => hat.2.1
    rw [WalletCharged] at hcharged
    simp only [netCharge,chargeFloor,hkind,if_true,id] at hcharged ⊢
    omega
  · obtain ⟨hfinal,hleft⟩ := hledger.run (subscriptionAccount addDate _ _) hcalls
    refine ⟨?_,fun hcomp => hleft hcomp rfl,hfinal.apart,fun c hc hclosed => closed_step addDate hc hclosed⟩
    have hcharged := hfinal.charged fun hat hc => by
      obtain ⟨row,hrow,hused⟩ := hat.row
      have hbase := hat.base_nonneg
      refine ⟨hat.bound,?_⟩
      rw [used_eq hrow,hused]
      omega
    have hused := hcharged.2
    simp only [netCharge,chargeFloor,hkind,reduceCtorEq,if_false]
    omega

def walletExample : World where
  benefit := ⟨[],[],[],[],[]⟩
  subs := ⟨[],[],[]⟩
  wallet := 100
  token := 50
  voucher := { requestID := "", userID := 0, groupID := 0 }
  subscription := { requestId := "", userId := 0 }
  purse := { userId := 0 }

def walletRelay : RelayInfo := { requestId := "r", userId := 1, billingPreference := "wallet_only" }

def noDate : AddDate := fun base _ _ _ => base

def walletSession : BillingSession :=
  match (newBillingSession noDate 0 walletRelay 5 {} walletExample).2 with
  | .ok s => s
  | .error _ => emptySession walletRelay .wallet walletExample

def walletCalls : List SessionCall :=
  [.reserve 0 8 { token := true },.reserve 0 9 {},.settle 0 6 {},.refund 0 {}]

theorem session_charge_settled :
    netCharge walletSession walletExample (run (tallied noDate) walletCalls (walletSession,{})).1.world=6 := by
  have hok : (newBillingSession noDate 0 walletRelay 5 {} walletExample).2=.ok walletSession := rfl
  have htable : TableOk walletExample.subs := ⟨List.nodup_nil,fun _ hs => absurd hs List.not_mem_nil⟩
  have hdue : NoResetDue noDate walletExample.subs walletRelay.userId 0 :=
    fun _ hs => absurd hs List.not_mem_nil
  have hcalls : Guarded (tallied noDate) (fun st c => settlesBeforeRefund st.1 c) walletCalls
      (walletSession,{}) := ⟨trivial,trivial,rfl,trivial,trivial⟩
  rw [(session_charge hok (by decide) (by decide) htable rfl hdue hcalls).1]
  rfl

/-- A refund whose database call fails is not repeated: the session counts as refunded and keeps its charge. -/
theorem failed_refund_keeps_charge :
    (newBillingSession noDate 0 walletRelay 5 {} walletExample).2=.ok walletSession ∧
      (sessionStep noDate walletSession (.refund 0 { funding := true })).refunded=true ∧
      netCharge walletSession walletExample (sessionStep noDate walletSession (.refund 0 { funding := true })).world≠0 :=
  ⟨rfl,rfl,by decide⟩

end NewApi.Billing

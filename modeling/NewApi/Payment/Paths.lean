import NewApi.Payment.Completion

/-! The completion paths side by side: when two of them that both admit an order credit the same amount and
reward the same source quota. -/
namespace NewApi.Payment
open Runs GoStrings Affiliate Promo

def Completes (reads : Reads) (db : PaymentDB) (tradeNo : String) (path : CompletionPath) (o : TopUp)
    (c : Completion) (db' : PaymentDB) : Prop :=
  completeBy reads db tradeNo path=.ok (db',some c) ∧ c.tradeNo=o.tradeNo

/-- Does the path take the money of the order, not its amount, for the dollars it bought? -/
def CompletionPath.byMoney (path : CompletionPath) (o : TopUp) : Bool :=
  match path with
  | .recharge => true
  | .manualCompleteTopUp => decide (o.paymentProvider=paymentProviderStripe)
  | _ => false

theorem basis_eq (path : CompletionPath) (o : TopUp) : path.basis o = if path.byMoney o then o.money else o.amount := by
  cases path with
  | manualCompleteTopUp => simp [CompletionPath.basis,CompletionPath.byMoney]
  | _ => rfl

section Paths
variable {reads reads' : Reads} {db db₁ db₂ : PaymentDB} {tradeNo tradeNo' : String} {p q : CompletionPath} {o : TopUp}
  {c c' : Completion}

theorem Completes.by (ho : db.topUp? o.tradeNo=some o) (h : Completes reads db tradeNo p o c db₁) :
    CompletedBy reads p db o c db₁ := by
  have heffect := completeBy_effect reads db tradeNo p
  rw [h.1] at heffect
  obtain hnone | ⟨o',c',hc,hby⟩ := heffect
  · cases hnone
  cases hc
  have horder : o'=o := Option.some.inj (hby.order.symm.trans (h.2 ▸ ho))
  exact horder ▸ hby

theorem CompletedBy.userId (h : CompletedBy reads p db o c db₁) : c.userId=o.userId := by
  have hbefore := h.finished.before
  rw [PaymentDB.standing,h.order] at hbefore
  exact (Prod.mk.inj (Option.some.inj hbefore)).1.symm

theorem walletQuota_some {d : Rat} {quota : Int} (h : walletQuotaFromDecimalStrict d=some quota) : quota=roundDecimal d := by
  unfold walletQuotaFromDecimalStrict at h
  by_cases hrange : roundDecimal d>maxWalletQuota ∨ roundDecimal d < minWalletQuota
  · rw [if_pos hrange] at h
    cases h
  · rw [if_neg hrange] at h
    exact (Option.some.inj h).symm

section
variable (h : CompletedBy reads p db o c db₁)
include h

theorem CompletedBy.rounded (hstored : ¬o.creditedQuota>0) :
    c.credited=roundDecimal ((if p.byMoney o then o.money else o.amount)*reads.quotaPerUnit) := by
  have hquota := h.quota
  rw [quotaToAdd,if_neg hstored,basis_eq] at hquota
  split at hquota
  next quota hsome =>
    split at hquota
    · cases hquota
    · rw [← Except.ok.inj hquota]
      exact walletQuota_some hsome
  · cases hquota

theorem CompletedBy.stored (hstored : o.creditedQuota>0) : c.credited=o.creditedQuota := by
  have hquota := h.quota
  rw [quotaToAdd,if_pos hstored] at hquota
  exact (Except.ok.inj hquota).symm

section
variable (h' : CompletedBy reads' q db o c' db₂)
include h'

theorem wallet_eq_iff : db₁.wallet o.userId=db₂.wallet o.userId ↔ c.credited=c'.credited := by
  obtain ⟨balance,hbalance⟩ := Option.isSome_iff_exists.mp h.finished.holder
  rw [h.finished.wallet,h'.finished.wallet,h.userId,h'.userId,if_pos rfl,if_pos rfl,← h.userId,hbalance]
  simp

theorem credited_eq_iff (hunit : reads'.quotaPerUnit=reads.quotaPerUnit) :
    c.credited=c'.credited ↔ o.creditedQuota>0 ∨ p.byMoney o=q.byMoney o ∨
      roundDecimal (o.money*reads.quotaPerUnit)=roundDecimal (o.amount*reads.quotaPerUnit) := by
  by_cases hstored : o.creditedQuota>0
  · rw [h.stored hstored,h'.stored hstored]
    simp [hstored]
  · rw [h.rounded hstored,h'.rounded hstored,hunit]
    cases p.byMoney o <;> cases q.byMoney o <;> simp [hstored,eq_comm]

theorem source_eq_iff (hcredited : c.credited=c'.credited) :
    c.affiliateSource=c'.affiliateSource ↔ o.affiliateSourceQuota>0 ∨ p.isFree=q.isFree := by
  have hpos := h.finished.credited
  rw [h.source,h'.source,topUpAffiliateSourceQuota,topUpAffiliateSourceQuota,← hcredited]
  by_cases hsource : o.affiliateSourceQuota>0
  · simp [hsource]
  · cases p.isFree <;> cases q.isFree <;> simp [hsource] <;> omega

end

end

/-- Two paths agree on the credit and on the source quota exactly if the order has these stored, or both paths derive
them alike. -/
theorem completion_paths_agree_iff (ho : db.topUp? o.tradeNo=some o)
    (hunit : reads'.quotaPerUnit=reads.quotaPerUnit) (h : Completes reads db tradeNo p o c db₁)
    (h' : Completes reads' db tradeNo' q o c' db₂) :
    (db₁.wallet o.userId=db₂.wallet o.userId ∧ c.affiliateSource=c'.affiliateSource) ↔
      (o.creditedQuota>0 ∨ p.byMoney o=q.byMoney o ∨
        roundDecimal (o.money*reads.quotaPerUnit)=roundDecimal (o.amount*reads.quotaPerUnit)) ∧
      (o.affiliateSourceQuota>0 ∨ p.isFree=q.isFree) := by
  have hby := h.by ho
  have hby' := h'.by ho
  rw [wallet_eq_iff hby hby']
  constructor
  · rintro ⟨hcredited,hsource⟩
    exact ⟨(credited_eq_iff hby hby' hunit).mp hcredited,(source_eq_iff hby hby' hcredited).mp hsource⟩
  · rintro ⟨hcolumns,hsource⟩
    have hcredited := (credited_eq_iff hby hby' hunit).mpr hcolumns
    exact ⟨hcredited,(source_eq_iff hby hby' hcredited).mpr hsource⟩

theorem completes_of_completions (h : completions db (.complete reads tradeNo p)=[c]) (ht : c.tradeNo=o.tradeNo) :
    Completes reads db tradeNo p o c (step db (.complete reads tradeNo p)) := by
  refine ⟨?_,ht⟩
  have hexec : exec db (.complete reads tradeNo p)=completeBy reads db tradeNo p := rfl
  unfold completions at h
  unfold step
  rw [hexec] at h ⊢
  cases hout : completeBy reads db tradeNo p with
  | error e =>
    rw [hout] at h
    cases h
  | ok r =>
    obtain ⟨t,done⟩ := r
    rw [hout] at h
    cases done with
    | none => cases h
    | some x =>
      cases h
      rfl

end Paths

def single (o : TopUp) : PaymentDB where
  topUps := [o]
  promo := { promos := [{ id := 7, appliesToTopup := true }] }
  affiliate := { users := [{ id := 1, inviterId := 2 },{ id := 2 }] }

def freeOrder : TopUp :=
  { id := 1, userId := 1, amount := 1, money := 0, originalMoney := 7, discountMoney := 7, actualMoney := 0
    promoCodeId := 7, affiliateSourceQuota := 0, creditedQuota := 500000, tradeNo := "T1"
    paymentProvider := paymentProviderEpay }

def stripeOrder : TopUp :=
  { id := 1, userId := 1, amount := 1, money := 2, affiliateSourceQuota := 500000, tradeNo := "T1", createTime := 0
    paymentProvider := paymentProviderStripe }

theorem completion_paths_agree_on_epay :
    ∃ c c' db₁ db₂, Completes {} (single freeOrder) "T1" (.rechargeEpay "alipay") freeOrder c db₁ ∧
      Completes {} (single freeOrder) "T1" .manualCompleteTopUp freeOrder c' db₂ ∧
      db₁.wallet 1=db₂.wallet 1 ∧ c.affiliateSource=c'.affiliateSource := by
  have hepay : completions (single freeOrder) (.complete {} "T1" (.rechargeEpay "alipay")) =
      [{ tradeNo := "T1", userId := 1, credited := 500000, affiliateSource := 500000 }] := by decide +kernel
  have hmanual : completions (single freeOrder) (.complete {} "T1" .manualCompleteTopUp) =
      [{ tradeNo := "T1", userId := 1, credited := 500000, affiliateSource := 500000 }] := by decide +kernel
  have h := completes_of_completions (o := freeOrder) hepay rfl
  have h' := completes_of_completions (o := freeOrder) hmanual rfl
  have hagree := (completion_paths_agree_iff rfl rfl h h').mpr ⟨.inl (by decide),.inr rfl⟩
  exact ⟨_,_,_,_,h,h',hagree.1,hagree.2⟩

theorem completion_paths_disagree :
    (∃ c c' db₁ db₂, Completes {} (single freeOrder) "T1" (.completeFreeTopUp "epay") freeOrder c db₁ ∧
      Completes {} (single freeOrder) "T1" .manualCompleteTopUp freeOrder c' db₂ ∧
      freeOrder.status=.pending ∧ c.affiliateSource=0 ∧ c'.affiliateSource=500000) ∧
    ∃ c c' db₁ db₂, Completes {} (single stripeOrder) "T1" .recharge stripeOrder c db₁ ∧
      Completes {} (single stripeOrder) "T1" (.completeTopUpPaymentAttempt 0 "stripe" "" true {}) stripeOrder c' db₂ ∧
      stripeOrder.status=.pending ∧ db₁.wallet 1=some 1000000 ∧ db₂.wallet 1=some 500000 := by
  have hfree : completions (single freeOrder) (.complete {} "T1" (.completeFreeTopUp "epay")) =
      [{ tradeNo := "T1", userId := 1, credited := 500000, affiliateSource := 0 }] := by decide +kernel
  have hmanual : completions (single freeOrder) (.complete {} "T1" .manualCompleteTopUp) =
      [{ tradeNo := "T1", userId := 1, credited := 500000, affiliateSource := 500000 }] := by decide +kernel
  have hcharge : completions (single stripeOrder) (.complete {} "T1" .recharge) =
      [{ tradeNo := "T1", userId := 1, credited := 1000000, affiliateSource := 500000 }] := by decide +kernel
  have hattempt : completions (single stripeOrder) (.complete {} "T1" (.completeTopUpPaymentAttempt 0 "stripe" "" true {})) =
      [{ tradeNo := "T1", userId := 1, credited := 500000, affiliateSource := 500000 }] := by decide +kernel
  constructor
  · exact ⟨_,_,_,_,completes_of_completions hfree rfl,completes_of_completions hmanual rfl,rfl,rfl,rfl⟩
  exact ⟨_,_,_,_,completes_of_completions hcharge rfl,completes_of_completions hattempt rfl,rfl,
    by decide +kernel,by decide +kernel⟩

end NewApi.Payment

import NewApi.Relay.Usage

/-! What a Responses upstream is billed for when the client speaks Chat, against what it is billed for when the client
speaks Responses. -/
namespace NewApi.Relay
open Option GoStrings
open UsageCounts (inputDetail getCacheCreationTokensWithPresence getDetailCacheCreationTokens promptDetail)

section CacheCreation
variable {u src : UsageCounts} (tokens : Int)

theorem nonNegative_idem :
    nonNegativeTokenCount (nonNegativeTokenCount tokens)=nonNegativeTokenCount tokens := by
  unfold nonNegativeTokenCount
  split <;> simp_all

def Clipped (count : Option Int) : Prop := ∀ n, count=some n → nonNegativeTokenCount n=n

theorem Clipped.or {a b : Option Int} (ha : Clipped a) (hb : Clipped b) : Clipped (a.or b) := by
  cases a with
  | none => exact hb
  | some n => exact ha

theorem clipped_some : Clipped (some (nonNegativeTokenCount tokens)) := by
  intro n hn
  rw [← Option.some.inj hn,nonNegative_idem]

theorem clipped_none : Clipped none := nofun

theorem Clipped.ite {c : Prop} [Decidable c] {a b : Option Int} (ha : Clipped a) (hb : Clipped b) :
    Clipped (if c then a else b) := by
  split
  · exact ha
  · exact hb

theorem inputDetail_clipped (u : UsageCounts) (named : InputTokenDetails → Bool) (tokens : InputTokenDetails → Int) :
    Clipped (u.inputDetail named tokens) := by
  unfold inputDetail
  cases u.inputTokensDetails with
  | none => exact clipped_none
  | some d => exact (clipped_some _).ite clipped_none

theorem promptDetail_clipped (u : UsageCounts) (named : InputTokenDetails → Bool) (tokens : InputTokenDetails → Int) :
    Clipped (u.promptDetail named tokens) :=
  (clipped_some _).ite clipped_none

theorem cacheCreation_clipped (u : UsageCounts) : Clipped u.getCacheCreationTokensWithPresence := by
  refine Clipped.or ?_ ?_
  · exact (inputDetail_clipped u _ _).or <| (promptDetail_clipped u _ _).or <|
      (inputDetail_clipped u _ _).or <| (promptDetail_clipped u _ _).or <|
      (inputDetail_clipped u _ _).or (promptDetail_clipped u _ _)
  · exact (clipped_some _).ite <| (clipped_some _).ite <| (clipped_some _).ite <| (clipped_some _).ite clipped_none

theorem cacheCreation_set (u : UsageCounts) (tokens : Int) :
    (u.setCacheCreationTokensWithPresence tokens).getCacheCreationTokensWithPresence = some (nonNegativeTokenCount tokens) := by
  have hidem := nonNegative_idem tokens
  unfold getCacheCreationTokensWithPresence getDetailCacheCreationTokens
  cases hd : u.inputTokensDetails with
  | none =>
    simp [inputDetail,promptDetail,UsageCounts.setCacheCreationTokensWithPresence,hd,
      InputTokenDetails.setCacheCreationTokensWithPresence,present,hidem]
  | some d =>
    simp [inputDetail,UsageCounts.setCacheCreationTokensWithPresence,hd,
      InputTokenDetails.setCacheCreationTokensWithPresence,present,hidem]

theorem promptDetail_normalized (hprompt : u.promptTokensDetails=src.inputTokensDetails.getD src.promptTokensDetails)
    {named : InputTokenDetails → Bool} {tokens : InputTokenDetails → Int} (hin : src.inputDetail named tokens=none)
    (hpr : src.promptDetail named tokens=none) : u.promptDetail named tokens=none := by
  unfold promptDetail inputDetail at *
  rw [hprompt]
  cases hd : src.inputTokensDetails with
  | none => exact hpr
  | some d =>
    rw [hd] at hin
    exact hin

theorem cacheCreation_copy (hprompt : u.promptTokensDetails=src.inputTokensDetails.getD src.promptTokensDetails)
    (hinput : u.inputTokensDetails=src.inputTokensDetails) (htop : u.getTopLevelCacheCreationTokens=none) :
    (u.copyCacheCreationTokensFrom src).getCacheCreationTokens=src.getCacheCreationTokens := by
  unfold UsageCounts.copyCacheCreationTokensFrom UsageCounts.getCacheCreationTokens
  cases hsrc : src.getCacheCreationTokensWithPresence with
  | some tokens =>
    dsimp only
    rw [cacheCreation_set,cacheCreation_clipped src tokens hsrc]
  | none =>
    dsimp only
    have hin : ∀ named tokens, u.inputDetail named tokens=src.inputDetail named tokens := fun named tokens => by
      rw [inputDetail,hinput,inputDetail]
    simp only [getCacheCreationTokensWithPresence,getDetailCacheCreationTokens,
      or_eq_none_iff] at hsrc
    obtain ⟨⟨hiw,hpw,hic,hpc,hid,hpd⟩,-⟩ := hsrc
    simp only [getCacheCreationTokensWithPresence,getDetailCacheCreationTokens,hin,hiw,hic,
      hid,promptDetail_normalized hprompt hiw hpw,promptDetail_normalized hprompt hic hpc,
      promptDetail_normalized hprompt hid hpd,htop,or_none]

end CacheCreation

section Billing
variable {src : Usage}

theorem native_tokens (src : Usage) :
    textQuotaTokens (normalizeResponsesUsage src) =
      { promptTokens := src.inputTokens, completionTokens := src.outputTokens
        cacheTokens := (src.inputTokensDetails.getD src.promptTokensDetails).cachedTokens
        cacheCreationTokens := src.getCacheCreationTokens
        imageTokens := (src.inputTokensDetails.getD src.promptTokensDetails).imageTokens
        audioTokens := (src.inputTokensDetails.getD src.promptTokensDetails).audioTokens } := by
  have hcopy : ((responsesCounts src.toUsageCounts).copyCacheCreationTokensFrom
      src.toUsageCounts).getCacheCreationTokens=src.getCacheCreationTokens := cacheCreation_copy rfl rfl rfl
  rw [TextQuotaTokens.mk.injEq]
  refine ⟨?_,?_,?_,hcopy,?_,?_⟩
  all_goals
    simp only [normalizeResponsesUsage,UsageCounts.copyCacheCreationTokensFrom]
    split <;> rfl

theorem converted_tokens (hbilling : src.billingUsage=none) (hany : src.hasOpenAIUsageTokens=true) :
    textQuotaTokens (effectiveBillingUsage (usageFromResponsesUsage src)) =
      { promptTokens := if src.promptTokens=0 ∧ src.inputTokens>0 then src.inputTokens else src.promptTokens
        completionTokens :=
          if src.completionTokens=0 ∧ src.outputTokens>0 then src.outputTokens else src.completionTokens
        cacheTokens := src.promptTokensDetails.cachedTokens, cacheCreationTokens := src.getCacheCreationTokens
        imageTokens := src.promptTokensDetails.imageTokens, audioTokens := src.promptTokensDetails.audioTokens } := by
  have hsnapshot : (usageFromResponsesUsage src).billingUsage =
      some { source := "oai_responses", semantic := "openai", openAIUsage := some src.toUsageCounts } := by
    have hnone : (normalizeResponsesUsage src).billingUsage=none := hbilling
    simp [usageFromResponsesUsage,hnone,newOpenAIResponsesBillingUsage,hany]
  have hfold : equalFold (trimSpace "oai_responses") "oai_responses" = true := by decide +kernel
  simp only [effectiveBillingUsage,usageFromBillingUsage,hsnapshot,bind_some,hfold,Bool.or_true,Bool.true_or,
    if_true,some_or,getD_some]
  rfl

theorem alias_agrees {named counted : Int} :
    (if named=0 ∧ counted>0 then counted else named)=counted ↔ named=counted ∨ (named=0 ∧ 0≤counted) := by
  split <;> omega

theorem empty_source (hnone : src.hasOpenAIUsageTokens=false) :
    src.promptTokens=src.inputTokens ∧ src.completionTokens=src.outputTokens ∧ src.inputTokensDetails=none := by
  simp only [UsageCounts.hasOpenAIUsageTokens,Bool.or_eq_false_iff,bne_eq_false_iff_eq,isSome_eq_false_iff,
    isNone_iff_eq_none] at hnone
  obtain ⟨⟨⟨⟨⟨⟨⟨⟨⟨⟨⟨⟨⟨⟨⟨⟨⟨hp,hc⟩,-⟩,hi⟩,ho⟩,-⟩,-⟩,-⟩,-⟩,-⟩,-⟩,-⟩,-⟩,-⟩,-⟩,-⟩,-⟩,hd⟩ := hnone
  exact ⟨hp.trans hi.symm,hc.trans ho.symm,hd⟩

/-- Both clients are billed the same counts exactly when the input and output counts are not negative (or given under
their Chat names too) and the input details agree with the prompt details. -/
theorem responses_billing_agrees_iff (hbilling : src.billingUsage=none) :
    textQuotaTokens (effectiveBillingUsage (usageFromResponsesUsage src)) =
      textQuotaTokens (effectiveBillingUsage (normalizeResponsesUsage src)) ↔
    (src.promptTokens=src.inputTokens ∨ (src.promptTokens=0 ∧ 0 ≤ src.inputTokens)) ∧
    (src.completionTokens=src.outputTokens ∨ (src.completionTokens=0 ∧ 0 ≤ src.outputTokens)) ∧
    ∀ d, src.inputTokensDetails=some d → src.promptTokensDetails.cachedTokens=d.cachedTokens ∧
      src.promptTokensDetails.imageTokens=d.imageTokens ∧ src.promptTokensDetails.audioTokens=d.audioTokens := by
  have hnative : effectiveBillingUsage (normalizeResponsesUsage src)=normalizeResponsesUsage src := by
    have hnone : (normalizeResponsesUsage src).billingUsage=none := hbilling
    simp [effectiveBillingUsage,usageFromBillingUsage,hnone]
  cases hany : src.hasOpenAIUsageTokens with
  | false =>
    obtain ⟨hp,hc,hd⟩ := empty_source hany
    have hsame : usageFromResponsesUsage src=normalizeResponsesUsage src := by
      have hnone : (normalizeResponsesUsage src).billingUsage=none := hbilling
      have hkeep : { normalizeResponsesUsage src with billingUsage := none }=normalizeResponsesUsage src := by
        rw [← hnone]
      simp [usageFromResponsesUsage,hnone,newOpenAIResponsesBillingUsage,hany,hkeep]
    rw [hsame]
    exact ⟨fun _ => ⟨.inl hp,.inl hc,fun d h => by rw [hd] at h; cases h⟩,fun _ => rfl⟩
  | true =>
    rw [converted_tokens hbilling hany,hnative,native_tokens,TextQuotaTokens.mk.injEq,alias_agrees,alias_agrees]
    cases src.inputTokensDetails with
    | none | some _ => simp

def cachedBody : Usage :=
  { inputTokens := 9, hasInputTokens := true, outputTokens := 3, hasOutputTokens := true
    inputTokensDetails := some { cachedTokens := 4, hasCachedTokens := true, imageTokens := 2 } }

theorem cachedBody_billed_differently : cachedBody.billingUsage=none ∧
    textQuotaTokens (effectiveBillingUsage (usageFromResponsesUsage cachedBody))=⟨9,3,0,0,0,0⟩ ∧
    textQuotaTokens (effectiveBillingUsage (normalizeResponsesUsage cachedBody))=⟨9,3,4,0,2,0⟩ ∧
    textQuotaTokens (effectiveBillingUsage (usageFromResponsesUsage cachedBody)) ≠
      textQuotaTokens (effectiveBillingUsage (normalizeResponsesUsage cachedBody)) := by
  decide +kernel

theorem plainBody_billed_alike :
    textQuotaTokens (effectiveBillingUsage (usageFromResponsesUsage { inputTokens := 9, outputTokens := 3 })) =
      textQuotaTokens (effectiveBillingUsage (normalizeResponsesUsage { inputTokens := 9, outputTokens := 3 })) :=
  (responses_billing_agrees_iff rfl).mpr ⟨.inr ⟨rfl,by decide⟩,.inr ⟨rfl,by decide⟩,
    fun d h => absurd h.symm (some_ne_none d)⟩

end Billing

end NewApi.Relay

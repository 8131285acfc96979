import NewApi.Relay.ClaudeBilling
import NewApi.Relay.ResponsesBilling

/-! The token amounts of tiered billing (`BuildTieredTokenParams`) against the counts of the usage they are built from and
against the plain formula of `calculateTextQuotaSummary`. -/
namespace NewApi.Relay

/-- `claudeFormat`: the request was sent on in the Claude format. -/
def usageSemanticFromUsage (claudeFormat : Bool) (usage : Usage) : String :=
  if usage.usageSemantic≠"" then usage.usageSemantic else if claudeFormat then "anthropic" else "openai"

/-- The cache-write tokens of the summary. An OpenRouter channel that reports none is charged for those that
`CalcOpenRouterCacheCreateTokens` infers from the cost, if they fit. -/
def summaryCacheCreationTokens (inferred : Option Int) (usage : Usage) : Int :=
  let total := usage.getCacheCreationTokens
  match inferred with
  | some tokens =>
    if total=0 ∧ 0≤tokens ∧ tokens≤usage.promptTokens-usage.promptTokensDetails.cachedTokens then tokens else total
  | none => total

def chargedCacheCreation (inferred : Option Int) (usage : Usage) : Int :=
  let total := summaryCacheCreationTokens inferred usage
  let tokens5m := usage.claudeCacheCreation5mTokens
  let tokens1h := usage.claudeCacheCreation1hTokens
  if total≠0 ∨ tokens5m>0 ∨ tokens1h>0 then max (total-tokens5m-tokens1h) 0+tokens5m+tokens1h else 0

namespace TokenParams
variable (t : TokenParams) (usedVars : String → Bool)

def used (name : String) (tokens : Int) : Int := if usedVars name then tokens else 0

def usedInput : Int :=
  used usedVars "cr" t.cr+used usedVars "cc" t.cc+used usedVars "cc1h" t.cc1h+used usedVars "img" t.img+used usedVars "ai" t.ai

def usedOutput : Int := used usedVars "img_o" t.imgO+used usedVars "ao" t.ao

def NonNegative : Prop :=
  0≤t.p ∧ 0≤t.c ∧ 0≤t.len ∧ 0≤t.cr ∧ 0≤t.cc ∧ 0≤t.cc1h ∧ 0≤t.img ∧ 0≤t.imgO ∧ 0≤t.ai ∧ 0≤t.ao

end TokenParams

section Statement
variable (inferred : Option Int) (usage : Usage) (isClaude : Bool) (usedVars : String → Bool)

structure AccountsFor (t : TokenParams) : Prop where
  prompt : isClaude=false → t.usedInput usedVars≤usage.promptTokens → t.p+t.usedInput usedVars=usage.promptTokens
  completion : isClaude=false → t.usedOutput usedVars≤usage.completionTokens →
    t.c+t.usedOutput usedVars=usage.completionTokens
  text : isClaude=true → t.p=usage.promptTokens
  cacheCreation : isClaude=true → t.cc+t.cc1h=chargedCacheCreation inferred usage
  len : isClaude=true → t.len = usage.promptTokens+usage.promptTokensDetails.cachedTokens+chargedCacheCreation inferred usage
  nonNegative : t.NonNegative

/-- No count is negative; of Claude usage the lifetimes add up to at least all cache-write tokens, or to at most what is
reported of them where the usage does not say that it is Claude's. -/
structure WholeCounts : Prop where
  prompt : 0≤usage.promptTokens
  details : 0≤usage.promptTokensDetails.cachedTokens ∧ 0≤usage.promptTokensDetails.imageTokens ∧
    0≤usage.promptTokensDetails.audioTokens ∧ 0≤usage.completionTokenDetails.imageTokens ∧
    0≤usage.completionTokenDetails.audioTokens
  lifetimes : usage.usageSemantic="anthropic" → 0≤usage.claudeCacheCreation5mTokens ∧ 0≤usage.claudeCacheCreation1hTokens
  split : isClaude=true →
    if usage.usageSemantic="anthropic" then
      summaryCacheCreationTokens inferred usage≤usage.claudeCacheCreation5mTokens+usage.claudeCacheCreation1hTokens
    else summaryCacheCreationTokens inferred usage≤usage.getCacheCreationTokens ∧
      usage.claudeCacheCreation5mTokens+usage.claudeCacheCreation1hTokens≤usage.getCacheCreationTokens

end Statement

section Accounting
variable {inferred : Option Int} {usage : Usage} {isClaude : Bool} {usedVars : String → Bool}

theorem charged_eq : chargedCacheCreation inferred usage=max (summaryCacheCreationTokens inferred usage)
    (usage.claudeCacheCreation5mTokens+usage.claudeCacheCreation1hTokens) := by
  simp only [chargedCacheCreation]
  split <;> omega

theorem cacheCreation_nonneg : 0≤usage.getCacheCreationTokens := by
  unfold UsageCounts.getCacheCreationTokens
  cases h : usage.getCacheCreationTokensWithPresence with
  | none => simp
  | some tokens =>
    have hclipped := cacheCreation_clipped usage.toUsageCounts tokens h
    rw [nonNegativeTokenCount] at hclipped
    split at hclipped
    · simp [←hclipped]
    · simpa using ‹¬tokens<0›

theorem summary_covers : usage.getCacheCreationTokens ≤ summaryCacheCreationTokens inferred usage := by
  cases inferred with
  | none => simp [summaryCacheCreationTokens]
  | some tokens =>
    simp only [summaryCacheCreationTokens]
    split <;> omega

theorem openai_prompt : (buildTieredTokenParams usage false usedVars).p =
    max (usage.promptTokens-(buildTieredTokenParams usage false usedVars).usedInput usedVars) 0 := by
  simp [buildTieredTokenParams,TokenParams.usedInput,TokenParams.used,Int.sub_sub]

theorem openai_completion : (buildTieredTokenParams usage false usedVars).c =
    max (usage.completionTokens-(buildTieredTokenParams usage false usedVars).usedOutput usedVars) 0 := by
  simp [buildTieredTokenParams,TokenParams.usedOutput,TokenParams.used,Int.sub_sub]

theorem claude_len : (buildTieredTokenParams usage true usedVars).len =
    usage.promptTokens+usage.promptTokensDetails.cachedTokens+
      ((buildTieredTokenParams usage true usedVars).cc+(buildTieredTokenParams usage true usedVars).cc1h) := by
  simp [buildTieredTokenParams,Int.add_assoc]

/-- The cache writes of the two amounts are those charged when the usage splits them, or says nothing of a split. -/
theorem cacheCreation_charged_iff : (buildTieredTokenParams usage isClaude usedVars).cc+
      (buildTieredTokenParams usage isClaude usedVars).cc1h=chargedCacheCreation inferred usage ↔
    if usage.usageSemantic="anthropic" then
      summaryCacheCreationTokens inferred usage≤usage.claudeCacheCreation5mTokens+usage.claudeCacheCreation1hTokens
    else summaryCacheCreationTokens inferred usage≤usage.getCacheCreationTokens ∧
      usage.claudeCacheCreation5mTokens+usage.claudeCacheCreation1hTokens≤usage.getCacheCreationTokens := by
  have hcovers := @summary_covers inferred usage
  rw [charged_eq]
  by_cases hsem : usage.usageSemantic="anthropic"
  · simp only [buildTieredTokenParams,hsem,if_true]
    omega
  · simp only [buildTieredTokenParams,hsem,if_false]
    omega

theorem nonNegative_iff : (buildTieredTokenParams usage isClaude usedVars).NonNegative ↔
    0≤(buildTieredTokenParams usage isClaude usedVars).len ∧ 0≤usage.promptTokensDetails.cachedTokens ∧
    0≤usage.promptTokensDetails.imageTokens ∧ 0≤usage.promptTokensDetails.audioTokens ∧
    0≤usage.completionTokenDetails.imageTokens ∧ 0≤usage.completionTokenDetails.audioTokens ∧
    (usage.usageSemantic="anthropic" → 0≤usage.claudeCacheCreation5mTokens ∧ 0≤usage.claudeCacheCreation1hTokens) := by
  have hcount := @cacheCreation_nonneg usage
  have hp : 0≤(buildTieredTokenParams usage isClaude usedVars).p := Int.le_max_right _ _
  have hc : 0≤(buildTieredTokenParams usage isClaude usedVars).c := Int.le_max_right _ _
  rw [TokenParams.NonNegative,and_iff_right hp,and_iff_right hc]
  generalize (buildTieredTokenParams usage isClaude usedVars).len=len
  by_cases hsem : usage.usageSemantic="anthropic"
  · simp only [buildTieredTokenParams,hsem,if_true,true_implies]
    grind
  · simp only [buildTieredTokenParams,hsem,if_false,false_implies]
    grind

theorem accounts_iff : AccountsFor inferred usage isClaude usedVars (buildTieredTokenParams usage isClaude usedVars) ↔
    WholeCounts inferred usage isClaude := by
  constructor
  · intro h
    obtain ⟨hlen,hcached,himage,haudio,himageOut,haudioOut,hlifetimes⟩ := nonNegative_iff.mp h.nonNegative
    refine ⟨?_,⟨hcached,himage,haudio,himageOut,haudioOut⟩,hlifetimes,
      fun hclaude => cacheCreation_charged_iff.mp (h.cacheCreation hclaude)⟩
    cases isClaude with
    | false => exact hlen
    | true => exact h.text rfl ▸ h.nonNegative.1
  · intro h
    have hcharged := fun hclaude => (@cacheCreation_charged_iff inferred usage isClaude usedVars).mpr (h.split hclaude)
    obtain ⟨hcached,hdetails⟩ := h.details
    have hlen : 0≤(buildTieredTokenParams usage isClaude usedVars).len := by
      cases isClaude with
      | false => exact h.prompt
      | true =>
        have hprompt := h.prompt
        have hwrites := @cacheCreation_nonneg usage
        have hcovers := @summary_covers inferred usage
        rw [claude_len,hcharged rfl,charged_eq]
        omega
    refine ⟨?_,?_,?_,hcharged,?_,nonNegative_iff.mpr
      ⟨hlen,hcached,hdetails.1,hdetails.2.1,hdetails.2.2.1,hdetails.2.2.2,h.lifetimes⟩⟩
    · rintro rfl hle
      rw [openai_prompt]
      omega
    · rintro rfl hle
      rw [openai_completion]
      omega
    · rintro rfl
      simp [buildTieredTokenParams,Int.max_eq_left h.prompt]
    · rintro rfl
      rw [claude_len,hcharged rfl]

end Accounting

/-- Of a usage that is billed, tiered billing accounts for every token exactly when the counts are whole. -/
theorem tiered_accounts_iff (raw : Usage) (claudeFormat : Bool) (inferred : Option Int) (usedVars : String → Bool) :
    let usage := effectiveBillingUsage raw
    let isClaude := usageSemanticFromUsage claudeFormat usage == "anthropic"
    AccountsFor inferred usage isClaude usedVars (buildTieredTokenParams usage isClaude usedVars) ↔
      WholeCounts inferred usage isClaude :=
  accounts_iff

def unsplitWrites : Usage :=
  let u : ClaudeUsage := { inputTokens := 10, cacheCreationInputTokens := 100 }
  { promptTokens := 10, billingUsage := newClaudeMessagesBillingUsage u }

theorem unsplit_not_billed : let usage := effectiveBillingUsage unsplitWrites
    (usageSemanticFromUsage true usage == "anthropic")=true ∧
    (buildTieredTokenParams usage true fun _ => true).cc+(buildTieredTokenParams usage true fun _ => true).cc1h=0 ∧
    chargedCacheCreation none usage=100 ∧
    ¬AccountsFor none usage true (fun _ => true) (buildTieredTokenParams usage true fun _ => true) := by
  refine ⟨by decide +kernel,by decide +kernel,by decide +kernel,fun h => ?_⟩
  exact absurd (h.cacheCreation rfl) (by decide +kernel)

end NewApi.Relay

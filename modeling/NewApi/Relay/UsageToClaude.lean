import NewApi.Relay.ClaudeBilling
import NewApi.Relay.ResponsesBilling

/-! An OpenAI usage becomes the usage of a Claude response (`oai_chat/to_claude_messages_resp.go`) and comes back
(`claude_messages/to_oai_chat_resp.go`): when the counts of the two formats agree. -/
namespace NewApi.Relay
open Option

def UsageCounts.cachedTokens (u : UsageCounts) : Int :=
  match u.inputTokensDetails with
  | some details => details.cachedTokens
  | none => u.promptTokensDetails.cachedTokens

def Usage.claudeSnapshot (u : Usage) : Option ClaudeUsage :=
  u.billingUsage.bind fun b => if b.source="claude_messages" ∨ b.semantic="anthropic" then b.claudeUsage else none

def Usage.openAISnapshot (u : Usage) : Option BillingUsage :=
  u.billingUsage.filter fun b => b.openAIUsage.isSome &&
    (b.source == "oai_chat" || b.source == "oai_responses" || b.semantic == "openai")

def buildClaudeUsageFromOpenAIUsage (u : Usage) : ClaudeUsage×Option BillingUsage :=
  match u.claudeSnapshot with
  | some snapshot => (snapshot,none)
  | none =>
    let billingUsage := u.openAISnapshot.or (newOpenAIChatBillingUsage u.toUsageCounts)
    let cacheCreationTokens := u.getCacheCreationTokens
    let split := normalizeCacheCreationSplit cacheCreationTokens u.claudeCacheCreation5mTokens
      u.claudeCacheCreation1hTokens
    let cachedTokens := u.cachedTokens
    -- the cached tokens are taken off only beside a cache write
    let inputTokens := if cacheCreationTokens>0 then nonNegativeTokenCount (u.promptTokens-cachedTokens-cacheCreationTokens)
      else u.promptTokens
    ({ inputTokens := inputTokens, outputTokens := u.completionTokens, cacheCreationInputTokens := cacheCreationTokens
       cacheReadInputTokens := cachedTokens
       cacheCreation := if split.1>0 ∨ split.2>0 then some ⟨split.1,split.2⟩ else none },billingUsage)

def cacheCreationTokensForOpenAIUsage (u : UsageCounts) : Int :=
  let splitCacheCreationTokens := u.claudeCacheCreation5mTokens+u.claudeCacheCreation1hTokens
  if u.getCacheCreationTokens>splitCacheCreationTokens then u.getCacheCreationTokens else splitCacheCreationTokens

def buildOpenAIStyleUsageFromClaudeUsage (u : Usage) : Usage :=
  let split := normalizeCacheCreationSplit u.getCacheCreationTokens u.claudeCacheCreation5mTokens
    u.claudeCacheCreation1hTokens
  let clone : UsageCounts :=
    { u.toUsageCounts with claudeCacheCreation5mTokens := split.1, claudeCacheCreation1hTokens := split.2 }
  let cacheCreationTokens := cacheCreationTokensForOpenAIUsage u.toUsageCounts
  let clone := if u.getCacheCreationTokensWithPresence.isSome ∨ cacheCreationTokens>0 then
    clone.setCacheCreationTokensWithPresence cacheCreationTokens else clone
  let totalInputTokens := u.promptTokens+u.promptTokensDetails.cachedTokens+cacheCreationTokens
  { clone with
    promptTokens := totalInputTokens, inputTokens := totalInputTokens
    totalTokens := totalInputTokens+u.completionTokens, usageSemantic := "openai", usageSource := "anthropic"
    billingUsage := u.billingUsage }

def usageFromClaudeAPIUsage (u : ClaudeUsage) (billingUsage : Option BillingUsage) : Usage :=
  buildOpenAIStyleUsageFromClaudeUsage
    { promptTokens := u.inputTokens, completionTokens := u.outputTokens, usageSemantic := "anthropic"
      usageSource := "anthropic", billingUsage := billingUsage.or (newClaudeMessagesBillingUsage u)
      promptTokensDetails := { cachedTokens := u.cacheReadInputTokens, cachedCreationTokens := u.cacheCreationInputTokens }
      claudeCacheCreation5mTokens := u.getCacheCreation5mTokens, claudeCacheCreation1hTokens := u.getCacheCreation1hTokens }

/-- The totals of a usage survive: the Claude counts add up to the prompt, the two lifetimes to the cache writes, and
on the way back the prompt, the completion and the cached tokens are the ones of the start. -/
structure TotalsSurvive (u : Usage) (claude : ClaudeUsage) (back : Usage) : Prop where
  prompt : claude.inputTokens+claude.cacheReadInputTokens+claude.cacheCreationInputTokens=u.promptTokens
  split : claude.getCacheCreation5mTokens+claude.getCacheCreation1hTokens=claude.cacheCreationInputTokens
  promptBack : back.promptTokens=u.promptTokens
  completionBack : back.completionTokens=u.completionTokens
  cachedBack : back.cachedTokens=u.cachedTokens

section Totals
variable {u : Usage}

theorem getCacheCreationTokens_nonneg (u : UsageCounts) : 0≤u.getCacheCreationTokens := by
  have hclip := cacheCreation_clipped u
  unfold UsageCounts.getCacheCreationTokens
  cases hcount : u.getCacheCreationTokensWithPresence with
  | none => exact Int.le_refl 0
  | some tokens =>
    have htokens := hclip tokens hcount
    unfold nonNegativeTokenCount at htokens
    rw [getD_some]
    split at htokens <;> omega

theorem usageFromClaudeAPIUsage_spec (c : ClaudeUsage) (b : Option BillingUsage) (h : 0≤c.cacheCreationInputTokens) :
    (usageFromClaudeAPIUsage c b).promptTokens=c.inputTokens+c.cacheReadInputTokens +
      max c.cacheCreationInputTokens (c.getCacheCreation5mTokens+c.getCacheCreation1hTokens) ∧
    (usageFromClaudeAPIUsage c b).completionTokens=c.outputTokens ∧
    (usageFromClaudeAPIUsage c b).cachedTokens=c.cacheReadInputTokens := by
  unfold usageFromClaudeAPIUsage buildOpenAIStyleUsageFromClaudeUsage
  have hcount := @getCacheCreationTokens_details
    { promptTokens := c.inputTokens, completionTokens := c.outputTokens, usageSemantic := "anthropic"
      usageSource := "anthropic"
      promptTokensDetails := { cachedTokens := c.cacheReadInputTokens, cachedCreationTokens := c.cacheCreationInputTokens }
      claudeCacheCreation5mTokens := c.getCacheCreation5mTokens, claudeCacheCreation1hTokens := c.getCacheCreation1hTokens }
    { cachedTokens := c.cacheReadInputTokens, cachedCreationTokens := c.cacheCreationInputTokens } rfl rfl rfl
  refine ⟨?_,?_,?_⟩
  · dsimp only
    unfold cacheCreationTokensForOpenAIUsage
    rw [hcount]
    dsimp only
    split <;> omega
  · dsimp only
    split <;> rfl
  · dsimp only
    split <;> rfl

theorem buildClaudeUsage_split (h : u.claudeSnapshot=none) (h5m : 0≤u.claudeCacheCreation5mTokens)
    (h1h : 0≤u.claudeCacheCreation1hTokens) : (buildClaudeUsageFromOpenAIUsage u).1.getCacheCreation5mTokens +
      (buildClaudeUsageFromOpenAIUsage u).1.getCacheCreation1hTokens =
        max u.getCacheCreationTokens (u.claudeCacheCreation5mTokens+u.claudeCacheCreation1hTokens) := by
  have hwrites := getCacheCreationTokens_nonneg u.toUsageCounts
  have hsplit : normalizeCacheCreationSplit u.getCacheCreationTokens u.claudeCacheCreation5mTokens
      u.claudeCacheCreation1hTokens=(max u.claudeCacheCreation5mTokens
        (u.getCacheCreationTokens-u.claudeCacheCreation1hTokens),u.claudeCacheCreation1hTokens) := by
    unfold normalizeCacheCreationSplit
    refine Prod.ext ?_ rfl
    dsimp only
    split <;> omega
  unfold buildClaudeUsageFromOpenAIUsage ClaudeUsage.getCacheCreation5mTokens ClaudeUsage.getCacheCreation1hTokens
  rw [h]
  dsimp only
  rw [hsplit]
  split
  · dsimp only [map_some,getD_some]
    omega
  · rw [map_none,map_none,getD_none]
    omega

/-- The totals of an OpenAI usage survive in Claude's format and back exactly if no token was read from the cache
without a cache write, and the two lifetimes do not exceed the cache writes. -/
theorem claude_totals_survive_iff (hsnapshot : u.claudeSnapshot=none) (hcached : 0≤u.cachedTokens)
    (h5m : 0≤u.claudeCacheCreation5mTokens) (h1h : 0≤u.claudeCacheCreation1hTokens)
    (hfits : u.cachedTokens+u.getCacheCreationTokens≤u.promptTokens) : TotalsSurvive u (buildClaudeUsageFromOpenAIUsage u).1
        (usageFromClaudeAPIUsage (buildClaudeUsageFromOpenAIUsage u).1 (buildClaudeUsageFromOpenAIUsage u).2) ↔
      (u.getCacheCreationTokens=0 → u.cachedTokens=0) ∧
        u.claudeCacheCreation5mTokens+u.claudeCacheCreation1hTokens≤u.getCacheCreationTokens := by
  have hwrites := getCacheCreationTokens_nonneg u.toUsageCounts
  have hsplit := buildClaudeUsage_split hsnapshot h5m h1h
  have hcounts : (buildClaudeUsageFromOpenAIUsage u).1.cacheCreationInputTokens=u.getCacheCreationTokens ∧
      (buildClaudeUsageFromOpenAIUsage u).1.cacheReadInputTokens=u.cachedTokens ∧
      (buildClaudeUsageFromOpenAIUsage u).1.outputTokens=u.completionTokens ∧
      (buildClaudeUsageFromOpenAIUsage u).1.inputTokens =
        if u.getCacheCreationTokens=0 then u.promptTokens
        else u.promptTokens-u.cachedTokens-u.getCacheCreationTokens := by
    unfold buildClaudeUsageFromOpenAIUsage nonNegativeTokenCount
    rw [hsnapshot]
    refine ⟨rfl,rfl,rfl,?_⟩
    dsimp only
    split <;> split <;> omega
  obtain ⟨hcreation,hread,houtput,hinput⟩ := hcounts
  obtain ⟨hprompt,hcompletion,hback⟩ := usageFromClaudeAPIUsage_spec (buildClaudeUsageFromOpenAIUsage u).1
    (buildClaudeUsageFromOpenAIUsage u).2 (hcreation ▸ hwrites)
  rw [hsplit,hcreation,hread,hinput] at hprompt
  constructor
  · rintro ⟨htotal,hparts,-,-,-⟩
    rw [hread,hcreation,hinput] at htotal
    rw [hsplit,hcreation] at hparts
    refine ⟨fun hzero => ?_,by omega⟩
    rw [if_pos hzero] at htotal
    omega
  · rintro ⟨hzero,hle⟩
    have hinput' : (if u.getCacheCreationTokens=0 then u.promptTokens
        else u.promptTokens-u.cachedTokens-u.getCacheCreationTokens) =
        u.promptTokens-u.cachedTokens-u.getCacheCreationTokens := by
      split
      · have := hzero ‹_›
        omega
      · rfl
    rw [hinput'] at hinput hprompt
    refine ⟨?_,?_,?_,hcompletion.trans houtput,hback.trans hread⟩
    · rw [hinput,hread,hcreation]
      omega
    · rw [hsplit,hcreation]
      omega
    · rw [hprompt]
      omega

def writtenUsage : Usage :=
  { promptTokens := 100, completionTokens := 5, cacheWriteTokens := 50, claudeCacheCreation1hTokens := 20
    promptTokensDetails := { cachedTokens := 30 } }

theorem claude_totals_survive_written : TotalsSurvive writtenUsage (buildClaudeUsageFromOpenAIUsage writtenUsage).1
      (usageFromClaudeAPIUsage (buildClaudeUsageFromOpenAIUsage writtenUsage).1
        (buildClaudeUsageFromOpenAIUsage writtenUsage).2) :=
  (claude_totals_survive_iff (by decide) (by decide) (by decide) (by decide) (by decide)).mpr (by decide)

def hitUsage : Usage := { promptTokens := 100, completionTokens := 5, promptTokensDetails := { cachedTokens := 30 } }

theorem cache_hit_counted_twice : (buildClaudeUsageFromOpenAIUsage hitUsage).1.inputTokens=100 ∧
    (buildClaudeUsageFromOpenAIUsage hitUsage).1.cacheReadInputTokens=30 ∧
    ¬ TotalsSurvive hitUsage (buildClaudeUsageFromOpenAIUsage hitUsage).1
      (usageFromClaudeAPIUsage (buildClaudeUsageFromOpenAIUsage hitUsage).1 (buildClaudeUsageFromOpenAIUsage hitUsage).2) :=
  ⟨by decide,by decide,fun h => absurd h.prompt (by decide)⟩

end Totals

end NewApi.Relay

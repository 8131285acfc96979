import NewApi.Lib.GoStrings

/-! Token usage as the upstreams report it (`relaykit/dto`), its normalization for Responses bodies, and the usage
that is billed (`service/billing_usage.go`). A count comes under several names; the presence of a name is kept beside
its value. -/
namespace NewApi.Relay
open GoStrings

structure InputTokenDetails where
  cachedTokens : Int := 0
  cacheWriteTokens : Int := 0
  cacheCreationTokens : Int := 0
  cachedCreationTokens : Int := 0
  textTokens : Int := 0
  audioTokens : Int := 0
  imageTokens : Int := 0
  hasCacheWriteTokens : Bool := false
  hasCacheCreationTokens : Bool := false
  hasCachedCreationTokens : Bool := false
  hasCachedTokens : Bool := false

structure OutputTokenDetails where
  textTokens : Int := 0
  audioTokens : Int := 0
  imageTokens : Int := 0
  reasoningTokens : Int := 0

structure UsageCounts where
  promptTokens : Int := 0
  completionTokens : Int := 0
  totalTokens : Int := 0
  promptCacheHitTokens : Int := 0
  hasPromptTokens : Bool := false
  hasCompletionTokens : Bool := false
  hasTotalTokens : Bool := false
  hasPromptCacheHitTokens : Bool := false
  usageSemantic : String := ""
  usageSource : String := ""
  promptTokensDetails : InputTokenDetails := {}
  completionTokenDetails : OutputTokenDetails := {}
  inputTokens : Int := 0
  outputTokens : Int := 0
  inputTokensDetails : Option InputTokenDetails := none
  outputTokensDetails : Option OutputTokenDetails := none
  hasInputTokens : Bool := false
  hasOutputTokens : Bool := false
  cacheCreationInputTokens : Int := 0
  cacheWriteInputTokens : Int := 0
  cacheWriteTokens : Int := 0
  cacheCreationTokens : Int := 0
  hasCacheCreationInputTokens : Bool := false
  hasCacheWriteInputTokens : Bool := false
  hasCacheWriteTokens : Bool := false
  hasCacheCreationTokens : Bool := false
  claudeCacheCreation5mTokens : Int := 0
  claudeCacheCreation1hTokens : Int := 0

structure ClaudeCacheCreationUsage where
  ephemeral5mInputTokens : Int := 0
  ephemeral1hInputTokens : Int := 0

structure ClaudeUsage where
  inputTokens : Int := 0
  cacheCreationInputTokens : Int := 0
  cacheReadInputTokens : Int := 0
  outputTokens : Int := 0
  cacheCreation : Option ClaudeCacheCreationUsage := none
  claudeCacheCreation5mTokens : Int := 0
  claudeCacheCreation1hTokens : Int := 0

structure GeminiPromptTokensDetails where
  modality : String
  tokenCount : Int

structure GeminiUsageMetadata where
  promptTokenCount : Int := 0
  toolUsePromptTokenCount : Int := 0
  candidatesTokenCount : Int := 0
  totalTokenCount : Int := 0
  thoughtsTokenCount : Int := 0
  cachedContentTokenCount : Int := 0
  promptTokensDetails : List GeminiPromptTokensDetails := []
  toolUsePromptTokensDetails : List GeminiPromptTokensDetails := []
  candidatesTokensDetails : List GeminiPromptTokensDetails := []

/-- Its clones carry no `billing_usage` of their own. -/
structure BillingUsage where
  source : String := ""
  semantic : String := ""
  estimated : Bool := false
  openAIUsage : Option UsageCounts := none
  claudeUsage : Option ClaudeUsage := none
  geminiUsageMetadata : Option GeminiUsageMetadata := none

structure Usage extends UsageCounts where
  billingUsage : Option BillingUsage := none

def nonNegativeTokenCount (tokens : Int) : Int := if tokens<0 then 0 else tokens

/-- A count under one of its names: present when the body named it or when it is not zero. -/
def present (named : Bool) (tokens : Int) : Bool := named || tokens != 0

def InputTokenDetails.setCacheCreationTokensWithPresence (d : InputTokenDetails) (tokens : Int) : InputTokenDetails :=
  let tokens := nonNegativeTokenCount tokens
  { d with cacheWriteTokens := tokens, cacheCreationTokens := tokens, cachedCreationTokens := tokens
           hasCacheWriteTokens := true, hasCacheCreationTokens := true, hasCachedCreationTokens := true }

namespace UsageCounts
variable (u : UsageCounts)

def inputDetail (named : InputTokenDetails → Bool) (tokens : InputTokenDetails → Int) : Option Int :=
  u.inputTokensDetails.bind fun d => if present (named d) (tokens d) then some (nonNegativeTokenCount (tokens d)) else none

def promptDetail (named : InputTokenDetails → Bool) (tokens : InputTokenDetails → Int) : Option Int :=
  let d := u.promptTokensDetails
  if present (named d) (tokens d) then some (nonNegativeTokenCount (tokens d)) else none

def getDetailCacheCreationTokens : Option Int :=
  (u.inputDetail (·.hasCacheWriteTokens) (·.cacheWriteTokens)).or <|
  (u.promptDetail (·.hasCacheWriteTokens) (·.cacheWriteTokens)).or <|
  (u.inputDetail (·.hasCacheCreationTokens) (·.cacheCreationTokens)).or <|
  (u.promptDetail (·.hasCacheCreationTokens) (·.cacheCreationTokens)).or <|
  (u.inputDetail (·.hasCachedCreationTokens) (·.cachedCreationTokens)).or <|
  u.promptDetail (·.hasCachedCreationTokens) (·.cachedCreationTokens)

def getTopLevelCacheCreationTokens : Option Int :=
  if present u.hasCacheWriteTokens u.cacheWriteTokens then some (nonNegativeTokenCount u.cacheWriteTokens)
  else if present u.hasCacheCreationInputTokens u.cacheCreationInputTokens then
    some (nonNegativeTokenCount u.cacheCreationInputTokens)
  else if present u.hasCacheWriteInputTokens u.cacheWriteInputTokens then
    some (nonNegativeTokenCount u.cacheWriteInputTokens)
  else if present u.hasCacheCreationTokens u.cacheCreationTokens then
    some (nonNegativeTokenCount u.cacheCreationTokens)
  else none

def getCacheCreationTokensWithPresence : Option Int :=
  u.getDetailCacheCreationTokens.or u.getTopLevelCacheCreationTokens

def getCacheCreationTokens : Int := u.getCacheCreationTokensWithPresence.getD 0

def setCacheCreationTokensWithPresence (tokens : Int) : UsageCounts :=
  let tokens := nonNegativeTokenCount tokens
  { u with
    promptTokensDetails := u.promptTokensDetails.setCacheCreationTokensWithPresence tokens
    inputTokensDetails := u.inputTokensDetails.map (·.setCacheCreationTokensWithPresence tokens)
    cacheCreationInputTokens := tokens, cacheWriteInputTokens := tokens
    cacheWriteTokens := tokens, cacheCreationTokens := tokens
    hasCacheCreationInputTokens := true, hasCacheWriteInputTokens := true
    hasCacheWriteTokens := true, hasCacheCreationTokens := true }

def setCacheCreationTokens (tokens : Int) : UsageCounts :=
  if tokens≤0 then u else u.setCacheCreationTokensWithPresence tokens

def copyCacheCreationTokensFrom (u src : UsageCounts) : UsageCounts :=
  match src.getCacheCreationTokensWithPresence with
  | some tokens => u.setCacheCreationTokensWithPresence tokens
  | none => u

def hasOpenAIUsageTokens : Bool :=
  u.promptTokens != 0 || u.completionTokens != 0 || u.totalTokens != 0 || u.inputTokens != 0 || u.outputTokens != 0 ||
  u.promptCacheHitTokens != 0 || u.claudeCacheCreation5mTokens != 0 || u.claudeCacheCreation1hTokens != 0 ||
  u.promptTokensDetails.cachedTokens != 0 || u.getCacheCreationTokens != 0 || u.promptTokensDetails.textTokens != 0 ||
  u.promptTokensDetails.imageTokens != 0 || u.promptTokensDetails.audioTokens != 0 ||
  u.completionTokenDetails.reasoningTokens != 0 || u.completionTokenDetails.textTokens != 0 ||
  u.completionTokenDetails.imageTokens != 0 || u.completionTokenDetails.audioTokens != 0 ||
  u.inputTokensDetails.isSome

end UsageCounts

def newOpenAIResponsesBillingUsage (usage : UsageCounts) : Option BillingUsage :=
  if usage.hasOpenAIUsageTokens then
    some { source := "oai_responses", semantic := "openai", openAIUsage := some usage }
  else none

def newOpenAIChatBillingUsage (usage : UsageCounts) : Option BillingUsage :=
  if usage.hasOpenAIUsageTokens then
    some { source := "oai_chat", semantic := "openai", openAIUsage := some usage } else none

def responsesCounts (src : UsageCounts) : UsageCounts :=
  { usageSemantic := src.usageSemantic, usageSource := src.usageSource
    hasInputTokens := src.hasInputTokens, hasOutputTokens := src.hasOutputTokens
    hasPromptTokens := src.hasInputTokens, hasCompletionTokens := src.hasOutputTokens
    hasTotalTokens := src.hasTotalTokens
    promptTokens := src.inputTokens, inputTokens := src.inputTokens
    completionTokens := src.outputTokens, outputTokens := src.outputTokens
    totalTokens := if src.totalTokens≠0 then src.totalTokens else src.inputTokens+src.outputTokens
    promptTokensDetails := src.inputTokensDetails.getD src.promptTokensDetails
    inputTokensDetails := src.inputTokensDetails }

def normalizeResponsesUsage (src : Usage) : Usage :=
  { (responsesCounts src.toUsageCounts).copyCacheCreationTokensFrom src.toUsageCounts with
    billingUsage := src.billingUsage, completionTokenDetails := src.completionTokenDetails
    claudeCacheCreation5mTokens := src.claudeCacheCreation5mTokens
    claudeCacheCreation1hTokens := src.claudeCacheCreation1hTokens }

def usageFromResponsesUsage (src : Usage) : Usage :=
  let usage := normalizeResponsesUsage src
  if usage.billingUsage.isNone then
    { usage with billingUsage := newOpenAIResponsesBillingUsage src.toUsageCounts }
  else usage

def usageFromOpenAIBillingUsage (billingUsage : BillingUsage) (snapshot : UsageCounts) : Usage :=
  let promptTokens := if snapshot.promptTokens=0 ∧ snapshot.inputTokens>0 then snapshot.inputTokens
    else snapshot.promptTokens
  let completionTokens := if snapshot.completionTokens=0 ∧ snapshot.outputTokens>0 then snapshot.outputTokens
    else snapshot.completionTokens
  { snapshot with
    promptTokens := promptTokens, completionTokens := completionTokens
    inputTokens := if snapshot.inputTokens=0 ∧ promptTokens>0 then promptTokens else snapshot.inputTokens
    outputTokens := if snapshot.outputTokens=0 ∧ completionTokens>0 then completionTokens else snapshot.outputTokens
    totalTokens := if snapshot.totalTokens=0 then promptTokens+completionTokens else snapshot.totalTokens
    usageSemantic := "openai", usageSource := billingUsage.source, billingUsage := some billingUsage }

def usageFromClaudeBillingUsage (billingUsage : BillingUsage) (claude : ClaudeUsage) : Usage :=
  let cacheCreation5m := (claude.cacheCreation.map (·.ephemeral5mInputTokens)).getD 0
  let cacheCreation1h := (claude.cacheCreation.map (·.ephemeral1hInputTokens)).getD 0
  let usage : UsageCounts :=
    { promptTokens := claude.inputTokens, completionTokens := claude.outputTokens
      totalTokens := claude.inputTokens+claude.outputTokens
      inputTokens := claude.inputTokens+claude.cacheReadInputTokens+claude.cacheCreationInputTokens
      outputTokens := claude.outputTokens, usageSemantic := "anthropic", usageSource := "claude_messages"
      claudeCacheCreation5mTokens :=
        if cacheCreation5m=0 then claude.claudeCacheCreation5mTokens else cacheCreation5m
      claudeCacheCreation1hTokens :=
        if cacheCreation1h=0 then claude.claudeCacheCreation1hTokens else cacheCreation1h
      promptTokensDetails := { cachedTokens := claude.cacheReadInputTokens } }
  { usage.setCacheCreationTokens claude.cacheCreationInputTokens with billingUsage := some billingUsage }

def addGeminiInputTokenDetail (d : InputTokenDetails) (detail : GeminiPromptTokensDetails) : InputTokenDetails :=
  if detail.modality="AUDIO" then { d with audioTokens := d.audioTokens+detail.tokenCount }
  else if detail.modality="IMAGE" then { d with imageTokens := d.imageTokens+detail.tokenCount }
  else if detail.modality="TEXT" then { d with textTokens := d.textTokens+detail.tokenCount }
  else d

def addGeminiOutputTokenDetail (d : OutputTokenDetails) (detail : GeminiPromptTokensDetails) : OutputTokenDetails :=
  if detail.modality="IMAGE" then { d with imageTokens := d.imageTokens+detail.tokenCount }
  else if detail.modality="AUDIO" then { d with audioTokens := d.audioTokens+detail.tokenCount }
  else if detail.modality="TEXT" then { d with textTokens := d.textTokens+detail.tokenCount }
  else d

def usageFromGeminiBillingUsage (billingUsage : BillingUsage) (metadata : GeminiUsageMetadata) : Usage :=
  let promptTokens := metadata.promptTokenCount+metadata.toolUsePromptTokenCount
  let completionTokens := metadata.candidatesTokenCount+metadata.thoughtsTokenCount
  let input : InputTokenDetails := { cachedTokens := metadata.cachedContentTokenCount }
  let input := (metadata.promptTokensDetails++metadata.toolUsePromptTokensDetails).foldl addGeminiInputTokenDetail input
  let output : OutputTokenDetails := { reasoningTokens := metadata.thoughtsTokenCount }
  let output := metadata.candidatesTokensDetails.foldl addGeminiOutputTokenDetail output
  { promptTokens := promptTokens
    completionTokens := if metadata.totalTokenCount≠0 ∧ completionTokens≤0 then metadata.totalTokenCount-promptTokens
      else completionTokens
    totalTokens := if metadata.totalTokenCount=0 then promptTokens+completionTokens else metadata.totalTokenCount
    usageSemantic := "gemini", usageSource := "gemini_chat", billingUsage := some billingUsage
    promptTokensDetails := if promptTokens>0 ∧ input.textTokens=0 ∧ input.audioTokens=0 then
      { input with textTokens := promptTokens } else input
    completionTokenDetails := output }

def usageFromBillingUsage (usage : Usage) : Option Usage :=
  usage.billingUsage.bind fun billingUsage =>
  let source := trimSpace billingUsage.source
  let semantic := trimSpace billingUsage.semantic
  let openAI := billingUsage.openAIUsage.bind fun snapshot =>
    if equalFold source "oai_chat" || equalFold source "oai_responses" || equalFold semantic "openai" then
      some (usageFromOpenAIBillingUsage billingUsage snapshot) else none
  let claude := billingUsage.claudeUsage.bind fun snapshot =>
    if equalFold source "claude_messages" || equalFold semantic "anthropic" then
      some (usageFromClaudeBillingUsage billingUsage snapshot) else none
  let gemini := billingUsage.geminiUsageMetadata.bind fun metadata =>
    if equalFold source "gemini_chat" || equalFold semantic "gemini" then
      some (usageFromGeminiBillingUsage billingUsage metadata) else none
  openAI.or (claude.or gemini)

def effectiveBillingUsage (usage : Usage) : Usage := (usageFromBillingUsage usage).getD usage

/-- The token counts that `calculateTextQuotaSummary` reads of a usage. -/
structure TextQuotaTokens where
  promptTokens : Int
  completionTokens : Int
  cacheTokens : Int
  cacheCreationTokens : Int
  imageTokens : Int
  audioTokens : Int
  deriving DecidableEq

def textQuotaTokens (usage : Usage) : TextQuotaTokens :=
  { promptTokens := usage.promptTokens, completionTokens := usage.completionTokens
    cacheTokens := usage.promptTokensDetails.cachedTokens, cacheCreationTokens := usage.getCacheCreationTokens
    imageTokens := usage.promptTokensDetails.imageTokens, audioTokens := usage.promptTokensDetails.audioTokens }

end NewApi.Relay

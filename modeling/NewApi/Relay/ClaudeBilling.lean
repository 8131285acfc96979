import NewApi.Relay.Usage

/-! Claude usage on its way to the bill (`relay/channel/claude/relay-claude.go`, `claude_messages/to_oai_chat_resp.go`):
a plain response keeps the usage it came with, a stream collects it from its events and keeps it twice, as plain counts
and as the snapshot that is billed. Token amounts of tiered billing (`service/tiered_settle.go`) are integers here. -/
namespace NewApi.Relay
open Option GoStrings

namespace ClaudeUsage

def getCacheCreation5mTokens (u : ClaudeUsage) : Int := (u.cacheCreation.map (·.ephemeral5mInputTokens)).getD 0

def getCacheCreation1hTokens (u : ClaudeUsage) : Int := (u.cacheCreation.map (·.ephemeral1hInputTokens)).getD 0

end ClaudeUsage

def hasClaudeUsageTokens (u : ClaudeUsage) : Bool :=
  u.inputTokens != 0 || u.outputTokens != 0 || u.cacheCreationInputTokens != 0 || u.cacheReadInputTokens != 0 ||
  u.claudeCacheCreation5mTokens != 0 || u.claudeCacheCreation1hTokens != 0 ||
  u.cacheCreation.any fun c => c.ephemeral5mInputTokens != 0 || c.ephemeral1hInputTokens != 0

def newClaudeMessagesBillingUsage (u : ClaudeUsage) : Option BillingUsage :=
  if hasClaudeUsageTokens u then some { source := "claude_messages", semantic := "anthropic", claudeUsage := some u }
  else none

/-- What the split leaves over of the total is written for five minutes. -/
def normalizeCacheCreationSplit (totalTokens tokens5m tokens1h : Int) : Int×Int :=
  let remainder := totalTokens-tokens5m-tokens1h
  (tokens5m+(if remainder<0 then 0 else remainder),tokens1h)

def claudeBillingUsageFromSemanticUsage (usage : UsageCounts) : Option BillingUsage :=
  let cacheCreationTokens := usage.getCacheCreationTokens
  let split := normalizeCacheCreationSplit cacheCreationTokens usage.claudeCacheCreation5mTokens
    usage.claudeCacheCreation1hTokens
  newClaudeMessagesBillingUsage
    { inputTokens := usage.promptTokens, cacheCreationInputTokens := cacheCreationTokens
      cacheReadInputTokens := usage.promptTokensDetails.cachedTokens, outputTokens := usage.completionTokens
      cacheCreation := if split.1>0 ∨ split.2>0 then some ⟨split.1,split.2⟩ else none }

def handleClaudeResponseData (u : ClaudeUsage) : Usage :=
  { promptTokens := u.inputTokens, completionTokens := u.outputTokens, totalTokens := u.inputTokens+u.outputTokens
    usageSemantic := "anthropic", billingUsage := newClaudeMessagesBillingUsage u
    promptTokensDetails := { cachedTokens := u.cacheReadInputTokens, cachedCreationTokens := u.cacheCreationInputTokens }
    claudeCacheCreation5mTokens := u.getCacheCreation5mTokens, claudeCacheCreation1hTokens := u.getCacheCreation1hTokens }

inductive ClaudeAccountEvent where
  | messageStart (usage : Option ClaudeUsage)
  | contentBlockStart
  | contentBlockDelta (text thinking : Option String)
  | messageDelta (usage : Option ClaudeUsage)
  | other

structure ClaudeResponseInfo where
  usage : Usage := {}
  responseText : String := ""
  done : Bool := false

/-- A count of a `message_delta` replaces the one before it when it is positive. -/
def replaced (old new : Int) : Int := if new>0 then new else old

def UsageCounts.startedWith (usage : UsageCounts) (u : ClaudeUsage) : UsageCounts :=
  { usage with
    promptTokens := u.inputTokens, usageSemantic := "anthropic", completionTokens := u.outputTokens
    promptTokensDetails := { usage.promptTokensDetails with
      cachedTokens := u.cacheReadInputTokens, cachedCreationTokens := u.cacheCreationInputTokens }
    claudeCacheCreation5mTokens := u.getCacheCreation5mTokens, claudeCacheCreation1hTokens := u.getCacheCreation1hTokens }

def UsageCounts.updatedWith (usage : UsageCounts) (u : ClaudeUsage) : UsageCounts :=
  let promptTokens := replaced usage.promptTokens u.inputTokens
  let completionTokens := replaced usage.completionTokens u.outputTokens
  let details := usage.promptTokensDetails
  { usage with
    promptTokens := promptTokens, usageSemantic := "anthropic", completionTokens := completionTokens
    promptTokensDetails := { details with
      cachedTokens := replaced details.cachedTokens u.cacheReadInputTokens
      cachedCreationTokens := replaced details.cachedCreationTokens u.cacheCreationInputTokens }
    claudeCacheCreation5mTokens := replaced usage.claudeCacheCreation5mTokens u.getCacheCreation5mTokens
    claudeCacheCreation1hTokens := replaced usage.claudeCacheCreation1hTokens u.getCacheCreation1hTokens
    totalTokens := promptTokens+completionTokens }

def UsageCounts.withSnapshot (usage : UsageCounts) : Usage :=
  { usage with billingUsage := claudeBillingUsageFromSemanticUsage usage }

def formatClaudeResponseInfo (info : ClaudeResponseInfo) : ClaudeAccountEvent → ClaudeResponseInfo
  | .messageStart (some u) => { info with usage := (info.usage.toUsageCounts.startedWith u).withSnapshot }
  | .messageStart none => info
  | .contentBlockDelta text thinking =>
    { info with responseText := info.responseText++text.getD "" ++ thinking.getD "" }
  | .messageDelta (some u) =>
    { info with usage := (info.usage.toUsageCounts.updatedWith u).withSnapshot, done := true }
  | .messageDelta none => { info with done := true }
  | .contentBlockStart => info
  | .other => info

def claudeStreamInfo (events : List ClaudeAccountEvent) : ClaudeResponseInfo := events.foldl formatClaudeResponseInfo {}

def buildMessageDeltaPatchUsage (response : Option ClaudeUsage) (known : UsageCounts) : ClaudeUsage :=
  let usage := response.getD {}
  let usage := if usage.inputTokens=0 ∧ known.promptTokens>0 then { usage with inputTokens := known.promptTokens }
    else usage
  let usage := if usage.cacheReadInputTokens=0 ∧ known.promptTokensDetails.cachedTokens>0 then
    { usage with cacheReadInputTokens := known.promptTokensDetails.cachedTokens } else usage
  let usage := if usage.cacheCreationInputTokens=0 ∧ known.getCacheCreationTokens>0 then
    { usage with cacheCreationInputTokens := known.getCacheCreationTokens } else usage
  let split := match usage.cacheCreation with
    | some c => normalizeCacheCreationSplit usage.cacheCreationInputTokens c.ephemeral5mInputTokens c.ephemeral1hInputTokens
    | none => normalizeCacheCreationSplit usage.cacheCreationInputTokens known.claudeCacheCreation5mTokens
        known.claudeCacheCreation1hTokens
  if usage.cacheCreation.isSome ∨ split.1>0 ∨ split.2>0 then { usage with cacheCreation := some ⟨split.1,split.2⟩ }
  else usage

/-- The counts after the fallback of `HandleStreamFinalResponse`: `counted` tokens in the text of the response,
`estimate` tokens in the prompt. -/
def ClaudeResponseInfo.withFallback (info : ClaudeResponseInfo) (counted : Nat) (estimate : Int) : Usage :=
  let usage := info.usage
  if usage.completionTokens=0 ∨ info.done=false then
    let completionTokens := if usage.completionTokens=0 ∨ info.done=false ∧ (counted : Int)>usage.completionTokens
      then (counted : Int) else usage.completionTokens
    let promptTokens := if usage.promptTokens=0 then estimate else usage.promptTokens
    { usage with completionTokens := completionTokens, promptTokens := promptTokens
                 totalTokens := promptTokens+completionTokens }
  else usage

def Usage.withFinalSnapshot (usage : Usage) : Usage :=
  if usage.billingUsage.isNone then
    { usage with billingUsage := newClaudeMessagesBillingUsage (buildMessageDeltaPatchUsage none usage.toUsageCounts) }
  else usage

/-- The usage it leaves; `countTokens` is the local count of a text. -/
def handleStreamFinalResponse (countTokens : String → Nat) (estimate : Int) (info : ClaudeResponseInfo) : Usage :=
  Usage.withFinalSnapshot
    { info.withFallback (countTokens info.responseText) estimate with usageSemantic := "anthropic" }

structure TokenParams where
  p : Int
  c : Int
  len : Int
  cr : Int
  cc : Int
  cc1h : Int
  img : Int
  imgO : Int
  ai : Int
  ao : Int

def buildTieredTokenParams (usage : Usage) (isClaudeUsageSemantic : Bool) (usedVars : String → Bool) : TokenParams :=
  let p := usage.promptTokens
  let c := usage.completionTokens
  let cr := usage.promptTokensDetails.cachedTokens
  let cc5m := if usage.usageSemantic="anthropic" then usage.claudeCacheCreation5mTokens else usage.getCacheCreationTokens
  let cc1h := if usage.usageSemantic="anthropic" then usage.claudeCacheCreation1hTokens else 0
  let img := usage.promptTokensDetails.imageTokens
  let ai := usage.promptTokensDetails.audioTokens
  let imgO := usage.completionTokenDetails.imageTokens
  let ao := usage.completionTokenDetails.audioTokens
  let inputLen := if isClaudeUsageSemantic then p+cr+cc5m+cc1h else p
  let less := fun (name : String) (tokens : Int) => if !isClaudeUsageSemantic && usedVars name then tokens else 0
  let p := p-less "cr" cr-less "cc" cc5m-less "cc1h" cc1h-less "img" img-less "ai" ai
  let c := c-less "img_o" imgO-less "ao" ao
  { p := max p 0, c := max c 0, len := inputLen, cr := cr, cc := cc5m, cc1h := cc1h, img := img, imgO := imgO
    ai := ai, ao := ao }

/-- The cache-write tokens that `calculateTextQuotaSummary` prices: those of no known lifetime, of five minutes and of
an hour, each at a ratio of its own. -/
structure CacheCreationAmounts where
  remaining : Int
  fiveMinutes : Int
  oneHour : Int

def cacheCreationAmounts (usage : Usage) : CacheCreationAmounts :=
  let total := usage.getCacheCreationTokens
  let tokens5m := usage.claudeCacheCreation5mTokens
  let tokens1h := usage.claudeCacheCreation1hTokens
  if total≠0 ∨ tokens5m>0 ∨ tokens1h>0 then ⟨max (total-tokens5m-tokens1h) 0,tokens5m,tokens1h⟩
  else ⟨0,0,0⟩

variable {usage : Usage} {u : ClaudeUsage}

theorem effective_snapshot
    (h : usage.billingUsage=some { source := "claude_messages", semantic := "anthropic", claudeUsage := some u }) :
    effectiveBillingUsage usage=usageFromClaudeBillingUsage
      { source := "claude_messages", semantic := "anthropic", claudeUsage := some u } u := by
  have hsource : equalFold (trimSpace "claude_messages") "claude_messages" = true := by decide +kernel
  unfold effectiveBillingUsage usageFromBillingUsage
  rw [h]
  simp [hsource]

theorem effective_unbilled (h : usage.billingUsage=none) : effectiveBillingUsage usage=usage := by
  unfold effectiveBillingUsage usageFromBillingUsage
  rw [h]
  rfl

structure ClaudeCounts where
  input : Int
  output : Int
  cacheRead : Int
  cacheCreation : Int
  fiveMinutes : Int
  oneHour : Int

def claudeBill (usage : Usage) (usedVars : String → Bool) : TokenParams×CacheCreationAmounts :=
  (buildTieredTokenParams (effectiveBillingUsage usage) true usedVars,cacheCreationAmounts (effectiveBillingUsage usage))

namespace ClaudeCounts

def params (n : ClaudeCounts) : TokenParams :=
  { p := max n.input 0, c := max n.output 0, len := n.input+n.cacheRead+n.fiveMinutes+n.oneHour, cr := n.cacheRead
    cc := n.fiveMinutes, cc1h := n.oneHour, img := 0, imgO := 0, ai := 0, ao := 0 }

def amounts (n : ClaudeCounts) : CacheCreationAmounts :=
  if n.cacheCreation≠0 ∨ n.fiveMinutes>0 ∨ n.oneHour>0 then
    ⟨max (n.cacheCreation-n.fiveMinutes-n.oneHour) 0,n.fiveMinutes,n.oneHour⟩
  else ⟨0,0,0⟩

end ClaudeCounts

structure Usage.CountsAs (usage : Usage) (n : ClaudeCounts) : Prop where
  semantic : usage.usageSemantic="anthropic"
  input : usage.promptTokens=n.input
  output : usage.completionTokens=n.output
  cacheRead : usage.promptTokensDetails.cachedTokens=n.cacheRead
  cacheCreation : usage.getCacheCreationTokens=n.cacheCreation
  fiveMinutes : usage.claudeCacheCreation5mTokens=n.fiveMinutes
  oneHour : usage.claudeCacheCreation1hTokens=n.oneHour
  imageIn : usage.promptTokensDetails.imageTokens=0
  audioIn : usage.promptTokensDetails.audioTokens=0
  outputDetails : usage.completionTokenDetails={}

theorem Usage.CountsAs.bill {n : ClaudeCounts} (h : (effectiveBillingUsage usage).CountsAs n)
    (usedVars : String → Bool) : claudeBill usage usedVars=(n.params,n.amounts) := by
  unfold claudeBill buildTieredTokenParams cacheCreationAmounts ClaudeCounts.params ClaudeCounts.amounts
  rw [h.semantic,h.input,h.output,h.cacheRead,h.cacheCreation,h.fiveMinutes,h.oneHour,h.imageIn,h.audioIn, h.outputDetails]
  simp

theorem getCacheCreationTokens_details {usage : UsageCounts} {d : InputTokenDetails} (hd : usage.promptTokensDetails =
      { cachedTokens := d.cachedTokens, cachedCreationTokens := d.cachedCreationTokens })
    (hinput : usage.inputTokensDetails=none) (htop : usage.getTopLevelCacheCreationTokens=none) :
    usage.getCacheCreationTokens=max d.cachedCreationTokens 0 := by
  have hcount : nonNegativeTokenCount d.cachedCreationTokens=max d.cachedCreationTokens 0 := by
    unfold nonNegativeTokenCount
    omega
  unfold UsageCounts.getCacheCreationTokens UsageCounts.getCacheCreationTokensWithPresence
    UsageCounts.getDetailCacheCreationTokens UsageCounts.inputDetail UsageCounts.promptDetail
  rw [hd,hinput,htop]
  by_cases hzero : d.cachedCreationTokens=0
  · simp [present,hzero]
  · simp [present,hzero,hcount]

theorem usageFromClaude_counts (b : BillingUsage) (u : ClaudeUsage) : (usageFromClaudeBillingUsage b u).CountsAs
    { input := u.inputTokens, output := u.outputTokens, cacheRead := u.cacheReadInputTokens
      cacheCreation := max u.cacheCreationInputTokens 0
      fiveMinutes := if u.getCacheCreation5mTokens=0 then u.claudeCacheCreation5mTokens else u.getCacheCreation5mTokens
      oneHour := if u.getCacheCreation1hTokens=0 then u.claudeCacheCreation1hTokens
        else u.getCacheCreation1hTokens } := by
  unfold usageFromClaudeBillingUsage UsageCounts.setCacheCreationTokens
  dsimp only
  split
  next hzero =>
    refine ⟨rfl,rfl,rfl,rfl,?_,rfl,rfl,rfl,rfl,rfl⟩
    have hmax : max u.cacheCreationInputTokens 0=0 := by omega
    exact hmax.symm
  next hpos =>
    refine ⟨rfl,rfl,rfl,rfl,?_,rfl,rfl,rfl,rfl,rfl⟩
    have hcount : nonNegativeTokenCount u.cacheCreationInputTokens=u.cacheCreationInputTokens := by
      unfold nonNegativeTokenCount
      omega
    have hmax : max u.cacheCreationInputTokens 0=u.cacheCreationInputTokens := by omega
    dsimp only
    rw [hmax]
    simp [UsageCounts.setCacheCreationTokensWithPresence,InputTokenDetails.setCacheCreationTokensWithPresence,
      UsageCounts.getCacheCreationTokens,UsageCounts.getCacheCreationTokensWithPresence,
      UsageCounts.getDetailCacheCreationTokens,UsageCounts.inputDetail,UsageCounts.promptDetail,present,hcount]

namespace ClaudeUsage

/-- The five-minute cache writes a usage names: the flat count stands in where `cache_creation` has none. -/
def fiveMinutes (u : ClaudeUsage) : Int :=
  if u.getCacheCreation5mTokens=0 then u.claudeCacheCreation5mTokens else u.getCacheCreation5mTokens

def oneHour (u : ClaudeUsage) : Int :=
  if u.getCacheCreation1hTokens=0 then u.claudeCacheCreation1hTokens else u.getCacheCreation1hTokens

structure NonNegative (u : ClaudeUsage) : Prop where
  input : 0≤u.inputTokens
  output : 0≤u.outputTokens
  cacheRead : 0≤u.cacheReadInputTokens
  cacheCreation : 0≤u.cacheCreationInputTokens
  split5m : 0≤u.getCacheCreation5mTokens
  split1h : 0≤u.getCacheCreation1hTokens
  flat5m : 0≤u.claudeCacheCreation5mTokens
  flat1h : 0≤u.claudeCacheCreation1hTokens

/-- The split in `cache_creation` covers the cache writes, and the flat counts say nothing else: an hour's flat count
stands in for no missing one, a five-minute one only for exactly what the split leaves over. -/
def FullySplit (u : ClaudeUsage) : Prop :=
  (u.getCacheCreation1hTokens=0 → u.claudeCacheCreation1hTokens=0) ∧
  if u.getCacheCreation5mTokens=0 then
    u.claudeCacheCreation5mTokens=max (u.cacheCreationInputTokens-u.getCacheCreation1hTokens) 0
  else u.cacheCreationInputTokens≤u.getCacheCreation5mTokens+u.getCacheCreation1hTokens

instance (u : ClaudeUsage) : Decidable u.FullySplit := inferInstanceAs (Decidable (_ ∧ _))

end ClaudeUsage

theorem zero_of_noTokens (h : hasClaudeUsageTokens u=false) :
    u.inputTokens=0 ∧ u.outputTokens=0 ∧ u.cacheCreationInputTokens=0 ∧ u.cacheReadInputTokens=0 ∧
    u.claudeCacheCreation5mTokens=0 ∧ u.claudeCacheCreation1hTokens=0 ∧
    u.getCacheCreation5mTokens=0 ∧ u.getCacheCreation1hTokens=0 := by
  unfold hasClaudeUsageTokens at h
  simp only [Bool.or_eq_false_iff,bne_eq_false_iff_eq] at h
  obtain ⟨⟨⟨⟨⟨⟨hinput,houtput⟩,hcreation⟩,hread⟩,h5m⟩,h1h⟩,hsplit⟩ := h
  refine ⟨hinput,houtput,hcreation,hread,h5m,h1h,?_⟩
  unfold ClaudeUsage.getCacheCreation5mTokens ClaudeUsage.getCacheCreation1hTokens
  cases hc : u.cacheCreation with
  | none => exact ⟨rfl,rfl⟩
  | some c =>
    rw [hc] at hsplit
    simpa using hsplit

theorem plain_counts (hu : u.NonNegative) : (effectiveBillingUsage (handleClaudeResponseData u)).CountsAs
    { input := u.inputTokens, output := u.outputTokens, cacheRead := u.cacheReadInputTokens
      cacheCreation := u.cacheCreationInputTokens, fiveMinutes := u.fiveMinutes, oneHour := u.oneHour } := by
  have hmax : max u.cacheCreationInputTokens 0=u.cacheCreationInputTokens := by
    have := hu.cacheCreation
    omega
  cases htokens : hasClaudeUsageTokens u with
  | true =>
    have hbilling : (handleClaudeResponseData u).billingUsage =
        some { source := "claude_messages", semantic := "anthropic", claudeUsage := some u } := if_pos htokens
    rw [effective_snapshot hbilling]
    have hcounts := usageFromClaude_counts
      { source := "claude_messages", semantic := "anthropic", claudeUsage := some u } u
    rwa [hmax] at hcounts
  | false =>
    obtain ⟨hinput,houtput,hcreation,hread,h5m,h1h,hsplit5m,hsplit1h⟩ := zero_of_noTokens htokens
    have hbilling : (handleClaudeResponseData u).billingUsage=none :=
      if_neg (by rw [htokens]; exact Bool.false_ne_true)
    rw [effective_unbilled hbilling]
    refine ⟨rfl,rfl,rfl,rfl,?_,?_,?_,rfl,rfl,rfl⟩
    · refine (getCacheCreationTokens_details (d := ⟨u.cacheReadInputTokens,0,0,u.cacheCreationInputTokens,0,0,0,
        false,false,false,false⟩) rfl rfl rfl).trans hmax
    · show u.getCacheCreation5mTokens=u.fiveMinutes
      rw [ClaudeUsage.fiveMinutes,if_pos hsplit5m,h5m,hsplit5m]
    · show u.getCacheCreation1hTokens=u.oneHour
      rw [ClaudeUsage.oneHour,if_pos hsplit1h,h1h,hsplit1h]

/-- The counts a stream has collected, when these are all of a usage. -/
structure UsageCounts.Collects (usage : UsageCounts) (u : ClaudeUsage) : Prop where
  input : usage.promptTokens=u.inputTokens
  output : usage.completionTokens=u.outputTokens
  details : usage.promptTokensDetails =
    { cachedTokens := u.cacheReadInputTokens, cachedCreationTokens := u.cacheCreationInputTokens }
  split5m : usage.claudeCacheCreation5mTokens=u.getCacheCreation5mTokens
  split1h : usage.claudeCacheCreation1hTokens=u.getCacheCreation1hTokens
  noInputDetails : usage.inputTokensDetails=none
  noTopLevel : usage.getTopLevelCacheCreationTokens=none
  outputDetails : usage.completionTokenDetails={}

section Collected
variable {usage : UsageCounts} {s d u : ClaudeUsage}

theorem UsageCounts.Collects.creation (h : usage.Collects u) : usage.getCacheCreationTokens=max u.cacheCreationInputTokens 0 :=
  getCacheCreationTokens_details (d := ⟨u.cacheReadInputTokens,0,0,u.cacheCreationInputTokens,0,0,0,
    false,false,false,false⟩) h.details h.noInputDetails h.noTopLevel

theorem collects_started (h : usage.Collects s) : (usage.startedWith u).Collects u where
  input := rfl
  output := rfl
  details := by
    unfold UsageCounts.startedWith
    rw [h.details]
  split5m := rfl
  split1h := rfl
  noInputDetails := h.noInputDetails
  noTopLevel := h.noTopLevel
  outputDetails := h.outputDetails

/-- The usages of a `message_start` and a `message_delta` together carry a usage: a positive count of the delta
replaces the one of the start. -/
structure CarriedBy (s d u : ClaudeUsage) : Prop where
  input : u.inputTokens=replaced s.inputTokens d.inputTokens
  output : u.outputTokens=replaced s.outputTokens d.outputTokens
  cacheRead : u.cacheReadInputTokens=replaced s.cacheReadInputTokens d.cacheReadInputTokens
  cacheCreation : u.cacheCreationInputTokens=replaced s.cacheCreationInputTokens d.cacheCreationInputTokens
  split5m : u.getCacheCreation5mTokens=replaced s.getCacheCreation5mTokens d.getCacheCreation5mTokens
  split1h : u.getCacheCreation1hTokens=replaced s.getCacheCreation1hTokens d.getCacheCreation1hTokens
  flat5m : u.claudeCacheCreation5mTokens=replaced s.claudeCacheCreation5mTokens d.claudeCacheCreation5mTokens
  flat1h : u.claudeCacheCreation1hTokens=replaced s.claudeCacheCreation1hTokens d.claudeCacheCreation1hTokens

theorem collects_updated (h : usage.Collects s) (hcarried : CarriedBy s d u) : (usage.updatedWith d).Collects u where
  input := by
    rw [hcarried.input,← h.input]
    rfl
  output := by
    rw [hcarried.output,← h.output]
    rfl
  details := by
    unfold UsageCounts.updatedWith
    rw [h.details,hcarried.cacheRead,hcarried.cacheCreation]
  split5m := by
    rw [hcarried.split5m,← h.split5m]
    rfl
  split1h := by
    rw [hcarried.split1h,← h.split1h]
    rfl
  noInputDetails := h.noInputDetails
  noTopLevel := h.noTopLevel
  outputDetails := h.outputDetails

/-- The counts of a stream as they are billed: what the split leaves over is written for five minutes. -/
def ClaudeUsage.streamedCounts (u : ClaudeUsage) : ClaudeCounts :=
  { input := u.inputTokens, output := u.outputTokens, cacheRead := u.cacheReadInputTokens
    cacheCreation := u.cacheCreationInputTokens
    fiveMinutes := u.getCacheCreation5mTokens +
      max (u.cacheCreationInputTokens-u.getCacheCreation5mTokens-u.getCacheCreation1hTokens) 0
    oneHour := u.getCacheCreation1hTokens }

theorem snapshot_counts (h : usage.Collects u) (hu : u.NonNegative) (hsemantic : usage.usageSemantic="anthropic") :
    (effectiveBillingUsage usage.withSnapshot).CountsAs u.streamedCounts := by
  have hcreation : usage.getCacheCreationTokens=u.cacheCreationInputTokens := by
    have := hu.cacheCreation
    rw [h.creation]
    omega
  have hread : usage.promptTokensDetails.cachedTokens=u.cacheReadInputTokens := by rw [h.details]
  obtain ⟨five,hfive⟩ : ∃ five, five=u.streamedCounts.fiveMinutes := ⟨_,rfl⟩
  have hsplit : normalizeCacheCreationSplit u.cacheCreationInputTokens u.getCacheCreation5mTokens
      u.getCacheCreation1hTokens=(five,u.getCacheCreation1hTokens) := by
    rw [hfive]
    unfold normalizeCacheCreationSplit ClaudeUsage.streamedCounts
    refine Prod.ext_iff.mpr ⟨?_,rfl⟩
    dsimp only
    split
    all_goals omega
  have hpos : 0≤five := by
    have := hu.split5m
    rw [hfive,ClaudeUsage.streamedCounts]
    dsimp only
    omega
  have hpos1h := hu.split1h
  have hbilling : usage.withSnapshot.billingUsage=newClaudeMessagesBillingUsage
      { inputTokens := u.inputTokens, cacheCreationInputTokens := u.cacheCreationInputTokens
        cacheReadInputTokens := u.cacheReadInputTokens, outputTokens := u.outputTokens
        cacheCreation := if five>0 ∨ u.getCacheCreation1hTokens>0 then some ⟨five,u.getCacheCreation1hTokens⟩
          else none } := by
    unfold UsageCounts.withSnapshot claudeBillingUsageFromSemanticUsage
    dsimp only
    rw [hcreation,h.split5m,h.split1h,hsplit,h.input,h.output,hread]
  obtain ⟨snapshot,hsnapshot⟩ : ∃ snapshot : ClaudeUsage, snapshot =
      { inputTokens := u.inputTokens, cacheCreationInputTokens := u.cacheCreationInputTokens
        cacheReadInputTokens := u.cacheReadInputTokens, outputTokens := u.outputTokens
        cacheCreation := if five>0 ∨ u.getCacheCreation1hTokens>0 then some ⟨five,u.getCacheCreation1hTokens⟩
          else none } := ⟨_,rfl⟩
  rw [← hsnapshot] at hbilling
  have h5m : snapshot.getCacheCreation5mTokens=five := by
    rw [hsnapshot,ClaudeUsage.getCacheCreation5mTokens]
    dsimp only
    split
    · rfl
    · show (0 : Int)=five
      omega
  have h1h : snapshot.getCacheCreation1hTokens=u.getCacheCreation1hTokens := by
    rw [hsnapshot,ClaudeUsage.getCacheCreation1hTokens]
    dsimp only
    split
    · rfl
    · show (0 : Int)=u.getCacheCreation1hTokens
      omega
  have hinput : snapshot.inputTokens=u.inputTokens := by rw [hsnapshot]
  have houtput : snapshot.outputTokens=u.outputTokens := by rw [hsnapshot]
  have hreads : snapshot.cacheReadInputTokens=u.cacheReadInputTokens := by rw [hsnapshot]
  have hwrites : snapshot.cacheCreationInputTokens=u.cacheCreationInputTokens := by rw [hsnapshot]
  have hflat : snapshot.claudeCacheCreation5mTokens=0 ∧ snapshot.claudeCacheCreation1hTokens=0 := by
    rw [hsnapshot]
    exact ⟨rfl,rfl⟩
  have hcreations := hu.cacheCreation
  cases htokens : hasClaudeUsageTokens snapshot with
  | true =>
    rw [newClaudeMessagesBillingUsage,if_pos htokens] at hbilling
    rw [effective_snapshot hbilling]
    obtain ⟨a,b,c,d,e,f,g,i,j,k⟩ := usageFromClaude_counts
      { source := "claude_messages", semantic := "anthropic", claudeUsage := some snapshot } snapshot
    refine ⟨a,b.trans hinput,c.trans houtput,d.trans hreads,?_,?_,?_,i,j,k⟩
    · rw [e]
      show max snapshot.cacheCreationInputTokens 0=u.cacheCreationInputTokens
      omega
    · rw [f,← hfive]
      dsimp only
      rw [h5m,hflat.1]
      split
      · omega
      · rfl
    · rw [g]
      dsimp only
      rw [h1h,hflat.2]
      split
      next hzero =>
        exact hzero.symm
      · rfl
  | false =>
    obtain ⟨-,-,-,-,-,-,hzero5m,-⟩ := zero_of_noTokens htokens
    rw [newClaudeMessagesBillingUsage,if_neg (by rw [htokens]; exact Bool.false_ne_true)] at hbilling
    rw [effective_unbilled hbilling]
    refine ⟨hsemantic,h.input,h.output,hread,hcreation,?_,h.split1h,?_,?_,h.outputDetails⟩
    · have hle : u.getCacheCreation5mTokens≤five := by
        rw [hfive,ClaudeUsage.streamedCounts]
        dsimp only
        omega
      have hsplit5m := hu.split5m
      rw [← hfive]
      show usage.claudeCacheCreation5mTokens=five
      rw [h.split5m]
      omega
    · show usage.promptTokensDetails.imageTokens=0
      rw [h.details]
    · show usage.promptTokensDetails.audioTokens=0
      rw [h.details]

end Collected

def ClaudeAccountEvent.reports : ClaudeAccountEvent → Bool
  | .messageStart _ => true
  | .messageDelta _ => true
  | _ => false

/-- A stream whose one `message_start` and one `message_delta` together carry a usage. -/
def CarriesUsage (events : List ClaudeAccountEvent) (u : ClaudeUsage) : Prop :=
  ∃ before start between delta after, events=before++.messageStart start::(between++.messageDelta delta::after) ∧
    (∀ e∈before++between++after, e.reports=false) ∧ CarriedBy (start.getD {}) (delta.getD {}) u

theorem quiet_usage (events : List ClaudeAccountEvent) (info : ClaudeResponseInfo)
    (h : ∀ e∈events, e.reports=false) : (events.foldl formatClaudeResponseInfo info).usage=info.usage := by
  induction events generalizing info with
  | nil => rfl
  | cons e events ih =>
    have hkept : (formatClaudeResponseInfo info e).usage=info.usage := by
      have := h e List.mem_cons_self
      cases e with
      | messageStart _ | messageDelta _ => cases this
      | contentBlockStart | contentBlockDelta _ _ | other => rfl
    rw [List.foldl_cons,ih _ fun e he => h e (List.mem_cons_of_mem _ he),hkept]

variable {events : List ClaudeAccountEvent}

theorem carried_usage (h : CarriesUsage events u) :
    ∃ start delta, CarriedBy (start.getD {}) (delta.getD {}) u ∧ (claudeStreamInfo events).usage =
      (formatClaudeResponseInfo (formatClaudeResponseInfo {} (.messageStart start)) (.messageDelta delta)).usage := by
  obtain ⟨before,start,between,delta,after,rfl,hquiet,hcarried⟩ := h
  refine ⟨start,delta,hcarried,?_⟩
  have hbefore : ∀ e∈before, e.reports=false := fun e he =>
    hquiet e (List.mem_append_left _ (List.mem_append_left _ he))
  have hbetween : ∀ e∈between, e.reports=false := fun e he =>
    hquiet e (List.mem_append_left _ (List.mem_append_right _ he))
  have hafter : ∀ e∈after, e.reports=false := fun e he => hquiet e (List.mem_append_right _ he)
  have hstart : ∀ info info' : ClaudeResponseInfo, info.usage=info'.usage →
      (formatClaudeResponseInfo info (.messageStart start)).usage =
        (formatClaudeResponseInfo info' (.messageStart start)).usage := by
    intro info info' heq
    cases start with
    | none => exact heq
    | some s =>
      unfold formatClaudeResponseInfo
      rw [heq]
  have hdelta : ∀ info info' : ClaudeResponseInfo, info.usage=info'.usage →
      (formatClaudeResponseInfo info (.messageDelta delta)).usage =
        (formatClaudeResponseInfo info' (.messageDelta delta)).usage := by
    intro info info' heq
    cases delta with
    | none => exact heq
    | some d =>
      unfold formatClaudeResponseInfo
      rw [heq]
  rw [claudeStreamInfo,List.foldl_append,List.foldl_cons,List.foldl_append,List.foldl_cons,quiet_usage after _ hafter]
  refine hdelta _ _ ?_
  rw [quiet_usage between _ hbetween]
  exact hstart _ _ (quiet_usage before _ hbefore)

theorem collects_empty : ({} : UsageCounts).Collects {} := ⟨rfl,rfl,rfl,rfl,rfl,rfl,rfl,rfl⟩

theorem stream_bill (h : CarriesUsage events u) (hu : u.NonNegative) (usedVars : String → Bool) :
    claudeBill (claudeStreamInfo events).usage usedVars = (u.streamedCounts.params,u.streamedCounts.amounts) := by
  obtain ⟨start,delta,hcarried,husage⟩ := carried_usage h
  rw [husage]
  cases start with
  | none =>
    cases delta with
    | none =>
      have hzero : u.streamedCounts=⟨0,0,0,0,0,0⟩ := by
        unfold ClaudeUsage.streamedCounts
        rw [hcarried.input,hcarried.output,hcarried.cacheRead,hcarried.cacheCreation,hcarried.split5m, hcarried.split1h]
        rfl
      rw [hzero]
      show claudeBill {} usedVars=_
      unfold claudeBill
      rw [effective_unbilled rfl]
      rfl
    | some d => exact (snapshot_counts (collects_updated collects_empty hcarried) hu rfl).bill usedVars
  | some s =>
    have hstarted : (({} : UsageCounts).startedWith s).Collects s := collects_started collects_empty
    cases delta with
    | none =>
      have hsame : (({} : UsageCounts).startedWith s).Collects u := by
        have hkeep : ∀ n : Int, replaced n 0=n := fun n => if_neg (Int.lt_irrefl 0)
        refine ⟨hstarted.input.trans ?_,hstarted.output.trans ?_,?_,hstarted.split5m.trans ?_,hstarted.split1h.trans ?_,
          rfl,rfl,rfl⟩
        · exact (hcarried.input.trans (hkeep _)).symm
        · exact (hcarried.output.trans (hkeep _)).symm
        · rw [hstarted.details,hcarried.cacheRead.trans (hkeep _),hcarried.cacheCreation.trans (hkeep _)]
          rfl
        · exact (hcarried.split5m.trans (hkeep _)).symm
        · exact (hcarried.split1h.trans (hkeep _)).symm
      exact (snapshot_counts hsame hu rfl).bill usedVars
    | some d => exact (snapshot_counts (collects_updated hstarted hcarried) hu rfl).bill usedVars

structure BilledAlike (u : ClaudeUsage) (plain streamed : TokenParams×CacheCreationAmounts) : Prop where
  alike : plain=streamed
  plainPriced : plain.1.cc+plain.1.cc1h=max u.cacheCreationInputTokens (u.fiveMinutes+u.oneHour)
  streamedPriced : streamed.1.cc+streamed.1.cc1h=max u.cacheCreationInputTokens (u.fiveMinutes+u.oneHour)

/-- A plain and a streamed response with one usage are billed alike exactly when its split is full. -/
theorem claude_billing_alike_iff {u : ClaudeUsage} (hu : u.NonNegative) {events : List ClaudeAccountEvent}
    (h : CarriesUsage events u) (usedVars : String → Bool) :
    BilledAlike u (claudeBill (handleClaudeResponseData u) usedVars) (claudeBill (claudeStreamInfo events).usage usedVars) ↔
      u.FullySplit := by
  rw [(plain_counts hu).bill usedVars,stream_bill h hu usedVars]
  obtain ⟨-,-,-,hcreation,h5m,h1h,hflat5m,hflat1h⟩ := hu
  constructor
  · intro halike
    have hcc : u.fiveMinutes=u.streamedCounts.fiveMinutes := congrArg (fun bill => bill.1.cc) halike.alike
    have hcc1h : u.oneHour=u.streamedCounts.oneHour := congrArg (fun bill => bill.1.cc1h) halike.alike
    unfold ClaudeUsage.FullySplit
    unfold ClaudeUsage.fiveMinutes ClaudeUsage.streamedCounts at hcc
    unfold ClaudeUsage.oneHour ClaudeUsage.streamedCounts at hcc1h
    dsimp only at hcc hcc1h
    refine ⟨fun hzero => ?_,?_⟩
    · rw [if_pos hzero] at hcc1h
      exact hcc1h.trans hzero
    · split
      next hzero =>
        rw [if_pos hzero] at hcc
        omega
      next hne =>
        rw [if_neg hne] at hcc
        omega
  · rintro ⟨hhour,hfive⟩
    have hcc1h : u.oneHour=u.getCacheCreation1hTokens := by
      unfold ClaudeUsage.oneHour
      split
      next hzero =>
        exact (hhour hzero).trans hzero.symm
      · rfl
    have hcc : u.fiveMinutes=u.streamedCounts.fiveMinutes := by
      unfold ClaudeUsage.fiveMinutes ClaudeUsage.streamedCounts
      dsimp only
      split
      next hzero =>
        rw [if_pos hzero] at hfive
        omega
      next hne =>
        rw [if_neg hne] at hfive
        omega
    have hsum : u.streamedCounts.fiveMinutes+u.getCacheCreation1hTokens =
        max u.cacheCreationInputTokens (u.fiveMinutes+u.oneHour) := by
      rw [hcc,hcc1h]
      unfold ClaudeUsage.streamedCounts
      dsimp only
      omega
    refine ⟨?_,?_,hsum⟩
    · rw [hcc,hcc1h]
      rfl
    · show u.fiveMinutes+u.oneHour=_
      rw [← hsum,hcc,hcc1h]

def splitUsage : ClaudeUsage :=
  { inputTokens := 20, outputTokens := 7, cacheReadInputTokens := 5, cacheCreationInputTokens := 30
    cacheCreation := some ⟨10,20⟩ }

def splitUsageEvents : List ClaudeAccountEvent :=
  [.messageStart (some { splitUsage with outputTokens := 1 }),.contentBlockStart,.contentBlockDelta (some "hi") none,
   .messageDelta (some { outputTokens := 7 }),.other]

theorem splitUsage_carried : CarriesUsage splitUsageEvents splitUsage :=
  ⟨[],some { splitUsage with outputTokens := 1 },[.contentBlockStart,.contentBlockDelta (some "hi") none],
    some { outputTokens := 7 },[.other],rfl,by decide,⟨rfl,rfl,rfl,rfl,rfl,rfl,rfl,rfl⟩⟩

theorem splitUsage_nonNegative : splitUsage.NonNegative := by
  constructor <;> decide

theorem splitUsage_billed_alike : splitUsage.NonNegative ∧ CarriesUsage splitUsageEvents splitUsage ∧
    BilledAlike splitUsage (claudeBill (handleClaudeResponseData splitUsage) fun _ => true)
      (claudeBill (claudeStreamInfo splitUsageEvents).usage fun _ => true) :=
  ⟨splitUsage_nonNegative,splitUsage_carried,
    (claude_billing_alike_iff splitUsage_nonNegative splitUsage_carried fun _ => true).mpr (by decide)⟩

def unsplitUsage : ClaudeUsage := { inputTokens := 20, outputTokens := 7, cacheCreationInputTokens := 30 }

def unsplitUsageEvents : List ClaudeAccountEvent := [.messageStart (some unsplitUsage),.messageDelta none]

theorem unsplitUsage_unpriced : unsplitUsage.NonNegative ∧ CarriesUsage unsplitUsageEvents unsplitUsage ∧
    (claudeBill (handleClaudeResponseData unsplitUsage) fun _ => true).1.cc=0 ∧
    (claudeBill (claudeStreamInfo unsplitUsageEvents).usage fun _ => true).1.cc=30 ∧
    ¬ BilledAlike unsplitUsage (claudeBill (handleClaudeResponseData unsplitUsage) fun _ => true)
      (claudeBill (claudeStreamInfo unsplitUsageEvents).usage fun _ => true) := by
  have hplain : (claudeBill (handleClaudeResponseData unsplitUsage) fun _ => true).1.cc=0 := by decide +kernel
  have hstreamed : (claudeBill (claudeStreamInfo unsplitUsageEvents).usage fun _ => true).1.cc=30 := by decide +kernel
  refine ⟨by constructor <;> decide,⟨[],some unsplitUsage,[],none,[],rfl,by decide,by constructor <;> rfl⟩,
    hplain,hstreamed,fun halike => ?_⟩
  have hcc := congrArg (fun bill => bill.1.cc) halike.alike
  rw [hplain,hstreamed] at hcc
  exact absurd hcc (by decide)

/-- The snapshot of a usage repeats its counts, and is missing only where there is nothing to count. -/
structure Usage.Mirrored (usage : Usage) : Prop where
  billed : ∀ b, usage.billingUsage=some b → ∃ u : ClaudeUsage,
    b = { source := "claude_messages", semantic := "anthropic", claudeUsage := some u } ∧
      u.inputTokens=usage.promptTokens ∧ u.outputTokens=usage.completionTokens
  unbilled : usage.billingUsage=none → usage.promptTokens=0 ∧ usage.completionTokens=0 ∧
    usage.promptTokensDetails.cachedTokens=0 ∧ usage.getCacheCreationTokens=0 ∧
    ¬ ((normalizeCacheCreationSplit 0 usage.claudeCacheCreation5mTokens usage.claudeCacheCreation1hTokens).1>0 ∨
      usage.claudeCacheCreation1hTokens>0)

theorem mirrored_withSnapshot (usage : UsageCounts) : usage.withSnapshot.Mirrored := by
  obtain ⟨snapshot,hsnapshot⟩ : ∃ snapshot : ClaudeUsage, snapshot =
      { inputTokens := usage.promptTokens, cacheCreationInputTokens := usage.getCacheCreationTokens
        cacheReadInputTokens := usage.promptTokensDetails.cachedTokens, outputTokens := usage.completionTokens
        cacheCreation :=
          let split := normalizeCacheCreationSplit usage.getCacheCreationTokens usage.claudeCacheCreation5mTokens
            usage.claudeCacheCreation1hTokens
          if split.1>0 ∨ split.2>0 then some ⟨split.1,split.2⟩ else none } := ⟨_,rfl⟩
  have hbilling : usage.withSnapshot.billingUsage=newClaudeMessagesBillingUsage snapshot := by
    rw [hsnapshot]
    rfl
  refine ⟨fun b hb => ⟨snapshot,?_,by rw [hsnapshot]; rfl,by rw [hsnapshot]; rfl⟩,fun hnone => ?_⟩
  · rw [hbilling,newClaudeMessagesBillingUsage] at hb
    split at hb
    · exact (Option.some.inj hb).symm
    · cases hb
  · have htokens : hasClaudeUsageTokens snapshot=false := by
      rw [hbilling,newClaudeMessagesBillingUsage] at hnone
      split at hnone
      · cases hnone
      next htokens =>
        exact Bool.eq_false_iff.mpr htokens
    obtain ⟨hinput,houtput,hcreation,hread,-,-,h5m,h1h⟩ := zero_of_noTokens htokens
    rw [hsnapshot] at hinput houtput hcreation hread h5m h1h
    refine ⟨hinput,houtput,hread,hcreation,?_⟩
    have hcreation' : usage.getCacheCreationTokens=0 := hcreation
    intro hpos
    have hpos' : (normalizeCacheCreationSplit 0 usage.claudeCacheCreation5mTokens usage.claudeCacheCreation1hTokens).1>0 ∨
        (normalizeCacheCreationSplit 0 usage.claudeCacheCreation5mTokens usage.claudeCacheCreation1hTokens).2>0 := hpos
    unfold ClaudeUsage.getCacheCreation5mTokens at h5m
    unfold ClaudeUsage.getCacheCreation1hTokens at h1h
    dsimp only at h5m h1h
    rw [hcreation',if_pos hpos'] at h5m h1h
    exact hpos'.elim (fun h => Int.ne_of_gt h h5m) fun h => Int.ne_of_gt h h1h

theorem format_mirrored {info : ClaudeResponseInfo} (h : info.usage.Mirrored) (e : ClaudeAccountEvent) :
    (formatClaudeResponseInfo info e).usage.Mirrored := by
  cases e with
  | messageStart usage | messageDelta usage =>
    cases usage with
    | none => exact h
    | some u => exact mirrored_withSnapshot _
  | contentBlockStart | contentBlockDelta _ _ | other => exact h

theorem stream_mirrored (events : List ClaudeAccountEvent) : (claudeStreamInfo events).usage.Mirrored := by
  have hrun : ∀ (events : List ClaudeAccountEvent) (info : ClaudeResponseInfo), info.usage.Mirrored →
      (events.foldl formatClaudeResponseInfo info).usage.Mirrored := by
    intro events
    induction events with
    | nil => exact fun info h => h
    | cons e events ih => exact fun info h => ih _ (format_mirrored h e)
  exact hrun events {} ⟨fun b hb => (nomatch hb),fun _ => ⟨rfl,rfl,rfl,rfl,by decide⟩⟩

structure BilledAsCounted (usage : Usage) : Prop where
  completion : (effectiveBillingUsage usage).completionTokens=usage.completionTokens
  prompt : (effectiveBillingUsage usage).promptTokens=usage.promptTokens

/-- The fallback of the end of a stream reaches the bill. With a usage reported it must change nothing: text was counted
only where the reported completion tokens cover it, and a missing prompt count is estimated at nothing. With none
reported, no text was counted, or there is no estimate and so no snapshot. -/
def ClaudeResponseInfo.FallbackBilled (info : ClaudeResponseInfo) (counted : Nat) (estimate : Int) : Prop :=
  if info.usage.billingUsage.isSome then
    (info.usage.completionTokens=0 → counted=0) ∧ (info.done=false → (counted : Int) ≤ info.usage.completionTokens) ∧
    (info.usage.completionTokens=0 ∨ info.done=false → info.usage.promptTokens=0 → estimate=0)
  else counted=0 ∨ estimate≤0

instance (info : ClaudeResponseInfo) (counted : Nat) (estimate : Int) : Decidable (info.FallbackBilled counted estimate) :=
  decidable_of_iff _ (Iff.of_eq (ClaudeResponseInfo.FallbackBilled.eq_1 info counted estimate).symm)

section Final
variable {info : ClaudeResponseInfo} (counted : Nat) (estimate : Int)

theorem fallback_billing : (info.withFallback counted estimate).billingUsage=info.usage.billingUsage := by
  unfold ClaudeResponseInfo.withFallback
  dsimp only
  split <;> rfl

theorem fallback_unchanged_iff : (info.usage.completionTokens=(info.withFallback counted estimate).completionTokens ∧
      info.usage.promptTokens=(info.withFallback counted estimate).promptTokens) ↔
    (info.usage.completionTokens=0 → counted=0) ∧ (info.done=false → (counted : Int) ≤ info.usage.completionTokens) ∧
    (info.usage.completionTokens=0 ∨ info.done=false → info.usage.promptTokens=0 → estimate=0) := by
  unfold ClaudeResponseInfo.withFallback
  by_cases hneeded : info.usage.completionTokens=0 ∨ info.done=false
  · simp only [if_pos hneeded]
    constructor
    · rintro ⟨hcompletion,hprompt⟩
      refine ⟨fun hzero => ?_,fun hdone => ?_,fun _ hzero => ?_⟩
      · rw [if_pos (.inl hzero)] at hcompletion
        omega
      · split at hcompletion
        · omega
        next hnot =>
          exact Int.not_lt.mp fun hlt => hnot (.inr ⟨hdone,hlt⟩)
      · rw [if_pos hzero] at hprompt
        exact hprompt.symm.trans hzero
    · rintro ⟨hzero,hcovered,hestimate⟩
      constructor
      · split
        next hreplaced =>
          obtain hnone | ⟨hdone,hlt⟩ := hreplaced
          · rw [hzero hnone]
            exact hnone
          · have := hcovered hdone
            omega
        · rfl
      · split
        next hnone =>
          exact hnone.trans (hestimate hneeded hnone).symm
        · rfl
  · simp only [if_neg hneeded,true_and,true_iff]
    obtain ⟨hcompletion,hdone⟩ := not_or.mp hneeded
    exact ⟨fun hzero => absurd hzero hcompletion,fun hnot => absurd hnot hdone,fun hor => absurd hor hneeded⟩

theorem patch_unreported {known : UsageCounts} (hread : known.promptTokensDetails.cachedTokens=0)
    (hcreation : known.getCacheCreationTokens=0)
    (hsplit : ¬ ((normalizeCacheCreationSplit 0 known.claudeCacheCreation5mTokens known.claudeCacheCreation1hTokens).1>0 ∨
      known.claudeCacheCreation1hTokens>0)) :
    buildMessageDeltaPatchUsage none known =
      { inputTokens := if known.promptTokens>0 then known.promptTokens else 0 } := by
  unfold buildMessageDeltaPatchUsage
  dsimp only [getD_none]
  rw [hread,hcreation]
  have hsplit' : ¬ ((normalizeCacheCreationSplit 0 known.claudeCacheCreation5mTokens known.claudeCacheCreation1hTokens).1>0 ∨
      (normalizeCacheCreationSplit 0 known.claudeCacheCreation5mTokens known.claudeCacheCreation1hTokens).2>0) := hsplit
  by_cases hprompt : known.promptTokens>0
  · simp [hprompt,hsplit']
  · simp [hprompt,hsplit']

end Final

section Snapshot
variable {usage : Usage}

theorem finalSnapshot_counts : usage.withFinalSnapshot.promptTokens=usage.promptTokens ∧
    usage.withFinalSnapshot.completionTokens=usage.completionTokens := by
  unfold Usage.withFinalSnapshot
  split
  · exact ⟨rfl,rfl⟩
  · exact ⟨rfl,rfl⟩

theorem finalSnapshot_billed {u : ClaudeUsage} (h : usage.billingUsage =
      some { source := "claude_messages", semantic := "anthropic", claudeUsage := some u }) :
    BilledAsCounted usage.withFinalSnapshot ↔ u.outputTokens=usage.completionTokens ∧ u.inputTokens=usage.promptTokens := by
  have hkept : usage.withFinalSnapshot=usage := if_neg (by rw [h]; exact Bool.false_ne_true)
  obtain ⟨-,hinput,houtput,-⟩ := usageFromClaude_counts
    { source := "claude_messages", semantic := "anthropic", claudeUsage := some u } u
  rw [← effective_snapshot h] at hinput houtput
  rw [hkept]
  constructor
  · rintro ⟨hcompletion,hprompt⟩
    exact ⟨houtput.symm.trans hcompletion,hinput.symm.trans hprompt⟩
  · rintro ⟨hcompletion,hprompt⟩
    exact ⟨houtput.trans hcompletion,hinput.trans hprompt⟩

theorem finalSnapshot_unbilled {n : Int} (h : usage.billingUsage=none)
    (hpatch : buildMessageDeltaPatchUsage none usage.toUsageCounts={ inputTokens := n }) (hn : n≠0) :
    BilledAsCounted usage.withFinalSnapshot ↔ usage.completionTokens=0 ∧ usage.promptTokens=n := by
  have hbilling : usage.withFinalSnapshot.billingUsage =
      some { source := "claude_messages", semantic := "anthropic", claudeUsage := some { inputTokens := n } } := by
    unfold Usage.withFinalSnapshot
    rw [h,isNone_none,if_pos rfl,hpatch]
    show newClaudeMessagesBillingUsage { inputTokens := n }=_
    rw [newClaudeMessagesBillingUsage,if_pos]
    simp [hasClaudeUsageTokens,hn]
  obtain ⟨hprompt,hcompletion⟩ := @finalSnapshot_counts usage
  obtain ⟨-,hinput,houtput,-⟩ := usageFromClaude_counts
    { source := "claude_messages", semantic := "anthropic", claudeUsage := some { inputTokens := n } } { inputTokens := n }
  rw [← effective_snapshot hbilling] at hinput houtput
  constructor
  · rintro ⟨hbilled,hbilled'⟩
    exact ⟨hcompletion.symm.trans (hbilled.symm.trans houtput),hprompt.symm.trans (hbilled'.symm.trans hinput)⟩
  · rintro ⟨hzero,hsame⟩
    exact ⟨houtput.trans (hcompletion.trans hzero).symm,hinput.trans (hprompt.trans hsame).symm⟩

theorem finalSnapshot_nothing (h : usage.billingUsage=none)
    (hpatch : buildMessageDeltaPatchUsage none usage.toUsageCounts={}) : BilledAsCounted usage.withFinalSnapshot := by
  have hbilling : usage.withFinalSnapshot.billingUsage=none := by
    unfold Usage.withFinalSnapshot
    rw [h,isNone_none,if_pos rfl,hpatch]
    rfl
  constructor
  · rw [effective_unbilled hbilling]
  · rw [effective_unbilled hbilling]

end Snapshot

/-- A Claude stream, cut off anywhere, is billed by the counts it ends with exactly when the fallback reaches the bill. -/
theorem interrupted_claude_billed_iff (countTokens : String → Nat) (estimate : Int) (events : List ClaudeAccountEvent) :
    BilledAsCounted (handleStreamFinalResponse countTokens estimate (claudeStreamInfo events)) ↔
      (claudeStreamInfo events).FallbackBilled (countTokens (claudeStreamInfo events).responseText) estimate := by
  obtain ⟨info,hinfo⟩ : ∃ info, info=claudeStreamInfo events := ⟨_,rfl⟩
  have hmirrored : info.usage.Mirrored := hinfo ▸ stream_mirrored events
  rw [← hinfo,handleStreamFinalResponse]
  obtain ⟨counted,hcounted⟩ : ∃ counted, counted=countTokens info.responseText := ⟨_,rfl⟩
  rw [← hcounted]
  have hbilling : ({ info.withFallback counted estimate with usageSemantic := "anthropic" } : Usage).billingUsage =
      info.usage.billingUsage := fallback_billing counted estimate
  unfold ClaudeResponseInfo.FallbackBilled
  cases hb : info.usage.billingUsage with
  | some b =>
    obtain ⟨u,rfl,hinput,houtput⟩ := hmirrored.billed b hb
    rw [finalSnapshot_billed (hbilling.trans hb),hinput,houtput]
    exact fallback_unchanged_iff counted estimate
  | none =>
    obtain ⟨hprompt,hcompletion,hread,hcreation,hsplit⟩ := hmirrored.unbilled hb
    have hfallback : info.withFallback counted estimate={ info.usage with
        completionTokens := counted, promptTokens := estimate, totalTokens := estimate+counted } := by
      unfold ClaudeResponseInfo.withFallback
      simp only [hprompt,hcompletion,true_or,if_true]
    obtain ⟨final,hfinal⟩ : ∃ final : Usage, final =
      { info.withFallback counted estimate with usageSemantic := "anthropic" } := ⟨_,rfl⟩
    rw [← hfinal] at hbilling ⊢
    rw [hfallback] at hfinal
    have hpatch : buildMessageDeltaPatchUsage none final.toUsageCounts =
        { inputTokens := if estimate>0 then estimate else 0 } := by
      have hestimate : final.promptTokens=estimate := by rw [hfinal]
      rw [← hestimate]
      refine patch_unreported ?_ ?_ ?_
      · rw [hfinal]
        exact hread
      · rw [hfinal]
        exact hcreation
      · rw [hfinal]
        exact hsplit
    have hcount : final.completionTokens=counted := by rw [hfinal]
    have hestimated : final.promptTokens=estimate := by rw [hfinal]
    show BilledAsCounted final.withFinalSnapshot ↔ counted=0 ∨ estimate≤0
    by_cases hestimate : estimate>0
    · rw [if_pos hestimate] at hpatch
      rw [finalSnapshot_unbilled (hbilling.trans hb) hpatch (by omega),hcount,hestimated]
      omega
    · rw [if_neg hestimate] at hpatch
      exact iff_of_true (finalSnapshot_nothing (hbilling.trans hb) hpatch) (.inr (by omega))

def cutStreamEvents : List ClaudeAccountEvent :=
  [.messageStart (some { inputTokens := 12, outputTokens := 1 }),.contentBlockStart,
   .contentBlockDelta (some "a long answer") none]

theorem cutStream_underbilled :
    (handleStreamFinalResponse String.length 12 (claudeStreamInfo cutStreamEvents)).completionTokens=13 ∧ (effectiveBillingUsage
      (handleStreamFinalResponse String.length 12 (claudeStreamInfo cutStreamEvents))).completionTokens=1 ∧
    ¬ BilledAsCounted (handleStreamFinalResponse String.length 12 (claudeStreamInfo cutStreamEvents)) := by
  have hcounted : (handleStreamFinalResponse String.length 12 (claudeStreamInfo cutStreamEvents)).completionTokens=13 := by
    decide +kernel
  have hbilled : (effectiveBillingUsage
      (handleStreamFinalResponse String.length 12 (claudeStreamInfo cutStreamEvents))).completionTokens=1 := by
    decide +kernel
  refine ⟨hcounted,hbilled,fun h => ?_⟩
  have hsame := h.completion
  rw [hcounted,hbilled] at hsame
  exact absurd hsame (by decide)

end NewApi.Relay

import NewApi.Lib.Runs
import NewApi.Relay.ClaudeParameters

/-! The two ways to a Claude request set the same generation parameters; these are valid unless a reasoning effort or
`reasoning.max_tokens` turns thinking on beside a temperature or `top_p` of the request. -/
namespace NewApi.Relay
open Option GoStrings Runs
variable {α β : Type} {info : ConvMeta} {conv : ContentConversion α β}

section Suffixes
variable {model : String}

theorem hasSuffix_iff {s last : String} : hasSuffix s last=true ↔ last.toList <:+ s.toList := List.isSuffixOf_iff_suffix

theorem thinkingSuffix_of_effortSuffix {base : String×String} (h : effortSuffix model=some base) : thinkingSuffix model=none := by
  obtain ⟨last,hlast,hsuffix⟩ : ∃ last∈effortSuffixes, hasSuffix model last=true := by
    rw [effortSuffix,filter_eq_some_iff,trimEffortSuffix,map_eq_some_iff] at h
    obtain ⟨⟨last,hfind,-⟩,-⟩ := h
    exact ⟨last,List.mem_of_find?_eq_some hfind,List.find?_some hfind⟩
  rw [thinkingSuffix,if_neg]
  intro hthinking
  rw [Bool.and_eq_true] at hthinking
  have happart : ∀ last∈effortSuffixes, ¬ last.toList <:+ "-thinking".toList ∧ ¬ "-thinking".toList <:+ last.toList := by decide
  rcases List.suffix_or_suffix_of_suffix (hasSuffix_iff.mp hsuffix) (hasSuffix_iff.mp hthinking.1) with h | h
  · exact (happart last hlast).1 h
  · exact (happart last hlast).2 h

theorem applyModelSuffix_eq (c : ClaudeParameters) :
    applyModelSuffix info model c=applyResponsesThinkingAdapter info model (applyResponsesEffortSuffix info model c) := by
  rw [applyModelSuffix,applyResponsesThinkingAdapter,applyResponsesEffortSuffix]
  cases h : effortSuffix model with
  | none => rfl
  | some base =>
    rw [thinkingSuffix_of_effortSuffix h]
    exact (ite_self _).symm

end Suffixes

section Agreement

theorem withDefaultMaxTokens_toolChoice (model : String) (c : ClaudeParameters) (toolChoice : Option ClaudeToolChoice) :
    withDefaultMaxTokens info model { c with toolChoice }={ withDefaultMaxTokens info model c with toolChoice } := by
  rw [withDefaultMaxTokens,withDefaultMaxTokens]
  split
  · cases info.defaultMaxTokens <;> rfl
  · rfl

theorem applyEffort_toolChoice (model base level : String) (c : ClaudeParameters) (toolChoice : Option ClaudeToolChoice) :
    applyEffort info model base level { c with toolChoice }={ applyEffort info model base level c with toolChoice } := by
  simp only [applyEffort,adaptiveSampling]
  split <;> rfl

theorem applyThinking_toolChoice (model trimmed : String) (c : ClaudeParameters) (toolChoice : Option ClaudeToolChoice) :
    applyThinking info model trimmed { c with toolChoice }={ applyThinking info model trimmed c with toolChoice } := by
  simp only [applyThinking]
  split <;> rfl

theorem applyModelSuffix_toolChoice (model : String) (c : ClaudeParameters) (toolChoice : Option ClaudeToolChoice) :
    applyModelSuffix info model { c with toolChoice }={ applyModelSuffix info model c with toolChoice } := by
  rw [applyModelSuffix,applyModelSuffix]
  cases effortSuffix model with
  | some base => exact applyEffort_toolChoice ..
  | none =>
    cases info.thinkingAdapterEnabled with
    | false => rfl
    | true =>
      cases thinkingSuffix model with
      | none => rfl
      | some trimmed => exact applyThinking_toolChoice ..

variable {c c' : ClaudeParameters}

theorem guarded_toolChoice {guarded : Bool} {toolChoice : Option JsonValue} {parallel : Option Bool}
    (hc : c.toolChoice=none) (h : guarded=false → toolChoice=none ∧ parallel=none) :
    (if guarded then { c with toolChoice := mapOpenAIToolChoice toolChoice parallel } else c) =
      { c with toolChoice := mapOpenAIToolChoice toolChoice parallel } := by
  cases guarded with
  | true => rfl
  | false =>
    obtain ⟨rfl,rfl⟩ := h rfl
    obtain ⟨_,_,_,_,_,_,_,_⟩ := c
    cases hc
    rfl

theorem applyModelSuffix_toolChoice_eq (model : String) (c : ClaudeParameters) :
    (applyModelSuffix info model c).toolChoice=c.toolChoice := by
  have h := congrArg ClaudeParameters.toolChoice (@applyModelSuffix_toolChoice info model c c.toolChoice)
  exact h

theorem withDefaultMaxTokens_toolChoice_eq (model : String) (c : ClaudeParameters) :
    (withDefaultMaxTokens info model c).toolChoice=c.toolChoice := by
  rw [withDefaultMaxTokens]
  split
  · cases info.defaultMaxTokens <;> rfl
  · rfl

def baseParameters (info : ConvMeta) (model : String) (requested : Nat) (temperature topP : Option Rat) (topK : Option Int)
    (toolChoice : Option ClaudeToolChoice) : ClaudeParameters :=
  { applyModelSuffix info model (withDefaultMaxTokens info model
      { model, temperature, topP, topK, maxTokens := if 0<requested then some requested else none }) with toolChoice }

theorem filter_pos (n : Option Nat) : n.filter (0 < ·) = if 0<n.getD 0 then some (n.getD 0) else none := by
  cases n with
  | none => rfl
  | some n => simp [Option.filter]

variable {req : ResponsesParameters α}

theorem openAIResponsesRequestToClaudeMessages_ok (h : openAIResponsesRequestToClaudeMessages info conv req=.ok c) :
    ∃ toolChoice, requestToolChoiceToChat info.sprint req.toolChoice=.ok toolChoice ∧ c.maxTokens.isSome ∧
      (withEffort (req.reasoning.getD "") (baseParameters info req.model (req.maxOutputTokens.getD 0) req.temperature req.topP none
        (mapOpenAIToolChoice toolChoice (parallelToolCalls req.parallelToolCalls)))).bind
          (fitBudget (req.maxOutputTokens.getD 0) "max_output_tokens")=.ok c := by
  obtain ⟨_,-,h⟩ := bind_ok h
  obtain ⟨_,-,h⟩ := bind_ok h
  obtain ⟨toolChoice,hchoice,h⟩ := bind_ok h
  obtain ⟨c',hreasoning,h⟩ := bind_ok h
  obtain ⟨_,-,h⟩ := bind_ok h
  rw [checkMaxTokens] at h
  split at h
  next hmax =>
    cases h
    refine ⟨toolChoice,hchoice,hmax,?_⟩
    rw [← applyModelSuffix_eq,guarded_toolChoice] at hreasoning
    · rw [filter_pos] at hreasoning
      exact hreasoning
    · rw [applyModelSuffix_toolChoice_eq,withDefaultMaxTokens_toolChoice_eq]
    · intro hguard
      rw [Bool.or_eq_false_iff] at hguard
      refine ⟨by simpa using hguard.1,?_⟩
      match hparallel : req.parallelToolCalls with
      | none | some .null | some (.num _) | some (.str _) | some (.arr _) | some (.obj _) => rfl
      | some (.bool _) => simp [hparallel,JsonValue.present] at hguard
  · cases h

variable {t : ChatParameters β}

theorem openAIChatRequestToClaudeMessages_ok (h : openAIChatRequestToClaudeMessages info conv t=.ok c) :
    c.maxTokens.isSome ∧ ∃ c1 c2,
      withEffort t.reasoningEffort (baseParameters info t.model t.getMaxTokens t.temperature t.topP t.topK
        (mapOpenAIToolChoice t.toolChoice t.parallelToolCalls))=.ok c1 ∧
      applyReasoningMaxTokens t c1=.ok c2 ∧ fitBudget t.getMaxTokens "max_tokens" c2=.ok c := by
  obtain ⟨c1,heffort,h⟩ := bind_ok h
  obtain ⟨c2,hbudget,h⟩ := bind_ok h
  obtain ⟨c3,hfit,h⟩ := bind_ok h
  obtain ⟨_,-,h⟩ := bind_ok h
  rw [checkMaxTokens] at h
  split at h
  next hmax =>
    cases h
    refine ⟨hmax,c1,c2,?_,hbudget,hfit⟩
    rw [guarded_toolChoice] at heffort
    · rw [withDefaultMaxTokens_toolChoice,applyModelSuffix_toolChoice] at heffort
      exact heffort
    · rfl
    · intro hguard
      simpa using hguard
  · cases h

theorem responsesRequestToChatCompletionsRequest_ok (h : responsesRequestToChatCompletionsRequest info conv req=.ok t) :
    requestToolChoiceToChat info.sprint req.toolChoice=.ok t.toolChoice ∧ t.getMaxTokens=req.maxOutputTokens.getD 0 ∧
      t.model=req.model ∧ t.temperature=req.temperature ∧ t.topP=req.topP ∧ t.topK=none ∧
      t.reasoningEffort=req.reasoning.getD "" ∧ t.reasoning=none ∧ t.parallelToolCalls=parallelToolCalls req.parallelToolCalls := by
  obtain ⟨_,-,h⟩ := bind_ok h
  obtain ⟨_,-,h⟩ := bind_ok h
  obtain ⟨_,-,h⟩ := bind_ok h
  obtain ⟨toolChoice,hchoice,h⟩ := bind_ok h
  cases h
  refine ⟨hchoice,?_,rfl,rfl,rfl,rfl,rfl,rfl,rfl⟩
  simp only [ChatParameters.getMaxTokens,getD_none]
  split
  · rfl
  · omega

def leastMaxTokens (thinking : Option Thinking) : Nat :=
  match thinking with
  | some (.enabled budgetTokens) => max 1280 (budgetTokens+1)
  | _ => 0

/-- The limit raised above a budget, for a request that has no limit of its own. -/
def raiseMaxTokens (c : ClaudeParameters) : ClaudeParameters :=
  if c.maxTokens.getD 0<leastMaxTokens c.thinking then { c with maxTokens := some (leastMaxTokens c.thinking) } else c

theorem fitBudget_ok {requested : Nat} {field : String} (h : fitBudget requested field c=.ok c') :
    c'=(if 0<requested then c else raiseMaxTokens c) ∧
      ∀ budgetTokens, c.thinking=some (.enabled budgetTokens) → budgetTokens<c'.maxTokens.getD 0 := by
  unfold fitBudget at h
  rw [raiseMaxTokens]
  split at h
  next budgetTokens hthinking =>
    have hleast : leastMaxTokens c.thinking=max 1280 (budgetTokens+1) := by rw [hthinking]; rfl
    rw [hleast]
    split at h
    next hpos =>
      split at h
      · cases h
      rename_i hlt
      cases h
      rw [if_pos hpos]
      refine ⟨rfl,fun _ hb => ?_⟩
      cases hthinking.symm.trans hb
      exact Nat.lt_of_not_le hlt
    next hpos =>
      rw [if_neg hpos]
      dsimp only at h
      split at h
      next hlt =>
        cases h
        rw [if_pos hlt]
        refine ⟨rfl,fun _ hb => ?_⟩
        cases hthinking.symm.trans hb
        change budgetTokens < max 1280 (budgetTokens+1)
        omega
      next hle =>
        cases h
        rw [if_neg hle]
        refine ⟨rfl,fun _ hb => ?_⟩
        cases hthinking.symm.trans hb
        omega
  next hthinking =>
    cases h
    have hleast : leastMaxTokens c.thinking=0 := by
      unfold leastMaxTokens
      split
      next budgetTokens hb =>
        exact absurd hb (hthinking budgetTokens)
      · rfl
    rw [hleast,if_neg (Nat.not_lt_zero _),ite_self]
    exact ⟨rfl,fun b hb => absurd hb (hthinking b)⟩

theorem paths_agree (h : openAIResponsesRequestToClaudeMessages info conv req=.ok c)
    (h' : (responsesRequestToChatCompletionsRequest info conv req).bind (openAIChatRequestToClaudeMessages info conv)=.ok c') :
    c=c' := by
  obtain ⟨t,ht,h'⟩ := bind_ok h'
  obtain ⟨hchoice,hmax,hmodel,htemperature,htopP,htopK,heffort,hreasoning,hparallel⟩ :=
    responsesRequestToChatCompletionsRequest_ok ht
  obtain ⟨toolChoice,hchoice',-,h⟩ := openAIResponsesRequestToClaudeMessages_ok h
  obtain ⟨-,c1,c2,heffort',hbudget,hfit⟩ := openAIChatRequestToClaudeMessages_ok h'
  have hsame : toolChoice=t.toolChoice := Except.ok.inj (hchoice'.symm.trans hchoice)
  rw [hmax,hmodel,htemperature,htopP,htopK,heffort,hparallel,← hsame] at heffort'
  rw [heffort'] at h
  rw [applyReasoningMaxTokens,hreasoning] at hbudget
  cases hbudget
  rw [hmax] at hfit
  rw [(fitBudget_ok h).1,(fitBudget_ok hfit).1]

end Agreement

def ClaudeParameters.thinks (c : ClaudeParameters) : Bool :=
  match c.thinking with
  | some (.adaptive _) | some (.enabled _) => true
  | _ => false

open ClaudeParameters (thinks)

section Validity

/-- The sampling parameters that a request which thinks may have. -/
def Neutral (temperature topP : Option Rat) : Prop := (temperature=none ∨ temperature=some 1) ∧ topP=none

abbrev ClaudeParameters.ThinksNeutral (c : ClaudeParameters) : Prop := c.thinks=true ∧ Neutral c.temperature c.topP

structure ClaudeParameters.Valid (c : ClaudeParameters) : Prop where
  maxTokens : c.maxTokens.isSome=true
  budget : ∀ budgetTokens, c.thinking=some (.enabled budgetTokens) → ∀ maxTokens, c.maxTokens=some maxTokens → budgetTokens < maxTokens
  sampling : c.thinks=true → Neutral c.temperature c.topP

def suffixThinks (info : ConvMeta) (model : String) : Bool :=
  (effortSuffix model).isSome || (info.thinkingAdapterEnabled && (thinkingSuffix model).isSome)

def effortThinks (effort : String) : Bool := effort∈["minimal", "low", "medium", "high"]

variable {model : String}

theorem applyEffort_sampling (model base level : String) (c : ClaudeParameters) :
    (applyEffort info model base level c).ThinksNeutral := by
  simp only [applyEffort,adaptiveSampling]
  split
  · exact ⟨rfl,.inl rfl,rfl⟩
  · exact ⟨rfl,.inr rfl,rfl⟩

theorem applyThinking_sampling (model trimmed : String) (c : ClaudeParameters) :
    (applyThinking info model trimmed c).ThinksNeutral := by
  simp only [applyThinking]
  split
  · exact ⟨rfl,.inl rfl,rfl⟩
  · exact ⟨rfl,.inr rfl,rfl⟩

theorem withDefaultMaxTokens_sampling (model : String) (c : ClaudeParameters) :
    (withDefaultMaxTokens info model c).thinking=c.thinking ∧ (withDefaultMaxTokens info model c).temperature=c.temperature ∧
      (withDefaultMaxTokens info model c).topP=c.topP := by
  rw [withDefaultMaxTokens]
  split
  · cases info.defaultMaxTokens <;> exact ⟨rfl,rfl,rfl⟩
  · exact ⟨rfl,rfl,rfl⟩

theorem applyModelSuffix_sampling (c : ClaudeParameters) :
    (suffixThinks info model=true → (applyModelSuffix info model c).ThinksNeutral) ∧
    (suffixThinks info model=false → applyModelSuffix info model c=c) := by
  rw [suffixThinks,applyModelSuffix]
  cases effortSuffix model with
  | some base => exact ⟨fun _ => applyEffort_sampling ..,(nomatch ·)⟩
  | none =>
    cases info.thinkingAdapterEnabled with
    | false => exact ⟨(nomatch ·),fun _ => rfl⟩
    | true =>
      cases thinkingSuffix model with
      | none => exact ⟨(nomatch ·),fun _ => rfl⟩
      | some trimmed => exact ⟨fun _ => applyThinking_sampling ..,(nomatch ·)⟩

variable {c c' : ClaudeParameters} {requested : Nat} {field : String}

theorem baseParameters_sampling (requested : Nat) (temperature topP : Option Rat) (topK : Option Int)
    (toolChoice : Option ClaudeToolChoice) (hc : baseParameters info model requested temperature topP topK toolChoice=c) :
    (suffixThinks info model=true → Neutral c.temperature c.topP) ∧
    (suffixThinks info model=false → c.thinks=false ∧ c.temperature=temperature ∧ c.topP=topP) := by
  subst hc
  obtain ⟨hthinks,hplain⟩ := @applyModelSuffix_sampling info model (withDefaultMaxTokens info model
    { model, temperature, topP, topK, maxTokens := if 0<requested then some requested else none })
  refine ⟨fun h => (hthinks h).2,fun h => ?_⟩
  obtain ⟨hthinking,hsampling⟩ := @withDefaultMaxTokens_sampling info model
    { model, temperature, topP, topK, maxTokens := if 0<requested then some requested else none }
  rw [baseParameters,hplain h]
  refine ⟨?_,hsampling⟩
  change thinks (withDefaultMaxTokens info model _)=false
  rw [thinks,hthinking]

theorem withEffort_ok {effort : String} (h : withEffort effort c=.ok c') : c'.temperature=c.temperature ∧ c'.topP=c.topP ∧
      ((effortThinks effort=true ∧ c'.thinks=true) ∨ (effortThinks effort=false ∧ (c'.thinking=c.thinking ∨ c'.thinks=false))) := by
  obtain ⟨thinking,hthinking,h⟩ := bind_ok h
  cases h
  refine ⟨rfl,rfl,?_⟩
  unfold effortThinking at hthinking
  split at hthinking
  all_goals cases hthinking
  · exact .inr ⟨rfl,.inl rfl⟩
  · exact .inr ⟨rfl,.inr rfl⟩
  all_goals exact .inl ⟨rfl,rfl⟩

def ChatParameters.asksBudget (t : ChatParameters β) : Bool :=
  match t.reasoning with
  | some (.ok rawBudgetTokens) => 0<rawBudgetTokens
  | _ => false

theorem applyReasoningMaxTokens_ok {t : ChatParameters β} (h : applyReasoningMaxTokens t c=.ok c') :
    c'.temperature=c.temperature ∧ c'.topP=c.topP ∧
      ((t.asksBudget=true ∧ c'.thinks=true) ∨ (t.asksBudget=false ∧ c'.thinking=c.thinking)) := by
  unfold applyReasoningMaxTokens at h
  split at h
  next hnone =>
    cases h
    exact ⟨rfl,rfl,.inr ⟨by rw [ChatParameters.asksBudget,hnone],rfl⟩⟩
  · cases h
  next raw hraw =>
    have hasks : t.asksBudget=decide (0<raw) := by rw [ChatParameters.asksBudget,hraw]
    rw [hasks]
    split at h
    · cases h
    rename_i hrange
    split at h
    next hzero =>
      cases h
      exact ⟨rfl,rfl,.inr ⟨by rw [hzero]; rfl,rfl⟩⟩
    next hzero =>
      split at h
      · cases h
      · cases h
        exact ⟨rfl,rfl,.inl ⟨decide_eq_true (by omega),rfl⟩⟩

theorem fitBudget_sampling (h : fitBudget requested field c=.ok c') :
    c'.thinking=c.thinking ∧ c'.temperature=c.temperature ∧ c'.topP=c.topP := by
  rw [(fitBudget_ok h).1,raiseMaxTokens]
  split
  · exact ⟨rfl,rfl,rfl⟩
  · split <;> exact ⟨rfl,rfl,rfl⟩

theorem valid_iff (h : fitBudget requested field c=.ok c')
    (hmax : c'.maxTokens.isSome=true) : c'.Valid ↔ (c.thinks=true → Neutral c.temperature c.topP) := by
  obtain ⟨hthinking,htemperature,htopP⟩ := fitBudget_sampling h
  have hthinks : c'.thinks=c.thinks := by rw [thinks,hthinking]; rfl
  rw [← hthinks,← htemperature,← htopP]
  constructor
  · exact fun hvalid => hvalid.sampling
  refine fun hsampling => ⟨hmax,fun budgetTokens hb maxTokens hm => ?_,hsampling⟩
  have hlt := (fitBudget_ok h).2 budgetTokens (hthinking ▸ hb)
  rwa [hm] at hlt

end Validity

structure Agree (c c' : ClaudeParameters) : Prop where
  model : c.model=c'.model
  maxTokens : c.maxTokens=c'.maxTokens
  thinking : c.thinking=c'.thinking
  outputConfig : c.outputConfig=c'.outputConfig
  temperature : c.temperature=c'.temperature
  topP : c.topP=c'.topP
  toolChoice : c.toolChoice=c'.toolChoice

variable {c : ClaudeParameters}

theorem sampling_iff {suffix asks : Bool} {temperature topP : Option Rat} (hsuffix : suffix=true → Neutral c.temperature c.topP)
    (hplain : suffix=false → c.thinks=asks ∧ c.temperature=temperature ∧ c.topP=topP) :
    (c.thinks=true → Neutral c.temperature c.topP) ↔ (suffix=false → asks=true → Neutral temperature topP) := by
  cases suffix with
  | true => exact ⟨fun _ h => absurd h (by decide),fun _ _ => hsuffix rfl⟩
  | false =>
    obtain ⟨hthinks,htemperature,htopP⟩ := hplain rfl
    rw [hthinks,htemperature,htopP]
    exact ⟨fun h _ => h,fun h => h rfl⟩

theorem responses_valid_iff {r : ResponsesParameters α} (h : openAIResponsesRequestToClaudeMessages info conv r=.ok c) :
    c.Valid ↔ (suffixThinks info r.model=false → effortThinks (r.reasoning.getD "")=true → Neutral r.temperature r.topP) := by
  obtain ⟨toolChoice,-,hmax,h⟩ := openAIResponsesRequestToClaudeMessages_ok h
  obtain ⟨c1,heffort,hfit⟩ := bind_ok h
  generalize hbase : baseParameters info r.model _ _ _ _ _=c0 at heffort
  obtain ⟨hsuffix,hplain⟩ := baseParameters_sampling _ _ _ _ _ hbase
  obtain ⟨htemperature,htopP,hthinks⟩ := withEffort_ok heffort
  rw [valid_iff hfit hmax]
  refine sampling_iff (fun h => ?_) fun h => ?_
  · rw [htemperature,htopP]
    exact hsuffix h
  · obtain ⟨hnot,htemperature',htopP'⟩ := hplain h
    refine ⟨?_,htemperature.trans htemperature',htopP.trans htopP'⟩
    rcases hthinks with ⟨heffort,hthinks⟩ | ⟨heffort,hthinking | hthinks⟩
    · rw [heffort,hthinks]
    · rw [heffort,thinks,hthinking]
      exact hnot
    · rw [heffort,hthinks]

theorem chat_valid_iff {t : ChatParameters β} (h : openAIChatRequestToClaudeMessages info conv t=.ok c) :
    c.Valid ↔ (suffixThinks info t.model=false → (effortThinks t.reasoningEffort || t.asksBudget)=true →
      Neutral t.temperature t.topP) := by
  obtain ⟨hmax,c1,c2,heffort,hbudget,hfit⟩ := openAIChatRequestToClaudeMessages_ok h
  generalize hbase : baseParameters info t.model _ _ _ _ _=c0 at heffort
  obtain ⟨hsuffix,hplain⟩ := baseParameters_sampling _ _ _ _ _ hbase
  obtain ⟨htemperature,htopP,hthinks⟩ := withEffort_ok heffort
  obtain ⟨htemperature2,htopP2,hthinks2⟩ := applyReasoningMaxTokens_ok hbudget
  rw [valid_iff hfit hmax]
  refine sampling_iff (fun h => ?_) fun h => ?_
  · rw [htemperature2,htopP2,htemperature,htopP]
    exact hsuffix h
  · obtain ⟨hnot,htemperature',htopP'⟩ := hplain h
    refine ⟨?_,(htemperature2.trans htemperature).trans htemperature',(htopP2.trans htopP).trans htopP'⟩
    rcases hthinks2 with ⟨hasks,hthinks2⟩ | ⟨hasks,hthinking2⟩
    · rw [hasks,hthinks2,Bool.or_true]
    have hsame : c2.thinks=c1.thinks := by rw [thinks,hthinking2]; rfl
    rw [hasks,hsame,Bool.or_false]
    rcases hthinks with ⟨heffort,hthinks⟩ | ⟨heffort,hthinking | hthinks⟩
    · rw [heffort,hthinks]
    · rw [heffort,thinks,hthinking]
      exact hnot
    · rw [heffort,hthinks]

/-- The two ways agree on every request that both accept. What either converter produces is valid exactly if the request has neutral
sampling parameters wherever it turns thinking on otherwise than by the model name. -/
theorem claude_parameters_valid_iff (info : ConvMeta) (conv : ContentConversion α β) :
    (∀ r c c', openAIResponsesRequestToClaudeMessages info conv r=.ok c →
      (responsesRequestToChatCompletionsRequest info conv r).bind (openAIChatRequestToClaudeMessages info conv)=.ok c' → Agree c c') ∧
    (∀ r c, openAIResponsesRequestToClaudeMessages info conv r=.ok c →
      (c.Valid ↔ (suffixThinks info r.model=false → effortThinks (r.reasoning.getD "")=true → Neutral r.temperature r.topP))) ∧
    ∀ t c, openAIChatRequestToClaudeMessages info conv t=.ok c →
      (c.Valid ↔ (suffixThinks info t.model=false → (effortThinks t.reasoningEffort || t.asksBudget)=true →
        Neutral t.temperature t.topP)) := by
  refine ⟨fun r c c' h h' => ?_,fun r c h => responses_valid_iff h,fun t c h => chat_valid_iff h⟩
  rw [paths_agree h h']
  exact ⟨rfl,rfl,rfl,rfl,rfl,rfl,rfl⟩

/-- The host's settings: an adapter that takes four fifths, and 8192 tokens by default. -/
def hostMeta : ConvMeta where
  originModelName := ""
  preserveThinkingSuffix _ := false
  thinkingAdapterEnabled := true
  adapterBudget n := n*4 / 5
  defaultMaxTokens := some fun _ => 8192
  sprint _ := ""

def anyContent : ContentConversion Unit Unit where
  unsupported _ := .ok ()
  responsesToClaude _ := .ok ()
  responsesToChat _ := .ok ()
  chatToClaude _ := .ok ()

def suffixedRequest : ResponsesParameters Unit := { model := "claude-sonnet-4-6-thinking", temperature := some (1 / 2), content := () }

def effortRequest : ChatParameters Unit := { model := "claude-sonnet-4-6", reasoningEffort := "high", content := () }

theorem claude_parameters_valid_iff_thinking :
    (∃ c, openAIResponsesRequestToClaudeMessages hostMeta anyContent suffixedRequest=.ok c ∧ c.Valid ∧
        c.thinking=some (.enabled 6553)) ∧
      ∃ c, openAIChatRequestToClaudeMessages hostMeta anyContent effortRequest=.ok c ∧ c.Valid := by
  have hsuffixed : openAIResponsesRequestToClaudeMessages hostMeta anyContent suffixedRequest=.ok
      { model := "claude-sonnet-4-6", maxTokens := some 8192, thinking := some (.enabled 6553), temperature := some 1 } := by
    decide +kernel
  have heffort : openAIChatRequestToClaudeMessages hostMeta anyContent effortRequest=.ok
      { model := "claude-sonnet-4-6", maxTokens := some 8192, thinking := some (.enabled 4096) } := by decide +kernel
  obtain ⟨-,hresponses,hchat⟩ := claude_parameters_valid_iff hostMeta anyContent
  refine ⟨⟨_,hsuffixed,(hresponses _ _ hsuffixed).mpr ?_,rfl⟩,⟨_,heffort,(hchat _ _ heffort).mpr ?_⟩⟩
  · exact fun h => absurd h (by decide +kernel)
  · exact fun _ _ => ⟨.inl rfl,rfl⟩

theorem effort_keeps_temperature : ∃ c, openAIResponsesRequestToClaudeMessages hostMeta anyContent
    { model := "claude-sonnet-4-6", temperature := some (1 / 2), reasoning := some "low", content := () }=.ok c ∧
      c.thinking=some (.enabled 1280) ∧ c.temperature=some (1 / 2) ∧ ¬ c.Valid := by
  refine ⟨{ model := "claude-sonnet-4-6", maxTokens := some 8192, thinking := some (.enabled 1280), temperature := some (1 / 2) },
    by decide +kernel,rfl,rfl,fun hvalid => ?_⟩
  rcases (hvalid.sampling rfl).1 with h | h
  · cases h
  · exact absurd h (by decide +kernel)

end NewApi.Relay

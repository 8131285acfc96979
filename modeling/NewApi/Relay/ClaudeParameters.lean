import Mathlib.Algebra.Group.Int.Defs
import NewApi.Relay.RequestToChat

/-! The generation parameters of a Claude request converted from a chat completion or a Responses request
(`relaykit/relayconvert/internal/oai_chat/to_claude_messages_req.go`, `oai_responses/to_claude_messages_req.go`). -/
namespace NewApi.Relay
open GoStrings

section Models

def hasSuffix (s last : String) : Bool := last.toList.isSuffixOf s.toList

def trimSuffix (s last : String) : String :=
  if hasSuffix s last then String.ofList (s.toList.take (s.toList.length-last.toList.length)) else s

def effortSuffixes : List String := ["-ultra", "-max", "-xhigh", "-high", "-medium", "-low", "-minimal"]

def trimEffortSuffix (modelName : String) : Option (String×String) :=
  (effortSuffixes.find? fun s => hasSuffix modelName s).map fun s => (trimSuffix modelName s,String.ofList (s.toList.drop 1))

def hasModelFamily (modelName family : String) : Bool := modelName == family || hasPrefix modelName (family++"-")

def isClaudeOpusReasoningModel (modelName : String) : Bool :=
  ["claude-opus-4-6", "claude-opus-4-7", "claude-opus-4-8"].any (hasModelFamily modelName)

def isClaudeOpus47Or48 (modelName : String) : Bool := ["claude-opus-4-7", "claude-opus-4-8"].any (hasModelFamily modelName)

def isExactOrDatedClaudeFamily (modelName family : String) : Bool :=
  let date := modelName.toList.drop family.toList.length
  modelName == family || (hasPrefix modelName family && date.length == 9 && date.head? == some '-' && (date.drop 1).all Char.isDigit)

def isClaudeThinkingModel (modelName : String) : Bool :=
  ["claude-sonnet-4-6", "claude-sonnet-4-5", "claude-3-7-sonnet", "claude-opus-4-6", "claude-opus-4-7", "claude-opus-4-8"].any
    (isExactOrDatedClaudeFamily modelName)

def effortSuffix (model : String) : Option (String×String) :=
  (trimEffortSuffix model).filter fun (baseModel,effortLevel) =>
    effortLevel≠"" && isClaudeThinkingModel baseModel && isClaudeOpusReasoningModel baseModel

def thinkingSuffix (model : String) : Option String :=
  if hasSuffix model "-thinking" && isClaudeThinkingModel (trimSuffix model "-thinking") then some (trimSuffix model "-thinking") else none

end Models

/-- `convmeta.Meta` with its options; `adapterBudget` is the product with the adapter's percentage. -/
structure ConvMeta where
  originModelName : String
  preserveThinkingSuffix : String → Bool
  thinkingAdapterEnabled : Bool
  adapterBudget : Nat → Nat
  defaultMaxTokens : Option (String → Int)
  sprint : JsonValue → String

inductive Thinking where
  | disabled
  | adaptive (display : String)
  | enabled (budgetTokens : Nat)
  deriving DecidableEq

structure ClaudeToolChoice where
  type : String
  name : String := ""
  disableParallelToolUse : Bool := false
  deriving DecidableEq

/-- The parameters of `dto.ClaudeRequest`; the output configuration by the effort it names. A null `tool_choice` and an
absent one are both none. -/
structure ClaudeParameters where
  model : String
  maxTokens : Option Nat := none
  thinking : Option Thinking := none
  outputConfig : Option String := none
  temperature : Option Rat := none
  topP : Option Rat := none
  topK : Option Int := none
  toolChoice : Option ClaudeToolChoice := none
  deriving DecidableEq

section Passes
variable (info : ConvMeta)

def shouldPreserveClaudeSuffix (inputModel : String) : Bool :=
  info.preserveThinkingSuffix (if trimSpace info.originModelName="" then inputModel else info.originModelName)

/-- A value that is not negative stays, another wraps (`uint(value)`). -/
def toUint (value : Int) : Nat := (value % 2 ^ 64).toNat

def withDefaultMaxTokens (model : String) (c : ClaudeParameters) : ClaudeParameters :=
  if c.maxTokens.getD 0=0 then
    match info.defaultMaxTokens with
    | some defaultMaxTokens => { c with maxTokens := some (toUint (defaultMaxTokens model)) }
    | none => c
  else c

def adaptiveSampling (baseModel : String) (c : ClaudeParameters) : ClaudeParameters :=
  if isClaudeOpus47Or48 baseModel then { c with temperature := none, topP := none, topK := none }
  else { c with topP := none, temperature := some 1 }

def applyEffort (model baseModel effortLevel : String) (c : ClaudeParameters) : ClaudeParameters :=
  adaptiveSampling baseModel
    { c with
      model := if shouldPreserveClaudeSuffix info model then c.model else baseModel
      thinking := some (.adaptive (if isClaudeOpus47Or48 baseModel then "summarized" else ""))
      outputConfig := some effortLevel }

/-- What both converters do for a model name with the suffix `-thinking`. -/
def applyThinking (model trimmedModel : String) (c : ClaudeParameters) : ClaudeParameters :=
  let c := { c with model := if shouldPreserveClaudeSuffix info model then c.model else trimmedModel }
  if isClaudeOpus47Or48 trimmedModel then
    { c with thinking := some (.adaptive "summarized"), outputConfig := some "high", temperature := none, topP := none, topK := none }
  else
    let maxTokens := max (c.maxTokens.getD 0) 1280
    { c with
      maxTokens := some maxTokens
      thinking := some (.enabled (info.adapterBudget maxTokens))
      topP := none
      temperature := some 1 }

def effortThinking (effort : String) : Except String (Option Thinking) :=
  match effort with
  | "" => .ok none
  | "none" => .ok (some .disabled)
  | "minimal" => .ok (some (.enabled 1024))
  | "low" => .ok (some (.enabled 1280))
  | "medium" => .ok (some (.enabled 2048))
  | "high" => .ok (some (.enabled 4096))
  | "xhigh" | "max" | "ultra" => .error ("Claude Messages cannot represent reasoning effort \"" ++ effort ++
      "\"; supported efforts are none, minimal, low, medium, and high")
  | _ => .error ("Claude Messages cannot represent unknown reasoning effort \"" ++ effort++"\"")

def withEffort (effort : String) (c : ClaudeParameters) : Except String ClaudeParameters := do
  let thinking ← effortThinking effort
  pure { c with thinking := thinking.or c.thinking }

/-- The check of the budget against the limit, which is `field` of the request where it has one. -/
def fitBudget (requested : Nat) (field : String) (c : ClaudeParameters) : Except String ClaudeParameters :=
  match c.thinking with
  | some (.enabled budgetTokens) =>
    if 0<requested then
      if c.maxTokens.getD 0≤budgetTokens then
        .error ("Claude Messages reasoning budget_tokens (" ++ toString budgetTokens++") must be less than " ++ field++" (" ++
          toString (c.maxTokens.getD 0)++")")
      else .ok c
    else
      let minimumMaxTokens := max 1280 (budgetTokens+1)
      if c.maxTokens.getD 0 < minimumMaxTokens then .ok { c with maxTokens := some minimumMaxTokens } else .ok c
  | _ => .ok c

def mapOpenAIToolChoice (toolChoice : Option JsonValue) (parallelToolCalls : Option Bool) : Option ClaudeToolChoice :=
  let choice : Option ClaudeToolChoice :=
    match toolChoice with
    | some (.str "auto") => some { type := "auto" }
    | some (.str "required") => some { type := "any" }
    | some (.str "none") => some { type := "none" }
    | some (.obj fields) =>
      match JsonValue.field "function" fields with
      | some (.obj function) =>
        match JsonValue.field "name" function with
        | some (.str toolName) => some { type := "tool", name := toolName }
        | _ => none
      | _ => none
    | _ => none
  match parallelToolCalls with
  | none => choice
  | some parallelToolCalls =>
    let choice := choice.getD { type := "auto" }
    some (if choice.type="none" then choice else { choice with disableParallelToolUse := !parallelToolCalls })

end Passes

/-- The parts of the two kinds of requests that hold no parameter (messages, instructions, tools, formats): what the converters refuse
in them, and what a Responses request's become in a chat request. -/
structure ContentConversion (α β : Type) where
  unsupported : α → Except String Unit
  responsesToClaude : α → Except String Unit
  responsesToChat : α → Except String β
  chatToClaude : β → Except String Unit

structure ResponsesParameters (α : Type) where
  model : String
  maxOutputTokens : Option Nat := none
  temperature : Option Rat := none
  topP : Option Rat := none
  reasoning : Option String := none
  toolChoice : Option JsonValue := none
  parallelToolCalls : Option JsonValue := none
  content : α

/-- `dto.GeneralOpenAIRequest`; `reasoning` by the `max_tokens` it decodes to, where it decodes. -/
structure ChatParameters (β : Type) where
  model : String
  maxTokens : Option Nat := none
  maxCompletionTokens : Option Nat := none
  temperature : Option Rat := none
  topP : Option Rat := none
  topK : Option Int := none
  reasoningEffort : String := ""
  reasoning : Option (Except String Int) := none
  toolChoice : Option JsonValue := none
  parallelToolCalls : Option Bool := none
  content : β

section Converters
variable {α β : Type} (info : ConvMeta) (conv : ContentConversion α β)

def ChatParameters.getMaxTokens (r : ChatParameters β) : Nat :=
  if r.maxCompletionTokens.getD 0≠0 then r.maxCompletionTokens.getD 0 else r.maxTokens.getD 0

def maxTokensLimit : Nat := 1073741823

/-- `ParallelToolCalls`, and the same reading of the field by `ResponsesRequestToChatCompletionsRequest`. -/
def parallelToolCalls : Option JsonValue → Option Bool
  | some (.bool value) => some value
  | _ => none

def checkModel (model : String) : Except String Unit := if model="" then .error "model is required" else .ok ()

def responsesRequestToChatCompletionsRequest (req : ResponsesParameters α) : Except String (ChatParameters β) := do
  checkModel req.model
  conv.unsupported req.content
  let content ← conv.responsesToChat req.content
  let toolChoice ← requestToolChoiceToChat info.sprint req.toolChoice
  pure {
    model := req.model
    maxCompletionTokens := req.maxOutputTokens
    temperature := req.temperature
    topP := req.topP
    reasoningEffort := req.reasoning.getD ""
    toolChoice
    parallelToolCalls := parallelToolCalls req.parallelToolCalls
    content }

def applyResponsesEffortSuffix (model : String) (c : ClaudeParameters) : ClaudeParameters :=
  match effortSuffix model with
  | some (baseModel,effortLevel) => applyEffort info model baseModel effortLevel c
  | none => c

def applyResponsesThinkingAdapter (model : String) (c : ClaudeParameters) : ClaudeParameters :=
  if info.thinkingAdapterEnabled then
    match thinkingSuffix model with
    | some trimmedModel => applyThinking info model trimmedModel c
    | none => c
  else c

def applyResponsesReasoningToClaude (req : ResponsesParameters α) (c : ClaudeParameters) : Except String ClaudeParameters := do
  let c ← withEffort (req.reasoning.getD "") c
  fitBudget (req.maxOutputTokens.getD 0) "max_output_tokens" c

def checkMaxTokens (c : ClaudeParameters) : Except String ClaudeParameters :=
  if c.maxTokens.isSome then .ok c
  else .error ("claude messages request requires max_tokens: set max_tokens on the request or configure " ++
    "Options.Claude.DefaultMaxTokens")

def openAIResponsesRequestToClaudeMessages (req : ResponsesParameters α) : Except String ClaudeParameters := do
  checkModel req.model
  conv.unsupported req.content
  let c : ClaudeParameters :=
    { model := req.model
      temperature := req.temperature
      topP := req.topP
      maxTokens := req.maxOutputTokens.filter (0 < ·) }
  let c := applyResponsesThinkingAdapter info req.model (applyResponsesEffortSuffix info req.model (withDefaultMaxTokens info req.model c))
  let toolChoice ← requestToolChoiceToChat info.sprint req.toolChoice
  let c := if toolChoice.isSome || JsonValue.present req.parallelToolCalls
    then { c with toolChoice := mapOpenAIToolChoice toolChoice (parallelToolCalls req.parallelToolCalls) } else c
  let c ← applyResponsesReasoningToClaude req c
  conv.responsesToClaude req.content
  checkMaxTokens c

def applyModelSuffix (model : String) (c : ClaudeParameters) : ClaudeParameters :=
  match effortSuffix model with
  | some (baseModel,effortLevel) => applyEffort info model baseModel effortLevel c
  | none =>
    if info.thinkingAdapterEnabled then
      match thinkingSuffix model with
      | some trimmedModel => applyThinking info model trimmedModel c
      | none => c
    else c

def applyReasoningMaxTokens (textRequest : ChatParameters β) (c : ClaudeParameters) : Except String ClaudeParameters :=
  match textRequest.reasoning with
  | none => .ok c
  | some (.error err) => .error err
  | some (.ok rawBudgetTokens) =>
    if rawBudgetTokens<0 ∨ (maxTokensLimit : Int)≤rawBudgetTokens then
      .error "reasoning.max_tokens is invalid: must be between 0 and 1073741822"
    else if rawBudgetTokens=0 then .ok c
    else if maxTokensLimit<textRequest.getMaxTokens then .error "max_tokens is invalid: must not exceed 1073741823"
    else .ok { c with thinking := some (.enabled rawBudgetTokens.toNat) }

def openAIChatRequestToClaudeMessages (textRequest : ChatParameters β) : Except String ClaudeParameters := do
  let c : ClaudeParameters :=
    { model := textRequest.model
      temperature := textRequest.temperature
      maxTokens := if 0<textRequest.getMaxTokens then some textRequest.getMaxTokens else none
      topP := textRequest.topP
      topK := textRequest.topK }
  let c := if textRequest.toolChoice.isSome || textRequest.parallelToolCalls.isSome
    then { c with toolChoice := mapOpenAIToolChoice textRequest.toolChoice textRequest.parallelToolCalls } else c
  let c := applyModelSuffix info textRequest.model (withDefaultMaxTokens info textRequest.model c)
  let c ← withEffort textRequest.reasoningEffort c
  let c ← applyReasoningMaxTokens textRequest c
  let c ← fitBudget textRequest.getMaxTokens "max_tokens" c
  conv.chatToClaude textRequest.content
  checkMaxTokens c

end Converters
end NewApi.Relay

import Mathlib.Data.List.Sort
import NewApi.Lib.Keyed
import NewApi.Relay.Responses

/-! The conversion of a chat completion stream into Responses events, as `oai_chat/to_oai_responses_stream_resp.go` has
it. The tools by index are rows with the chat index as their key, and the time of creation is read once. -/
namespace NewApi.Relay
open GoStrings Keyed

def usageFromChatUsage (src : Usage) : Usage :=
  let d := src.promptTokensDetails
  let details := if d.cachedTokens≠0 ∨ d.imageTokens≠0 ∨ d.audioTokens≠0 ∨ d.textTokens≠0 ∨
    src.getCacheCreationTokensWithPresence.isSome then some d else none
  let counts : UsageCounts :=
    { usageSemantic := src.usageSemantic, usageSource := src.usageSource
      promptTokens := src.promptTokens, inputTokens := src.promptTokens
      completionTokens := src.completionTokens, outputTokens := src.completionTokens
      totalTokens := if src.totalTokens≠0 then src.totalTokens else src.promptTokens+src.completionTokens
      inputTokensDetails := details }
  let counts := counts.copyCacheCreationTokensFrom src.toUsageCounts
  { counts with
    billingUsage := src.billingUsage.or (newOpenAIChatBillingUsage src.toUsageCounts)
    promptTokensDetails := match counts.inputTokensDetails with
      | some input => { counts.promptTokensDetails with cachedTokens := input.cachedTokens }
      | none => counts.promptTokensDetails
    completionTokenDetails := src.completionTokenDetails
    claudeCacheCreation5mTokens := src.claudeCacheCreation5mTokens
    claudeCacheCreation1hTokens := src.claudeCacheCreation1hTokens }

structure ChatToResponsesStreamTool where
  chatIndex : Nat
  outputIndex : Nat
  id : String
  name : String
  arguments : String := ""
  done : Bool := false

inductive OutputRef where
  | message | reasoning
  | tool (toolIndex : Nat)
  deriving DecidableEq

/-- The output index of text or reasoning is read once it is started. -/
structure ChatToResponsesStreamState where
  id : String
  model : String
  created : Int
  usage : Usage := {}
  status : String := "completed"
  incompleteDetails : Option String := none
  sentCreated : Bool := false
  textOutputIndex : Nat := 0
  textStarted : Bool := false
  textDone : Bool := false
  reasoningIndex : Nat := 0
  reasoningStarted : Bool := false
  reasoningDone : Bool := false
  finalized : Bool := false
  nextOutputIndex : Nat := 0
  toolsByIndex : List ChatToResponsesStreamTool := []
  outputOrder : List OutputRef := []
  text : String := ""
  reasoning : String := ""

def responsesStatusFromChatFinishReason (finishReason : String) : String×Option String :=
  match trimSpace finishReason with
  | "length" => ("incomplete",some "max_output_tokens")
  | "content_filter" => ("incomplete",some "content_filter")
  | _ => ("completed",none)

namespace ChatToResponsesStreamState
variable (s : ChatToResponsesStreamState)

def messageID : String := s.id++"_msg_0"

def reasoningID : String := s.id++"_reasoning_0"

def outputStatus : String :=
  if s.status="incomplete" then "incomplete" else "completed"

def messageOutput (status : String) : ResponsesOutput :=
  { type := .message, id := s.messageID, status := status, role := "assistant"
    content := [{ type := "output_text", text := s.text }] }

def reasoningOutput (status : String) : ResponsesOutput :=
  { type := .reasoning, id := s.reasoningID, status := status
    content := [{ type := "summary_text", text := s.reasoning }] }

def toolOutput (tool : ChatToResponsesStreamTool) (status : String) : ResponsesOutput :=
  { type := .functionCall, id := tool.id, status := status, callId := tool.id, name := tool.name
    arguments := .string tool.arguments }

def nextIndex (ref : OutputRef) : ChatToResponsesStreamState×Nat :=
  ({ s with nextOutputIndex := s.nextOutputIndex+1, outputOrder := s.outputOrder++[ref] },s.nextOutputIndex)

def createdResponse : OpenAIResponsesResponse :=
  { id := s.id, createdAt := s.created, status := .string "in_progress", model := s.model }

def appendTextDelta (delta : String) :
    ChatToResponsesStreamState×List ResponsesStreamResponse :=
  let (s,added) : ChatToResponsesStreamState×List ResponsesStreamResponse :=
    if s.textStarted then (s,[]) else
    let (s,index) := s.nextIndex .message
    ({ s with textStarted := true, textOutputIndex := index },
      [{ type := .outputItemAdded, outputIndex := some index
         item := some { type := .message, id := s.messageID, status := "in_progress", role := "assistant" } }])
  ({ s with text := s.text++delta },
    added++[{ type := .outputTextDelta, outputIndex := some s.textOutputIndex, delta := delta, itemID := s.messageID }])

def appendReasoningDelta (delta : String) :
    ChatToResponsesStreamState×List ResponsesStreamResponse :=
  let (s,added) : ChatToResponsesStreamState×List ResponsesStreamResponse :=
    if s.reasoningStarted then (s,[]) else
    let (s,index) := s.nextIndex .reasoning
    ({ s with reasoningStarted := true, reasoningIndex := index },
      [{ type := .outputItemAdded, outputIndex := some index
         item := some { type := .reasoning, id := s.reasoningID, status := "in_progress" } }])
  ({ s with reasoning := s.reasoning++delta },
    added ++ [{ type := .reasoningSummaryDelta, outputIndex := some s.reasoningIndex, delta := delta
                itemID := s.reasoningID }])

def ensureTool (toolCall : ToolCallResponse) :
    ChatToResponsesStreamState×ChatToResponsesStreamTool×List ResponsesStreamResponse :=
  let chatIndex := toolCall.index.getD 0
  match lookup (·.chatIndex) chatIndex s.toolsByIndex with
  | some tool => (s,tool,[])
  | none =>
    let id := trimSpace toolCall.id
    let (s,index) := s.nextIndex (.tool chatIndex)
    let tool : ChatToResponsesStreamTool :=
      { chatIndex := chatIndex, outputIndex := index
        id := if id="" then s.id++"_call_" ++ toString chatIndex else id, name := trimSpace toolCall.name }
    ({ s with toolsByIndex := s.toolsByIndex++[tool] },tool,
      [{ type := .outputItemAdded, outputIndex := some index, itemID := tool.id
         item := some { type := .functionCall, id := tool.id, status := "in_progress", callId := tool.id
                        name := tool.name, arguments := .string "" } }])

def appendToolCallDelta (toolCall : ToolCallResponse) :
    ChatToResponsesStreamState×List ResponsesStreamResponse :=
  let (s,tool,added) := s.ensureTool toolCall
  let tool := { tool with
    id := if trimSpace toolCall.id="" then tool.id else trimSpace toolCall.id
    name := if trimSpace toolCall.name="" then tool.name else trimSpace toolCall.name
    arguments := tool.arguments++toolCall.arguments }
  ({ s with toolsByIndex := modify (·.chatIndex) tool.chatIndex (fun _ => tool) s.toolsByIndex },
    added ++ if toolCall.arguments="" then [] else
      [{ type := .functionArgsDelta, outputIndex := some tool.outputIndex, itemID := tool.id, delta := toolCall.arguments }])

def sortedTools : List ChatToResponsesStreamTool :=
  s.toolsByIndex.mergeSort fun a b => a.chatIndex≤b.chatIndex

def doneDeltaEvents : ChatToResponsesStreamState×List ResponsesStreamResponse :=
  let status := s.outputStatus
  let textEvents : List ResponsesStreamResponse :=
    if s.textStarted && !s.textDone then
      [{ type := .outputTextDone, outputIndex := some s.textOutputIndex, itemID := s.messageID },
       { type := .outputItemDone, outputIndex := some s.textOutputIndex, item := some (s.messageOutput status) }]
    else []
  let reasoningEvents : List ResponsesStreamResponse :=
    if s.reasoningStarted && !s.reasoningDone then
      [{ type := .reasoningSummaryDone, outputIndex := some s.reasoningIndex, itemID := s.reasoningID
         part := some s.reasoning },
       { type := .outputItemDone, outputIndex := some s.reasoningIndex, item := some (s.reasoningOutput status) }]
    else []
  let toolEvents := s.sortedTools.flatMap fun tool =>
    if tool.done then ([] : List ResponsesStreamResponse) else
    [{ type := .functionArgsDone, outputIndex := some tool.outputIndex, itemID := tool.id },
     { type := .outputItemDone, outputIndex := some tool.outputIndex, item := some (toolOutput tool status) }]
  ({ s with textDone := s.textDone || s.textStarted, reasoningDone := s.reasoningDone || s.reasoningStarted
            toolsByIndex := s.toolsByIndex.map fun tool => { tool with done := true } },
    textEvents++reasoningEvents++toolEvents)

def applyFinishReason (finishReason : String) : ChatToResponsesStreamState :=
  let applied := responsesStatusFromChatFinishReason finishReason
  { s with status := applied.1, incompleteDetails := applied.2 }

def refOutput (status : String) : OutputRef → Option ResponsesOutput
  | .message => some (s.messageOutput status)
  | .reasoning => some (s.reasoningOutput status)
  | .tool toolIndex => (lookup (·.chatIndex) toolIndex s.toolsByIndex).map (toolOutput · status)

def finalResponse : OpenAIResponsesResponse :=
  { id := s.id, createdAt := s.created, status := .string s.status, incompleteDetails := s.incompleteDetails
    model := s.model, output := s.outputOrder.filterMap (s.refOutput s.outputStatus), usage := some s.usage }

def appendToolCalls : ChatToResponsesStreamState → List ToolCallResponse →
    ChatToResponsesStreamState×List ResponsesStreamResponse
  | s, [] => (s,[])
  | s, call::calls =>
    let (s,events) := s.appendToolCallDelta call
    let (s,more) := s.appendToolCalls calls
    (s,events++more)

def appendPayload (delta : ChunkDelta) :
    ChatToResponsesStreamState×List ResponsesStreamResponse :=
  let (s,reasoning) := if delta.getReasoningContent≠"" then s.appendReasoningDelta delta.getReasoningContent else (s,[])
  let (s,text) := if delta.getContentString≠"" then s.appendTextDelta delta.getContentString else (s,[])
  let (s,tools) := s.appendToolCalls delta.calls
  (s,reasoning++text++tools)

def appendChoice (choice : ChunkChoice) :
    ChatToResponsesStreamState×List ResponsesStreamResponse :=
  let (s,events) := s.appendPayload choice.delta
  let finishReason := choice.finishReason.getD ""
  if isBlank finishReason then (s,events) else
  let (s,done) := (s.applyFinishReason finishReason).doneDeltaEvents
  (s,events++done)

def appendChoices : ChatToResponsesStreamState → List ChunkChoice →
    ChatToResponsesStreamState×List ResponsesStreamResponse
  | s, [] => (s,[])
  | s, choice::choices =>
    let (s,events) := s.appendChoice choice
    let (s,more) := s.appendChoices choices
    (s,events++more)

def applyChunkMetadata (chunk : Chunk) : ChatToResponsesStreamState :=
  { s with id := if s.id="" then chunk.id else s.id, model := if s.model="" then chunk.model else s.model
           usage := (chunk.usage.map usageFromChatUsage).getD s.usage }

end ChatToResponsesStreamState

open ChatToResponsesStreamState

def chatCompletionsStreamChunkToResponsesEvents (chunk : Chunk) (state : ChatToResponsesStreamState) :
    ChatToResponsesStreamState×List ResponsesStreamResponse :=
  let state := state.applyChunkMetadata chunk
  let created : List ResponsesStreamResponse :=
    if state.sentCreated then [] else [{ type := .created, response := some state.createdResponse }]
  let (state,events) := appendChoices { state with sentCreated := true } chunk.choices
  (state,created++events)

def finalizeChatCompletionsStreamToResponses (state : ChatToResponsesStreamState) :
    ChatToResponsesStreamState×List ResponsesStreamResponse :=
  if state.finalized then (state,[]) else
  let (state,events) := state.doneDeltaEvents
  let state := { state with finalized := true }
  (state, events ++ [{ type := if state.status="incomplete" then .incomplete else .completed
                       response := some state.finalResponse }])

def responsesEvents : ChatToResponsesStreamState → List Chunk → List ResponsesStreamResponse
  | state, [] => (finalizeChatCompletionsStreamToResponses state).2
  | state, chunk::chunks =>
    let (state,events) := chatCompletionsStreamChunkToResponsesEvents chunk state
    events++responsesEvents state chunks

end NewApi.Relay

import NewApi.Relay.Chat

/-! The conversion of an OpenAI chat stream into Claude server-sent events, as `oai_chat/to_claude_messages_resp.go` has
it. The usage of a `message_delta` is kept as the OpenAI usage it is built from. -/
namespace NewApi.Relay
open GoStrings
variable (state : ClaudeConvertInfo)

inductive BlockKind where
  | text | thinking | toolUse
  deriving DecidableEq

inductive ContentBlock where
  | text
  | thinking
  | toolUse (id name : String)

inductive BlockDelta where
  | textDelta (text : String)
  | thinkingDelta (thinking : String)
  | inputJsonDelta (partialJson : String)

def ContentBlock.kind : ContentBlock → BlockKind
  | .text => .text
  | .thinking => .thinking
  | .toolUse .. => .toolUse

def BlockDelta.kind : BlockDelta → BlockKind
  | .textDelta _ => .text
  | .thinkingDelta _ => .thinking
  | .inputJsonDelta _ => .toolUse

inductive ClaudeEvent where
  | messageStart (id model : String) (inputTokens : Int)
  | contentBlockStart (index : Nat) (block : ContentBlock)
  | contentBlockDelta (index : Nat) (delta : BlockDelta)
  | contentBlockStop (index : Nat)
  | messageDelta (usage : Option Usage) (stopReason : String)
  | messageStop

inductive LastMessageType where
  | none | text | tools | thinking
  deriving DecidableEq

structure ClaudeConvertInfo where
  lastMessagesType : LastMessageType := .none
  index : Nat := 0
  usage : Option Usage := none
  finishReason : String := ""
  done : Bool := false
  toolCallBaseIndex : Nat := 0
  toolCallMaxIndexOffset : Nat := 0

def stopReasonOpenAI2Claude (finishReason : String) : String :=
  match toLower finishReason with
  | "stop" => "end_turn"
  | "stop_sequence" => "stop_sequence"
  | "length" | "max_tokens" => "max_tokens"
  | "content_filter" => "refusal"
  | "tool_calls" => "tool_use"
  | _ => finishReason

def stopOpenBlocks : List ClaudeEvent :=
  match state.lastMessagesType with
  | .text | .thinking => [.contentBlockStop state.index]
  | .tools => (List.range (state.toolCallMaxIndexOffset+1)).map fun offset =>
    .contentBlockStop (state.toolCallBaseIndex+offset)
  | .none => []

def stopOpenBlocksAndAdvance : ClaudeConvertInfo×List ClaudeEvent :=
  match state.lastMessagesType with
  | .none => (state,[])
  | .tools =>
    ({ state with index := state.toolCallBaseIndex+state.toolCallMaxIndexOffset+1, toolCallBaseIndex := 0
                  toolCallMaxIndexOffset := 0, lastMessagesType := .none },stopOpenBlocks state)
  | .text | .thinking =>
    ({ state with index := state.index+1, lastMessagesType := .none },stopOpenBlocks state)

def terminate (usage : Option Usage) (stopReason : String) :
    ClaudeConvertInfo×List ClaudeEvent :=
  ({ state with done := true },stopOpenBlocks state++[.messageDelta usage stopReason,.messageStop])

def toolCallEvents (index : Nat) (call : ToolCallResponse) : List ClaudeEvent :=
  (if call.name≠"" then [.contentBlockStart index (.toolUse call.id call.name)] else []) ++
  (if call.arguments≠"" then [.contentBlockDelta index (.inputJsonDelta call.arguments)] else [])

def firstToolCall (calls : List ToolCallResponse) : ClaudeConvertInfo×List ClaudeEvent :=
  match calls with
  | [] => (state,[])
  | call::_ =>
    ({ state with lastMessagesType := .tools, toolCallBaseIndex := 0, toolCallMaxIndexOffset := 0 },
      .contentBlockStart 0 (.toolUse call.id call.name) ::
        if call.arguments≠"" then [.contentBlockDelta 0 (.inputJsonDelta call.arguments)] else [])

def firstTalk (kind : LastMessageType) (block : ContentBlock) (delta : BlockDelta) :
    ClaudeConvertInfo×List ClaudeEvent :=
  let (state,stops) := if state.lastMessagesType≠kind then stopOpenBlocksAndAdvance state else (state,[])
  ({ state with lastMessagesType := kind },
    stops++[.contentBlockStart state.index block,.contentBlockDelta state.index delta])

def firstSpeech (delta : ChunkDelta) : ClaudeConvertInfo×List ClaudeEvent :=
  if delta.getReasoningContent≠"" then
    firstTalk state .thinking .thinking (.thinkingDelta delta.getReasoningContent)
  else if delta.getContentString≠"" then firstTalk state .text .text (.textDelta delta.getContentString)
  else (state,[])

def firstDelta (delta : ChunkDelta) : ClaudeConvertInfo×List ClaudeEvent :=
  let tools := firstToolCall state delta.calls
  let talk := firstSpeech tools.1 delta
  (talk.1,tools.2++talk.2)

def firstChunk (estimatePromptTokens : Int) (chunk : Chunk) :
    ClaudeConvertInfo×List ClaudeEvent :=
  let start : ClaudeEvent := .messageStart chunk.id chunk.model estimatePromptTokens
  match chunk.choices with
  | [] => (state,[start])
  | choice::_ =>
    let (state,events) := firstDelta state choice.delta
    if choice.finished then
      let state := { state with finishReason := choice.finishReason.getD "" }
      match chunk.usage.or state.usage with
      | none => (state,start::events)
      | some usage =>
        let (state,stops) := terminate state (some usage) (stopReasonOpenAI2Claude state.finishReason)
        (state,start::events++stops)
    else (state,start::events)

def toolCallOffset (i : Nat) (call : ToolCallResponse) : Nat := call.index.getD i

def toolCallLoop (base : Nat) : List ToolCallResponse → Nat → Nat → Nat×List ClaudeEvent
  | [], _, maxOffset => (maxOffset,[])
  | call::calls, i, maxOffset =>
    let offset := toolCallOffset i call
    let (maxOffset,events) := toolCallLoop base calls (i+1) (max maxOffset offset)
    (maxOffset,toolCallEvents (base+offset) call++events)

def laterToolCalls (calls : List ToolCallResponse) : ClaudeConvertInfo×List ClaudeEvent :=
  let (state,stops) :=
    if state.lastMessagesType≠.tools then
      let (state,stops) := stopOpenBlocksAndAdvance state
      ({ state with toolCallBaseIndex := state.index, toolCallMaxIndexOffset := 0 },stops)
    else (state,[])
  let (maxOffset,events) := toolCallLoop state.toolCallBaseIndex calls 0 state.toolCallMaxIndexOffset
  ({ state with lastMessagesType := .tools, toolCallMaxIndexOffset := maxOffset
                index := state.toolCallBaseIndex+maxOffset },stops++events)

def laterTalk (kind : LastMessageType) (block : ContentBlock) (delta : BlockDelta) :
    ClaudeConvertInfo×List ClaudeEvent :=
  let (state,stops) :=
    if state.lastMessagesType≠kind then
      let (state,stops) := stopOpenBlocksAndAdvance state
      (state,stops++[.contentBlockStart state.index block])
    else (state,[])
  ({ state with lastMessagesType := kind },stops++[.contentBlockDelta state.index delta])

def laterPayload (delta : ChunkDelta) : ClaudeConvertInfo×List ClaudeEvent :=
  if delta.calls≠[] then laterToolCalls state delta.calls
  else if delta.getReasoningContent≠"" then
    laterTalk state .thinking .thinking (.thinkingDelta delta.getReasoningContent)
  else if delta.getContentString≠"" then laterTalk state .text .text (.textDelta delta.getContentString)
  else (state,[])

def laterChunk (chunk : Chunk) : ClaudeConvertInfo×List ClaudeEvent :=
  match chunk.choices with
  | [] =>
    match chunk.usage.or state.usage with
    | none => (state,[])
    | some usage =>
      let stopReason := stopReasonOpenAI2Claude state.finishReason
      terminate state (some usage) (if stopReason="" then "end_turn" else stopReason)
  | choice::_ =>
    if choice.finished then
      let state := { state with finishReason := choice.finishReason.getD "" }
      -- the end waits for a chunk with the usage, and the payload of this one is passed over
      match chunk.usage with
      | none => (state,[])
      | some usage =>
        let (state,events) := laterPayload state choice.delta
        let (state,stops) := terminate state (some usage) (stopReasonOpenAI2Claude state.finishReason)
        (state,events++stops)
    else laterPayload state choice.delta

def streamResponseOpenAI2Claude (sendResponseCount : Nat) (estimatePromptTokens : Int) (state : ClaudeConvertInfo)
    (chunk : Chunk) : ClaudeConvertInfo×List ClaudeEvent :=
  if state.done then (state,[])
  else if sendResponseCount=1 then firstChunk state estimatePromptTokens chunk
  else laterChunk state chunk

def finalizeStreamResponseOpenAI2Claude : ClaudeConvertInfo×List ClaudeEvent :=
  if state.done then (state,[]) else
  let stopReason := stopReasonOpenAI2Claude state.finishReason
  terminate state state.usage (if stopReason="" then "end_turn" else stopReason)

/-- The events of the chunks from the one with count `n`, up to the end of the stream. -/
def claudeEventsFrom (estimatePromptTokens : Int) : Nat → ClaudeConvertInfo → List Chunk → List ClaudeEvent
  | _, state, [] => (finalizeStreamResponseOpenAI2Claude state).2
  | n, state, chunk::chunks =>
    let (state,events) := streamResponseOpenAI2Claude n estimatePromptTokens state chunk
    events++claudeEventsFrom estimatePromptTokens (n+1) state chunks

def claudeEvents (estimatePromptTokens : Int) (chunks : List Chunk) : List ClaudeEvent :=
  claudeEventsFrom estimatePromptTokens 1 {} chunks

end NewApi.Relay

import NewApi.Relay.Client
import NewApi.Relay.Gemini

/-! The conversion of chat completions into Gemini bodies, whole and streamed, as `oai_chat/to_gemini_chat_resp.go` has it,
and when the two agree. -/
namespace NewApi.Relay
open List Keyed Pieces

variable {Args : Type}

/-- The JSON objects of arguments: the parser, the object with the text under `arguments`, and the empty one. -/
structure JsonObjects (Args : Type) where
  unmarshal : String → Option Args
  wrapped : String → Args
  empty : Args

variable (json : JsonObjects Args)

def JsonObjects.read (arguments : String) : Args :=
  if arguments≠"" then (json.unmarshal arguments).getD (json.wrapped arguments) else json.empty

def functionCallOf (toolCall : ToolCallResponse) : GeminiFunctionCall Args :=
  { functionName := toolCall.name, arguments := json.read toolCall.arguments }

def functionCallPart (toolCall : ToolCallResponse) : GeminiPart Args :=
  { functionCall := some (functionCallOf json toolCall) }

def textParts (text : String) : List (GeminiPart Args) := if text≠"" then [{ text := text }] else []

def finishReasonToGemini (finishReason : String) : String :=
  match finishReason with
  | "length" => "MAX_TOKENS"
  | "content_filter" => "SAFETY"
  | _ => "STOP"

def responseOpenAI2Gemini (choices : List ChatMessage) : GeminiChatResponse Args :=
  { candidates := choices.map fun message =>
      { finishReason := some (finishReasonToGemini message.finishReason)
        parts := textParts message.content++message.toolCalls.map (functionCallPart json) } }

def streamCandidate (choice : ChunkChoice) : GeminiChatCandidate Args :=
  { finishReason := choice.finishReason.map finishReasonToGemini
    parts := match choice.delta.toolCalls with
      | some toolCalls => toolCalls.map (functionCallPart json)
      | none => textParts choice.delta.getContentString }

def streamResponseOpenAI2Gemini (chunk : Chunk) : Option (GeminiChatResponse Args) :=
  let hasContent := chunk.choices.any fun choice =>
    decide (choice.delta.getContentString.length>0) || decide (choice.delta.calls≠[])
  let hasFinishReason := chunk.choices.any (·.finishReason.isSome)
  if !hasContent && !hasFinishReason then none
  else some { candidates := chunk.choices.map (streamCandidate json) }

/-- A stream of a whole message: its pieces are put together to the message. -/
structure ChunkStream (message : ChatMessage) (chunks : List Chunk) : Prop where
  wellFormed : WellFormed chunks
  content : said Chunk.content chunks=message.content
  calls : (toolCalls chunks).map (fun call => (call.id,call.name,call.arguments)) =
    message.toolCalls.map fun call => (call.id,call.name,call.arguments)

namespace GeminiChatResponse

def parts (response : GeminiChatResponse Args) : List (GeminiPart Args) := response.candidates.flatMap (·.parts)

end GeminiChatResponse

def streamedParts (chunks : List Chunk) : List (GeminiPart Args) :=
  (chunks.filterMap (streamResponseOpenAI2Gemini json)).flatMap (·.parts)

structure SameParts (streamed whole : List (GeminiPart Args)) : Prop where
  text : said (·.text) streamed=said (·.text) whole
  functionCalls : streamed.filterMap (·.functionCall)=whole.filterMap (·.functionCall)

section Parts
variable {json} {chunk : Chunk} {chunks : List Chunk} (calls : List ToolCallResponse)

theorem functionCalls_map :
    (calls.map (functionCallPart json)).filterMap (·.functionCall)=calls.map (functionCallOf json) := by
  rw [filterMap_map,← filterMap_eq_map]
  rfl

theorem said_text_map : said (·.text) (calls.map (functionCallPart json))="" :=
  said_silent fun part hpart => by
    obtain ⟨call,-,rfl⟩ := mem_map.mp hpart
    rfl

theorem functionCalls_textParts (text : String) : (@textParts Args text).filterMap (·.functionCall)=[] := by
  unfold textParts
  split <;> rfl

theorem said_textParts (text : String) : said (·.text) (@textParts Args text)=text := by
  unfold textParts
  split
  case isTrue h => rw [said_cons,said_nil,String.append_empty]
  case isFalse h => rw [said_nil,not_not.mp h]

def Chunk.hasCalls (chunk : Chunk) : Bool := chunk.delta.toolCalls.isSome

theorem streamCandidate_saying (choice : ChunkChoice) :
    (streamCandidate json choice).parts.filterMap (·.functionCall)=choice.delta.calls.map (functionCallOf json) ∧
      said (·.text) (streamCandidate json choice).parts =
        if choice.delta.toolCalls.isSome then "" else choice.delta.getContentString := by
  rw [streamCandidate,ChunkDelta.calls]
  cases choice.delta.toolCalls with
  | some calls => exact ⟨functionCalls_map calls,said_text_map calls⟩
  | none => exact ⟨functionCalls_textParts _,said_textParts _⟩

theorem streamResponseOpenAI2Gemini_one {choice : ChunkChoice} (hone : chunk.choices=[choice]) :
    streamResponseOpenAI2Gemini json chunk =
      if choice.delta.getContentString="" ∧ choice.delta.calls=[] ∧ choice.finishReason=none then none
      else some { candidates := [streamCandidate json choice] } := by
  have hskip : (!(decide (choice.delta.getContentString.length>0) || decide (choice.delta.calls≠[])) &&
        !choice.finishReason.isSome)=true ↔
      choice.delta.getContentString="" ∧ choice.delta.calls=[] ∧ choice.finishReason=none := by
    simp [and_assoc]
  simp only [streamResponseOpenAI2Gemini,hone,any_cons,any_nil,Bool.or_false,map_cons,map_nil, hskip]

theorem streamed_chunk (hchoices : chunk.choices.length≤1) :
    (streamedParts json [chunk]).filterMap (·.functionCall)=chunk.calls.map (functionCallOf json) ∧
      said (·.text) (streamedParts json [chunk])=keep Chunk.content (fun c => !c.hasCalls) chunk := by
  obtain hnone | ⟨choice,hone⟩ : chunk.choices=[] ∨ ∃ choice, chunk.choices=[choice] := by
    rw [← length_eq_zero_iff,← length_eq_one_iff]
    omega
  · have hdelta : chunk.delta={} := by rw [Chunk.delta,hnone]; rfl
    have hparts : streamedParts json [chunk]=[] := by
      rw [streamedParts,filterMap_cons,streamResponseOpenAI2Gemini,hnone]
      rfl
    rw [hparts,Chunk.calls,keep,Chunk.hasCalls,Chunk.content,hdelta]
    exact ⟨rfl,rfl⟩
  · have hdelta : chunk.delta=choice.delta := by rw [Chunk.delta,hone]; rfl
    have hwords := @streamCandidate_saying _ json choice
    have hkeep : keep Chunk.content (fun c => !c.hasCalls) chunk =
        if choice.delta.toolCalls.isSome then "" else choice.delta.getContentString := by
      rw [keep,Chunk.hasCalls,Chunk.content,hdelta]
      cases choice.delta.toolCalls <;> rfl
    rw [hkeep,Chunk.calls,hdelta]
    by_cases hskip : choice.delta.getContentString="" ∧ choice.delta.calls=[] ∧ choice.finishReason=none
    · have hparts : streamedParts json [chunk]=[] := by
        rw [streamedParts,filterMap_cons,streamResponseOpenAI2Gemini_one hone,if_pos hskip]
        rfl
      rw [hparts,hskip.1,hskip.2.1,ite_self]
      exact ⟨rfl,rfl⟩
    · have hparts : streamedParts json [chunk]=(streamCandidate json choice).parts := by
        rw [streamedParts,filterMap_cons,streamResponseOpenAI2Gemini_one hone,if_neg hskip]
        exact (append_nil _).trans (append_nil _)
      rw [hparts]
      exact hwords

theorem streamed_saying (hchoices : ∀ c∈chunks, c.choices.length≤1) :
    (streamedParts json chunks).filterMap (·.functionCall)=(chunks.flatMap (·.calls)).map (functionCallOf json) ∧
      said (·.text) (streamedParts json chunks)=said (keep Chunk.content fun c => !c.hasCalls) chunks := by
  induction chunks with
  | nil => exact ⟨rfl,rfl⟩
  | cons chunk chunks ih =>
    rw [forall_mem_cons] at hchoices
    have hcons : streamedParts json (chunk::chunks)=streamedParts json [chunk]++streamedParts json chunks := by
      rw [streamedParts,← singleton_append,filterMap_append,flatMap_append]
      rfl
    obtain ⟨hcalls,htext⟩ := @streamed_chunk _ json chunk hchoices.1
    obtain ⟨hcalls',htext'⟩ := ih hchoices.2
    rw [hcons,filterMap_append,hcalls,hcalls',flatMap_cons,map_append,said_append,htext,htext', said_cons]
    exact ⟨rfl,rfl⟩

theorem whole_saying (message : ChatMessage) : (responseOpenAI2Gemini json [message]).parts.filterMap (·.functionCall) =
        message.toolCalls.map (functionCallOf json) ∧
      said (·.text) (responseOpenAI2Gemini json [message]).parts=message.content := by
  have hparts : (responseOpenAI2Gemini json [message]).parts =
      textParts message.content++message.toolCalls.map (functionCallPart json) := append_nil _
  rw [hparts,filterMap_append,functionCalls_textParts,functionCalls_map,said_append,said_textParts,said_text_map]
  exact ⟨rfl,String.append_empty⟩

end Parts

section Streams
variable {json} {message : ChatMessage} {chunks : List Chunk} (deltas : List ToolCallResponse)

theorem choices_le_one (h : ChunksInOrder chunks) : ∀ c∈chunks, c.choices.length≤1 := by
  induction chunks with
  | nil => exact forall_mem_nil _
  | cons c cs ih =>
    obtain ⟨hone,hrest⟩ := h
    rw [forall_mem_cons]
    refine ⟨Nat.le_of_eq hone,?_⟩
    split at hrest
    · obtain rfl | ⟨u,rfl,husage⟩ := hrest
      · exact forall_mem_nil _
      intro c hc
      rw [mem_singleton.mp hc,husage.1]
      exact Nat.zero_le 1
    · exact ih hrest

theorem callsInOrder_count : ∀ {calls : List ToolCall}, CountedUp calls →
    CallsInOrder calls.length deltas → (deltas.foldl addToolCall calls).length≤calls.length+deltas.length ∧
      ((deltas.foldl addToolCall calls).length=calls.length+deltas.length →
        deltas.map (·.index)=(List.range' calls.length deltas.length).map some) := by
  induction deltas with
  | nil => exact fun _ _ => ⟨Nat.le_refl _,fun _ => rfl⟩
  | cons d deltas ih =>
    intro calls hcounted horder
    rw [foldl_cons,length_cons]
    obtain ⟨hindex,-,-,horder⟩ | ⟨⟨k,hk,hindex⟩,-,-,horder⟩ := horder
    · obtain ⟨hcounted',hlength⟩ := countedUp_addToolCall hcounted hindex (Nat.le_refl _)
      rw [Nat.max_eq_right (Nat.le_succ _)] at hlength
      obtain ⟨hle,hfirst⟩ := ih hcounted' (by rw [hlength]; exact horder)
      rw [hlength] at hle hfirst
      refine ⟨by omega,fun hall => ?_⟩
      rw [map_cons,hindex,hfirst (by omega),range'_succ,map_cons]
    · obtain ⟨hcounted',hlength⟩ := countedUp_addToolCall hcounted hindex (Nat.le_of_lt hk)
      rw [Nat.max_eq_left hk] at hlength
      obtain ⟨hle,-⟩ := ih hcounted' (by rw [hlength]; exact horder)
      rw [hlength] at hle
      exact ⟨by omega,fun hall => by omega⟩

theorem callsInOrder_nodup : ∀ {n : Nat}, CallsInOrder n deltas →
    (((List.range n).map some)++deltas.map (·.index)).Nodup → deltas.map (·.index)=(List.range' n deltas.length).map some := by
  induction deltas with
  | nil => exact fun _ _ => rfl
  | cons d deltas ih =>
    intro n horder hnodup
    rw [map_cons] at hnodup ⊢
    obtain ⟨hindex,-,-,horder⟩ | ⟨⟨k,hk,hindex⟩,-,-,-⟩ := horder
    · rw [hindex] at hnodup ⊢
      have hrange : (List.range n).map some++some n::deltas.map (·.index) =
          (List.range (n+1)).map some++deltas.map (·.index) := by
        rw [range_succ,map_append,append_assoc]
        rfl
      rw [ih horder (hrange ▸ hnodup),length_cons,range'_succ,map_cons]
    · have hmem : some k∈(List.range n).map some := mem_map_of_mem (mem_range.mpr hk)
      rw [hindex] at hnodup
      exact absurd rfl ((nodup_append.mp hnodup).2.2 _ hmem _ mem_cons_self)

/-- The stream and the whole message are converted alike exactly when every tool call comes in one delta and no chunk that
has the field of tool calls carries text. -/
theorem gemini_conversions_agree_iff (json : JsonObjects Args) (h : ChunkStream message chunks) :
    SameParts (streamedParts json chunks) (responseOpenAI2Gemini json [message]).parts ↔
      ((chunks.flatMap (·.calls)).map (·.index)).Nodup ∧ ∀ c∈chunks, c.hasCalls=true → c.content="" := by
  obtain ⟨hcalls,htext⟩ := @streamed_saying _ json chunks (choices_le_one h.wellFormed.ordered)
  obtain ⟨hwholeCalls,hwholeText⟩ := @whole_saying _ json message
  have hkept : said (·.text) (streamedParts json chunks)=said (·.text) (responseOpenAI2Gemini json [message]).parts ↔
      ∀ c∈chunks, c.hasCalls=true → c.content="" := by
    rw [htext,hwholeText,← h.content,said_keep_eq_iff]
    simp only [Bool.not_eq_false']
  have hlength : (toolCalls chunks).length=message.toolCalls.length := by
    have := congrArg List.length h.calls
    rwa [length_map,length_map] at this
  constructor
  · intro hsame
    refine ⟨?_,hkept.mp hsame.text⟩
    have hcount := congrArg List.length hsame.functionCalls
    rw [hcalls,hwholeCalls,length_map,length_map,← hlength] at hcount
    have hindices := (callsInOrder_count _ (rfl : CountedUp []) h.wellFormed.calls).2 (hcount.symm.trans (Nat.zero_add _).symm)
    rw [hindices]
    exact (nodup_range' 1 Nat.one_pos).map (Option.some_injective _)
  · rintro ⟨hnodup,htexts⟩
    refine ⟨hkept.mpr htexts,?_⟩
    have hindices := callsInOrder_nodup _ h.wellFormed.calls hnodup
    have hnew : toolCalls chunks=_ := foldl_addToolCall_new _ (rfl : CountedUp []) hindices
    have hsame := congrArg (List.map fun call => (⟨call.2.1,json.read call.2.2⟩ : GeminiFunctionCall Args)) h.calls
    rw [hnew,nil_append,map_map,map_map,map_map] at hsame
    rw [hcalls,hwholeCalls]
    exact hsame

end Streams

def romeArguments : String := "\x7b\"city\":\"Rome\"\x7d"

def cityObjects : JsonObjects (List (String×String)) where
  unmarshal text := if text="\x7b\x7d" then some [] else if text=romeArguments then some [("city","Rome")] else none
  wrapped text := [("arguments",text)]
  empty := []

def weatherMessage : ChatMessage :=
  { content := "hello", reasoningContent := none, finishReason := "tool_calls"
    toolCalls := [{ id := "a", name := "weather", arguments := romeArguments }] }

def wholeCallChunks : List Chunk :=
  [{ choices := [{ delta := { content := some "hel" } }] },{ choices := [{ delta := { content := some "lo" } }] },
   { choices := [{ delta := { toolCalls := some [⟨some 0, "a", "weather",romeArguments⟩] } }] },
   { choices := [{ finishReason := some "tool_calls" }] }]

theorem wholeCallChunks_stream : ChunkStream weatherMessage wholeCallChunks where
  wellFormed := ⟨by simp [ChunksInOrder,wholeCallChunks,Chunk.finished,ChunkChoice.finished],
    by simp [CallsInOrder,wholeCallChunks,Chunk.calls,Chunk.delta,ChunkDelta.calls]⟩
  content := by decide
  calls := by decide

theorem wholeCallChunks_agree : ChunkStream weatherMessage wholeCallChunks ∧
    SameParts (streamedParts cityObjects wholeCallChunks) (responseOpenAI2Gemini cityObjects [weatherMessage]).parts :=
  ⟨wholeCallChunks_stream,(gemini_conversions_agree_iff cityObjects wholeCallChunks_stream).mpr ⟨by decide,by decide⟩⟩

def splitCallChunks : List Chunk :=
  [{ choices := [{ delta := { content := some "hello" } }] },
   { choices := [{ delta := { toolCalls := some [{ index := some 0, id := "a", name := "weather" }] } }] },
   { choices := [{ delta := { toolCalls := some [{ index := some 0, arguments := romeArguments }] } }] },
   { choices := [{ finishReason := some "tool_calls" }] }]

theorem splitCallChunks_stream : ChunkStream weatherMessage splitCallChunks where
  wellFormed := ⟨by simp [ChunksInOrder,splitCallChunks,Chunk.finished,ChunkChoice.finished],
    by simp [CallsInOrder,splitCallChunks,Chunk.calls,Chunk.delta,ChunkDelta.calls]⟩
  content := by decide
  calls := by decide

theorem splitCallChunks_disagree : ChunkStream weatherMessage splitCallChunks ∧
    (∀ call∈weatherMessage.toolCalls, (cityObjects.unmarshal call.arguments).isSome=true) ∧
    ¬ SameParts (streamedParts cityObjects splitCallChunks) (responseOpenAI2Gemini cityObjects [weatherMessage]).parts := by
  refine ⟨splitCallChunks_stream,by decide,fun hsame => ?_⟩
  -- The stream has a call without arguments and one without a name.
  have hlength := congrArg List.length hsame.functionCalls
  exact absurd hlength (by decide)

end NewApi.Relay

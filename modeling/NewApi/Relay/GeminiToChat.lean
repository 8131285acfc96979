import NewApi.Relay.Client
import NewApi.Relay.Gemini

/-! The conversion of a Gemini stream into chat chunks, as `gemini_chat/to_oai_chat_resp.go` has it. The arguments of a
function call are any type of values; the ids of tool calls are drawn, so they are given with the place of the call. -/
namespace NewApi.Relay
open List Keyed Pieces

variable {Args : Type} (marshal : Args → Option String)

structure PartLoop where
  content : String := ""
  appended : Nat := 0
  isTools : Bool := false
  isThought : Bool := false
  toolCalls : List ToolCallResponse := []

def PartLoop.write (s : PartLoop) (text : String) : PartLoop :=
  { s with content := s.content++(if s.appended>0 then "\n" else "")++text, appended := s.appended+1 }

def geminiResponseToolCall (uuid : String) (call : GeminiFunctionCall Args) :
    Option ToolCallResponse :=
  (marshal call.arguments).map fun arguments =>
    { id := "call_" ++ uuid, name := call.functionName, arguments := arguments }

def PartLoop.add (uuid : Nat → String) (s : PartLoop) (part : GeminiPart Args) : PartLoop :=
  match part.inlineData, part.functionCall with
  | some (mimeType,data), _ =>
    if "image".toList.isPrefixOf mimeType.toList then s.write ("![image](data:" ++ mimeType++";base64," ++ data++")")
    else s
  | none, some call =>
    match geminiResponseToolCall marshal (uuid s.toolCalls.length) call with
    | some toolCall =>
      { s with isTools := true, toolCalls := s.toolCalls++[{ toolCall with index := some s.toolCalls.length }] }
    | none => { s with isTools := true }
  | none, none =>
    if part.thought then { s.write part.text with isThought := true } else
    match part.executableCode, part.codeExecutionResult with
    | some (language,code), _ => s.write ("```" ++ language++"\n" ++ code++"\n```\n")
    | none, some output => s.write ("```output\n" ++ output++"\n```\n")
    | none, none => if part.text≠"\n" then s.write part.text else s

def geminiFinishReason (finishReason : String) : String :=
  if finishReason="STOP" then "stop" else if finishReason="MAX_TOKENS" then "length" else "content_filter"

/-- One candidate; the finish reason `STOP` is left to the end of the stream. -/
def convertCandidate (uuid : Nat → String) (candidate : GeminiChatCandidate Args) :
    ChunkChoice :=
  let loop := candidate.parts.foldl (PartLoop.add marshal uuid) {}
  let finishReason := (candidate.finishReason.filter (· ≠ "STOP")).map geminiFinishReason
  { delta := { content := if loop.isThought then none else some loop.content
               reasoningContent := if loop.isThought then some loop.content else none
               toolCalls := if loop.toolCalls=[] then none else some loop.toolCalls }
    finishReason := if loop.isTools then some "tool_calls" else finishReason }

def streamResponseGeminiChat2OpenAI (uuid : Nat → Nat → String)
    (response : GeminiChatResponse Args) : List ChunkChoice×Bool :=
  (response.candidates.mapIdx fun i candidate => convertCandidate marshal (uuid i) candidate,
    response.candidates.any fun candidate => candidate.finishReason == some "STOP")

structure GeminiToChatStreamState where
  id : String
  sawToolCall : Bool := false
  finishEmitted : Bool := false
  latestUsage : Option Usage := none

namespace GeminiToChatStreamState

def terminalChunk (s : GeminiToChatStreamState) (model : String) : GeminiToChatStreamState×Chunk :=
  ({ s with finishEmitted := true },
    { id := s.id, model := model, usage := s.latestUsage
      choices := [{ finishReason := some (if s.sawToolCall then "tool_calls" else "stop") }] })

def hasNonStopFinish (response : GeminiChatResponse Args) : Bool :=
  response.candidates.any fun candidate => candidate.finishReason.any fun reason => reason≠"" && reason≠"STOP"

def withoutToolCallFinish (choice : ChunkChoice) : ChunkChoice :=
  if choice.finishReason=some "tool_calls" then { choice with finishReason := none } else choice

def convertChunk (marshal : Args → Option String) (uuid : Nat → Nat → String) (s : GeminiToChatStreamState)
    (geminiResponse : GeminiChatResponse Args) (model : String) (usage : Option Usage) :
    GeminiToChatStreamState×List Chunk :=
  let converted := streamResponseGeminiChat2OpenAI marshal uuid geminiResponse
  let isToolCall := converted.1.head?.any fun choice => choice.delta.calls≠[]
  let choices := if isToolCall && !hasNonStopFinish geminiResponse then converted.1.map withoutToolCallFinish
    else converted.1
  let s := { s with sawToolCall := s.sawToolCall || isToolCall, latestUsage := usage.or s.latestUsage
                    finishEmitted := s.finishEmitted || choices.any (·.finished) }
  let response : Chunk := { id := s.id, model := model, usage := usage, choices := choices }
  if converted.2 && !s.finishEmitted then
    let (s,terminal) := s.terminalChunk model
    (s,[response,terminal])
  else (s,[response])

def finalize (s : GeminiToChatStreamState) (model : String) : GeminiToChatStreamState×List Chunk :=
  if s.finishEmitted then (s,[]) else
  let (s,terminal) := s.terminalChunk model
  (s,[terminal])

end GeminiToChatStreamState

/-- The chunks of a Gemini stream from its chunk `n` on, each with the usage that the caller reads from it. -/
def geminiChunks (marshal : Args → Option String) (uuid : Nat → Nat → Nat → String) (model : String) :
    Nat → GeminiToChatStreamState → List (GeminiChatResponse Args×Option Usage) → List Chunk
  | _, s, [] => (s.finalize model).2
  | n, s, (response,usage)::responses =>
    let converted := s.convertChunk marshal (uuid n) response model usage
    converted.2++geminiChunks marshal uuid model (n+1) converted.1 responses

namespace GeminiPart

structure Plain (part : GeminiPart Args) : Prop where
  inlineData : part.inlineData=none
  executableCode : part.executableCode=none
  codeExecutionResult : part.codeExecutionResult=none

theorem plain_iff (part : GeminiPart Args) :
    part.Plain ↔ part.inlineData=none ∧ part.executableCode=none ∧ part.codeExecutionResult=none :=
  ⟨fun h => ⟨h.inlineData,h.executableCode,h.codeExecutionResult⟩,fun h => ⟨h.1,h.2.1,h.2.2⟩⟩

def written (part : GeminiPart Args) : Option (Bool×String) :=
  if part.functionCall.isSome then none
  else if part.thought then some (true,part.text)
  else if part.text≠"\n" then some (false,part.text)
  else none

end GeminiPart

section Parts
variable {marshal : Args → Option String} {uuid : Nat → String}
variable {texts : List (Bool×String)} {calls : List ToolCallResponse} {s : PartLoop}

def callsFrom (marshal : Args → Option String) (uuid : Nat → String) : Nat → List (GeminiPart Args) → List ToolCallResponse
  | _, [] => []
  | n, part::parts =>
    match part.functionCall with
    | none => callsFrom marshal uuid n parts
    | some call =>
      { index := some n, id := "call_" ++ uuid n, name := call.functionName
        arguments := (marshal call.arguments).getD "" }::callsFrom marshal uuid (n+1) parts

structure Wrote (texts : List (Bool×String)) (calls : List ToolCallResponse) (s : PartLoop) : Prop where
  content : s.content=lines (texts.map (·.2))
  appended : s.appended=texts.length
  thought : s.isThought=texts.any (·.1)
  collected : s.toolCalls=calls
  tools : s.isTools=!calls.isEmpty

theorem Wrote.write (h : Wrote texts calls s)
    (thought : Bool) (text : String) :
    Wrote (texts++[(thought,text)]) calls { s.write text with isThought := s.isThought || thought } := by
  refine ⟨?_,?_,?_,h.collected,h.tools⟩
  · rw [map_append,map_singleton,lines_concat,PartLoop.write,h.content,h.appended,length_map]
  · rw [length_append,PartLoop.write,h.appended]
    rfl
  · rw [any_append,h.thought,any_cons,any_nil,Bool.or_false]

theorem Wrote.add (h : Wrote texts calls s)
    (hmarshal : ∀ args, (marshal args).isSome=true) {part : GeminiPart Args} (hplain : part.Plain) :
    Wrote (texts++part.written.toList) (calls++callsFrom marshal uuid calls.length [part]) (s.add marshal uuid part) := by
  obtain ⟨hinline,hcode,hresult⟩ := hplain
  rw [PartLoop.add,hinline,hcode,hresult,callsFrom,GeminiPart.written]
  cases hcall : part.functionCall with
  | some call =>
    obtain ⟨arguments,harguments⟩ := Option.isSome_iff_exists.mp (hmarshal call.arguments)
    dsimp only
    rw [geminiResponseToolCall,harguments,h.collected,Option.isSome_some,if_pos rfl,Option.toList_none,append_nil]
    refine ⟨h.content,h.appended,h.thought,rfl,?_⟩
    cases calls <;> rfl
  | none =>
    dsimp only
    rw [Option.isSome_none,if_neg Bool.false_ne_true,callsFrom,append_nil]
    cases hthought : part.thought with
    | true =>
      have hwrite := h.write true part.text
      rw [Bool.or_true] at hwrite
      rw [if_pos rfl,if_pos rfl]
      exact hwrite
    | false =>
      rw [if_neg Bool.false_ne_true,if_neg Bool.false_ne_true]
      by_cases htext : part.text≠"\n"
      · have hwrite := h.write false part.text
        rw [Bool.or_false] at hwrite
        rw [if_pos htext,if_pos htext]
        exact hwrite
      · rw [if_neg htext,if_neg htext,Option.toList_none,append_nil]
        exact h

theorem callsFrom_cons (marshal : Args → Option String) (uuid : Nat → String) (n : Nat) (part : GeminiPart Args)
    (parts : List (GeminiPart Args)) : callsFrom marshal uuid n (part::parts) =
      callsFrom marshal uuid n [part]++callsFrom marshal uuid (n+(callsFrom marshal uuid n [part]).length) parts := by
  rw [callsFrom,callsFrom]
  cases part.functionCall <;> rfl

theorem Wrote.addAll (hmarshal : ∀ args, (marshal args).isSome=true) (parts : List (GeminiPart Args)) :
    ∀ {texts : List (Bool×String)} {calls : List ToolCallResponse} {s : PartLoop}, Wrote texts calls s →
    (∀ part∈parts, part.Plain) → Wrote (texts++parts.filterMap (·.written))
      (calls++callsFrom marshal uuid calls.length parts) (parts.foldl (PartLoop.add marshal uuid) s) := by
  induction parts with
  | nil =>
    intro texts calls s h _
    rw [filterMap_nil,callsFrom,append_nil,append_nil]
    exact h
  | cons part parts ih =>
    intro texts calls s h hplain
    have hadd : Wrote _ _ (s.add marshal uuid part) := h.add hmarshal (hplain part mem_cons_self)
    have hall := ih hadd fun p hp => hplain p (mem_cons_of_mem part hp)
    have htexts : (part::parts).filterMap (·.written)=part.written.toList++parts.filterMap (·.written) := by
      rw [filterMap_cons]
      cases part.written <;> rfl
    rw [append_assoc,append_assoc,length_append] at hall
    rw [foldl_cons,htexts,callsFrom_cons]
    exact hall

end Parts

namespace GeminiChatCandidate
variable (candidate : GeminiChatCandidate Args)

def written : List (Bool×String) := candidate.parts.filterMap (·.written)

def texts : List String := (candidate.written.filter fun t => !t.1).map (·.2)

def thoughts : List String := (candidate.written.filter (·.1)).map (·.2)

def functionCalls : List (GeminiFunctionCall Args) :=
  candidate.parts.filterMap (·.functionCall)

def Mixed : Prop := candidate.thoughts≠[] ∧ candidate.texts≠[]

end GeminiChatCandidate

section Candidates
variable {marshal : Args → Option String} {uuid : Nat → String} {candidate : GeminiChatCandidate Args}

theorem candidate_wrote (hmarshal : ∀ args, (marshal args).isSome=true) (hplain : ∀ part∈candidate.parts, part.Plain) :
    Wrote candidate.written (callsFrom marshal uuid 0 candidate.parts) (candidate.parts.foldl (PartLoop.add marshal uuid) {}) :=
  Wrote.addAll hmarshal candidate.parts (⟨rfl,rfl,rfl,rfl,rfl⟩ : Wrote [] [] {}) hplain

theorem candidate_saying (hmarshal : ∀ args, (marshal args).isSome=true) (hplain : ∀ part∈candidate.parts, part.Plain) :
    ∀ delta, (convertCandidate marshal uuid candidate).delta=delta →
      delta.getContentString = (if candidate.written.any (·.1) then "" else lines (candidate.written.map (·.2))) ∧
      delta.getReasoningContent = (if candidate.written.any (·.1) then lines (candidate.written.map (·.2)) else "") ∧
      delta.calls=callsFrom marshal uuid 0 candidate.parts := by
  rintro _ rfl
  have h : Wrote _ (callsFrom marshal uuid 0 candidate.parts) _ := candidate_wrote hmarshal hplain
  rw [convertCandidate]
  dsimp only
  rw [h.thought,h.content,h.collected]
  refine ⟨?_,?_,?_⟩
  · cases candidate.written.any (·.1) <;> rfl
  · cases candidate.written.any (·.1) <;> rfl
  · cases callsFrom marshal uuid 0 candidate.parts <;> rfl

theorem written_any_iff (candidate : GeminiChatCandidate Args) : candidate.written.any (·.1)=true ↔ candidate.thoughts≠[] := by
  rw [GeminiChatCandidate.thoughts,ne_eq,map_eq_nil_iff,filter_eq_nil_iff,any_eq_true]
  simp only [not_forall,not_not,exists_prop]

theorem candidate_saying_unmixed (h : ¬ candidate.Mixed) :
    (if candidate.written.any (·.1) then "" else lines (candidate.written.map (·.2)))=lines candidate.texts ∧
    (if candidate.written.any (·.1) then lines (candidate.written.map (·.2)) else "")=lines candidate.thoughts := by
  by_cases hthoughts : candidate.thoughts=[]
  · have hany : ¬ candidate.written.any (·.1)=true := fun h => (written_any_iff candidate).mp h hthoughts
    have hall : candidate.written.filter (fun t => !t.1)=candidate.written := by
      rw [filter_eq_self]
      intro t ht
      rw [Bool.not_eq_true']
      exact eq_false_of_ne_true fun htrue => hany (any_eq_true.mpr ⟨t,ht,htrue⟩)
    rw [if_neg hany,if_neg hany,GeminiChatCandidate.texts,hall,hthoughts]
    exact ⟨rfl,rfl⟩
  · have htexts : candidate.texts=[] := not_not.mp fun hne => h ⟨hthoughts,hne⟩
    have hall : candidate.written.filter (·.1)=candidate.written := by
      rw [GeminiChatCandidate.texts,map_eq_nil_iff,filter_eq_nil_iff] at htexts
      rw [filter_eq_self]
      intro t ht
      simpa using htexts t ht
    rw [if_pos ((written_any_iff candidate).mpr hthoughts),if_pos ((written_any_iff candidate).mpr hthoughts),htexts,
      GeminiChatCandidate.thoughts,hall]
    exact ⟨rfl,rfl⟩

theorem lines_thoughts_lt (h : candidate.Mixed) : (lines candidate.thoughts).length <
    (if candidate.written.any (·.1) then lines (candidate.written.map (·.2)) else "").length := by
  obtain ⟨hthoughts,htexts⟩ := h
  have hwritten : candidate.written.map (·.2)≠[] := by
    intro hnil
    rw [map_eq_nil_iff] at hnil
    rw [GeminiChatCandidate.thoughts,hnil] at hthoughts
    exact hthoughts rfl
  have hsum : ((candidate.written.map (·.2)).map fun text => text.length+1).sum =
      (candidate.thoughts.map fun text => text.length+1).sum+(candidate.texts.map fun text => text.length+1).sum := by
    rw [GeminiChatCandidate.thoughts,GeminiChatCandidate.texts]
    generalize candidate.written=ws
    induction ws with
    | nil => rfl
    | cons w ws ih =>
      obtain ⟨thought,text⟩ := w
      cases thought with
      | true =>
        rw [filter_cons_of_pos rfl,filter_cons_of_neg Bool.false_ne_true,map_cons,map_cons,map_cons,
          map_cons,sum_cons,sum_cons,ih]
        omega
      | false =>
        rw [filter_cons_of_neg Bool.false_ne_true,filter_cons_of_pos rfl,map_cons,map_cons,
          map_cons,map_cons,sum_cons,sum_cons,ih]
        omega
  have hall := length_lines (candidate.written.map (·.2))
  have hone := length_lines candidate.thoughts
  have htwo := length_lines candidate.texts
  rw [if_neg hwritten] at hall
  rw [if_neg hthoughts] at hone
  rw [if_neg htexts] at htwo
  rw [if_pos ((written_any_iff candidate).mpr hthoughts)]
  omega

end Candidates

section Chunks
open GeminiToChatStreamState
variable {marshal : Args → Option String} {uuid : Nat → Nat → String} {candidate : GeminiChatCandidate Args}
  {response : GeminiChatResponse Args} {s : GeminiToChatStreamState}

def soleChoice (marshal : Args → Option String) (uuid : Nat → Nat → String) (candidate : GeminiChatCandidate Args) :
    ChunkChoice :=
  let choice := convertCandidate marshal (uuid 0) candidate
  if choice.delta.calls≠[] && !(candidate.finishReason.any fun reason => reason≠"" && reason≠"STOP") then
    withoutToolCallFinish choice
  else choice

theorem soleChoice_delta (marshal : Args → Option String) (uuid : Nat → Nat → String) (candidate : GeminiChatCandidate Args) :
    (soleChoice marshal uuid candidate).delta=(convertCandidate marshal (uuid 0) candidate).delta := by
  rw [soleChoice]
  split
  · rw [withoutToolCallFinish]
    split <;> rfl
  · rfl

theorem convertChunk_one (hone : response.candidates=[candidate]) (hgoing : s.finishEmitted=false) (model : String)
    (usage : Option Usage) : ∃ (r : Chunk) (s' : GeminiToChatStreamState),
      r.choices=[soleChoice marshal uuid candidate] ∧ s'.finishEmitted=(soleChoice marshal uuid candidate).finished ∧
      s.convertChunk marshal uuid response model usage = if candidate.finishReason == some "STOP" && !s'.finishEmitted then
          ((s'.terminalChunk model).1,[r,(s'.terminalChunk model).2]) else (s',[r]) := by
  have hconverted : streamResponseGeminiChat2OpenAI marshal uuid response =
      ([convertCandidate marshal (uuid 0) candidate],candidate.finishReason == some "STOP") := by
    rw [streamResponseGeminiChat2OpenAI,hone,any_cons,any_nil,Bool.or_false]
    rfl
  have hnonstop : hasNonStopFinish response = candidate.finishReason.any fun reason => reason≠"" && reason≠"STOP" := by
    rw [hasNonStopFinish,hone,any_cons,any_nil,Bool.or_false]
  have hchoices : (if (([convertCandidate marshal (uuid 0) candidate].head?.any fun choice => choice.delta.calls≠[]) &&
      !hasNonStopFinish response)=true then [convertCandidate marshal (uuid 0) candidate].map withoutToolCallFinish
      else [convertCandidate marshal (uuid 0) candidate])=[soleChoice marshal uuid candidate] := by
    rw [hnonstop,soleChoice,head?_cons,Option.any_some]
    generalize (decide ((convertCandidate marshal (uuid 0) candidate).delta.calls≠[]) &&
      !candidate.finishReason.any fun reason => reason≠"" && reason≠"STOP")=deferred
    cases deferred <;> rfl
  rw [convertChunk,hconverted]
  dsimp only
  rw [hchoices,any_cons,any_nil,Bool.or_false,hgoing,Bool.false_or]
  exact ⟨{ id := s.id, model := model, usage := usage, choices := [soleChoice marshal uuid candidate] },
    { s with sawToolCall := s.sawToolCall || _, latestUsage := usage.or s.latestUsage
             finishEmitted := (soleChoice marshal uuid candidate).finished },rfl,rfl,rfl⟩

theorem soleChoice_unfinished (hmarshal : ∀ args, (marshal args).isSome=true)
    (hplain : ∀ part∈candidate.parts, part.Plain) (hnone : candidate.finishReason=none) :
    (soleChoice marshal uuid candidate).finished=false := by
  have h : Wrote _ (callsFrom marshal (uuid 0) 0 candidate.parts) _ := candidate_wrote hmarshal hplain
  have hcalls : (convertCandidate marshal (uuid 0) candidate).delta.calls=_ := (candidate_saying hmarshal hplain _ rfl).2.2
  have hreason : (convertCandidate marshal (uuid 0) candidate).finishReason =
      if !(callsFrom marshal (uuid 0) 0 candidate.parts).isEmpty then some "tool_calls" else none := by
    rw [convertCandidate,hnone]
    dsimp only
    rw [h.tools]
    rfl
  rw [soleChoice,hnone,hcalls]
  cases hlist : callsFrom marshal (uuid 0) 0 candidate.parts with
  | nil =>
    rw [hlist] at hreason
    rw [if_neg (by decide),ChunkChoice.finished,hreason]
    rfl
  | cons call calls =>
    have htools : (convertCandidate marshal (uuid 0) candidate).finishReason=some "tool_calls" := by
      rw [hreason,hlist]
      rfl
    have hdeferred : (decide (call::calls≠[]) &&
        !(none : Option String).any fun reason => reason≠"" && reason≠"STOP")=true := by
      rw [decide_eq_true (cons_ne_nil call calls)]
      rfl
    rw [if_pos hdeferred,withoutToolCallFinish,if_pos htools]
    rfl

theorem terminalChunk_ends (s : GeminiToChatStreamState) (model : String) :
    (s.terminalChunk model).2.silent ∧ (s.terminalChunk model).2.finished=true := by
  refine ⟨⟨rfl,rfl,rfl⟩,?_⟩
  rw [terminalChunk]
  cases s.sawToolCall <;> rfl

theorem last_chunks (hone : response.candidates=[candidate]) (hgoing : s.finishEmitted=false) (model : String)
    (usage : Option Usage) : ∃ r t : Chunk, r.choices=[soleChoice marshal uuid candidate] ∧ (t.silent ∧ t.finished=true) ∧
      (s.convertChunk marshal uuid response model usage).2 ++
        ((s.convertChunk marshal uuid response model usage).1.finalize model).2 =
        if (soleChoice marshal uuid candidate).finished then [r] else [r,t] := by
  obtain ⟨r,s',hr,hemitted,hconvert⟩ := @convertChunk_one _ marshal uuid _ _ s hone hgoing model usage
  refine ⟨r,(s'.terminalChunk model).2,hr,terminalChunk_ends s' model,?_⟩
  rw [hconvert,← hemitted]
  cases hfinished : s'.finishEmitted with
  | true =>
    rw [Bool.not_true,Bool.and_false,if_neg Bool.false_ne_true,finalize,hfinished]
    rfl
  | false =>
    rw [Bool.not_false,Bool.and_true]
    split
    · rfl
    · rw [finalize,hfinished]
      rfl

end Chunks

/-- One chunk has a finish reason, and nothing is said after it. -/
def FinishesOnce (chunks : List Chunk) : Prop :=
  ∃ before last after, chunks=before++last::after ∧ last.finished=true ∧
    (∀ c∈before++after, c.finished=false) ∧ ∀ c∈after, c.silent

section Streams
variable {marshal : Args → Option String} {uuid : Nat → Nat → Nat → String}

/-- What the chunks of a stream say, from chunk `n` on. -/
def answers (marshal : Args → Option String) (uuid : Nat → Nat → Nat → String) :
    Nat → List (GeminiChatCandidate Args) → List (String×String×List ToolCallResponse)
  | _, [] => []
  | n, candidate::candidates =>
    (if candidate.written.any (·.1) then "" else lines (candidate.written.map (·.2)),
      if candidate.written.any (·.1) then lines (candidate.written.map (·.2)) else "",
      callsFrom marshal (uuid n 0) 0 candidate.parts)::answers marshal uuid (n+1) candidates

def single (candidate : GeminiChatCandidate Args×Option Usage) : GeminiChatResponse Args×Option Usage :=
  ({ candidates := [candidate.1] },candidate.2)

theorem FinishesOnce.cons {c : Chunk} (hc : c.finished=false) {chunks : List Chunk} (h : FinishesOnce chunks) :
    FinishesOnce (c::chunks) := by
  obtain ⟨before,last,after,rfl,hlast,hothers,hafter⟩ := h
  refine ⟨c::before,last,after,rfl,hlast,fun c' hc' => ?_,hafter⟩
  obtain rfl | hc' := mem_cons.mp hc'
  · exact hc
  · exact hothers c' hc'

theorem gemini_run (hmarshal : ∀ args, (marshal args).isSome=true) (model : String)
    (inputs : List (GeminiChatCandidate Args×Option Usage)) : ∀ (n : Nat) {s : GeminiToChatStreamState},
    s.finishEmitted=false → (∀ p∈inputs, ∀ part∈p.1.parts, part.Plain) → (∀ p∈inputs.dropLast, p.1.finishReason=none) →
    ∃ replies ending, geminiChunks marshal uuid model n s (inputs.map single)=replies++ending ∧
      replies.map (fun r => (r.content,r.reasoning,r.calls))=answers marshal uuid n (inputs.map (·.1)) ∧
      (∀ c∈ending, c.silent) ∧ FinishesOnce (replies++ending) := by
  have hreply : ∀ (n : Nat) (candidate : GeminiChatCandidate Args) (r : Chunk), (∀ part∈candidate.parts, part.Plain) →
      r.choices=[soleChoice marshal (uuid n) candidate] →
      r.finished=(soleChoice marshal (uuid n) candidate).finished ∧
      [(r.content,r.reasoning,r.calls)]=answers marshal uuid n [candidate] := by
    intro n candidate r hplain hr
    obtain ⟨hcontent,hreasoning,hcalls⟩ := @candidate_saying _ marshal (uuid n 0) _ hmarshal hplain _ rfl
    have hdelta : r.delta=(convertCandidate marshal (uuid n 0) candidate).delta := by
      rw [Chunk.delta,hr]
      exact soleChoice_delta marshal (uuid n) candidate
    refine ⟨by rw [Chunk.finished,hr]; rfl,?_⟩
    rw [Chunk.content,Chunk.reasoning,Chunk.calls,hdelta,hcontent,hreasoning,hcalls]
    rfl
  induction inputs with
  | nil =>
    intro n s hgoing _ _
    have hend := terminalChunk_ends s model
    have hchunks : geminiChunks marshal uuid model n s []=[(s.terminalChunk model).2] := by
      rw [geminiChunks,GeminiToChatStreamState.finalize,hgoing]
      rfl
    refine ⟨[],_,hchunks,rfl,fun c hc => mem_singleton.mp hc ▸ hend.1,?_⟩
    exact ⟨[],_,[],rfl,hend.2,(fun c hc => nomatch hc),fun c hc => nomatch hc⟩
  | cons p ps ih =>
    intro n s hgoing hplain hlast
    have hp := hplain p mem_cons_self
    cases ps with
    | nil =>
      obtain ⟨r,t,hr,ht,hchunks⟩ := @last_chunks _ marshal (uuid n) p.1 (single p).1 s rfl hgoing model p.2
      obtain ⟨hfinished,hwords⟩ := hreply n p.1 r hp hr
      cases hcase : (soleChoice marshal (uuid n) p.1).finished with
      | true =>
        rw [hcase,if_pos rfl] at hchunks
        refine ⟨[r],[],hchunks,hwords,(fun c hc => nomatch hc),[],r,[],rfl,hfinished.trans hcase,?_,?_⟩
        · exact fun c hc => nomatch hc
        · exact fun c hc => nomatch hc
      | false =>
        rw [hcase,if_neg Bool.false_ne_true] at hchunks
        refine ⟨[r],[t],hchunks,hwords,fun c hc => mem_singleton.mp hc ▸ ht.1,[r],t,[],rfl,ht.2,?_,?_⟩
        · exact fun c hc => mem_singleton.mp hc ▸ hfinished.trans hcase
        · exact fun c hc => nomatch hc
    | cons q qs =>
      have hnone : p.1.finishReason=none := hlast p mem_cons_self
      have hunfinished : (soleChoice marshal (uuid n) p.1).finished=false := soleChoice_unfinished hmarshal hp hnone
      obtain ⟨r,s',hr,hemitted,hconvert⟩ :=
        @convertChunk_one _ marshal (uuid n) p.1 (single p).1 s rfl hgoing model p.2
      obtain ⟨hfinished,hwords⟩ := hreply n p.1 r hp hr
      have hstop : (p.1.finishReason == some "STOP" && !s'.finishEmitted)=false := by
        rw [hnone]
        rfl
      rw [hstop,if_neg Bool.false_ne_true] at hconvert
      obtain ⟨replies,ending,hchunks,hreplies,hending,honce⟩ := ih (n+1) (hemitted.trans hunfinished)
        (fun p' hp' => hplain p' (mem_cons_of_mem p hp')) fun p' hp' => hlast p' (mem_cons_of_mem p hp')
      refine ⟨r::replies,ending,?_,?_,hending,honce.cons (hfinished.trans hunfinished)⟩
      · have hrun : geminiChunks marshal uuid model n s ((p::q::qs).map single) =
            (s.convertChunk marshal (uuid n) (single p).1 model p.2).2 ++
              geminiChunks marshal uuid model (n+1) (s.convertChunk marshal (uuid n) (single p).1 model p.2).1
                ((q::qs).map single) := rfl
        rw [hrun,hconvert,hchunks]
        rfl
      · rw [map_cons,hreplies]
        exact congrArg (· ++ answers marshal uuid (n+1) ((q::qs).map (·.1))) hwords

theorem callsFrom_indices (marshal : Args → Option String) (uuid : Nat → String) (parts : List (GeminiPart Args)) :
    ∀ n : Nat, (callsFrom marshal uuid n parts).map (·.index) =
      (List.range' n (callsFrom marshal uuid n parts).length).map some := by
  induction parts with
  | nil => exact fun _ => rfl
  | cons part parts ih =>
    intro n
    rw [callsFrom]
    cases part.functionCall with
    | none => exact ih n
    | some call =>
      dsimp only
      rw [map_cons,length_cons,range'_succ,map_cons,ih]

def called (marshal : Args → Option String) (call : GeminiFunctionCall Args) : String×String :=
  (call.functionName,(marshal call.arguments).getD "")

theorem callsFrom_called (marshal : Args → Option String) (uuid : Nat → String) (parts : List (GeminiPart Args)) :
    ∀ n : Nat, (callsFrom marshal uuid n parts).map (fun call => (call.name,call.arguments)) =
      (parts.filterMap (·.functionCall)).map (called marshal) := by
  induction parts with
  | nil => exact fun _ => rfl
  | cons part parts ih =>
    intro n
    rw [callsFrom,filterMap_cons]
    cases part.functionCall with
    | none => exact ih n
    | some call =>
      dsimp only
      rw [map_cons,map_cons,ih]
      rfl

theorem callsFrom_length (marshal : Args → Option String) (uuid : Nat → String) (candidate : GeminiChatCandidate Args) :
    (callsFrom marshal uuid 0 candidate.parts).length=candidate.functionCalls.length := by
  have h := congrArg List.length (callsFrom_called marshal uuid candidate.parts 0)
  rwa [length_map,length_map] at h

theorem answers_count (candidates : List (GeminiChatCandidate Args)) : ∀ (n : Nat) {calls : List ToolCall}, CountedUp calls →
    (((answers marshal uuid n candidates).flatMap (·.2.2)).foldl addToolCall calls).length =
      (candidates.map (·.functionCalls.length)).foldr max calls.length := by
  induction candidates with
  | nil => exact fun _ _ _ => rfl
  | cons candidate candidates ih =>
    intro n calls hcounted
    obtain ⟨hcounted',hlength⟩ := countedUp_foldl (callsFrom marshal (uuid n 0) 0 candidate.parts) hcounted
      (Nat.zero_le _) (callsFrom_indices marshal (uuid n 0) candidate.parts 0)
    rw [Nat.zero_add,callsFrom_length] at hlength
    have hmax : ∀ (l : List Nat) (a b : Nat), l.foldr max (max a b)=max b (l.foldr max a) := by
      intro l a b
      induction l with
      | nil => exact Nat.max_comm a b
      | cons c l ih => rw [foldr_cons,foldr_cons,ih]; omega
    rw [answers,flatMap_cons,foldl_append,ih (n+1) hcounted',hlength,hmax,map_cons,foldr_cons]

theorem sum_eq_max_iff (counts : List Nat) : counts.foldr max 0=counts.sum ↔ (counts.filter (0 < ·)).length≤1 := by
  have hle : ∀ counts : List Nat, counts.foldr max 0≤counts.sum := by
    intro counts
    induction counts with
    | nil => exact Nat.le_refl 0
    | cons c counts ih => rw [foldr_cons,sum_cons]; omega
  induction counts with
  | nil => exact iff_of_true rfl (Nat.zero_le 1)
  | cons c counts ih =>
    have := hle counts
    rw [foldr_cons,sum_cons]
    cases c with
    | zero =>
      have hsame : (0::counts).filter (0 < ·)=counts.filter (0 < ·) := rfl
      rw [hsame]
      refine Iff.trans ?_ ih
      omega
    | succ c =>
      have hmore : ((c+1)::counts).filter (0 < ·)=(c+1)::counts.filter (0 < ·) :=
        filter_cons_of_pos (by simp)
      have hzero : counts.sum=0 ↔ (counts.filter (0 < ·)).length=0 := by
        rw [sum_eq_zero_iff,length_eq_zero_iff,filter_eq_nil_iff]
        simp
      rw [hmore,length_cons]
      omega

section
variable (candidates : List (GeminiChatCandidate Args))
include candidates

theorem answers_uncalled : ∀ n : Nat,
    (∀ c∈candidates, c.functionCalls=[]) → (answers marshal uuid n candidates).flatMap (·.2.2)=[] := by
  induction candidates with
  | nil => exact fun _ _ => rfl
  | cons candidate candidates ih =>
    intro n hnone
    rw [forall_mem_cons] at hnone
    have hempty : callsFrom marshal (uuid n 0) 0 candidate.parts=[] := by
      rw [← length_eq_zero_iff,callsFrom_length,hnone.1]
      rfl
    rw [answers,flatMap_cons,ih (n+1) hnone.2,append_nil]
    exact hempty

theorem answers_called : ∀ n : Nat, ((candidates.map (·.functionCalls.length)).filter (0 < ·)).length≤1 →
    (((answers marshal uuid n candidates).flatMap (·.2.2)).foldl addToolCall []).map
      (fun call => (call.name,call.arguments))=(candidates.flatMap (·.functionCalls)).map (called marshal) := by
  induction candidates with
  | nil => exact fun _ _ => rfl
  | cons candidate candidates ih =>
    intro n hone
    rw [answers,flatMap_cons,flatMap_cons,foldl_append,map_append]
    cases hcalls : candidate.functionCalls with
    | nil =>
      rw [map_cons,hcalls] at hone
      have hnone : callsFrom marshal (uuid n 0) 0 candidate.parts=[] := by
        rw [← length_eq_zero_iff,callsFrom_length,hcalls]
        rfl
      dsimp only
      rw [hnone]
      exact ih (n+1) hone
    | cons call calls =>
      rw [map_cons,hcalls,filter_cons_of_pos (by simp),length_cons] at hone
      have hnone : ∀ c∈candidates, c.functionCalls=[] := by
        have hempty : (candidates.map (·.functionCalls.length)).filter (0 < ·)=[] :=
          length_eq_zero_iff.mp (by omega)
        rw [filter_eq_nil_iff] at hempty
        intro c hc
        have hnot := hempty _ (mem_map_of_mem hc)
        exact length_eq_zero_iff.mp (by simpa using hnot)
      have hrest : candidates.flatMap (·.functionCalls)=[] := flatMap_eq_nil_iff.mpr hnone
      have hnew := foldl_addToolCall_new (callsFrom marshal (uuid n 0) 0 candidate.parts)
        (rfl : CountedUp []) (callsFrom_indices marshal (uuid n 0) candidate.parts 0)
      rw [answers_uncalled candidates (n+1) hnone,hrest,foldl_nil,hnew,nil_append,map_nil,append_nil, map_map,← hcalls]
      exact callsFrom_called marshal (uuid n 0) candidate.parts 0

theorem answers_content : ∀ n : Nat, said (·.1) (answers marshal uuid n candidates) =
      said (fun c => if c.written.any (·.1) then "" else lines (c.written.map (·.2))) candidates := by
  induction candidates with
  | nil => exact fun _ => rfl
  | cons candidate candidates ih =>
    intro n
    rw [answers,said_cons,said_cons,ih]

theorem answers_reasoning : ∀ n : Nat, said (·.2.1) (answers marshal uuid n candidates) =
      said (fun c => if c.written.any (·.1) then lines (c.written.map (·.2)) else "") candidates := by
  induction candidates with
  | nil => exact fun _ => rfl
  | cons candidate candidates ih =>
    intro n
    rw [answers,said_cons,said_cons,ih]

theorem reasoning_kept_iff : said (fun c => if c.written.any (·.1) then lines (c.written.map (·.2)) else "") candidates =
      said (fun c => lines c.thoughts) candidates ↔ ∀ c∈candidates, ¬ c.Mixed := by
  constructor
  · intro hsame c hc hmixed
    have hle : ∀ c∈candidates, (lines c.thoughts).length ≤
        (if c.written.any (·.1) then lines (c.written.map (·.2)) else "").length := by
      intro c _
      by_cases hmixed : c.Mixed
      · exact Nat.le_of_lt (lines_thoughts_lt hmixed)
      · rw [(candidate_saying_unmixed hmixed).2]
    have heq := length_eq_of_said_eq hle hsame c hc
    have hlt := lines_thoughts_lt hmixed
    omega
  · exact fun h => said_congr fun c hc => (candidate_saying_unmixed (h c hc)).2

end

/-- A client has all that the Gemini chunks say: the function calls in order, the texts of each chunk as content and the
thoughts as reasoning, and one finish reason at the end. -/
structure GeminiStreamKept (marshal : Args → Option String) (candidates : List (GeminiChatCandidate Args))
    (chunks : List Chunk) : Prop where
  tools : (toolCalls chunks).map (fun call => (call.name,call.arguments)) =
    (candidates.flatMap (·.functionCalls)).map (called marshal)
  content : said Chunk.content chunks=said (fun c => lines c.texts) candidates
  reasoning : said Chunk.reasoning chunks=said (fun c => lines c.thoughts) candidates
  finish : FinishesOnce chunks

/-- A Gemini stream is kept exactly when its function calls are in one chunk and no chunk mixes thoughts with texts. -/
theorem gemini_stream_kept_iff (hmarshal : ∀ args, (marshal args).isSome=true) (id model : String)
    {inputs : List (GeminiChatCandidate Args×Option Usage)} (hplain : ∀ p∈inputs, ∀ part∈p.1.parts, part.Plain)
    (hlast : ∀ p∈inputs.dropLast, p.1.finishReason=none) :
    GeminiStreamKept marshal (inputs.map (·.1)) (geminiChunks marshal uuid model 0 { id := id } (inputs.map single)) ↔
      (((inputs.map (·.1)).map (·.functionCalls.length)).filter (0 < ·)).length≤1 ∧
      ∀ c∈inputs.map (·.1), ¬ c.Mixed := by
  obtain ⟨replies,ending,hchunks,hreplies,hending,honce⟩ :=
    @gemini_run _ marshal uuid hmarshal model inputs 0 { id := id } rfl hplain hlast
  have hcontent : said Chunk.content (replies++ending) =
      said (fun c => if c.written.any (·.1) then "" else lines (c.written.map (·.2))) (inputs.map (·.1)) := by
    rw [said_append,said_silent fun c hc => (hending c hc).1,String.append_empty,← answers_content _ 0,← hreplies, said_map]
  have hreasoning : said Chunk.reasoning (replies++ending) =
      said (fun c => if c.written.any (·.1) then lines (c.written.map (·.2)) else "") (inputs.map (·.1)) := by
    rw [said_append,said_silent fun c hc => (hending c hc).2.1,String.append_empty,← answers_reasoning _ 0,← hreplies,
      said_map]
  have hcalls : toolCalls (replies++ending) =
      ((answers marshal uuid 0 (inputs.map (·.1))).flatMap (·.2.2)).foldl addToolCall [] := by
    have hsilent : ending.flatMap (·.calls)=[] := flatMap_eq_nil_iff.mpr fun c hc => (hending c hc).2.2
    rw [toolCalls,flatMap_append,hsilent,append_nil,← hreplies,flatMap_map]
  rw [hchunks]
  constructor
  · intro hkept
    refine ⟨?_,(reasoning_kept_iff _).mp (hreasoning.symm.trans hkept.reasoning)⟩
    have hlength := congrArg List.length hkept.tools
    rw [length_map,length_map,hcalls,answers_count _ 0 (rfl : CountedUp []),length_flatMap] at hlength
    exact (sum_eq_max_iff _).mp hlength
  · rintro ⟨hone,hunmixed⟩
    refine ⟨?_,?_,hreasoning.trans ((reasoning_kept_iff _).mpr hunmixed),honce⟩
    · rw [hcalls,answers_called _ 0 hone]
    rw [hcontent]
    exact said_congr fun c hc => (candidate_saying_unmixed (hunmixed c hc)).1

end Streams

def thoughtThenCalls : List (GeminiChatCandidate String×Option Usage) :=
  [({ parts := [{ text := "t", thought := true }] },none),
   ({ parts := [{ text := "a" },{ text := "\n" },{ text := "b" }] },none),
   ({ parts := [{ functionCall := some ⟨"f", "[1]"⟩ },{ functionCall := some ⟨"g", "[2]"⟩ }]
      finishReason := some "STOP" },some {})]

theorem thoughtThenCalls_kept :
    (∀ p∈thoughtThenCalls, ∀ part∈p.1.parts, part.Plain) ∧
    (∀ p∈thoughtThenCalls.dropLast, p.1.finishReason=none) ∧
    GeminiStreamKept some (thoughtThenCalls.map (·.1))
      (geminiChunks some (fun _ _ _ => "u") "gemini" 0 { id := "m" } (thoughtThenCalls.map single)) := by
  have hplain : ∀ p∈thoughtThenCalls, ∀ part∈p.1.parts, part.Plain := by
    simp [thoughtThenCalls,GeminiPart.plain_iff]
  have hlast : ∀ p∈thoughtThenCalls.dropLast, p.1.finishReason=none := by simp [thoughtThenCalls]
  refine ⟨hplain,hlast,(gemini_stream_kept_iff (fun _ => rfl) "m" "gemini" hplain hlast).mpr ⟨?_,?_⟩⟩
  · simp [thoughtThenCalls,GeminiChatCandidate.functionCalls]
  simp [thoughtThenCalls,GeminiChatCandidate.Mixed,GeminiChatCandidate.thoughts,GeminiChatCandidate.texts,
    GeminiChatCandidate.written,GeminiPart.written]

def callAfterCall : List (GeminiChatCandidate String×Option Usage) :=
  [({ parts := [{ functionCall := some ⟨"f", "[1]"⟩ }] },none),
   ({ parts := [{ functionCall := some ⟨"g", "[2]"⟩ }], finishReason := some "STOP" },some {})]

theorem callAfterCall_not_kept :
    (∀ p∈callAfterCall, ∀ part∈p.1.parts, part.Plain) ∧
    (∀ p∈callAfterCall.dropLast, p.1.finishReason=none) ∧
    ¬ GeminiStreamKept some (callAfterCall.map (·.1))
      (geminiChunks some (fun _ _ _ => "u") "gemini" 0 { id := "m" } (callAfterCall.map single)) := by
  refine ⟨by simp [callAfterCall,GeminiPart.plain_iff],by simp [callAfterCall],fun hkept => ?_⟩
  -- The client puts the second call's name and arguments behind those of the first, under index 0.
  exact absurd hkept.tools (by decide +kernel)

end NewApi.Relay

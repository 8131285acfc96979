import NewApi.Relay.Client

/-! The conversions of Claude messages into chat completions (`claude_messages/to_oai_chat_resp.go`): of a stream, event by
event, and of a whole message. The input of a tool is any type of values, with its JSON text. -/
namespace NewApi.Relay
open List GoStrings Keyed Pieces

variable {Input : Type}

inductive ClaudeContent (Input : Type) where
  | text (text : String)
  | thinking (thinking : String)
  | toolUse (id name : String) (input : Input)

namespace ClaudeContent

def text? : ClaudeContent Input → Option String
  | .text t => some t
  | _ => none

def thinking? : ClaudeContent Input → Option String
  | .thinking t => some t
  | _ => none

def isTool : ClaudeContent Input → Bool
  | .toolUse .. => true
  | _ => false

end ClaudeContent

/-- The block of a `content_block_start`; a text block may carry text. -/
inductive StartedBlock where
  | text (text : Option String)
  | thinking
  | toolUse (id name : String)

inductive StreamedDelta where
  | textDelta (text : String)
  | thinkingDelta (thinking : String)
  | inputJsonDelta (partialJson : String)
  | signatureDelta

/-- `dto.ClaudeResponse` as an event of a Claude stream. -/
inductive ClaudeStreamEvent where
  | messageStart (id model : String)
  | contentBlockStart (index : Nat) (block : StartedBlock)
  | contentBlockDelta (index : Nat) (delta : StreamedDelta)
  | contentBlockStop (index : Nat)
  | messageDelta (stopReason : Option String)
  | messageStop
  | ping

def stopReasonClaudeToOpenAI (stopReason : String) : String :=
  match toLower stopReason with
  | "stop_sequence" | "end_turn" => "stop"
  | "max_tokens" => "length"
  | "tool_use" => "tool_calls"
  | "refusal" => "content_filter"
  | _ => stopReason

def oneChoiceChunk (delta : ChunkDelta) (finishReason : Option String) : Chunk :=
  { choices := [{ delta := delta, finishReason := finishReason }] }

def streamResponseClaude2OpenAI : ClaudeStreamEvent → Option Chunk
  | .messageStart id model => some { oneChoiceChunk { content := some "", role := "assistant" } none with id := id, model := model }
  | .contentBlockStart index block =>
    match block with
    | .text text => some (oneChoiceChunk { content := text } none)
    | .thinking => some (oneChoiceChunk {} none)
    | .toolUse id name =>
      some (oneChoiceChunk { toolCalls := some [{ index := some index, id := id, name := name }] } none)
  | .contentBlockDelta index delta =>
    match delta with
    | .textDelta text => some (oneChoiceChunk { content := some text } none)
    | .thinkingDelta thinking => some (oneChoiceChunk { reasoningContent := some thinking } none)
    | .inputJsonDelta partialJson =>
      some (oneChoiceChunk { toolCalls := some [{ index := some index, arguments := partialJson }] } none)
    | .signatureDelta => some (oneChoiceChunk { reasoningContent := some "\n" } none)
  | .messageDelta stopReason =>
    some (oneChoiceChunk {} ((stopReason.map stopReasonClaudeToOpenAI).filter (· ≠ "null")))
  | .contentBlockStop _ | .messageStop | .ping => none

structure BlockLoop where
  responseText : String
  thinkingContent : String := ""
  tools : List ToolCallResponse := []

def BlockLoop.add (marshal : Input → String) (s : BlockLoop) : ClaudeContent Input → BlockLoop
  | .toolUse id name input => { s with tools := s.tools++[{ id := id, name := name, arguments := marshal input }] }
  | .thinking thinking => { s with thinkingContent := thinking }
  | .text text => { s with responseText := text }

def responseClaude2OpenAI (marshal : Input → String) (content : List (ClaudeContent Input)) (stopReason : String) :
    ChatMessage :=
  let responseText := (content.head?.bind (·.text?)).getD ""
  let responseThinking := (content.head?.bind (·.thinking?)).getD ""
  let loop := content.foldl (BlockLoop.add marshal) { responseText := responseText }
  { content := loop.responseText, toolCalls := loop.tools, finishReason := stopReasonClaudeToOpenAI stopReason
    reasoningContent := if loop.thinkingContent≠"" then some loop.thinkingContent
      else if responseThinking≠"" then some responseThinking else none }

section Streams
variable {Meaning : Type} (meaning : String → Meaning) (marshal : Input → String)

/-- The events of a content block at its position: its start, deltas that say the block, its stop. The fragments of an
input say a JSON text with the meaning of the input, or nothing where the input is empty. -/
inductive BlockStream (i : Nat) : ClaudeContent Input → List ClaudeStreamEvent → Prop where
  | text (start : Option String) (texts : List String) : BlockStream i (.text (start.getD "" ++ said id texts))
      (.contentBlockStart i (.text start) :: (texts.map fun t => .contentBlockDelta i (.textDelta t))++[.contentBlockStop i])
  | thinking (texts : List String) : BlockStream i (.thinking (said id texts)) (.contentBlockStart i .thinking ::
        (texts.map fun t => .contentBlockDelta i (.thinkingDelta t))++[.contentBlockStop i])
  | toolUse (toolId name : String) (input : Input) (fragments : List String)
      (hinput : meaning (said id fragments)=meaning (marshal input) ∨ said id fragments="" ∧ marshal input="\x7b\x7d") :
      BlockStream i (.toolUse toolId name input)
      (.contentBlockStart i (.toolUse toolId name) ::
        (fragments.map fun f => .contentBlockDelta i (.inputJsonDelta f))++[.contentBlockStop i])

inductive ContentStream : Nat → List (ClaudeContent Input) → List ClaudeStreamEvent → Prop where
  | nil {i : Nat} : ContentStream i [] []
  | cons {i : Nat} {block : ClaudeContent Input} {blocks : List (ClaudeContent Input)} {es fs : List ClaudeStreamEvent} :
      BlockStream meaning marshal i block es → ContentStream (i+1) blocks fs →
      ContentStream i (block::blocks) (es++fs)

def MessageStream (content : List (ClaudeContent Input)) (events : List ClaudeStreamEvent) : Prop :=
  ∃ id model stopReason es, ContentStream meaning marshal 0 content es ∧
    events=.messageStart id model::es++[.messageDelta stopReason,.messageStop]

def ClaudeStreamEvent.fragment (i : Nat) : ClaudeStreamEvent → String
  | .contentBlockDelta j (.inputJsonDelta f) => if j=i then f else ""
  | _ => ""

/-- No empty input is streamed without a fragment, unless no text and an empty object mean the same. -/
def NoSilentTool (i : Nat) (content : List (ClaudeContent Input)) (events : List ClaudeStreamEvent) : Prop :=
  ∀ n toolId name input, content[n]? = some (.toolUse toolId name input) → marshal input="\x7b\x7d" →
    said (·.fragment (i+n)) events="" → meaning ""=meaning "\x7b\x7d"

/-- The chunks of a stream say what the whole message says, and the indices of their tool calls count from zero. -/
structure AgreesWith (chunks : List Chunk) (message : ChatMessage) : Prop where
  content : said Chunk.content chunks=message.content
  reasoning : said Chunk.reasoning chunks=message.reasoningContent.getD ""
  tools : (toolCalls chunks).map (fun call => (call.id,call.name,meaning call.arguments)) =
    message.toolCalls.map fun call => (call.id,call.name,meaning call.arguments)
  indices : (toolCalls chunks).map (·.index)=List.range (toolCalls chunks).length

end Streams

section Blocks
variable {Meaning : Type} {meaning : String → Meaning} {marshal : Input → String} {i : Nat}

def chunksOf (events : List ClaudeStreamEvent) : List Chunk := events.filterMap streamResponseClaude2OpenAI

theorem chunksOf_append (es fs : List ClaudeStreamEvent) : chunksOf (es++fs)=chunksOf es++chunksOf fs :=
  filterMap_append

theorem chunksOf_block {start : StartedBlock} {d : ChunkDelta} {texts : List String} {f : String → StreamedDelta}
    {g : String → ChunkDelta} (hstart : streamResponseClaude2OpenAI (.contentBlockStart i start)=some (oneChoiceChunk d none))
    (hdelta : ∀ t, streamResponseClaude2OpenAI (.contentBlockDelta i (f t))=some (oneChoiceChunk (g t) none)) :
    chunksOf (.contentBlockStart i start::texts.map (fun t => .contentBlockDelta i (f t))++[.contentBlockStop i]) =
      oneChoiceChunk d none::texts.map fun t => oneChoiceChunk (g t) none := by
  have hstop : chunksOf [.contentBlockStop i]=[] := rfl
  rw [chunksOf_append,hstop,append_nil,chunksOf,filterMap_cons_some hstart,filterMap_map, ← filterMap_eq_map]
  exact congrArg _ (filterMap_congr fun t _ => hdelta t)

theorem text_chunks (start : Option String) (texts : List String) :
    chunksOf (.contentBlockStart i (.text start)::texts.map (fun t => .contentBlockDelta i (.textDelta t)) ++
      [.contentBlockStop i]) =
      oneChoiceChunk { content := start } none::texts.map fun t => oneChoiceChunk { content := some t } none :=
  chunksOf_block rfl fun _ => rfl

theorem thinking_chunks (texts : List String) :
    chunksOf (.contentBlockStart i .thinking::texts.map (fun t => .contentBlockDelta i (.thinkingDelta t)) ++
      [.contentBlockStop i]) =
      oneChoiceChunk {} none::texts.map fun t => oneChoiceChunk { reasoningContent := some t } none :=
  chunksOf_block rfl fun _ => rfl

theorem tool_chunks (toolId name : String) (fragments : List String) :
    chunksOf (.contentBlockStart i (.toolUse toolId name) ::
      fragments.map (fun f => .contentBlockDelta i (.inputJsonDelta f))++[.contentBlockStop i]) =
      oneChoiceChunk { toolCalls := some [{ index := some i, id := toolId, name := name }] } none ::
        fragments.map fun f => oneChoiceChunk { toolCalls := some [{ index := some i, arguments := f }] } none :=
  chunksOf_block rfl fun _ => rfl

variable {block : ClaudeContent Input} {es : List ClaudeStreamEvent}

theorem block_saying (h : BlockStream meaning marshal i block es) : said Chunk.content (chunksOf es)=block.text?.getD "" ∧
      said Chunk.reasoning (chunksOf es)=block.thinking?.getD "" := by
  cases h with
  | text =>
    rw [text_chunks,said_cons,said_cons,said_map,said_map]
    exact ⟨rfl,String.empty_append.trans (said_silent fun _ _ => rfl)⟩
  | thinking =>
    rw [thinking_chunks,said_cons,said_cons,said_map,said_map]
    exact ⟨said_silent fun _ _ => rfl,rfl⟩
  | toolUse =>
    rw [tool_chunks,said_cons,said_cons,said_map,said_map]
    exact ⟨said_silent fun _ _ => rfl,said_silent fun _ _ => rfl⟩

def toolPositions : Nat → List (ClaudeContent Input) → List Nat
  | _, [] => []
  | i, block::blocks => (if block.isTool then [i] else [])++toolPositions (i+1) blocks

def toolsIn (marshal : Input → String) (blocks : List (ClaudeContent Input)) : List ToolCallResponse :=
  blocks.filterMap fun
    | .toolUse id name input => some { id := id, name := name, arguments := marshal input }
    | _ => none

theorem block_fragments (h : BlockStream meaning marshal i block es) {k : Nat} (hk : k≠i) : said (·.fragment k) es="" := by
  have hblock : ∀ (start : StartedBlock) (ds : List StreamedDelta),
      said (ClaudeStreamEvent.fragment k) (.contentBlockStart i start::ds.map (.contentBlockDelta i ·)++[.contentBlockStop i])="" := by
    intro start ds
    refine said_silent fun e he => ?_
    obtain he | he := mem_append.mp he
    · obtain rfl | he := mem_cons.mp he
      · rfl
      obtain ⟨d,-,rfl⟩ := mem_map.mp he
      cases d with
      | inputJsonDelta f => exact if_neg hk.symm
      | textDelta | thinkingDelta | signatureDelta => rfl
    · rw [mem_singleton.mp he]
      rfl
  cases h with
  | text start texts => exact map_map (l := texts) ▸ hblock (.text start) (texts.map .textDelta)
  | thinking texts => exact map_map (l := texts) ▸ hblock .thinking (texts.map .thinkingDelta)
  | toolUse toolId name _ fragments =>
    exact map_map (l := fragments) ▸ hblock (.toolUse toolId name) (fragments.map .inputJsonDelta)

def readTool (meaning : String → Meaning) (id name arguments : String) : String×String×Meaning := (id,name,meaning arguments)

theorem block_calls (h : BlockStream meaning marshal i block es) {calls : List ToolCall} (hnew : i∉calls.map (·.index)) :
    ∃ added, ((chunksOf es).flatMap (·.calls)).foldl addToolCall calls=calls++added ∧
      added.map (·.index)=(if block.isTool then [i] else []) ∧
      (added.map (fun call => readTool meaning call.id call.name call.arguments) =
        ((toolsIn marshal [block]).map fun call => readTool meaning call.id call.name call.arguments) ↔
          NoSilentTool meaning marshal i [block] es) := by
  have hsilent : ∀ {g : String → ChunkDelta} {d : ChunkDelta} {texts : List String}, d.toolCalls=none →
      (∀ t, (g t).toolCalls=none) →
      (oneChoiceChunk d none::texts.map fun t => oneChoiceChunk (g t) none).flatMap (·.calls)=[] := by
    intro g d texts hd hg
    rw [flatMap_eq_nil_iff]
    intro c hc
    obtain rfl | hc := mem_cons.mp hc
    · change d.toolCalls.getD []=[]
      rw [hd]
      rfl
    · obtain ⟨t,-,rfl⟩ := mem_map.mp hc
      change (g t).toolCalls.getD []=[]
      rw [hg]
      rfl
  have hnone : ∀ {block : ClaudeContent Input}, block.isTool=false → NoSilentTool meaning marshal i [block] es := by
    intro block htool n toolId name input hn
    cases n with
    | zero =>
      obtain rfl : block=.toolUse toolId name input := Option.some.inj hn
      cases htool
    | succ n => cases hn
  cases h with
  | text =>
    rw [text_chunks,hsilent rfl fun _ => rfl]
    exact ⟨[],(append_nil _).symm,rfl,iff_of_true rfl (hnone rfl)⟩
  | thinking =>
    rw [thinking_chunks,hsilent rfl fun _ => rfl]
    exact ⟨[],(append_nil _).symm,rfl,iff_of_true rfl (hnone rfl)⟩
  | toolUse toolId name input fragments hinput =>
    have hcalls : (fragments.map fun f =>
        oneChoiceChunk { toolCalls := some [{ index := some i, arguments := f }] } none).flatMap (·.calls) =
        fragments.map fun f => { index := some i, arguments := f } := by
      rw [flatMap_map,← flatMap_pure_eq_map]
      rfl
    have hargs : said (fun d : ToolCallResponse => d.arguments)
        (fragments.map fun f => { index := some i, arguments := f })=said id fragments := said_map _ _ _
    have hfirst : Chunk.calls (oneChoiceChunk { toolCalls := some [{ index := some i, id := toolId, name := name }] } none) =
        [{ index := some i, id := toolId, name := name }] := rfl
    have hsaid : said (ClaudeStreamEvent.fragment i) (.contentBlockStart i (.toolUse toolId name) ::
        (fragments.map fun f => .contentBlockDelta i (.inputJsonDelta f))++[.contentBlockStop i])=said id fragments := by
      have hone : ∀ f, ClaudeStreamEvent.fragment i (.contentBlockDelta i (.inputJsonDelta f))=f := fun f => if_pos rfl
      have hempty : said (ClaudeStreamEvent.fragment i) [.contentBlockStop i]="" := rfl
      rw [said_append,said_cons,said_map,hempty,String.append_empty,funext hone]
      exact String.empty_append
    refine ⟨[{ index := i, id := toolId, name := name, arguments := said id fragments }],?_,rfl,?_⟩
    · rw [tool_chunks,flatMap_cons,hcalls,hfirst,singleton_append,foldl_cons,
        addToolCall_new rfl hnew,foldl_addToolCall_last _ { index := i, id := toolId, name := name, arguments := "" } hnew,
        hargs,String.empty_append]
      intro d hd
      obtain ⟨f,-,rfl⟩ := mem_map.mp hd
      exact ⟨rfl,rfl,rfl⟩
    have hread : [readTool meaning toolId name (said id fragments)]=[readTool meaning toolId name (marshal input)] ↔
        meaning (said id fragments)=meaning (marshal input) := by
      simp [readTool]
    refine hread.trans ⟨fun hsame n toolId' name' input' hn hobject hempty => ?_,fun hloud => ?_⟩
    · cases n with
      | zero =>
        obtain ⟨-,-,rfl⟩ := ClaudeContent.toolUse.inj (Option.some.inj hn)
        rw [← hobject,← hsame,← hsaid]
        exact congrArg meaning hempty.symm
      | succ n => cases hn
    · obtain hsame | ⟨hempty,hobject⟩ := hinput
      · exact hsame
      · rw [hempty,hobject]
        exact hloud 0 toolId name input rfl hobject (hsaid.trans hempty)

variable {blocks : List (ClaudeContent Input)}

theorem content_saying (h : ContentStream meaning marshal i blocks es) :
    said Chunk.content (chunksOf es)=said id (blocks.filterMap (·.text?)) ∧
      said Chunk.reasoning (chunksOf es)=said id (blocks.filterMap (·.thinking?)) := by
  have hone : ∀ {f : ClaudeContent Input → Option String} {block : ClaudeContent Input} {blocks : List (ClaudeContent Input)},
      said id ((block::blocks).filterMap f)=(f block).getD "" ++ said id (blocks.filterMap f) := by
    intro f block blocks
    rw [filterMap_cons]
    cases f block with
    | none => exact String.empty_append.symm
    | some t => exact said_cons id t _
  induction h with
  | nil => exact ⟨rfl,rfl⟩
  | cons hblock _ ih =>
    obtain ⟨htext,hthinking⟩ := block_saying hblock
    rw [chunksOf_append,said_append,said_append,htext,hthinking,ih.1,ih.2,hone,hone]
    exact ⟨rfl,rfl⟩

theorem content_fragments (h : ContentStream meaning marshal i blocks es) {k : Nat} (hk : k < i) :
    said (·.fragment k) es="" := by
  induction h with
  | nil => rfl
  | @cons i block blocks es fs hblock _ ih =>
    rw [said_append,block_fragments hblock (Nat.ne_of_lt hk),ih (Nat.lt_succ_of_lt hk)]
    rfl

theorem noSilentTool_cons {fs : List ClaudeStreamEvent} (hblock : BlockStream meaning marshal i block es)
    (hblocks : ContentStream meaning marshal (i+1) blocks fs) : NoSilentTool meaning marshal i (block::blocks) (es++fs) ↔
      NoSilentTool meaning marshal i [block] es ∧ NoSilentTool meaning marshal (i+1) blocks fs := by
  have hfirst : said (·.fragment i) (es++fs)=said (·.fragment i) es := by
    rw [said_append,content_fragments hblocks (Nat.lt_succ_self i),String.append_empty]
  have hlater : ∀ n, said (·.fragment (i+(n+1))) (es++fs)=said (·.fragment (i+1+n)) fs := by
    intro n
    rw [said_append,block_fragments hblock (by omega),String.empty_append,Nat.add_right_comm,Nat.add_assoc]
  constructor
  · intro h
    constructor
    · intro n toolId name input hn hobject hempty
      cases n with
      | zero => exact h 0 toolId name input hn hobject (hfirst.trans hempty)
      | succ n => cases hn
    · exact fun n toolId name input hn hobject hempty => h (n+1) toolId name input hn hobject ((hlater n).trans hempty)
  · rintro ⟨hone,hrest⟩ n toolId name input hn hobject hempty
    cases n with
    | zero => exact hone 0 toolId name input hn hobject (hfirst.symm.trans hempty)
    | succ n => exact hrest n toolId name input hn hobject ((hlater n).symm.trans hempty)

theorem content_calls (h : ContentStream meaning marshal i blocks es) :
    ∀ {calls : List ToolCall}, (∀ k∈calls.map (·.index), k < i) →
    ∃ added, ((chunksOf es).flatMap (·.calls)).foldl addToolCall calls=calls++added ∧
      added.map (·.index)=toolPositions i blocks ∧
      (added.map (fun call => readTool meaning call.id call.name call.arguments) =
        ((toolsIn marshal blocks).map fun call => readTool meaning call.id call.name call.arguments) ↔
          NoSilentTool meaning marshal i blocks es) := by
  induction h with
  | nil => exact fun {calls} _ => ⟨[],(append_nil _).symm,rfl,iff_of_true rfl fun n _ _ _ hn => by cases hn⟩
  | @cons i block blocks es fs hblock hblocks ih =>
    intro calls hbelow
    obtain ⟨added,hadd,hindices,htools⟩ := block_calls hblock fun hmem => Nat.lt_irrefl i (hbelow i hmem)
    have hbelow' : ∀ k∈(calls++added).map (·.index), k < i+1 := by
      intro k hk
      rw [map_append,hindices] at hk
      obtain hk | hk := mem_append.mp hk
      · exact Nat.lt_succ_of_lt (hbelow k hk)
      split at hk
      · rw [mem_singleton.mp hk]
        exact Nat.lt_succ_self i
      · cases hk
    obtain ⟨more,hmore,hindices',htools'⟩ := ih hbelow'
    refine ⟨added++more,?_,?_,?_⟩
    · rw [chunksOf_append,flatMap_append,foldl_append,hadd,hmore,append_assoc]
    · rw [map_append,hindices,hindices',toolPositions]
    have hsplit : toolsIn marshal (block::blocks)=toolsIn marshal [block]++toolsIn marshal blocks :=
      filterMap_append (l := [block])
    have hlength : added.length=(toolsIn marshal [block]).length := by
      rw [← length_map (·.index),hindices]
      cases block <;> rfl
    rw [map_append,hsplit,map_append,noSilentTool_cons hblock hblocks,← htools,← htools']
    have hlength' : (added.map fun call => readTool meaning call.id call.name call.arguments).length =
        ((toolsIn marshal [block]).map fun call => readTool meaning call.id call.name call.arguments).length := by
      rw [length_map,length_map,hlength]
    exact ⟨fun h => append_inj h hlength',fun h => congrArg₂ _ h.1 h.2⟩

end Blocks

section Plain
variable {marshal : Input → String}

theorem foldl_add (marshal : Input → String) (blocks : List (ClaudeContent Input)) : ∀ s : BlockLoop,
    blocks.foldl (BlockLoop.add marshal) s =
      { responseText := (blocks.filterMap (·.text?)).getLast?.getD s.responseText
        thinkingContent := (blocks.filterMap (·.thinking?)).getLast?.getD s.thinkingContent
        tools := s.tools++toolsIn marshal blocks } := by
  have hlast : ∀ (t d : String) (ts : List String), (t::ts).getLast?.getD d=ts.getLast?.getD t := by
    intro t d ts
    cases ts with
    | nil => rfl
    | cons u us => rw [getLast?_cons_cons,getLast?_cons,Option.getD_some,Option.getD_some]
  induction blocks with
  | nil =>
    intro s
    have htools : s.tools++toolsIn marshal []=s.tools := append_nil _
    rw [htools]
    rfl
  | cons block blocks ih =>
    intro s
    rw [foldl_cons,ih]
    cases block with
    | text t =>
      have htexts : (ClaudeContent.text t::blocks).filterMap (·.text?)=t::blocks.filterMap (·.text?) := rfl
      rw [htexts,hlast]
      rfl
    | thinking t =>
      have htexts : (ClaudeContent.thinking t::blocks).filterMap (·.thinking?)=t::blocks.filterMap (·.thinking?) := rfl
      rw [htexts,hlast]
      rfl
    | toolUse toolId name input =>
      have htools : toolsIn marshal (.toolUse toolId name input::blocks) =
          { id := toolId, name := name, arguments := marshal input }::toolsIn marshal blocks := rfl
      rw [htools,BlockLoop.add,append_assoc]
      rfl

theorem plain_content (marshal : Input → String) (content : List (ClaudeContent Input)) (stopReason : String) :
    (responseClaude2OpenAI marshal content stopReason).content=(content.filterMap (·.text?)).getLast?.getD "" := by
  rw [responseClaude2OpenAI,foldl_add]
  dsimp only
  cases htexts : content.filterMap (·.text?) with
  | cons t ts => rw [getLast?_cons]; rfl
  | nil =>
    cases content with
    | nil => rfl
    | cons block blocks =>
      cases block with
      | text t => cases htexts
      | thinking _ | toolUse _ _ _ => rfl

theorem plain_tools (marshal : Input → String) (content : List (ClaudeContent Input)) (stopReason : String) :
    (responseClaude2OpenAI marshal content stopReason).toolCalls=toolsIn marshal content := by
  rw [responseClaude2OpenAI,foldl_add]
  rfl

theorem plain_reasoning (marshal : Input → String) (content : List (ClaudeContent Input)) (stopReason : String) :
    (responseClaude2OpenAI marshal content stopReason).reasoningContent.getD "" =
      if (content.filterMap (·.thinking?)).getLast?.getD "" ≠ "" then (content.filterMap (·.thinking?)).getLast?.getD ""
      else (content.head?.bind (·.thinking?)).getD "" := by
  rw [responseClaude2OpenAI,foldl_add]
  dsimp only
  split
  · rfl
  split
  · rfl
  rename_i hempty
  rw [not_not.mp hempty]
  rfl

end Plain

theorem plain_content_iff (marshal : Input → String) (content : List (ClaudeContent Input)) (stopReason : String) :
    said id (content.filterMap (·.text?))=(responseClaude2OpenAI marshal content stopReason).content ↔
      ∀ t∈(content.filterMap (·.text?)).dropLast, t="" := by
  rw [plain_content]
  exact said_eq_last_iff _

/-- The thinking blocks before the last are empty, or all but the first, with which the message begins. -/
def OneThinking (content : List (ClaudeContent Input)) : Prop :=
  (∀ t∈(content.filterMap (·.thinking?)).dropLast, t="") ∨
    (content.head?.bind (·.thinking?)).isSome ∧ ∀ t∈(content.filterMap (·.thinking?)).tail, t=""

theorem plain_reasoning_iff (marshal : Input → String) (content : List (ClaudeContent Input)) (stopReason : String) :
    said id (content.filterMap (·.thinking?))=(responseClaude2OpenAI marshal content stopReason).reasoningContent.getD "" ↔
      OneThinking content := by
  rw [plain_reasoning,OneThinking]
  have hlast := said_eq_last_iff (content.filterMap (·.thinking?))
  cases hhead : content.head?.bind (·.thinking?) with
  | none =>
    have hplain : (if (content.filterMap (·.thinking?)).getLast?.getD "" ≠ "" then
        (content.filterMap (·.thinking?)).getLast?.getD "" else (none : Option String).getD "") =
        (content.filterMap (·.thinking?)).getLast?.getD "" := by
      split
      · rfl
      next hempty =>
        exact (not_not.mp hempty).symm
    rw [hplain,hlast]
    exact ⟨.inl,fun h => h.elim id fun h => absurd h.1 (by decide)⟩
  | some first =>
    obtain ⟨rest,hthinking⟩ : ∃ rest, content.filterMap (·.thinking?)=first::rest := by
      cases content with
      | nil => cases hhead
      | cons block blocks => exact ⟨_,filterMap_cons_some hhead⟩
    rw [hthinking] at hlast ⊢
    by_cases hempty : (first::rest).getLast?.getD "" = ""
    · rw [if_neg (not_not.mpr hempty),Option.getD_some,said_cons]
      refine (append_eq_left_iff _ _).trans ((said_eq_empty_iff id rest).trans ⟨fun h => .inr ⟨rfl,h⟩,?_⟩)
      rintro (hdrop | ⟨-,hrest⟩)
      · have hnone : said id (first::rest)="" := (hlast.mpr hdrop).trans hempty
        exact fun t ht => (said_eq_empty_iff id _).mp hnone t (mem_cons_of_mem first ht)
      · exact hrest
    · rw [if_pos hempty,hlast]
      refine ⟨.inl,?_⟩
      rintro (hdrop | ⟨-,hrest⟩)
      · exact hdrop
      · cases rest with
        | nil => exact fun t ht => nomatch ht
        | cons u us =>
          refine absurd ?_ hempty
          rw [getLast?_cons_cons,getLast?_eq_getLast_of_ne_nil (cons_ne_nil u us)]
          exact hrest _ (getLast_mem (cons_ne_nil u us))

theorem le_toolPositions (blocks : List (ClaudeContent Input)) : ∀ {i : Nat}, ∀ k∈toolPositions i blocks, i≤k := by
  induction blocks with
  | nil => exact fun _ h => nomatch h
  | cons block blocks ih =>
    intro i k hk
    obtain hk | hk := mem_append.mp hk
    · split at hk
      · exact (mem_singleton.mp hk).ge
      · cases hk
    · exact Nat.le_of_succ_le (ih k hk)

theorem toolPositions_eq_nil_iff (blocks : List (ClaudeContent Input)) : ∀ {i : Nat},
    toolPositions i blocks=[] ↔ ∀ block∈blocks, block.isTool=false := by
  induction blocks with
  | nil => exact fun {i} => iff_of_true rfl fun _ h => nomatch h
  | cons block blocks ih =>
    intro i
    rw [toolPositions,append_eq_nil_iff,ih,forall_mem_cons]
    cases block.isTool <;> simp

def ToolsFirst (content : List (ClaudeContent Input)) : Prop := ∀ block∈content.dropWhile (·.isTool), block.isTool=false

theorem toolPositions_range_iff (blocks : List (ClaudeContent Input)) : ∀ {i : Nat},
    toolPositions i blocks=(List.range (toolPositions i blocks).length).map (i + ·) ↔ ToolsFirst blocks := by
  induction blocks with
  | nil => exact fun {i} => iff_of_true rfl fun _ h => nomatch h
  | cons block blocks ih =>
    intro i
    cases htool : block.isTool with
    | true =>
      have hpositions : toolPositions i (block::blocks)=i::toolPositions (i+1) blocks := by
        rw [toolPositions,htool]
        rfl
      have hfirst : ToolsFirst (block::blocks) ↔ ToolsFirst blocks := by
        rw [ToolsFirst,dropWhile_cons_of_pos htool]
        rfl
      have hshift : ∀ n, (List.range n).map (i+1 + ·)=((List.range n).map Nat.succ).map (i + ·) := by
        intro n
        rw [map_map]
        refine map_congr_left fun j _ => ?_
        simp only [Function.comp_apply]
        omega
      rw [hfirst,← ih (i := i+1),hpositions,length_cons,range_succ_eq_map,map_cons,hshift]
      exact cons_inj_right i
    | false =>
      have hpositions : toolPositions i (block::blocks)=toolPositions (i+1) blocks := by
        rw [toolPositions,htool]
        rfl
      have hfirst : ToolsFirst (block::blocks) ↔ toolPositions (i+1) blocks=[] := by
        rw [ToolsFirst,dropWhile_cons_of_neg (by rw [htool]; exact Bool.false_ne_true),forall_mem_cons,
          toolPositions_eq_nil_iff]
        exact and_iff_right htool
      rw [hfirst,hpositions]
      constructor
      · intro hrange
        cases hlist : toolPositions (i+1) blocks with
        | nil => rfl
        | cons k ks =>
          have hle := le_toolPositions blocks k (hlist ▸ mem_cons_self)
          rw [hlist,length_cons,range_succ_eq_map,map_cons] at hrange
          have : k=i := (List.cons.inj hrange).1
          omega
      · intro hnil
        rw [hnil]
        rfl

/-- The conversions of a stream and of a whole message agree: all text is in the last text block, all thinking in one
block, which is the last or the first of the message, and the tools come first. -/
structure ConvertsAlike (content : List (ClaudeContent Input)) : Prop where
  texts : ∀ t∈(content.filterMap (·.text?)).dropLast, t=""
  thinking : OneThinking content
  tools : ToolsFirst content

section Agreement
variable {Meaning : Type} {meaning : String → Meaning} {marshal : Input → String}

theorem stream_chunks {content : List (ClaudeContent Input)} {events : List ClaudeStreamEvent}
    (h : MessageStream meaning marshal content events) : ∃ es first last, ContentStream meaning marshal 0 content es ∧
      (∀ k, said (·.fragment k) events=said (·.fragment k) es) ∧ events.filterMap streamResponseClaude2OpenAI=first::(chunksOf es++[last]) ∧
      ∀ c∈[first,last], c.content="" ∧ c.reasoning="" ∧ c.calls=[] := by
  obtain ⟨id,model,reason,es,hes,rfl⟩ := h
  refine ⟨es,{ oneChoiceChunk { content := some "", role := "assistant" } none with id := id, model := model },
    oneChoiceChunk {} ((reason.map stopReasonClaudeToOpenAI).filter (· ≠ "null")),hes,fun k => ?_,?_,fun c hc => ?_⟩
  · have hend : said (ClaudeStreamEvent.fragment k) [.messageDelta reason,.messageStop]="" := rfl
    rw [said_append,said_cons,hend,String.append_empty]
    exact String.empty_append
  · have hevents : ∀ fs, (ClaudeStreamEvent.messageStart id model::fs).filterMap streamResponseClaude2OpenAI =
        { oneChoiceChunk { content := some "", role := "assistant" } none with id := id, model := model } ::
          fs.filterMap streamResponseClaude2OpenAI := fun _ => rfl
    rw [cons_append,hevents,filterMap_append]
    rfl
  · obtain rfl | hc := mem_cons.mp hc
    · exact ⟨rfl,rfl,rfl⟩
    rw [mem_singleton.mp hc]
    exact ⟨rfl,rfl,rfl⟩

/-- Streaming and plain conversion agree exactly on such messages, for every way to stream the message. -/
theorem claude_conversions_agree_iff {content : List (ClaudeContent Input)} {events : List ClaudeStreamEvent}
    (h : MessageStream meaning marshal content events) (stopReason : String) :
    AgreesWith meaning (events.filterMap streamResponseClaude2OpenAI) (responseClaude2OpenAI marshal content stopReason) ↔
      ConvertsAlike content ∧ NoSilentTool meaning marshal 0 content events := by
  obtain ⟨es,first,last,hes,hfragments,hchunks,hsilent⟩ := stream_chunks h
  obtain ⟨hfirst,hfirst',hfirst''⟩ := hsilent first mem_cons_self
  obtain ⟨hlast,hlast',hlast''⟩ := hsilent last (mem_cons_of_mem first mem_cons_self)
  obtain ⟨hcontent,hreasoning⟩ := content_saying hes
  obtain ⟨added,hcalls,hindices,htools⟩ :=
    content_calls hes (fun k hk => nomatch hk : ∀ k∈([] : List ToolCall).map (·.index), k<0)
  have htext : said Chunk.content (first::(chunksOf es++[last]))=said id (content.filterMap (·.text?)) := by
    rw [said_cons,said_append,said_cons,said_nil,hfirst,hlast,hcontent,String.empty_append,String.append_empty,
      String.append_empty]
  have hthinking : said Chunk.reasoning (first::(chunksOf es++[last]))=said id (content.filterMap (·.thinking?)) := by
    rw [said_cons,said_append,said_cons,said_nil,hfirst',hlast',hreasoning,String.empty_append,String.append_empty,
      String.append_empty]
  have hadded : toolCalls (first::(chunksOf es++[last]))=added := by
    rw [toolCalls,flatMap_cons,flatMap_append,flatMap_singleton,hfirst'',hlast'',nil_append, append_nil,hcalls,nil_append]
  have hrange : added.map (·.index)=List.range added.length ↔ ToolsFirst content := by
    have hlength : added.length=(toolPositions 0 content).length := by rw [← hindices,length_map]
    rw [← toolPositions_range_iff content (i := 0),hindices,hlength]
    simp only [Nat.zero_add,map_id']
  have hloud : NoSilentTool meaning marshal 0 content es ↔ NoSilentTool meaning marshal 0 content events := by
    simp only [NoSilentTool,hfragments]
  rw [hchunks,← hloud]
  constructor
  · intro hagree
    have hindices' := hagree.indices
    have htools' := hagree.tools
    rw [hadded] at hindices'
    rw [hadded,plain_tools] at htools'
    refine ⟨?_,htools.mp htools'⟩
    exact ⟨(plain_content_iff marshal content stopReason).mp (htext.symm.trans hagree.content),
      (plain_reasoning_iff marshal content stopReason).mp (hthinking.symm.trans hagree.reasoning),hrange.mp hindices'⟩
  · rintro ⟨hcond,hloud⟩
    refine ⟨htext.trans ((plain_content_iff marshal content stopReason).mpr hcond.texts),
      hthinking.trans ((plain_reasoning_iff marshal content stopReason).mpr hcond.thinking),?_,?_⟩
    · rw [hadded,plain_tools]
      exact htools.mpr hloud
    rw [hadded]
    exact hrange.mpr hcond.tools

end Agreement

def toolsThenText : List (ClaudeContent String) :=
  [.toolUse "a" "f" "\x7b\x7d",.toolUse "b" "g" "[1]",.thinking "t",.text "xy"]

def toolsThenTextEvents : List ClaudeStreamEvent :=
  [.messageStart "m" "claude",
   .contentBlockStart 0 (.toolUse "a" "f"),.contentBlockDelta 0 (.inputJsonDelta "\x7b\x7d"),.contentBlockStop 0,
   .contentBlockStart 1 (.toolUse "b" "g"),.contentBlockDelta 1 (.inputJsonDelta "[1"),
   .contentBlockDelta 1 (.inputJsonDelta "]"),.contentBlockStop 1,
   .contentBlockStart 2 .thinking,.contentBlockDelta 2 (.thinkingDelta "t"),.contentBlockStop 2,
   .contentBlockStart 3 (.text (some "")),.contentBlockDelta 3 (.textDelta "x"),.contentBlockDelta 3 (.textDelta "y"),
   .contentBlockStop 3,
   .messageDelta (some "tool_use"),.messageStop]

theorem toolsThenText_stream : MessageStream (id : String → String) id toolsThenText toolsThenTextEvents :=
  ⟨"m","claude",some "tool_use",_, .cons (.toolUse "a" "f" _ ["\x7b\x7d"] (.inl rfl)) (.cons (.toolUse "b" "g" _ ["[1", "]"] (.inl rfl))
      (.cons (.thinking ["t"]) (.cons (.text (some "") ["x", "y"]) .nil))),rfl⟩

theorem toolsThenText_loud : NoSilentTool (id : String → String) id 0 toolsThenText toolsThenTextEvents := by
  have hsaid : said (ClaudeStreamEvent.fragment 0) toolsThenTextEvents="\x7b\x7d" := by decide
  intro n toolId name input hn hobject hempty
  cases n with
  | zero => exact absurd (hsaid.symm.trans hempty) (by decide)
  | succ n =>
    cases n with
    | zero =>
      obtain ⟨-,-,rfl⟩ := ClaudeContent.toolUse.inj (Option.some.inj hn)
      exact absurd hobject (by decide)
    | succ n =>
      simp only [toolsThenText,getElem?_cons_succ,getElem?_cons] at hn
      split_ifs at hn <;> simp at hn

theorem toolsThenText_converts_alike : MessageStream (id : String → String) id toolsThenText toolsThenTextEvents ∧
    AgreesWith id (toolsThenTextEvents.filterMap streamResponseClaude2OpenAI)
      (responseClaude2OpenAI id toolsThenText "tool_use") :=
  ⟨toolsThenText_stream,(claude_conversions_agree_iff toolsThenText_stream "tool_use").mpr
    ⟨⟨by decide,.inl (by decide),by simp [ToolsFirst,toolsThenText,ClaudeContent.isTool]⟩,toolsThenText_loud⟩⟩

def textsThenTool : List (ClaudeContent String) := [.text "x",.text "y",.toolUse "a" "f" "[1]"]

def textsThenToolEvents : List ClaudeStreamEvent :=
  [.messageStart "m" "claude",
   .contentBlockStart 0 (.text (some "")),.contentBlockDelta 0 (.textDelta "x"),.contentBlockStop 0,
   .contentBlockStart 1 (.text (some "")),.contentBlockDelta 1 (.textDelta "y"),.contentBlockStop 1,
   .contentBlockStart 2 (.toolUse "a" "f"),.contentBlockDelta 2 (.inputJsonDelta "[1]"),.contentBlockStop 2,
   .messageDelta (some "tool_use"),.messageStop]

theorem textsThenTool_stream : MessageStream (id : String → String) id textsThenTool textsThenToolEvents :=
  ⟨"m","claude",some "tool_use",_,.cons (.text (some "") ["x"]) (.cons (.text (some "") ["y"])
    (.cons (.toolUse "a" "f" _ ["[1]"] (.inl rfl)) .nil)),rfl⟩

theorem textsThenTool_converts_differently : MessageStream (id : String → String) id textsThenTool textsThenToolEvents ∧
    ¬ AgreesWith id (textsThenToolEvents.filterMap streamResponseClaude2OpenAI)
      (responseClaude2OpenAI id textsThenTool "tool_use") :=
  ⟨textsThenTool_stream,fun h => absurd h.content (by decide)⟩

end NewApi.Relay

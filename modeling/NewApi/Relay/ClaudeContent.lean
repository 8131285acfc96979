import NewApi.Lib.Pieces
import NewApi.Relay.ClaudeGrammar

/-! What the converted events say: texts, reasoning and tool calls with their arguments, against what the chunks said. -/
namespace NewApi.Relay
open Function List Pieces
open Option (getD_some some_inj)
open String (empty_append append_empty)

def textOf : ClaudeEvent → String
  | .contentBlockDelta _ (.textDelta text) => text
  | _ => ""

def thinkingOf : ClaudeEvent → String
  | .contentBlockDelta _ (.thinkingDelta thinking) => thinking
  | _ => ""

def fragmentAt (index : Nat) : ClaudeEvent → String
  | .contentBlockDelta i (.inputJsonDelta fragment) => if i=index then fragment else ""
  | _ => ""

/-- The block, the id and the name of a tool's `content_block_start`. -/
def toolStart : ClaudeEvent → Option (Nat×String×String)
  | .contentBlockStart index (.toolUse id name) => some (index,id,name)
  | _ => none

def toolsOf (calls : List ToolCallResponse) : List (String×String) :=
  (calls.filter fun call => call.name != "").map fun call => (call.id,call.name)

def argumentsOf (calls : List ToolCallResponse) (k : Nat) : String :=
  said (fun call => if call.index=some k then call.arguments else "") calls

/-- The events say what the chunks say: all text, all reasoning, and each tool once, with all its arguments at the block
that starts it. -/
structure NothingLost (chunks : List Chunk) (events : List ClaudeEvent) : Prop where
  text : said textOf events=said Chunk.content chunks
  thinking : said thinkingOf events=said Chunk.reasoning chunks
  tools : (events.filterMap toolStart).map (·.2)=toolsOf (chunks.flatMap (·.calls))
  arguments : ∀ k index tool, (events.filterMap toolStart)[k]? = some (index,tool) →
    said (fragmentAt index) events=argumentsOf (chunks.flatMap (·.calls)) k

section Events
variable {s : ClaudeConvertInfo} (estimate : Int)

def passedOver : List Chunk → List Chunk
  | [] => []
  | c::cs => if c.finished then (if c.usage.isSome then cs else c::cs) else passedOver cs

theorem lookedAt_append_passedOver (cs : List Chunk) : lookedAt cs++passedOver cs=cs := by
  induction cs with
  | nil => rfl
  | cons c cs ih =>
    rw [lookedAt,passedOver]
    split
    · split <;> rfl
    · rw [cons_append,ih]

def payloads : ClaudeConvertInfo → List Chunk → List ClaudeEvent
  | _, [] => []
  | s, c::cs => (laterPayload s c.delta).2++payloads (laterPayload s c.delta).1 cs

def Ending (events : List ClaudeEvent) : Prop := ∀ e∈events, match e with
  | .contentBlockStop _ | .messageDelta .. | .messageStop => True
  | _ => False

theorem ending_stops (s : ClaudeConvertInfo) : Ending (stopOpenBlocks s) := by
  intro e he
  unfold stopOpenBlocks at he
  split at he
  · rw [mem_singleton.mp he]
    trivial
  · rw [mem_singleton.mp he]
    trivial
  · obtain ⟨i,-,rfl⟩ := mem_map.mp he
    trivial
  · cases he

theorem ending_terminate (s : ClaudeConvertInfo) (usage : Option Usage) (stopReason : String) :
    Ending (terminate s usage stopReason).2 := by
  intro e he
  obtain he | he := mem_append.mp he
  · exact ending_stops s e he
  obtain rfl | he := mem_cons.mp he
  · trivial
  rw [mem_singleton.mp he]
  trivial

theorem stopAndAdvance_reason (s : ClaudeConvertInfo) (reason : String) :
    stopOpenBlocksAndAdvance { s with finishReason := reason } =
      ({ (stopOpenBlocksAndAdvance s).1 with finishReason := reason },(stopOpenBlocksAndAdvance s).2) := by
  unfold stopOpenBlocksAndAdvance
  cases hlast : s.lastMessagesType <;> simp [stopOpenBlocks,hlast]

theorem laterTalk_reason (s : ClaudeConvertInfo) (reason : String) (kind : LastMessageType) (block : ContentBlock)
    (delta : BlockDelta) :
    (laterTalk { s with finishReason := reason } kind block delta).2=(laterTalk s kind block delta).2 := by
  unfold laterTalk
  rw [stopAndAdvance_reason]
  by_cases hlast : s.lastMessagesType≠kind
  · rw [if_pos hlast,if_pos hlast]
  · rw [if_neg hlast,if_neg hlast]

theorem laterToolCalls_reason (s : ClaudeConvertInfo) (reason : String) (calls : List ToolCallResponse) :
    (laterToolCalls { s with finishReason := reason } calls).2=(laterToolCalls s calls).2 := by
  unfold laterToolCalls
  rw [stopAndAdvance_reason]
  by_cases hlast : s.lastMessagesType≠.tools
  · rw [if_pos hlast,if_pos hlast]
  · rw [if_neg hlast,if_neg hlast]

theorem laterPayload_reason (s : ClaudeConvertInfo) (reason : String) (d : ChunkDelta) :
    (laterPayload { s with finishReason := reason } d).2=(laterPayload s d).2 := by
  unfold laterPayload
  split
  · exact laterToolCalls_reason s reason _
  split
  · exact laterTalk_reason s reason _ _ _
  split
  · exact laterTalk_reason s reason _ _ _
  · rfl

theorem later_events (chunks : List Chunk) : ∀ {n : Nat} {s : ClaudeConvertInfo}, 2≤n →
    s.done=false → ChunksInOrder chunks →
    ∃ ending, Ending ending ∧ claudeEventsFrom estimate n s chunks=payloads s (lookedAt chunks)++ending := by
  induction chunks with
  | nil =>
    intro n s hn hdone _
    obtain ⟨usage,stopReason,hevents⟩ := tail_terminates estimate hn hdone (.inl rfl)
    exact ⟨_,ending_terminate s usage stopReason,hevents⟩
  | cons c cs ih =>
    intro n s hn hdone hchunks
    obtain ⟨hone,htail⟩ := hchunks
    rw [lookedAt]
    cases hfinished : c.finished with
    | false =>
      rw [hfinished] at htail
      obtain ⟨ending,hending,hevents⟩ := ih (n := n+1) (by omega) ((laterPayload_keeps s c).1.trans hdone) htail
      refine ⟨ending,hending,?_⟩
      rw [later_step estimate (by omega) hdone,laterChunk_unfinished hone hfinished,hevents,← append_assoc]
      rfl
    | true =>
      rw [hfinished] at htail
      obtain ⟨usage,stopReason,hevents⟩ := finish_events estimate hn hdone hone hfinished htail
      rw [hevents,if_pos rfl]
      cases c.usage.isSome with
      | true =>
        refine ⟨(terminate (laterPayload { s with finishReason := c.reason } c.delta).1 usage stopReason).2,
          ending_terminate _ usage stopReason,?_⟩
        rw [if_pos rfl,if_pos rfl,laterPayload_reason,payloads,payloads,append_nil]
      | false => exact ⟨_,ending_terminate { s with finishReason := c.reason } usage stopReason,rfl⟩

theorem payloads_tail (s : ClaudeConvertInfo) {cs : List Chunk} (htail : cs=[] ∨ ∃ u, cs=[u] ∧ u.usageOnly) :
    payloads s (lookedAt cs)=[] := by
  obtain rfl | ⟨u,rfl,hu,-⟩ := htail
  · rfl
  have hfinished : u.finished=false := by rw [Chunk.finished,hu]; rfl
  have hdelta : u.delta={} := by rw [Chunk.delta,hu]; rfl
  have hlooked : lookedAt [u]=[u] := by rw [lookedAt,hfinished]; rfl
  rw [hlooked,payloads,hdelta]
  rfl

theorem stream_events {c : Chunk} {cs : List Chunk} (h : WellFormed (c::cs)) :
    ∃ ending, Ending ending ∧ claudeEvents estimate (c::cs)=.messageStart c.id c.model estimate ::
      ((firstDelta {} c.delta).2++payloads (firstDelta {} c.delta).1 (lookedAt cs)++ending) := by
  obtain ⟨⟨hone,htail⟩,hcalls⟩ := h
  rw [flatMap_cons,callsInOrder_append] at hcalls
  obtain ⟨bs,-,hgoing,-⟩ := firstDelta_reads hcalls.1
  have hevents : claudeEvents estimate (c::cs) =
      (firstChunk {} estimate c).2++claudeEventsFrom estimate 2 (firstChunk {} estimate c).1 cs := rfl
  rw [hevents]
  cases hfinished : c.finished with
  | false =>
    rw [hfinished] at htail
    obtain ⟨ending,hending,hlater⟩ := later_events estimate cs (Nat.le_refl 2) hgoing.going htail
    refine ⟨ending,hending,?_⟩
    rw [firstChunk_unfinished estimate hone hfinished,hlater,cons_append,append_assoc]
  | true =>
    rw [hfinished] at htail
    have hsilent : payloads (firstDelta {} c.delta).1 (lookedAt cs)=[] := payloads_tail _ htail
    rw [hsilent,append_nil]
    obtain ⟨-,hfirst⟩ | ⟨usage,stopReason,hfirst⟩ := firstChunk_finished estimate hone hfinished hcalls.1
    · obtain ⟨usage,stopReason,hrest⟩ := tail_terminates (s := { (firstDelta {} c.delta).1 with finishReason := c.reason })
        estimate (Nat.le_refl 2) hgoing.going htail
      exact ⟨_,ending_terminate _ usage stopReason,by rw [hfirst,hrest]; rfl⟩
    · refine ⟨_,ending_terminate { (firstDelta {} c.delta).1 with finishReason := c.reason } usage stopReason,?_⟩
      rw [hfirst,done_silent estimate cs rfl,append_nil]
      rfl

end Events

section Speech
variable {f : ClaudeEvent → String}

structure Spoken (f : ClaudeEvent → String) : Prop where
  start : ∀ index block, f (.contentBlockStart index block)=""
  stop : ∀ index, f (.contentBlockStop index)=""
  json : ∀ index fragment, f (.contentBlockDelta index (.inputJsonDelta fragment))=""
  message : ∀ id model tokens, f (.messageStart id model tokens)=""
  delta : ∀ usage stopReason, f (.messageDelta usage stopReason)=""
  finish : f .messageStop=""

theorem spoken_textOf : Spoken textOf := ⟨fun _ _ => rfl,fun _ => rfl,fun _ _ => rfl,fun _ _ _ => rfl,fun _ _ => rfl,rfl⟩

theorem spoken_thinkingOf : Spoken thinkingOf :=
  ⟨fun _ _ => rfl,fun _ => rfl,fun _ _ => rfl,fun _ _ _ => rfl,fun _ _ => rfl,rfl⟩

theorem said_ending (hf : Spoken f) {events : List ClaudeEvent} (h : Ending events) : said f events="" := by
  refine said_silent fun e he => ?_
  have := h e he
  cases e with
  | contentBlockStop index => exact hf.stop index
  | messageDelta usage stopReason => exact hf.delta usage stopReason
  | messageStop => exact hf.finish
  | _ => exact this.elim

theorem ending_stopAndAdvance (s : ClaudeConvertInfo) : Ending (stopOpenBlocksAndAdvance s).2 := by
  unfold stopOpenBlocksAndAdvance
  split
  · exact fun e he => nomatch he
  · exact ending_stops s
  · exact ending_stops s
  · exact ending_stops s

section
variable (hf : Spoken f)
include hf

theorem said_toolCallEvents (index : Nat) (call : ToolCallResponse) : said f (toolCallEvents index call)="" := by
  unfold toolCallEvents
  rw [said_append]
  split <;> split <;> simp [hf.start,hf.json]

theorem said_toolCallLoop (base : Nat) (calls : List ToolCallResponse) : ∀ i maxOffset : Nat,
    said f (toolCallLoop base calls i maxOffset).2="" := by
  induction calls with
  | nil => exact fun _ _ => rfl
  | cons call calls ih =>
    intro i maxOffset
    rw [toolCallLoop,said_append,said_toolCallEvents hf,ih]
    rfl

theorem said_laterToolCalls (s : ClaudeConvertInfo) (calls : List ToolCallResponse) : said f (laterToolCalls s calls).2="" := by
  unfold laterToolCalls
  by_cases hlast : s.lastMessagesType≠.tools
  · rw [if_pos hlast]
    dsimp only
    rw [said_append,said_ending hf (ending_stopAndAdvance s),said_toolCallLoop hf]
    rfl
  · rw [if_neg hlast]
    dsimp only
    rw [said_append,said_toolCallLoop hf]
    rfl

theorem said_laterTalk (s : ClaudeConvertInfo) (kind : LastMessageType) (block : ContentBlock)
    (delta : BlockDelta) : said f (laterTalk s kind block delta).2 =
      f (.contentBlockDelta (laterTalk s kind block delta).1.index delta) := by
  unfold laterTalk
  by_cases hlast : s.lastMessagesType≠kind
  · rw [if_pos hlast]
    dsimp only
    rw [said_append,said_append,said_ending hf (ending_stopAndAdvance s)]
    simp [hf.start]
  · rw [if_neg hlast]
    simp

theorem said_firstToolCall (calls : List ToolCallResponse) : said f (firstToolCall {} calls).2="" := by
  cases calls with
  | nil => rfl
  | cons call rest =>
    rw [firstToolCall]
    dsimp only
    rw [said_cons,hf.start]
    split <;> simp [hf.json]

theorem said_firstTalk (s : ClaudeConvertInfo) (kind : LastMessageType) (block : ContentBlock)
    (delta : BlockDelta) : said f (firstTalk s kind block delta).2 =
      f (.contentBlockDelta (firstTalk s kind block delta).1.index delta) := by
  unfold firstTalk
  by_cases hlast : s.lastMessagesType≠kind
  · rw [if_pos hlast]
    dsimp only
    rw [said_append,said_ending hf (ending_stopAndAdvance s)]
    simp [hf.start]
  · rw [if_neg hlast]
    simp [hf.start]

end

variable (piece : Chunk → String) (first : Bool) (kept : Chunk → Bool) (c : Chunk) (cs : List Chunk)

/-- The text of a later chunk is kept when it has neither tool calls nor reasoning. -/
def textKept (c : Chunk) : Bool := decide (c.calls=[] ∧ c.reasoning="")

def thinkingKept (c : Chunk) : Bool := decide (c.calls=[])

theorem text_laterPayload (s : ClaudeConvertInfo) (c : Chunk) :
    said textOf (laterPayload s c.delta).2=keep Chunk.content textKept c := by
  by_cases hcalls : c.calls=[]
  · have hcalls' : ¬ c.delta.calls≠[] := not_not.mpr hcalls
    rw [laterPayload,if_neg hcalls']
    by_cases hreasoning : c.reasoning=""
    · have hkept : textKept c=true := decide_eq_true ⟨hcalls,hreasoning⟩
      have hreasoning' : ¬ c.delta.getReasoningContent≠"" := not_not.mpr hreasoning
      rw [if_neg hreasoning',keep,if_pos hkept]
      split
      · rw [said_laterTalk spoken_textOf]
        rfl
      next hcontent =>
        exact (not_not.mp hcontent).symm
    · have hkept : ¬ textKept c=true := fun h => hreasoning (of_decide_eq_true h).2
      rw [if_pos (show c.delta.getReasoningContent≠"" from hreasoning),keep,if_neg hkept, said_laterTalk spoken_textOf]
      rfl
  · have hkept : ¬ textKept c=true := fun h => hcalls (of_decide_eq_true h).1
    rw [laterPayload_tools hcalls,said_laterToolCalls spoken_textOf,keep,if_neg hkept]

theorem thinking_laterPayload (s : ClaudeConvertInfo) (c : Chunk) :
    said thinkingOf (laterPayload s c.delta).2=keep Chunk.reasoning thinkingKept c := by
  by_cases hcalls : c.calls=[]
  · have hcalls' : ¬ c.delta.calls≠[] := not_not.mpr hcalls
    have hkept : thinkingKept c=true := decide_eq_true hcalls
    rw [laterPayload,if_neg hcalls',keep,if_pos hkept]
    split
    · rw [said_laterTalk spoken_thinkingOf]
      rfl
    next hreasoning =>
      have hempty : c.reasoning="" := not_not.mp hreasoning
      rw [hempty]
      split
      · rw [said_laterTalk spoken_thinkingOf]
        rfl
      · rfl
  · have hkept : ¬ thinkingKept c=true := fun h => hcalls (of_decide_eq_true h)
    rw [laterPayload_tools hcalls,said_laterToolCalls spoken_thinkingOf,keep,if_neg hkept]

theorem said_payloads {g : Chunk → String} (h : ∀ s c, said f (laterPayload s c.delta).2=g c) (cs : List Chunk) :
    ∀ s : ClaudeConvertInfo, said f (payloads s cs)=said g cs := by
  induction cs with
  | nil => exact fun _ => rfl
  | cons c cs ih =>
    intro s
    rw [payloads,said_append,h,ih,said_cons]

theorem text_firstDelta (c : Chunk) :
    said textOf (firstDelta {} c.delta).2=keep Chunk.content (fun c => decide (c.reasoning="")) c := by
  rw [firstDelta]
  dsimp only
  rw [said_append,said_firstToolCall spoken_textOf,empty_append,firstSpeech,keep]
  by_cases hreasoning : c.reasoning=""
  · rw [if_neg (not_not.mpr (show c.delta.getReasoningContent="" from hreasoning)),if_pos (decide_eq_true hreasoning)]
    split
    · rw [said_firstTalk spoken_textOf]
      rfl
    next hcontent =>
      exact (not_not.mp hcontent).symm
  · rw [if_pos (show c.delta.getReasoningContent≠"" from hreasoning),said_firstTalk spoken_textOf,
      if_neg (by simpa using hreasoning)]
    rfl

theorem thinking_firstDelta (c : Chunk) : said thinkingOf (firstDelta {} c.delta).2=c.reasoning := by
  rw [firstDelta]
  dsimp only
  rw [said_append,said_firstToolCall spoken_thinkingOf,empty_append,firstSpeech]
  split
  · rw [said_firstTalk spoken_thinkingOf]
    rfl
  next hreasoning =>
    have hempty : c.reasoning="" := not_not.mp hreasoning
    rw [hempty]
    split
    · rw [said_firstTalk spoken_thinkingOf]
      rfl
    · rfl

/-- A stream whose first chunk and later chunks keep parts of what they say. -/
def flagged (first : Bool) (kept : Chunk → Bool) (c : Chunk) (cs : List Chunk) : List (Chunk×Bool) :=
  (c,first)::((lookedAt cs).map fun c => (c,kept c))++(passedOver cs).map fun c => (c,false)

theorem flagged_chunks (first : Bool) (kept : Chunk → Bool) (c : Chunk) (cs : List Chunk) :
    (flagged first kept c cs).map (·.1)=c::cs := by
  have hall := lookedAt_append_passedOver cs
  simp only [flagged,map_append,map_cons,map_map,comp_def,map_id',cons_append,hall]

theorem said_flagged :
    said (fun p => if p.2 then piece p.1 else "") (flagged first kept c cs) =
      (if first then piece c else "")++said (keep piece kept) (lookedAt cs) := by
  have hpassed : said (fun c => if false=true then piece c else "") (passedOver cs)="" :=
    said_silent fun _ _ => if_neg Bool.false_ne_true
  rw [flagged,said_append,said_cons,said_map,said_map,hpassed,append_empty]
  rfl

theorem kept_eq_iff :
    (if first then piece c else "")++said (keep piece kept) (lookedAt cs)=said piece (c::cs) ↔
      (first=false → piece c="") ∧ (∀ c'∈lookedAt cs, kept c'=false → piece c'="") ∧ ∀ c'∈passedOver cs, piece c'="" := by
  rw [← said_flagged,← flagged_chunks first kept c cs,said_flagged_eq_iff]
  simp only [flagged,cons_append,forall_mem_cons,forall_mem_append,forall_mem_map,forall_const]

theorem text_kept_iff (estimate : Int) {c : Chunk} {cs : List Chunk} (h : WellFormed (c::cs)) :
    said textOf (claudeEvents estimate (c::cs))=said Chunk.content (c::cs) ↔ (c.reasoning="" ∨ c.content="") ∧
      (∀ c'∈lookedAt cs, (c'.calls=[] ∧ c'.reasoning="") ∨ c'.content="") ∧ ∀ c'∈passedOver cs, c'.content="" := by
  obtain ⟨ending,hending,hevents⟩ := stream_events estimate h
  have hsaid : said textOf (claudeEvents estimate (c::cs)) =
      (if decide (c.reasoning="") then c.content else "")++said (keep Chunk.content textKept) (lookedAt cs) := by
    rw [hevents,said_cons,spoken_textOf.message,empty_append,said_append,said_append,text_firstDelta,
      said_payloads text_laterPayload,said_ending spoken_textOf hending,append_empty]
    rfl
  rw [hsaid,kept_eq_iff]
  simp only [textKept,decide_eq_false_iff_not,← or_iff_not_imp_left]

theorem thinking_kept_iff (estimate : Int) {c : Chunk} {cs : List Chunk} (h : WellFormed (c::cs)) :
    said thinkingOf (claudeEvents estimate (c::cs))=said Chunk.reasoning (c::cs) ↔
      (∀ c'∈lookedAt cs, c'.calls=[] ∨ c'.reasoning="") ∧ ∀ c'∈passedOver cs, c'.reasoning="" := by
  obtain ⟨ending,hending,hevents⟩ := stream_events estimate h
  have hsaid : said thinkingOf (claudeEvents estimate (c::cs)) =
      (if true then c.reasoning else "")++said (keep Chunk.reasoning thinkingKept) (lookedAt cs) := by
    rw [hevents,said_cons,spoken_thinkingOf.message,empty_append,said_append,said_append,thinking_firstDelta,
      said_payloads thinking_laterPayload,said_ending spoken_thinkingOf hending,append_empty,if_pos rfl]
  rw [hsaid,kept_eq_iff]
  simp only [thinkingKept,decide_eq_false_iff_not,← or_iff_not_imp_left,Bool.true_eq_false,false_implies,true_and]

end Speech

section Starts

theorem starts_ending {events : List ClaudeEvent} (h : Ending events) : events.filterMap toolStart=[] := by
  rw [filterMap_eq_nil_iff]
  intro e he
  have := h e he
  cases e with
  | contentBlockStop _ | messageDelta _ _ | messageStop => rfl
  | _ => exact this.elim

theorem toolsOf_cons (call : ToolCallResponse) (calls : List ToolCallResponse) :
    toolsOf (call::calls)=(if call.name≠"" then [(call.id,call.name)] else [])++toolsOf calls := by
  by_cases h : call.name="" <;> simp [toolsOf,h]

theorem toolsOf_append (calls more : List ToolCallResponse) : toolsOf (calls++more)=toolsOf calls++toolsOf more := by
  rw [toolsOf,filter_append,map_append]
  rfl

theorem starts_toolCallEvents (index : Nat) (call : ToolCallResponse) : (toolCallEvents index call).filterMap toolStart =
      if call.name≠"" then [(index,call.id,call.name)] else [] := by
  unfold toolCallEvents
  rw [filterMap_append]
  have hjson : (if call.arguments≠"" then [ClaudeEvent.contentBlockDelta index (.inputJsonDelta call.arguments)]
      else []).filterMap toolStart=[] := by
    split <;> rfl
  rw [hjson,append_nil]
  split <;> rfl

theorem starts_toolCallLoop (base : Nat) (calls : List ToolCallResponse) : ∀ {seen : Nat} (i maxOffset : Nat),
    CallsInOrder seen calls → ((toolCallLoop base calls i maxOffset).2.filterMap toolStart).map (·.2)=toolsOf calls ∧
    ((toolCallLoop base calls i maxOffset).2.filterMap toolStart).map (·.1) =
      (List.range (introduced calls)).map (base+seen + ·) := by
  induction calls with
  | nil => exact fun _ _ _ => ⟨rfl,rfl⟩
  | cons call calls ih =>
    intro seen i maxOffset horder
    rw [toolCallLoop,filterMap_append,starts_toolCallEvents,toolsOf_cons,introduced_cons,map_append, map_append]
    obtain ⟨hindex,-,hname,hcalls⟩ | ⟨-,-,hname,hcalls⟩ := horder
    · have hoffset : toolCallOffset i call=seen := by rw [toolCallOffset,hindex]; rfl
      obtain ⟨htools,hblocks⟩ := ih (i+1) (max maxOffset (toolCallOffset i call)) hcalls
      have hshift : (List.range (introduced calls)).map (base+(seen+1) + ·) =
          ((List.range (introduced calls)).map Nat.succ).map (base+seen + ·) := by
        rw [map_map]
        refine map_congr_left fun j _ => ?_
        simp only [comp_apply]
        omega
      rw [if_pos hname,if_pos hname,if_pos hname,htools,hblocks,hoffset,range_succ_eq_map,hshift]
      exact ⟨rfl,rfl⟩
    · obtain ⟨htools,hblocks⟩ := ih (i+1) (max maxOffset (toolCallOffset i call)) hcalls
      rw [if_neg (not_not.mpr hname),if_neg (not_not.mpr hname),if_neg (not_not.mpr hname),htools,hblocks]
      exact ⟨rfl,rfl⟩

theorem starts_laterTalk (s : ClaudeConvertInfo) {kind : LastMessageType} (hkind : kind=.text ∨ kind=.thinking)
    {block : ContentBlock} (hblock : block.kind=kind.kind) (delta : BlockDelta) :
    (laterTalk s kind block delta).2.filterMap toolStart=[] := by
  have hstart : ∀ index, toolStart (.contentBlockStart index block)=none := by
    intro index
    cases block with
    | text | thinking => rfl
    | toolUse id name => obtain rfl | rfl := hkind <;> cases hblock
  unfold laterTalk
  by_cases hlast : s.lastMessagesType≠kind
  · rw [if_pos hlast]
    dsimp only
    rw [filterMap_append,filterMap_append,starts_ending (ending_stopAndAdvance s),filterMap_cons,hstart]
    rfl
  · rw [if_neg hlast]
    rfl

def floor (s : ClaudeConvertInfo) : Nat :=
  if s.lastMessagesType=.tools then s.toolCallBaseIndex else (stopOpenBlocksAndAdvance s).1.index

theorem laterToolCalls_base (s : ClaudeConvertInfo) (calls : List ToolCallResponse) :
    (laterToolCalls s calls).1.toolCallBaseIndex=floor s := by
  unfold laterToolCalls floor
  by_cases hlast : s.lastMessagesType=.tools
  · rw [if_neg (not_not.mpr hlast),if_pos hlast]
  · rw [if_pos hlast,if_neg hlast]

theorem laterToolCalls_loop (s : ClaudeConvertInfo) (calls : List ToolCallResponse) :
    ∃ stops maxOffset, Ending stops ∧ (s.lastMessagesType=.tools → maxOffset=s.toolCallMaxIndexOffset) ∧
      (laterToolCalls s calls).2=stops++(toolCallLoop (floor s) calls 0 maxOffset).2 ∧
      (laterToolCalls s calls).1.toolCallMaxIndexOffset=(toolCallLoop (floor s) calls 0 maxOffset).1 := by
  unfold laterToolCalls floor
  by_cases hlast : s.lastMessagesType=.tools
  · rw [if_neg (not_not.mpr hlast),if_pos hlast]
    exact ⟨[],s.toolCallMaxIndexOffset,(fun e he => nomatch he),fun _ => rfl,rfl,rfl⟩
  · rw [if_pos hlast,if_neg hlast]
    exact ⟨_,0,ending_stopAndAdvance s,fun h => absurd h hlast,rfl,rfl⟩

theorem starts_laterToolCalls (s : ClaudeConvertInfo) {calls : List ToolCallResponse} {seen : Nat}
    (horder : CallsInOrder seen calls) : ((laterToolCalls s calls).2.filterMap toolStart).map (·.2)=toolsOf calls ∧
    ((laterToolCalls s calls).2.filterMap toolStart).map (·.1) = (List.range (introduced calls)).map (floor s+seen + ·) := by
  obtain ⟨stops,maxOffset,hstops,-,hevents,-⟩ := laterToolCalls_loop s calls
  rw [hevents,filterMap_append,starts_ending hstops,nil_append]
  exact starts_toolCallLoop (floor s) calls 0 maxOffset horder

theorem floor_le_next (s : ClaudeConvertInfo) : floor s≤(stopOpenBlocksAndAdvance s).1.index := by
  unfold floor
  split
  next hlast =>
    rw [stopOpenBlocksAndAdvance,hlast]
    dsimp only
    omega
  · exact Nat.le_refl _

theorem next_laterTalk (s : ClaudeConvertInfo) {kind : LastMessageType} (hkind : kind=.text ∨ kind=.thinking)
    (block : ContentBlock) (delta : BlockDelta) :
    (stopOpenBlocksAndAdvance s).1.index≤(stopOpenBlocksAndAdvance (laterTalk s kind block delta).1).1.index := by
  have hnext : ∀ t : ClaudeConvertInfo, t.lastMessagesType=kind → (stopOpenBlocksAndAdvance t).1.index=t.index+1 := by
    intro t ht
    obtain rfl | rfl := hkind <;> rw [stopOpenBlocksAndAdvance,ht]
  rw [hnext _ (laterTalk_keeps s kind block delta).2.2]
  unfold laterTalk
  by_cases hlast : s.lastMessagesType=kind
  · rw [if_neg (not_not.mpr hlast),hnext s hlast]
  rw [if_pos hlast]
  exact Nat.le_succ _

theorem floor_laterPayload (s : ClaudeConvertInfo) (c : Chunk) : floor s≤floor (laterPayload s c.delta).1 := by
  by_cases hcalls : c.calls=[]
  · cases htalks : c.talks with
    | false =>
      rw [laterPayload_silent hcalls htalks]
    | true =>
      obtain ⟨kind,block,delta,hkind,-,-,htalk⟩ := laterPayload_talk hcalls htalks
      have hnot : (laterTalk s kind block delta).1.lastMessagesType≠.tools := by
        rw [(laterTalk_keeps s kind block delta).2.2]
        obtain rfl | rfl := hkind <;> nofun
      rw [htalk]
      refine (floor_le_next s).trans ((next_laterTalk s hkind block delta).trans ?_)
      rw [floor,if_neg hnot]
  · rw [laterPayload_tools hcalls,floor.eq_def (laterToolCalls s c.calls).1,if_pos (laterToolCalls_keeps s c.calls).2.2,
      laterToolCalls_base]

theorem starts_payloads (cs : List Chunk) : ∀ (s : ClaudeConvertInfo) {seen : Nat}, CallsInOrder seen (cs.flatMap (·.calls)) →
    ((payloads s cs).filterMap toolStart).map (·.2)=toolsOf (cs.flatMap (·.calls)) ∧
    ∀ index∈((payloads s cs).filterMap toolStart).map (·.1), floor s+seen ≤ index := by
  induction cs with
  | nil => exact fun _ _ _ => ⟨rfl,fun _ h => nomatch h⟩
  | cons c cs ih =>
    intro s seen horder
    rw [flatMap_cons,callsInOrder_append] at horder
    have hfloor := floor_laterPayload s c
    obtain ⟨htools,hblocks⟩ := ih (laterPayload s c.delta).1 horder.2
    rw [payloads,filterMap_append,map_append,map_append,flatMap_cons,toolsOf_append,htools]
    suffices hchunk : ((laterPayload s c.delta).2.filterMap toolStart).map (·.2)=toolsOf c.calls ∧
        ∀ index∈((laterPayload s c.delta).2.filterMap toolStart).map (·.1), floor s+seen ≤ index by
      refine ⟨by rw [hchunk.1],fun index hindex => ?_⟩
      obtain hindex | hindex := mem_append.mp hindex
      · exact hchunk.2 index hindex
      have := hblocks index hindex
      omega
    by_cases hcalls : c.calls=[]
    · rw [hcalls]
      cases htalks : c.talks with
      | false =>
        rw [laterPayload_silent hcalls htalks]
        exact ⟨rfl,fun _ h => nomatch h⟩
      | true =>
        obtain ⟨kind,block,delta,hkind,hblock,-,htalk⟩ := laterPayload_talk hcalls htalks
        rw [htalk,starts_laterTalk s hkind hblock]
        exact ⟨rfl,fun _ h => nomatch h⟩
    · obtain ⟨htools',hblocks'⟩ := starts_laterToolCalls s horder.1
      rw [laterPayload_tools hcalls,htools',hblocks']
      refine ⟨rfl,fun index hindex => ?_⟩
      obtain ⟨j,-,rfl⟩ := mem_map.mp hindex
      exact Nat.le_add_right _ _

end Starts

section Arguments
variable {s : ClaudeConvertInfo} {since seen : Nat} {homes : List Nat}

/-- The blocks of the tools so far: those introduced since the last talk are in the run that goes on, the others before
it. -/
structure Housed (s : ClaudeConvertInfo) (since seen : Nat) (homes : List Nat) : Prop where
  count : homes.length=seen
  since_le : since ≤ seen
  before : ∀ k i, homes[k]? = some i → k<since → i<floor s
  inRun : ∀ k i, homes[k]? = some i → since≤k → s.lastMessagesType=.tools ∧ i=floor s+k ∧ k ≤ s.toolCallMaxIndexOffset

theorem Housed.lt_next (h : Housed s since seen homes) {k i : Nat} (hk : homes[k]? = some i) :
    i<(stopOpenBlocksAndAdvance s).1.index := by
  by_cases hsince : since≤k
  · obtain ⟨hlast,rfl,hmax⟩ := h.inRun k i hk hsince
    rw [floor,if_pos hlast,stopOpenBlocksAndAdvance,hlast]
    dsimp only
    omega
  · exact Nat.lt_of_lt_of_le (h.before k i hk (by omega)) (floor_le_next s)

theorem fragment_ending (index : Nat) {events : List ClaudeEvent} (h : Ending events) : said (fragmentAt index) events="" := by
  refine said_silent fun e he => ?_
  have := h e he
  cases e with
  | contentBlockStop _ | messageDelta _ _ | messageStop => rfl
  | _ => exact this.elim

theorem fragment_toolCallEvents (index block : Nat) (call : ToolCallResponse) :
    said (fragmentAt index) (toolCallEvents block call) = if block=index then call.arguments else "" := by
  unfold toolCallEvents
  rw [said_append]
  have hstart : said (fragmentAt index)
      (if call.name≠"" then [.contentBlockStart block (.toolUse call.id call.name)] else [])="" := by
    split <;> rfl
  rw [hstart,empty_append]
  by_cases harguments : call.arguments=""
  · rw [if_neg (not_not.mpr harguments),harguments]
    split <;> rfl
  · rw [if_pos harguments,said_cons,said_nil,append_empty]
    rfl

theorem fragment_toolCallLoop (index base : Nat) (calls : List ToolCallResponse) : ∀ {seen : Nat} (i maxOffset : Nat),
    CallsInOrder seen calls → said (fragmentAt index) (toolCallLoop base calls i maxOffset).2 =
      said (fun call => if base+call.index.getD 0=index then call.arguments else "") calls := by
  induction calls with
  | nil => exact fun _ _ _ => rfl
  | cons call calls ih =>
    intro seen i maxOffset horder
    have hcalls : ∃ seen', CallsInOrder seen' calls := by
      obtain ⟨-,-,-,hcalls⟩ | ⟨-,-,-,hcalls⟩ := horder <;> exact ⟨_,hcalls⟩
    obtain ⟨k,hk⟩ := callsInOrder_index horder mem_cons_self
    have hoffset : toolCallOffset i call=call.index.getD 0 := by
      rw [toolCallOffset,hk]
      rfl
    obtain ⟨seen',hcalls⟩ := hcalls
    rw [toolCallLoop,said_append,fragment_toolCallEvents,ih _ _ hcalls,said_cons,hoffset]

variable {calls : List ToolCallResponse}

theorem callsInOrder_introduces : ∀ {seen : Nat}, CallsInOrder seen calls →
    ∀ {k : Nat}, seen≤k → k<seen+introduced calls → ∃ call∈calls, call.index=some k := by
  induction calls with
  | nil =>
    intro seen _ k hle hlt
    exact absurd hlt (by simp [introduced]; omega)
  | cons call calls ih =>
    intro seen horder k hle hlt
    rw [introduced_cons] at hlt
    obtain ⟨hindex,-,hname,hcalls⟩ | ⟨-,-,hname,hcalls⟩ := horder
    · by_cases hk : k=seen
      · exact ⟨call,mem_cons_self,hk ▸ hindex⟩
      rw [if_pos hname] at hlt
      obtain ⟨c,hc,hck⟩ := ih hcalls (k := k) (by omega) (by omega)
      exact ⟨c,mem_cons_of_mem call hc,hck⟩
    · rw [if_neg (not_not.mpr hname)] at hlt
      obtain ⟨c,hc,hck⟩ := ih hcalls hle hlt
      exact ⟨c,mem_cons_of_mem call hc,hck⟩

theorem callsInOrder_lt : ∀ {seen : Nat}, CallsInOrder seen calls →
    ∀ {call : ToolCallResponse} {k : Nat}, call∈calls → call.index=some k → k<seen+introduced calls := by
  induction calls with
  | nil => exact fun _ _ _ h => nomatch h
  | cons c calls ih =>
    intro seen horder call k hcall hk
    rw [introduced_cons]
    obtain ⟨hindex,-,hname,hcalls⟩ | ⟨⟨m,hm,hindex⟩,-,hname,hcalls⟩ := horder
    · rw [if_pos hname]
      obtain rfl | hcall := mem_cons.mp hcall
      · rw [hindex] at hk
        cases hk
        omega
      · have := ih hcalls hcall hk
        omega
    · rw [if_neg (not_not.mpr hname)]
      obtain rfl | hcall := mem_cons.mp hcall
      · rw [hindex] at hk
        cases hk
        omega
      · exact ih hcalls hcall hk

theorem housed_laterToolCalls (h : Housed s since seen homes) (horder : CallsInOrder seen calls) :
    Housed (laterToolCalls s calls).1 since (seen+introduced calls)
      (homes++(List.range (introduced calls)).map (floor s+seen + ·)) := by
  obtain ⟨stops,maxOffset,-,hmax,-,hmax'⟩ := laterToolCalls_loop s calls
  have hlast : (laterToolCalls s calls).1.lastMessagesType=.tools := (laterToolCalls_keeps s calls).2.2
  have hfloor : floor (laterToolCalls s calls).1=floor s := by
    rw [floor,if_pos hlast,laterToolCalls_base]
  have hle := h.since_le
  have hcount := h.count
  refine ⟨?_,Nat.le_add_right_of_le hle,?_,?_⟩
  · rw [length_append,hcount,length_map,length_range]
  · intro k i hk hsince
    rw [getElem?_append_left (by omega)] at hk
    rw [hfloor]
    exact h.before k i hk hsince
  · intro k i hk hsince
    refine ⟨hlast,?_⟩
    rw [hfloor,hmax']
    by_cases hlt : k<homes.length
    · rw [getElem?_append_left hlt] at hk
      obtain ⟨hrun,hi,hoffset⟩ := h.inRun k i hk hsince
      exact ⟨hi,(hmax hrun ▸ hoffset).trans (toolCallLoop_max_le _ _ _ _)⟩
    · rw [getElem?_append_right (by omega),List.getElem?_eq_some_iff] at hk
      obtain ⟨hbound,hi⟩ := hk
      rw [length_map,length_range] at hbound
      rw [getElem_map,getElem_range] at hi
      exact ⟨by omega,toolCallLoop_index_le _ _ _ _ (callsInOrder_introduces horder (by omega) (by omega))⟩

theorem fragment_laterToolCalls (s : ClaudeConvertInfo) (index : Nat) (horder : CallsInOrder seen calls) :
    said (fragmentAt index) (laterToolCalls s calls).2 =
      said (fun call => if floor s+call.index.getD 0=index then call.arguments else "") calls := by
  obtain ⟨stops,maxOffset,hstops,-,hevents,-⟩ := laterToolCalls_loop s calls
  rw [hevents,said_append,fragment_ending index hstops,empty_append,fragment_toolCallLoop index _ _ _ _ horder]

theorem fragment_housed {count : Nat} (h : Housed (laterToolCalls s calls).1 since count homes)
    (horder : CallsInOrder seen calls) {k i : Nat} (hk : homes[k]? = some i) : said (fragmentAt i) (laterToolCalls s calls).2 =
      said (fun call => if call.index=some k ∧ since≤call.index.getD 0 then call.arguments else "") calls := by
  have hlast : (laterToolCalls s calls).1.lastMessagesType=.tools := (laterToolCalls_keeps s calls).2.2
  have hfloor : floor (laterToolCalls s calls).1=floor s := by
    rw [floor,if_pos hlast,laterToolCalls_base]
  rw [fragment_laterToolCalls s i horder]
  refine said_congr fun call hcall => ?_
  obtain ⟨m,hm⟩ := callsInOrder_index horder hcall
  have hreach : floor s+call.index.getD 0=i ↔ call.index=some k ∧ since≤call.index.getD 0 := by
    rw [hm,getD_some,some_inj]
    by_cases hsince : since≤k
    · have := (h.inRun k i hk hsince).2.1
      omega
    · have := h.before k i hk (by omega)
      omega
  rw [if_congr hreach rfl rfl]

theorem housed_laterTalk (h : Housed s since seen homes) {kind : LastMessageType} (hkind : kind=.text ∨ kind=.thinking)
    (block : ContentBlock) (delta : BlockDelta) : Housed (laterTalk s kind block delta).1 seen seen homes := by
  have hnot : (laterTalk s kind block delta).1.lastMessagesType≠.tools := by
    rw [(laterTalk_keeps s kind block delta).2.2]
    obtain rfl | rfl := hkind <;> nofun
  refine ⟨h.count,Nat.le_refl seen,fun k i hk _ => ?_,fun k i hk hseen => ?_⟩
  · rw [floor,if_neg hnot]
    exact Nat.lt_of_lt_of_le (h.lt_next hk) (next_laterTalk s hkind block delta)
  · obtain ⟨hbound,-⟩ := List.getElem?_eq_some_iff.mp hk
    have := h.count
    omega

theorem fragment_laterTalk (s : ClaudeConvertInfo) (index : Nat) {kind : LastMessageType}
    (hkind : kind=.text ∨ kind=.thinking) (block : ContentBlock) {delta : BlockDelta}
    (hdelta : delta.kind=kind.kind) : said (fragmentAt index) (laterTalk s kind block delta).2="" := by
  have hsilent : ∀ i, fragmentAt index (.contentBlockDelta i delta)="" := by
    intro i
    cases delta with
    | textDelta _ | thinkingDelta _ => rfl
    | inputJsonDelta fragment => obtain rfl | rfl := hkind <;> cases hdelta
  have hstart : ∀ i, fragmentAt index (.contentBlockStart i block)="" := fun _ => rfl
  unfold laterTalk
  by_cases hlast : s.lastMessagesType≠kind
  · rw [if_pos hlast]
    dsimp only
    rw [said_append,said_append,fragment_ending index (ending_stopAndAdvance s)]
    simp [hstart,hsilent]
  · rw [if_neg hlast]
    simp [hsilent]

/-- The calls of later chunks, and whether the arguments reach the block of their tool: the tool was introduced since the
last text or reasoning. -/
def reaching (since seen : Nat) : List Chunk → List (ToolCallResponse×Bool)
  | [] => []
  | c :: cs =>
    if c.calls=[] then reaching (if c.talks then seen else since) seen cs
    else c.calls.map (fun call => (call,decide (since≤call.index.getD 0))) ++ reaching since (seen+introduced c.calls) cs

theorem reaching_calls (cs : List Chunk) : ∀ since seen : Nat, (reaching since seen cs).map (·.1)=cs.flatMap (·.calls) := by
  induction cs with
  | nil => exact fun _ _ => rfl
  | cons c cs ih =>
    intro since seen
    rw [reaching,flatMap_cons]
    split
    next hcalls =>
      rw [ih,hcalls,nil_append]
    · rw [map_append,ih,map_map]
      simp [comp_def]

def reached (k : Nat) (p : ToolCallResponse×Bool) : String :=
  if p.2 then (if p.1.index=some k then p.1.arguments else "") else ""

theorem fragment_payloads (cs : List Chunk) : ∀ {s : ClaudeConvertInfo} {since seen : Nat} {homes : List Nat},
    Housed s since seen homes → CallsInOrder seen (cs.flatMap (·.calls)) →
    ∀ k i, (homes++((payloads s cs).filterMap toolStart).map (·.1))[k]? = some i →
      said (fragmentAt i) (payloads s cs)=said (reached k) (reaching since seen cs) := by
  induction cs with
  | nil => exact fun _ _ _ _ _ => rfl
  | cons c cs ih =>
    intro s since seen homes h horder k i hk
    rw [flatMap_cons,callsInOrder_append] at horder
    rw [payloads,filterMap_append,map_append] at hk
    rw [payloads,said_append,reaching]
    by_cases hcalls : c.calls=[]
    · have horder' : CallsInOrder seen (cs.flatMap (·.calls)) := by
        rw [hcalls] at horder
        exact horder.2
      rw [if_pos hcalls]
      cases htalks : c.talks with
      | false =>
        rw [laterPayload_silent hcalls htalks] at hk ⊢
        rw [if_neg Bool.false_ne_true]
        exact (empty_append).trans (ih h horder' k i hk)
      | true =>
        obtain ⟨kind,block,delta,hkind,hblock,hdelta,htalk⟩ := laterPayload_talk hcalls htalks
        rw [htalk] at hk ⊢
        rw [starts_laterTalk s hkind hblock,map_nil,nil_append] at hk
        rw [fragment_laterTalk s i hkind block hdelta,empty_append,if_pos rfl]
        exact ih (housed_laterTalk h hkind block delta) horder' k i hk
    · rw [laterPayload_tools hcalls] at hk ⊢
      rw [(starts_laterToolCalls s horder.1).2,← append_assoc] at hk
      have hhoused := housed_laterToolCalls h horder.1
      rw [if_neg hcalls,said_append,ih hhoused horder.2 k i hk,said_map]
      congr 1
      by_cases hhome : k<(homes++(List.range (introduced c.calls)).map (floor s+seen + ·)).length
      · rw [getElem?_append_left hhome] at hk
        rw [fragment_housed hhoused horder.1 hk]
        refine said_congr fun call _ => ?_
        rw [reached,← ite_and]
        refine if_congr ?_ rfl rfl
        rw [decide_eq_true_iff]
        exact and_comm
      · -- a tool that a later chunk introduces: nothing is sent to its block yet
        rw [getElem?_append_right (Nat.le_of_not_lt hhome)] at hk
        have hbeyond := (starts_payloads cs (laterToolCalls s c.calls).1 horder.2).2 i (mem_of_getElem? hk)
        have hlast : (laterToolCalls s c.calls).1.lastMessagesType=.tools := (laterToolCalls_keeps s c.calls).2.2
        rw [floor,if_pos hlast,laterToolCalls_base] at hbeyond
        rw [hhoused.count] at hhome
        rw [fragment_laterToolCalls s i horder.1]
        refine said_congr fun call hcall => ?_
        obtain ⟨m,hm⟩ := callsInOrder_index horder.1 hcall
        have hlt := callsInOrder_lt horder.1 hcall hm
        have hblock : ¬ floor s+call.index.getD 0=i := by
          rw [hm,getD_some]
          omega
        have hindex : ¬ call.index=some k := by
          rw [hm,some_inj]
          omega
        rw [if_neg hblock,reached,if_neg hindex,ite_self]

end Arguments

section FirstTools
variable {c : Chunk}

theorem firstTalk_eq_laterTalk {s : ClaudeConvertInfo} {kind : LastMessageType} (hlast : s.lastMessagesType≠kind)
    (block : ContentBlock) (delta : BlockDelta) : firstTalk s kind block delta=laterTalk s kind block delta := by
  rw [firstTalk_eq hlast,laterTalk,if_pos hlast]
  dsimp only
  rw [append_assoc]
  rfl

variable {calls : List ToolCallResponse}

theorem firstCall_introduces (horder : CallsInOrder 0 calls) {call : ToolCallResponse} (hcall : call∈calls.take 1) :
    call.index=some 0 ∧ toolsOf (calls.take 1)=[(call.id,call.name)] ∧ 0 < introduced calls := by
  cases calls with
  | nil => cases hcall
  | cons first rest =>
    rw [take_succ_cons,take_zero,mem_singleton] at hcall
    subst hcall
    obtain ⟨hindex,-,hname,-⟩ | ⟨⟨k,hk,-⟩,-⟩ := horder
    · rw [take_succ_cons,take_zero,toolsOf_cons,introduced_cons,if_pos hname,if_pos hname]
      exact ⟨hindex,rfl,Nat.succ_pos _⟩
    · omega

theorem firstToolCall_tools (horder : CallsInOrder 0 calls) :
    (firstToolCall {} calls).2.filterMap toolStart=(toolsOf (calls.take 1)).map (fun tool => (0,tool)) ∧
    (∀ index, said (fragmentAt index) (firstToolCall {} calls).2 =
      said (fun call => if index=0 then call.arguments else "") (calls.take 1)) ∧
    (firstToolCall {} calls).1.lastMessagesType=(if calls=[] then .none else .tools) ∧ (toolsOf (calls.drop 1)=[] →
      Housed (firstToolCall {} calls).1 0 (introduced calls) ((toolsOf (calls.take 1)).map fun _ => 0)) := by
  cases calls with
  | nil => exact ⟨rfl,fun _ => rfl,rfl,fun _ => ⟨rfl,Nat.le_refl 0,nofun,nofun⟩⟩
  | cons call rest =>
    obtain ⟨-,-,hname,-⟩ | ⟨⟨k,hk,-⟩,-⟩ := horder
    · have htools : toolsOf ((call::rest).take 1)=[(call.id,call.name)] := by
        rw [take_succ_cons,take_zero,toolsOf_cons,if_pos hname]
        rfl
      have hevents : (firstToolCall {} (call::rest)).2=toolCallEvents 0 call := by
        rw [toolCallEvents,if_pos hname]
        rfl
      rw [hevents,htools,starts_toolCallEvents,if_pos hname]
      refine ⟨rfl,fun index => ?_,rfl,fun hrest => ?_⟩
      · rw [fragment_toolCallEvents,take_succ_cons,take_zero,said_cons,said_nil,append_empty]
        exact if_congr eq_comm rfl rfl
      · have hone : introduced (call::rest)=1 := by
          have hzero : introduced rest=0 := (length_map _).symm.trans (congrArg List.length hrest)
          rw [introduced_cons,if_pos hname,hzero]
        rw [hone]
        refine ⟨rfl,Nat.zero_le 1,fun k i _ hk => absurd hk (Nat.not_lt_zero k),fun k i hk _ => ?_⟩
        cases k with
        | zero => exact ⟨rfl,(some_inj.mp hk).symm,Nat.le_refl 0⟩
        | succ k => cases hk
    · omega

theorem firstDelta_tools (horder : CallsInOrder 0 c.calls) :
    (firstDelta {} c.delta).2.filterMap toolStart=(toolsOf (c.calls.take 1)).map (fun tool => (0,tool)) ∧
    (∀ index, said (fragmentAt index) (firstDelta {} c.delta).2 =
      said (fun call => if index=0 then call.arguments else "") (c.calls.take 1)) ∧
    (toolsOf (c.calls.drop 1)=[] → Housed (firstDelta {} c.delta).1 (if c.talks then introduced c.calls else 0)
      (introduced c.calls) ((toolsOf (c.calls.take 1)).map fun _ => 0)) := by
  obtain ⟨hstarts,hfragments,hlast,hhoused⟩ := firstToolCall_tools horder
  cases htalks : c.talks with
  | false =>
    rw [firstDelta_silent htalks,if_neg Bool.false_ne_true]
    exact ⟨hstarts,hfragments,hhoused⟩
  | true =>
    obtain ⟨kind,block,delta,hkind,hblock,hdelta,htalk⟩ := firstDelta_talk htalks
    have hne : (firstToolCall {} c.calls).1.lastMessagesType≠kind := by
      rw [hlast]
      split <;> obtain rfl | rfl := hkind <;> nofun
    rw [htalk,firstTalk_eq_laterTalk hne,if_pos rfl]
    refine ⟨?_,fun index => ?_,fun hrest => housed_laterTalk (hhoused hrest) hkind block delta⟩
    · rw [filterMap_append,starts_laterTalk _ hkind hblock,append_nil,hstarts]
    · rw [said_append,fragment_laterTalk _ index hkind block hdelta,append_empty,hfragments]

end FirstTools

section Stream
variable {c : Chunk} {cs : List Chunk} (estimate : Int)

def Chunk.since (c : Chunk) : Nat := if c.talks then introduced c.calls else 0

def reachingCalls (c : Chunk) (cs : List Chunk) : List (ToolCallResponse×Bool) :=
  (c.calls.take 1).map (·,true)++(c.calls.drop 1).map (·,false) ++
    reaching c.since (introduced c.calls) (lookedAt cs)++((passedOver cs).flatMap (·.calls)).map (·,false)

theorem reachingCalls_calls (c : Chunk) (cs : List Chunk) : (reachingCalls c cs).map (·.1)=(c::cs).flatMap (·.calls) := by
  have hcalls : (c::cs).flatMap (·.calls) =
      c.calls++((lookedAt cs).flatMap (·.calls)++(passedOver cs).flatMap (·.calls)) := by
    rw [← flatMap_append,lookedAt_append_passedOver,flatMap_cons]
  rw [hcalls,reachingCalls,map_append,map_append,map_append,reaching_calls,append_assoc]
  congr 1
  · simp only [map_map,comp_def,map_id',take_append_drop]
  · simp only [map_map,comp_def,map_id']

theorem wellFormed_calls (h : WellFormed (c::cs)) : CallsInOrder 0 c.calls ∧
    CallsInOrder (introduced c.calls) ((lookedAt cs).flatMap (·.calls)) := by
  have hcalls := h.calls
  rw [flatMap_cons,callsInOrder_append,Nat.zero_add,← lookedAt_append_passedOver cs,flatMap_append,
    callsInOrder_append] at hcalls
  exact ⟨hcalls.1,hcalls.2.1⟩

theorem stream_starts (h : WellFormed (c::cs)) :
    (claudeEvents estimate (c::cs)).filterMap toolStart=(toolsOf (c.calls.take 1)).map (fun tool => (0,tool)) ++
      (payloads (firstDelta {} c.delta).1 (lookedAt cs)).filterMap toolStart := by
  obtain ⟨ending,hending,hevents⟩ := stream_events estimate h
  have hstart : toolStart (.messageStart c.id c.model estimate)=none := rfl
  rw [hevents,filterMap_cons,hstart,filterMap_append,filterMap_append,starts_ending hending,
    append_nil,(firstDelta_tools (wellFormed_calls h).1).1]

theorem tools_kept_iff (h : WellFormed (c::cs)) :
    ((claudeEvents estimate (c::cs)).filterMap toolStart).map (·.2)=toolsOf ((c::cs).flatMap (·.calls)) ↔
      toolsOf (c.calls.drop 1)=[] ∧ toolsOf ((passedOver cs).flatMap (·.calls))=[] := by
  have hlater := (starts_payloads (lookedAt cs) (firstDelta {} c.delta).1 (wellFormed_calls h).2).1
  have hstarts : ((claudeEvents estimate (c::cs)).filterMap toolStart).map (·.2) =
      toolsOf (c.calls.take 1)++toolsOf ((lookedAt cs).flatMap (·.calls)) := by
    rw [stream_starts estimate h,map_append,hlater,map_map]
    simp [comp_def]
  have hall : toolsOf ((c::cs).flatMap (·.calls))=toolsOf (c.calls.take 1)++(toolsOf (c.calls.drop 1) ++
      (toolsOf ((lookedAt cs).flatMap (·.calls))++toolsOf ((passedOver cs).flatMap (·.calls)))) := by
    rw [← toolsOf_append,← flatMap_append,lookedAt_append_passedOver,← append_assoc,← toolsOf_append,
      take_append_drop,← toolsOf_append,flatMap_cons]
  rw [hstarts,hall]
  constructor
  · intro heq
    have hlength := congrArg List.length heq
    simp only [length_append] at hlength
    exact ⟨length_eq_zero_iff.mp (by omega),length_eq_zero_iff.mp (by omega)⟩
  · rintro ⟨hdrop,hpassed⟩
    rw [hdrop,hpassed,append_nil,nil_append]

theorem stream_fragments (h : WellFormed (c::cs)) (hdrop : toolsOf (c.calls.drop 1)=[])
    {k i : Nat} {tool : String×String} (hk : ((claudeEvents estimate (c::cs)).filterMap toolStart)[k]? = some (i,tool)) :
    said (fragmentAt i) (claudeEvents estimate (c::cs))=said (reached k) (reachingCalls c cs) := by
  obtain ⟨hcalls,hlater⟩ := wellFormed_calls h
  obtain ⟨-,hfragments,hhoused⟩ := firstDelta_tools hcalls
  obtain ⟨ending,hending,hevents⟩ := stream_events estimate h
  have hmessage : fragmentAt i (.messageStart c.id c.model estimate)="" := rfl
  have hdropped : ∀ calls : List ToolCallResponse, said (reached k) (calls.map (·,false))="" := by
    intro calls
    rw [said_map]
    exact said_silent fun _ _ => if_neg Bool.false_ne_true
  have hhome : ((toolsOf (c.calls.take 1)).map (fun _ => 0) ++
      ((payloads (firstDelta {} c.delta).1 (lookedAt cs)).filterMap toolStart).map (·.1))[k]? = some i := by
    have := congrArg (Option.map (·.1)) hk
    rw [stream_starts estimate h,← getElem?_map,map_append,map_map] at this
    exact this
  rw [hevents,said_cons,hmessage,empty_append,said_append,said_append,fragment_ending i hending,
    append_empty,hfragments,fragment_payloads _ (hhoused hdrop) hlater k i hhome,reachingCalls,said_append,
    said_append,said_append,hdropped,hdropped,append_empty,append_empty,said_map]
  congr 1
  refine said_congr fun call hcall => ?_
  obtain ⟨hindex,htools,hpos⟩ := firstCall_introduces hcalls hcall
  have hfirst : i=0 ↔ call.index=some k := by
    rw [htools,map_singleton,singleton_append] at hhome
    rw [hindex,some_inj]
    cases k with
    | zero => exact iff_of_true (some_inj.mp hhome).symm rfl
    | succ k =>
      have hbeyond := (starts_payloads _ (firstDelta {} c.delta).1 hlater).2 i (mem_of_getElem? hhome)
      exact iff_of_false (by omega) nofun
  rw [reached,if_pos rfl,if_congr hfirst rfl rfl]

theorem arguments_kept_iff (h : WellFormed (c::cs))
    (htools : ((claudeEvents estimate (c::cs)).filterMap toolStart).map (·.2)=toolsOf ((c::cs).flatMap (·.calls))) :
    (∀ k index tool, ((claudeEvents estimate (c::cs)).filterMap toolStart)[k]? = some (index,tool) →
      said (fragmentAt index) (claudeEvents estimate (c::cs))=argumentsOf ((c::cs).flatMap (·.calls)) k) ↔
    ∀ p∈reachingCalls c cs, p.2=false → p.1.arguments="" := by
  have hdrop := ((tools_kept_iff estimate h).mp htools).1
  have hkept : ∀ k, said (reached k) (reachingCalls c cs)=argumentsOf ((c::cs).flatMap (·.calls)) k ↔
      ∀ p∈reachingCalls c cs, p.2=false → (if p.1.index=some k then p.1.arguments else "")="" := by
    intro k
    rw [← reachingCalls_calls]
    exact said_flagged_eq_iff (fun call => if call.index=some k then call.arguments else "") (reachingCalls c cs)
  constructor
  · intro harguments p hp hlost
    have hmem : p.1∈(c::cs).flatMap (·.calls) := reachingCalls_calls c cs ▸ mem_map_of_mem hp
    obtain ⟨m,hm⟩ := callsInOrder_index h.calls hmem
    have hlt : m<((claudeEvents estimate (c::cs)).filterMap toolStart).length := by
      have hlength := congrArg List.length htools
      rw [length_map,toolsOf,length_map] at hlength
      have := callsInOrder_lt h.calls hmem hm
      rw [Nat.zero_add,introduced] at this
      omega
    have hstart := getElem?_eq_getElem hlt
    have hreach := (harguments m _ _ hstart).symm.trans (stream_fragments estimate h hdrop hstart)
    have hpiece := (hkept m).mp hreach.symm p hp hlost
    rwa [if_pos hm] at hpiece
  · intro hreach k index tool hk
    rw [stream_fragments estimate h hdrop hk,hkept]
    intro p hp hlost
    rw [hreach p hp hlost,ite_self]

theorem toolsOf_eq_nil_iff (calls : List ToolCallResponse) : toolsOf calls=[] ↔ ∀ call∈calls, call.name="" := by
  simp [toolsOf,filter_eq_nil_iff]

theorem reachingCalls_silent_iff (c : Chunk) (cs : List Chunk) : (∀ p∈reachingCalls c cs, p.2=false → p.1.arguments="") ↔
      (∀ call∈c.calls.drop 1++(passedOver cs).flatMap (·.calls), call.arguments="") ∧
      ∀ p∈reaching c.since (introduced c.calls) (lookedAt cs), p.2=false → p.1.arguments="" := by
  simp only [reachingCalls,forall_mem_append,forall_mem_map,Bool.true_eq_false,false_implies,implies_true,
    forall_const,true_and]
  exact ⟨fun h => ⟨⟨h.1.1,h.2⟩,h.1.2⟩,fun h => ⟨⟨h.1.1,h.2⟩,h.1.2⟩⟩

end Stream

/-- Nothing is said where the converter does not look. A chunk has one kind of payload: the first may have tool calls
beside text or reasoning, but then one call only; a chunk with the finish reason and no usage has none; and arguments
come for tools that were introduced since the last text or reasoning. -/
def AllLookedAt : List Chunk → Prop
  | [] => True
  | first::later =>
    (first.reasoning="" ∨ first.content="") ∧
    (∀ c∈lookedAt later, (c.calls=[] ∨ c.reasoning="" ∧ c.content="") ∧ (c.reasoning="" ∨ c.content="")) ∧
    (∀ c∈passedOver later, c.reasoning="" ∧ c.content="") ∧
    (∀ call∈first.calls.drop 1++(passedOver later).flatMap (·.calls), call.name="" ∧ call.arguments="") ∧
    ∀ p∈reaching first.since (introduced first.calls) (lookedAt later), p.2=false → p.1.arguments=""

instance (chunks : List Chunk) : Decidable (AllLookedAt chunks) :=
  match chunks with
  | [] => inferInstanceAs (Decidable True)
  | _::_ => inferInstanceAs (Decidable (_ ∧ _))

/-- The events of a well-formed stream say all that its chunks say exactly when nothing is said where the converter does
not look. -/
theorem claude_stream_loses_nothing_iff {chunks : List Chunk} (h : WellFormed chunks) (estimate : Int) :
    NothingLost chunks (claudeEvents estimate chunks) ↔ AllLookedAt chunks := by
  cases chunks with
  | nil => exact iff_of_true ⟨rfl,rfl,rfl,nofun⟩ trivial
  | cons c cs =>
    have htext := text_kept_iff estimate h
    have hthinking := thinking_kept_iff estimate h
    have htools := tools_kept_iff estimate h
    rw [toolsOf_eq_nil_iff,toolsOf_eq_nil_iff,← forall_mem_append] at htools
    constructor
    · intro hlost
      obtain ⟨hfirst,hcontent,hcontent'⟩ := htext.mp hlost.text
      obtain ⟨hreasoning,hreasoning'⟩ := hthinking.mp hlost.thinking
      have harguments := (arguments_kept_iff estimate h hlost.tools).mp hlost.arguments
      rw [reachingCalls_silent_iff] at harguments
      refine ⟨hfirst,fun c' hc' => ?_,fun c' hc' => ⟨hreasoning' c' hc',hcontent' c' hc'⟩,
        fun call hcall => ⟨htools.mp hlost.tools call hcall,harguments.1 call hcall⟩,harguments.2⟩
      refine ⟨?_,(hcontent c' hc').imp_left And.right⟩
      obtain hnone | hempty := hcontent c' hc'
      · exact .inl hnone.1
      · exact (hreasoning c' hc').imp_right fun hsilent => ⟨hsilent,hempty⟩
    · rintro ⟨hfirst,hlooked,hpassed,hcalls,hreach⟩
      have hstarts := htools.mpr fun call hcall => (hcalls call hcall).1
      refine ⟨htext.mpr ⟨hfirst,fun c' hc' => ?_,fun c' hc' => (hpassed c' hc').2⟩,
        hthinking.mpr ⟨fun c' hc' => (hlooked c' hc').1.imp_right And.left,fun c' hc' => (hpassed c' hc').1⟩,hstarts,?_⟩
      · obtain ⟨hnone | hsilent,hone⟩ := hlooked c' hc'
        · exact hone.imp_left fun hempty => ⟨hnone,hempty⟩
        · exact .inr hsilent.2
      · rw [arguments_kept_iff estimate h hstarts,reachingCalls_silent_iff]
        exact ⟨fun call hcall => (hcalls call hcall).2,hreach⟩

theorem parallelTools_lose_nothing : WellFormed parallelTools ∧ NothingLost parallelTools (claudeEvents 0 parallelTools) :=
  ⟨parallelTools_wellFormed,(claude_stream_loses_nothing_iff parallelTools_wellFormed 0).mpr (by decide)⟩

def textWithFinish : List Chunk :=
  [{ choices := [{ delta := { content := some "a" } }] },
   { choices := [{ delta := { content := some "b" }, finishReason := some "stop" }] },
   { usage := some {} }]

theorem textWithFinish_wellFormed : WellFormed textWithFinish :=
  ⟨⟨rfl,rfl,.inr ⟨_,rfl,rfl,rfl⟩⟩,trivial⟩

theorem textWithFinish_loses_text : WellFormed textWithFinish ∧ ¬ NothingLost textWithFinish (claudeEvents 0 textWithFinish) :=
  ⟨textWithFinish_wellFormed,fun h => absurd h.text (by decide +kernel)⟩

end NewApi.Relay

import NewApi.Relay.ResponsesItems

/-! The state of the conversion into Responses events by its output items: what one part does to them, and what the events
of a whole stream tell of them. -/
namespace NewApi.Relay
open List Option GoStrings Keyed Pieces

structure SeenItem where
  index : Nat
  id : String
  name : String
  words : String
  done : Bool

def SeenItem.hear (item : SeenItem) (p : Part) : SeenItem :=
  { item with id := (p.givenID.filter (· ≠ "")).getD item.id, name := (p.givenName.filter (· ≠ "")).getD item.name
              words := item.words++p.words }

theorem getLast_given {α : Type*} (f : α → Option String) (parts : List α) (p : α) (base : String) :
    ((((parts++[p]).filterMap f).filter (· ≠ "")).getLast?).getD base =
      ((f p).filter (· ≠ "")).getD (((((parts.filterMap f).filter (· ≠ "")).getLast?)).getD base) := by
  rw [filterMap_append,filter_append,getLast?_append]
  cases h : f p with
  | none => simp [h]
  | some x => by_cases hx : x="" <;> simp [h,hx,Option.filter_some]

theorem itemID_concat (id : String) (parts : List Part) (p : Part) (ref : OutputRef) : itemID id (parts++[p]) ref =
    (p.givenID.filter (· ≠ "")).getD (itemID id parts ref) := getLast_given _ _ _ _

theorem itemName_concat (parts : List Part) (p : Part) : itemName (parts++[p]) =
    (p.givenName.filter (· ≠ "")).getD (itemName parts) := getLast_given _ _ _ _

theorem itemID_single (id : String) (p : Part) (ref : OutputRef) :
    itemID id [p] ref=(p.givenID.filter (· ≠ "")).getD (baseID id ref) := itemID_concat id [] p ref

theorem itemName_single (p : Part) : itemName [p]=(p.givenName.filter (· ≠ "")).getD "" := itemName_concat [] p

def toldItem (id : String) (parts : List Part) (ended : Bool) (ref : OutputRef) : SeenItem :=
  { index := indexOf ref parts, id := itemID id (partsAbout ref parts) ref, name := itemName (partsAbout ref parts)
    words := said Part.words (partsAbout ref parts), done := ended }

namespace ChatToResponsesStreamState

def viewTool (tool : ChatToResponsesStreamTool) : SeenItem :=
  ⟨tool.outputIndex,tool.id,tool.name,tool.arguments,tool.done⟩

def view (s : ChatToResponsesStreamState) : OutputRef → Option SeenItem
  | .message => if s.textStarted then some ⟨s.textOutputIndex,s.messageID,"",s.text,s.textDone⟩ else none
  | .reasoning => if s.reasoningStarted then some ⟨s.reasoningIndex,s.reasoningID,"",s.reasoning,s.reasoningDone⟩ else none
  | .tool k => (lookup (·.chatIndex) k s.toolsByIndex).map viewTool

structure Tidy (s : ChatToResponsesStreamState) : Prop where
  unique : Keyed.Unique (·.chatIndex) s.toolsByIndex
  untold : s.textStarted=false → s.text="" ∧ s.textDone=false
  unthought : s.reasoningStarted=false → s.reasoning="" ∧ s.reasoningDone=false

def tell (s : ChatToResponsesStreamState) : Part → ChatToResponsesStreamState×List ResponsesStreamResponse
  | .text delta => s.appendTextDelta delta
  | .reasoning delta => s.appendReasoningDelta delta
  | .tool call => s.appendToolCallDelta call

def opened (s : ChatToResponsesStreamState) (p : Part) : SeenItem :=
  (s.view p.ref).getD
    { index := s.nextOutputIndex, id := itemID s.id [p] p.ref, name := itemName [p], words := "", done := false }

/-- One part opens its item if it has to, and the item hears it; nothing else changes. -/
structure Tells (s : ChatToResponsesStreamState) (p : Part) (s' : ChatToResponsesStreamState)
    (events : List ResponsesStreamResponse) : Prop where
  view : ∀ ref, s'.view ref=if ref=p.ref then some ((s.opened p).hear p) else s.view ref
  order : s'.outputOrder=if (s.view p.ref).isSome then s.outputOrder else s.outputOrder++[p.ref]
  next : s'.nextOutputIndex=if (s.view p.ref).isSome then s.nextOutputIndex else s.nextOutputIndex+1
  events : events=(if (s.view p.ref).isSome then [] else [adding (s.opened p).index (s.opened p).id (s.opened p).name p.ref]) ++
    if p.silent then [] else [{ type := p.ref.deltaType, outputIndex := some (s.opened p).index
                                itemID := ((s.opened p).hear p).id, delta := p.words }]
  tidy : s'.Tidy
  named : s'.id=s.id
  ending : s'.status=s.status ∧ s'.incompleteDetails=s.incompleteDetails
  going : s'.sentCreated=s.sentCreated ∧ s'.finalized=s.finalized

section Parts
variable {s : ChatToResponsesStreamState}

theorem tells_text (h : s.Tidy) (d : String) : s.Tells (.text d) (s.appendTextDelta d).1 (s.appendTextDelta d).2 := by
  cases hstarted : s.textStarted with
  | true =>
    have htext : s.appendTextDelta d=({ s with text := s.text++d },
        [{ type := .outputTextDelta, outputIndex := some s.textOutputIndex, delta := d, itemID := s.messageID }]) := by
      rw [appendTextDelta,if_pos hstarted]
      rfl
    have hview : s.view .message=some ⟨s.textOutputIndex,s.messageID,"",s.text,s.textDone⟩ := if_pos hstarted
    rw [htext]
    refine ⟨fun ref => ?_,?_,?_,?_,⟨h.unique,fun hnot => ?_,h.unthought⟩,rfl,⟨rfl,rfl⟩,⟨rfl,rfl⟩⟩
    · cases ref with
      | message => simp [view,opened,hstarted,SeenItem.hear,messageID]
      | reasoning | tool => simp [view,reasoningID]
    · simp [hview]
    · simp [hview]
    · simp [hview,opened,SeenItem.hear,OutputRef.deltaType]
    · rw [hstarted] at hnot
      cases hnot
  | false =>
    obtain ⟨hempty,hdone⟩ := h.untold hstarted
    have htext : s.appendTextDelta d =
        ({ s with nextOutputIndex := s.nextOutputIndex+1, outputOrder := s.outputOrder++[.message], textStarted := true
                  textOutputIndex := s.nextOutputIndex, text := s.text++d },
          [adding s.nextOutputIndex s.messageID "" .message,
            { type := .outputTextDelta, outputIndex := some s.nextOutputIndex, delta := d, itemID := s.messageID }]) := by
      rw [appendTextDelta,if_neg (by simp [hstarted])]
      rfl
    have hview : s.view .message=none := if_neg (by simp [hstarted])
    rw [htext]
    refine ⟨fun ref => ?_,?_,?_,?_,⟨h.unique,(by simp),h.unthought⟩,rfl,⟨rfl,rfl⟩,⟨rfl,rfl⟩⟩
    · cases ref with
      | message =>
        simp [view,opened,hstarted,SeenItem.hear,messageID,itemID_single,itemName_single,baseID,hempty,hdone]
      | reasoning | tool => simp [view,reasoningID]
    · simp [hview]
    · simp [hview]
    · simp [hview,opened,SeenItem.hear,OutputRef.deltaType,itemID_single,itemName_single,baseID,messageID]

theorem tells_reasoning (h : s.Tidy) (d : String) :
    s.Tells (.reasoning d) (s.appendReasoningDelta d).1 (s.appendReasoningDelta d).2 := by
  cases hstarted : s.reasoningStarted with
  | true =>
    have hreasoning : s.appendReasoningDelta d=({ s with reasoning := s.reasoning++d },
        [{ type := .reasoningSummaryDelta, outputIndex := some s.reasoningIndex, delta := d, itemID := s.reasoningID }]) := by
      rw [appendReasoningDelta,if_pos hstarted]
      rfl
    have hview : s.view .reasoning=some ⟨s.reasoningIndex,s.reasoningID,"",s.reasoning,s.reasoningDone⟩ := if_pos hstarted
    rw [hreasoning]
    refine ⟨fun ref => ?_,?_,?_,?_,⟨h.unique,h.untold,fun hnot => ?_⟩,rfl,⟨rfl,rfl⟩,⟨rfl,rfl⟩⟩
    · cases ref with
      | reasoning => simp [view,opened,hstarted,SeenItem.hear,reasoningID]
      | message | tool => simp [view,messageID]
    · simp [hview]
    · simp [hview]
    · simp [hview,opened,SeenItem.hear,OutputRef.deltaType]
    · rw [hstarted] at hnot
      cases hnot
  | false =>
    obtain ⟨hempty,hdone⟩ := h.unthought hstarted
    have hreasoning : s.appendReasoningDelta d =
        ({ s with nextOutputIndex := s.nextOutputIndex+1, outputOrder := s.outputOrder++[.reasoning]
                  reasoningStarted := true, reasoningIndex := s.nextOutputIndex, reasoning := s.reasoning++d },
          [adding s.nextOutputIndex s.reasoningID "" .reasoning,
            { type := .reasoningSummaryDelta, outputIndex := some s.nextOutputIndex, delta := d, itemID := s.reasoningID }]) := by
      rw [appendReasoningDelta,if_neg (by simp [hstarted])]
      rfl
    have hview : s.view .reasoning=none := if_neg (by simp [hstarted])
    rw [hreasoning]
    refine ⟨fun ref => ?_,?_,?_,?_,⟨h.unique,h.untold,(by simp)⟩,rfl,⟨rfl,rfl⟩,⟨rfl,rfl⟩⟩
    · cases ref with
      | reasoning =>
        simp [view,opened,hstarted,SeenItem.hear,reasoningID,itemID_single,itemName_single,baseID,hempty,hdone]
      | message | tool => simp [view,messageID]
    · simp [hview]
    · simp [hview]
    · simp [hview,opened,SeenItem.hear,OutputRef.deltaType,itemID_single,itemName_single,baseID,reasoningID]

def calledTool (tool : ChatToResponsesStreamTool) (call : ToolCallResponse) : ChatToResponsesStreamTool :=
  { tool with id := if trimSpace call.id="" then tool.id else trimSpace call.id
              name := if trimSpace call.name="" then tool.name else trimSpace call.name
              arguments := tool.arguments++call.arguments }

theorem calledTool_index (tool : ChatToResponsesStreamTool) (call : ToolCallResponse) :
    (calledTool tool call).chatIndex=tool.chatIndex := by
  rw [calledTool]

theorem viewTool_called (tool : ChatToResponsesStreamTool) (call : ToolCallResponse) :
    viewTool (calledTool tool call)=(viewTool tool).hear (.tool call) := by
  have hgiven : ∀ given old : String, (if given="" then old else given)=((some given).filter (· ≠ "")).getD old := by
    intro given old
    by_cases h : given="" <;> simp [h,Option.filter_some]
  simp only [viewTool,calledTool,SeenItem.hear,Part.givenID,Part.givenName,Part.words,hgiven]

variable {rows : List ChatToResponsesStreamTool} {tool : ChatToResponsesStreamTool} {k : Nat}

theorem lookup_called (h : lookup (·.chatIndex) k rows=some tool) (call : ToolCallResponse) (j : Nat) :
    lookup (·.chatIndex) j (modify (·.chatIndex) tool.chatIndex (fun _ => calledTool tool call) rows) =
      if j=k then some (calledTool tool call) else lookup (·.chatIndex) j rows := by
  have hk : tool.chatIndex=k := (lookup_some h).2
  have hsame : ∀ r : ChatToResponsesStreamTool, r.chatIndex=tool.chatIndex →
    (calledTool tool call).chatIndex=tool.chatIndex := fun _ _ => calledTool_index tool call
  rw [lookup_modify_of _ _ _ _ hsame,hk,h]
  rfl

theorem unique_called (h : Keyed.Unique (·.chatIndex) rows) (tool : ChatToResponsesStreamTool) (call : ToolCallResponse) :
    Keyed.Unique (·.chatIndex) (modify (·.chatIndex) tool.chatIndex (fun _ => calledTool tool call) rows) := by
  have hsame : ∀ r : ChatToResponsesStreamTool, r.chatIndex=tool.chatIndex →
    (calledTool tool call).chatIndex=tool.chatIndex := fun _ _ => calledTool_index tool call
  rw [Keyed.Unique,map_key_modify_of _ _ _ hsame]
  exact h

def newTool (s : ChatToResponsesStreamState) (call : ToolCallResponse) : ChatToResponsesStreamTool :=
  { chatIndex := call.index.getD 0, outputIndex := s.nextOutputIndex
    id := if trimSpace call.id="" then s.id++"_call_" ++ toString (call.index.getD 0) else trimSpace call.id
    name := trimSpace call.name }

theorem viewTool_new (s : ChatToResponsesStreamState) (call : ToolCallResponse) : viewTool (s.newTool call) =
    { index := s.nextOutputIndex, id := itemID s.id [.tool call] (.tool (call.index.getD 0))
      name := itemName [.tool call], words := "", done := false } := by
  rw [itemID_single,itemName_single,Part.givenID,Part.givenName,Option.filter_some,Option.filter_some,baseID,viewTool,newTool]
  by_cases hid : trimSpace call.id="" <;> by_cases hname : trimSpace call.name="" <;> simp [hid,hname]

theorem tells_tool (h : s.Tidy) (call : ToolCallResponse) :
    s.Tells (.tool call) (s.appendToolCallDelta call).1 (s.appendToolCallDelta call).2 := by
  have href : (Part.tool call).ref=.tool (call.index.getD 0) := rfl
  cases hlookup : lookup (·.chatIndex) (call.index.getD 0) s.toolsByIndex with
  | some tool =>
    have hcall : s.appendToolCallDelta call =
        ({ s with toolsByIndex := modify (·.chatIndex) tool.chatIndex (fun _ => calledTool tool call) s.toolsByIndex },
          if call.arguments="" then [] else [{ type := .functionArgsDelta, outputIndex := some tool.outputIndex
                                               itemID := (calledTool tool call).id, delta := call.arguments }]) := by
      rw [appendToolCallDelta,ensureTool,hlookup]
      rfl
    have hview : s.view (.tool (call.index.getD 0))=some (viewTool tool) := by
      rw [view,hlookup]
      rfl
    have hopened : s.opened (.tool call)=viewTool tool := by
      rw [opened,href,hview]
      rfl
    rw [hcall]
    refine ⟨fun ref => ?_,?_,?_,?_,⟨unique_called h.unique tool call,h.untold,h.unthought⟩,rfl,⟨rfl,rfl⟩,⟨rfl,rfl⟩⟩
    · rw [hopened,href]
      cases ref with
      | message | reasoning => simp [view,messageID,reasoningID]
      | tool j =>
        rw [view,lookup_called hlookup,← viewTool_called,view]
        simp only [OutputRef.tool.injEq]
        split <;> rfl
    · simp [href,hview]
    · simp [href,hview]
    · rw [href,hview,hopened,← viewTool_called]
      simp only [Part.silent,decide_eq_true_eq,Option.isSome_some,if_true,nil_append,viewTool]
      rfl
  | none =>
    have hadded : lookup (·.chatIndex) (call.index.getD 0) (s.toolsByIndex++[s.newTool call])=some (s.newTool call) := by
      rw [Keyed.lookup_append,hlookup,Keyed.lookup_cons]
      exact if_pos rfl
    have hcall : s.appendToolCallDelta call =
        ({ s with nextOutputIndex := s.nextOutputIndex+1, outputOrder := s.outputOrder++[.tool (call.index.getD 0)]
                  toolsByIndex := modify (·.chatIndex) (s.newTool call).chatIndex (fun _ => calledTool (s.newTool call) call)
                    (s.toolsByIndex++[s.newTool call]) },
          [adding s.nextOutputIndex (s.newTool call).id (s.newTool call).name (.tool (call.index.getD 0))] ++
          if call.arguments="" then [] else [{ type := .functionArgsDelta, outputIndex := some s.nextOutputIndex
                                               itemID := (calledTool (s.newTool call) call).id, delta := call.arguments }]) := by
      rw [appendToolCallDelta,ensureTool,hlookup]
      rfl
    have hview : s.view (.tool (call.index.getD 0))=none := by
      rw [view,hlookup]
      rfl
    have hopened : s.opened (.tool call)=viewTool (s.newTool call) := by
      rw [opened,href,hview,viewTool_new]
      rfl
    have hunique : Keyed.Unique (·.chatIndex) (s.toolsByIndex++[s.newTool call]) := h.unique.append hlookup
    rw [hcall]
    refine ⟨fun ref => ?_,?_,?_,?_,⟨unique_called hunique _ call,h.untold,h.unthought⟩,rfl,⟨rfl,rfl⟩,⟨rfl,rfl⟩⟩
    · rw [hopened,href]
      cases ref with
      | message | reasoning => simp [view,messageID,reasoningID]
      | tool j =>
        rw [view,lookup_called hadded,← viewTool_called,view]
        simp only [OutputRef.tool.injEq]
        split
        · rfl
        next hj =>
          have hk : ¬ (s.newTool call).chatIndex=j := Ne.symm hj
          rw [Keyed.lookup_append,Keyed.lookup_cons,if_neg hk,Keyed.lookup_nil,Option.or_none]
    · simp [href,hview]
    · simp [href,hview]
    · rw [href,hview,hopened,← viewTool_called]
      simp only [Part.silent,decide_eq_true_eq,Option.isSome_none,Bool.false_eq_true,if_false,viewTool]
      rfl

theorem tell_tells (h : s.Tidy) (p : Part) : s.Tells p (s.tell p).1 (s.tell p).2 := by
  cases p with
  | text d => exact tells_text h d
  | reasoning d => exact tells_reasoning h d
  | tool call => exact tells_tool h call

end Parts

structure Told (id : String) (parts : List Part) (ended : Bool) (s : ChatToResponsesStreamState) : Prop where
  named : s.id=id
  view : ∀ ref, s.view ref=if ref∈mentioned parts then some (toldItem id parts ended ref) else none
  order : s.outputOrder=mentioned parts
  next : s.nextOutputIndex=(mentioned parts).length
  tidy : s.Tidy
  going : s.sentCreated=true ∧ s.finalized=false

section Told
variable {s : ChatToResponsesStreamState} {id : String} {parts : List Part}

theorem Told.rated {ended : Bool} (h : s.Told id parts ended) (status : String) (details : Option String) :
    ({ s with status := status, incompleteDetails := details } : ChatToResponsesStreamState).Told id parts ended := by
  obtain ⟨hnamed,hview,horder,hnext,⟨hunique,huntold,hunthought⟩,hgoing⟩ := h
  refine ⟨hnamed,fun ref => ?_,horder,hnext,⟨hunique,huntold,hunthought⟩,hgoing⟩
  rw [← hview ref]
  cases ref <;> rfl

theorem indexOf_concat {ref : OutputRef} (h : ref∈mentioned parts) (p : Part) : indexOf ref (parts++[p])=indexOf ref parts := by
  rw [indexOf,mentioned_concat]
  split
  · rfl
  · exact idxOf_append_of_mem h

theorem indexOf_new {p : Part} (h : p.ref∉mentioned parts) : indexOf p.ref (parts++[p])=(mentioned parts).length := by
  rw [indexOf,mentioned_concat,if_neg h,idxOf_append_of_notMem h,idxOf_cons_self]
  rfl

theorem opened_old {p : Part} (h : s.Told id parts false) (hold : p.ref∈mentioned parts) :
    s.opened p=toldItem id parts false p.ref := by
  rw [opened,h.view,if_pos hold]
  rfl

theorem opened_new {p : Part} (h : s.Told id parts false) (hnew : p.ref∉mentioned parts) : s.opened p =
    { index := (mentioned parts).length, id := itemID id [p] p.ref, name := itemName [p], words := "", done := false } := by
  rw [opened,h.view,if_neg hnew,h.next,h.named]
  rfl

theorem getD_getD {α : Type*} (o : Option α) (a : α) : o.getD (o.getD a)=o.getD a := by
  cases o <;> rfl

theorem heard (h : s.Told id parts false) (p : Part) : (s.opened p).hear p=toldItem id (parts++[p]) false p.ref := by
  by_cases hold : p.ref∈mentioned parts
  · rw [opened_old h hold,SeenItem.hear,toldItem,toldItem,indexOf_concat hold,partsAbout_concat,if_pos rfl,itemID_concat,
      itemName_concat,said_append]
    simp
  · rw [opened_new h hold,SeenItem.hear,toldItem,indexOf_new hold,partsAbout_concat,if_pos rfl,partsAbout_new hold,
      nil_append,itemID_single,itemName_single,getD_getD,getD_getD]
    simp

theorem Told.snoc (h : s.Told id parts false) (p : Part) : (s.tell p).1.Told id (parts++[p]) false ∧
    (s.tell p).2=partEvents id parts p (indexOf p.ref (parts++[p])) := by
  have htells := tell_tells h.tidy p
  have hsome : (s.view p.ref).isSome=decide (p.ref∈mentioned parts) := by
    rw [h.view]
    split <;> simp [*]
  refine ⟨⟨htells.named.trans h.named,fun ref => ?_,?_,?_,htells.tidy,?_⟩,?_⟩
  · rw [htells.view,heard h,h.view]
    by_cases href : ref=p.ref
    · have hmem : p.ref∈mentioned (parts++[p]) := mem_mentioned.mpr ⟨p,by simp,rfl⟩
      rw [if_pos href,href,if_pos hmem]
    · have hmem : ref∈mentioned (parts++[p]) ↔ ref∈mentioned parts := by
        rw [mentioned_concat]
        split <;> simp [href]
      rw [if_neg href,if_congr hmem rfl rfl]
      split
      next hold => rw [toldItem,toldItem,indexOf_concat hold,partsAbout_concat,if_neg (Ne.symm href)]
      · rfl
  · rw [htells.order,hsome,h.order,mentioned_concat]
    simp
  · rw [htells.next,hsome,h.next,mentioned_concat]
    by_cases hold : p.ref∈mentioned parts <;> simp [hold]
  · rw [htells.going.1,htells.going.2]
    exact h.going
  · rw [htells.events,hsome,partEvents,deltaEvent,heard h]
    by_cases hold : p.ref∈mentioned parts
    · simp [hold,opened_old h hold,indexOf_concat hold,toldItem,partsAbout_concat]
    · simp [hold,opened_new h hold,indexOf_new hold,toldItem,partsAbout_concat,addedEvent]

end Told

section Done
variable {s : ChatToResponsesStreamState} {id : String} {parts : List Part} {ended : Bool} {ref : OutputRef}

theorem sortedTools_perm (s : ChatToResponsesStreamState) : s.sortedTools.Perm s.toolsByIndex :=
  mergeSort_perm _ _

def doneRefs (s : ChatToResponsesStreamState) : List OutputRef :=
  .message::.reasoning::s.sortedTools.map fun tool => .tool tool.chatIndex

def closing (s : ChatToResponsesStreamState) (ref : OutputRef) : List ResponsesStreamResponse :=
  match s.view ref with
  | none => []
  | some item => if item.done then [] else ending item.index item.id item.name item.words s.outputStatus ref

theorem nodup_doneRefs (h : s.Tidy) : s.doneRefs.Nodup := by
  have hkeys : (s.sortedTools.map (·.chatIndex)).Nodup := (s.sortedTools_perm.map _).nodup_iff.mpr h.unique
  have hrefs : (s.sortedTools.map fun tool => OutputRef.tool tool.chatIndex).Nodup := by
    have := hkeys.map (f := OutputRef.tool) fun a b hab => OutputRef.tool.inj hab
    rwa [List.map_map] at this
  refine nodup_cons.mpr ⟨?_,nodup_cons.mpr ⟨?_,hrefs⟩⟩
  · simp
  · simp

theorem mem_doneRefs (h : s.view ref≠none) : ref∈s.doneRefs := by
  cases ref with
  | message | reasoning => simp [doneRefs]
  | tool k =>
    rw [view,Option.ne_none_iff_isSome,Option.isSome_map,lookup_isSome] at h
    obtain ⟨tool,htool,rfl⟩ := h
    simp only [doneRefs,mem_cons,List.mem_map]
    exact .inr (.inr ⟨tool,s.sortedTools_perm.mem_iff.mpr htool,rfl⟩)

theorem doneDeltaEvents_events (h : s.Tidy) : s.doneDeltaEvents.2=s.doneRefs.flatMap s.closing := by
  have htext : (if s.textStarted && !s.textDone then
      [{ type := .outputTextDone, outputIndex := some s.textOutputIndex, itemID := s.messageID },
       { type := .outputItemDone, outputIndex := some s.textOutputIndex, item := some (s.messageOutput s.outputStatus) }]
      else [])=s.closing .message := by
    rw [closing,view]
    cases s.textStarted <;> cases s.textDone <;> rfl
  have hreasoning : (if s.reasoningStarted && !s.reasoningDone then
      [{ type := .reasoningSummaryDone, outputIndex := some s.reasoningIndex, itemID := s.reasoningID
         part := some s.reasoning },
       { type := .outputItemDone, outputIndex := some s.reasoningIndex, item := some (s.reasoningOutput s.outputStatus) }]
      else [])=s.closing .reasoning := by
    rw [closing,view]
    cases s.reasoningStarted <;> cases s.reasoningDone <;> rfl
  rw [doneDeltaEvents]
  dsimp only
  rw [htext,hreasoning,doneRefs,flatMap_cons,flatMap_cons,flatMap_map,append_assoc]
  congr 2
  refine flatMap_congr fun tool htool => ?_
  rw [closing,view,lookup_of_mem h.unique (s.sortedTools_perm.mem_iff.mp htool)]
  rfl

theorem view_done (s : ChatToResponsesStreamState) (ref : OutputRef) :
    s.doneDeltaEvents.1.view ref=(s.view ref).map fun item => { item with done := true } := by
  cases ref with
  | message =>
    change (if s.textStarted then some (SeenItem.mk s.textOutputIndex s.messageID "" s.text (s.textDone || s.textStarted))
      else none)=_
    rw [view]
    cases s.textStarted
    · rfl
    · rw [Bool.or_true]
      rfl
  | reasoning =>
    change (if s.reasoningStarted then
      some (SeenItem.mk s.reasoningIndex s.reasoningID "" s.reasoning (s.reasoningDone || s.reasoningStarted)) else none)=_
    rw [view]
    cases s.reasoningStarted
    · rfl
    · rw [Bool.or_true]
      rfl
  | tool k =>
    have hlookup : lookup (·.chatIndex) k s.doneDeltaEvents.1.toolsByIndex =
        (lookup (·.chatIndex) k s.toolsByIndex).map fun tool => { tool with done := true } := lookup_map _ k _ fun _ => rfl
    rw [view,hlookup,view,Option.map_map,Option.map_map]
    rfl

theorem Told.done (h : s.Told id parts ended) : s.doneDeltaEvents.1.Told id parts true := by
  have hunique : Keyed.Unique (·.chatIndex) s.doneDeltaEvents.1.toolsByIndex := by
    have hkeys : (s.doneDeltaEvents.1.toolsByIndex.map (·.chatIndex))=s.toolsByIndex.map (·.chatIndex) := List.map_map
    rw [Keyed.Unique,hkeys]
    exact h.tidy.unique
  have hopen : ∀ started done : Bool, (started=false → done=false) → started=false → (done || started)=false := by
    rintro started done hdone rfl
    rw [hdone rfl]
    rfl
  refine ⟨h.named,fun ref => ?_,h.order,h.next,⟨hunique,fun hs => ?_,fun hs => ?_⟩,h.going⟩
  · rw [view_done,h.view]
    split <;> rfl
  · exact ⟨(h.tidy.untold hs).1,hopen _ _ (fun hs => (h.tidy.untold hs).2) hs⟩
  · exact ⟨(h.tidy.unthought hs).1,hopen _ _ (fun hs => (h.tidy.unthought hs).2) hs⟩

theorem Told.closed (h : s.Told id parts true) : s.doneDeltaEvents.2=[] := by
  rw [doneDeltaEvents_events h.tidy]
  refine flatMap_eq_nil_iff.mpr fun ref _ => ?_
  rw [closing,h.view]
  split
  · rfl
  next item hitem =>
    split at hitem
    · cases hitem
      rfl
    · cases hitem

theorem Told.closing (h : s.Told id parts false) : s.doneDeltaEvents.2 =
    (s.doneRefs.filter (·∈mentioned parts)).flatMap fun ref => doneEvents id s.outputStatus parts (indexOf ref parts) ref := by
  rw [doneDeltaEvents_events h.tidy]
  generalize s.doneRefs=refs
  induction refs with
  | nil => rfl
  | cons ref refs ih =>
    rw [flatMap_cons,ih,ChatToResponsesStreamState.closing,h.view]
    by_cases href : ref∈mentioned parts
    · rw [if_pos href,filter_cons_of_pos (by simpa using href),flatMap_cons]
      rfl
    · rw [if_neg href,filter_cons_of_neg (by simpa using href)]
      rfl

theorem Told.refs (h : s.Told id parts ended) : (s.doneRefs.filter (·∈mentioned parts)).Perm (mentioned parts) := by
  refine (perm_ext_iff_of_nodup ((nodup_doneRefs h.tidy).filter _) (nodup_mentioned parts)).mpr fun ref => ?_
  rw [mem_filter,decide_eq_true_eq,and_iff_right_iff_imp]
  intro href
  refine mem_doneRefs ?_
  rw [h.view,if_pos href]
  exact Option.some_ne_none _

theorem refOutput_view {item : SeenItem} (h : s.view ref=some item) (status : String) :
    s.refOutput status ref=some (outputOf item.id item.name item.words status ref) := by
  cases ref with
  | message | reasoning =>
    rw [view] at h
    split at h
    · cases h
      rfl
    · cases h
  | tool k =>
    rw [view] at h
    obtain ⟨tool,htool,rfl⟩ := Option.map_eq_some_iff.mp h
    rw [refOutput,htool]
    rfl

theorem Told.output (h : s.Told id parts ended) (status : String) : s.outputOrder.filterMap (s.refOutput status) =
    (mentioned parts).map fun ref => itemOf id (partsAbout ref parts) status ref := by
  rw [h.order,← filterMap_eq_map]
  refine filterMap_congr fun ref href => ?_
  have hview := h.view ref
  rw [if_pos href] at hview
  rw [refOutput_view hview]
  rfl

end Done

end ChatToResponsesStreamState

open ChatToResponsesStreamState

def Chunk.ended (c : Chunk) : Bool := c.choices.any fun choice => !isBlank (choice.finishReason.getD "")

/-- At most one choice a chunk, and nothing with payload after a finish reason. -/
def EndsOnce : List Chunk → Prop
  | [] => True
  | c::cs => c.choices.length≤1 ∧ (c.ended=true → ∀ c'∈cs, c'.silent) ∧ EndsOnce cs

def finishReasons (chunks : List Chunk) : List String :=
  (chunks.flatMap fun c => c.choices.map (·.finishReason.getD "")).filter (!isBlank ·)

def endOf (reason : Option String) : String×Option String :=
  (reason.map responsesStatusFromChatFinishReason).getD ("completed",none)

def closedBy (id : String) (parts : List Part) : List String → Nat → OutputRef → List ResponsesStreamResponse
  | [] => fun _ _ => []
  | reason::_ => doneEvents id (endOf (some reason)).1 parts

/-- The state and the events once the parts and the finish reasons came. -/
structure Runs (id : String) (parts : List Part) (reasons : List String) (s : ChatToResponsesStreamState)
    (events : List ResponsesStreamResponse) : Prop where
  told : s.Told id parts !reasons.isEmpty
  telling : Telling id parts (closedBy id parts reasons) events
  ending : (s.status,s.incompleteDetails)=endOf reasons.getLast?

section Runs
variable {id : String} {parts : List Part} {reasons : List String} {s : ChatToResponsesStreamState}
variable {events : List ResponsesStreamResponse}

theorem Runs.tell (h : Runs id parts [] s events) (p : Part) : Runs id (parts++[p]) [] (s.tell p).1 (events++(s.tell p).2) := by
  obtain ⟨htold,hevents⟩ := h.told.snoc p
  obtain ⟨hstatus,hdetails⟩ := (tell_tells h.told.tidy p).ending
  refine ⟨htold,?_,?_⟩
  · rw [hevents]
    exact h.telling.snoc p
  · rw [hstatus,hdetails]
    exact h.ending

theorem Runs.calls (calls : List ToolCallResponse) : ∀ {parts s events}, Runs id parts [] s events →
    Runs id (parts++calls.map .tool) [] (s.appendToolCalls calls).1 (events++(s.appendToolCalls calls).2) := by
  induction calls with
  | nil =>
    intro parts s events h
    rw [map_nil,append_nil]
    exact (append_nil events).symm ▸ h
  | cons call calls ih =>
    intro parts s events h
    have hrest := ih (h.tell (.tool call))
    rw [append_assoc,append_assoc] at hrest
    exact hrest

theorem Runs.payload (h : Runs id parts [] s events) (d : ChunkDelta) :
    Runs id (parts++d.parts) [] (s.appendPayload d).1 (events++(s.appendPayload d).2) := by
  have hpart : ∀ {parts s events} (text : String) (part : String → Part), Runs id parts [] s events →
      ∀ t : ChatToResponsesStreamState×List ResponsesStreamResponse,
      t=(if text≠"" then s.tell (part text) else (s,[])) →
      Runs id (parts++if text≠"" then [part text] else []) [] t.1 (events++t.2) := by
    rintro parts s events text part h t rfl
    split
    · exact h.tell (part text)
    · rw [append_nil,append_nil]
      exact h
  have hreasoning := hpart d.getReasoningContent .reasoning h _ rfl
  have htext := hpart d.getContentString .text hreasoning _ rfl
  have hcalls := htext.calls d.calls
  rw [append_assoc parts,append_assoc parts,append_assoc events,append_assoc events] at hcalls
  exact hcalls

theorem outputStatus_eq (h : (s.status,s.incompleteDetails)=endOf reasons.getLast?) :
    s.outputStatus=(endOf reasons.getLast?).1 := by
  have hstatus : (endOf reasons.getLast?).1="completed" ∨ (endOf reasons.getLast?).1="incomplete" := by
    cases reasons.getLast? with
    | none => exact .inl rfl
    | some reason =>
      rw [endOf,Option.map_some,Option.getD_some,responsesStatusFromChatFinishReason]
      split <;> simp
  rw [outputStatus,← h] at *
  obtain hstatus | hstatus := hstatus <;> rw [show s.status=_ from hstatus] <;> rfl

theorem rating_done (s : ChatToResponsesStreamState) :
    (s.doneDeltaEvents.1.status,s.doneDeltaEvents.1.incompleteDetails)=(s.status,s.incompleteDetails) := rfl

/-- The first end closes the items, and a later one adds nothing. -/
theorem telling_ended (htold : s.Told id parts !reasons.isEmpty) (h : Telling id parts (closedBy id parts reasons) events) :
    Telling id parts (doneEvents id (if reasons=[] then s.outputStatus else (endOf reasons.head?).1) parts)
      (events++s.doneDeltaEvents.2) := by
  cases reasons with
  | nil =>
    rw [if_pos rfl,htold.closing]
    refine h.finish htold.refs fun i ref e he => ?_
    obtain rfl | rfl := mem_pair.mp he
    · cases ref <;> exact ⟨rfl,rfl,rfl⟩
    · exact ⟨rfl,rfl,rfl⟩
  | cons first reasons =>
    rw [if_neg (cons_ne_nil first reasons),htold.closed,append_nil]
    exact h

theorem Runs.finish (h : Runs id parts reasons s events) (reason : String) :
    Runs id parts (reasons++[reason]) (s.applyFinishReason reason).doneDeltaEvents.1
      (events++(s.applyFinishReason reason).doneDeltaEvents.2) := by
  have htold : (s.applyFinishReason reason).Told id parts !reasons.isEmpty := by
    rw [applyFinishReason]
    exact h.told.rated _ _
  have hending : ((s.applyFinishReason reason).status,(s.applyFinishReason reason).incompleteDetails) =
      endOf (reasons++[reason]).getLast? := by
    rw [getLast?_concat,endOf,Option.map_some,Option.getD_some,applyFinishReason]
  have hdone := htold.done
  refine ⟨?_,?_,(rating_done _).trans hending⟩
  · cases reasons <;> exact hdone
  have hended := telling_ended htold h.telling
  cases reasons with
  | nil =>
    rw [if_pos rfl,outputStatus_eq hending] at hended
    exact hended
  | cons first reasons =>
    rw [if_neg (cons_ne_nil first reasons)] at hended
    exact hended

theorem Runs.metadata (h : Runs id parts reasons s events) (c : Chunk) (hid : id="" → c.id="") :
    Runs id parts reasons (s.applyChunkMetadata c) events := by
  obtain ⟨⟨hnamed,hview,horder,hnext,⟨hunique,huntold,hunthought⟩,hgoing⟩,htelling,hending⟩ := h
  have hsame : (s.applyChunkMetadata c).id=s.id := by
    change (if s.id="" then c.id else s.id)=s.id
    split
    next hempty => rw [hid (hnamed.symm.trans hempty),hempty]
    · rfl
  refine ⟨⟨hsame.trans hnamed,fun ref => ?_,horder,hnext,⟨hunique,huntold,hunthought⟩,hgoing⟩,htelling,hending⟩
  rw [← hview ref]
  cases ref with
  | message =>
    rw [view,messageID,hsame]
    rfl
  | reasoning =>
    rw [view,reasoningID,hsame]
    rfl
  | tool k => rfl

theorem appendPayload_silent {d : ChunkDelta} (h : d.parts=[]) (s : ChatToResponsesStreamState) :
    s.appendPayload d=(s,[]) := by
  obtain ⟨hreasoning,hcontent,hcalls⟩ : d.getReasoningContent="" ∧ d.getContentString="" ∧ d.calls=[] := by
    simpa [ChunkDelta.parts] using h
  rw [appendPayload,if_neg (not_not.mpr hreasoning)]
  dsimp only
  rw [if_neg (not_not.mpr hcontent),hcalls]
  rfl

theorem Runs.choice (h : Runs id parts reasons s events) (choice : ChunkChoice) (hsilent : reasons≠[] → choice.delta.parts=[]) :
    Runs id (parts++choice.delta.parts) (reasons++[choice.finishReason.getD ""].filter (!isBlank ·))
      (s.appendChoice choice).1 (events++(s.appendChoice choice).2) := by
  have hpayload : Runs id (parts++choice.delta.parts) reasons (s.appendPayload choice.delta).1
      (events++(s.appendPayload choice.delta).2) := by
    by_cases hreasons : reasons=[]
    · subst hreasons
      exact h.payload choice.delta
    · rw [appendPayload_silent (hsilent hreasons),hsilent hreasons,append_nil,append_nil]
      exact h
  cases hfinish : isBlank (choice.finishReason.getD "") with
  | true =>
    have hchoice : s.appendChoice choice=s.appendPayload choice.delta := by
      rw [appendChoice]
      exact if_pos hfinish
    rw [hchoice,filter_singleton,hfinish,Bool.not_true,cond_false,append_nil]
    exact hpayload
  | false =>
    have hchoice : s.appendChoice choice =
        (((s.appendPayload choice.delta).1.applyFinishReason (choice.finishReason.getD "")).doneDeltaEvents.1,
          (s.appendPayload choice.delta).2 ++
            ((s.appendPayload choice.delta).1.applyFinishReason (choice.finishReason.getD "")).doneDeltaEvents.2) := by
      rw [appendChoice]
      exact if_neg (by simp [hfinish])
    have hdone := hpayload.finish (choice.finishReason.getD "")
    rw [append_assoc events] at hdone
    rw [hchoice,filter_singleton,hfinish,Bool.not_false,cond_true]
    exact hdone

theorem chunk_eq (hcreated : s.sentCreated=true) (c : Chunk) : chatCompletionsStreamChunkToResponsesEvents c s =
    (s.applyChunkMetadata c).appendChoices c.choices := by
  have hcreated' : (s.applyChunkMetadata c).sentCreated=true := hcreated
  have hsame : ({ s.applyChunkMetadata c with sentCreated := true } : ChatToResponsesStreamState) =
      s.applyChunkMetadata c := by
    rw [← hcreated']
  rw [chatCompletionsStreamChunkToResponsesEvents]
  dsimp only
  rw [if_pos hcreated',hsame]
  rfl

theorem appendChoices_one (s : ChatToResponsesStreamState) (choice : ChunkChoice) :
    s.appendChoices [choice]=s.appendChoice choice := by
  rw [appendChoices]
  generalize s.appendChoice choice=appended
  exact Prod.ext rfl (append_nil _)

theorem partsOf_cons (c : Chunk) (cs : List Chunk) : partsOf (c::cs)=c.choices.flatMap (·.delta.parts)++partsOf cs := rfl

theorem finishReasons_cons (c : Chunk) (cs : List Chunk) : finishReasons (c::cs) =
    (c.choices.map (·.finishReason.getD "")).filter (!isBlank ·)++finishReasons cs := by
  rw [finishReasons,flatMap_cons,filter_append]
  rfl

theorem Runs.chunk (h : Runs id parts reasons s events) (c : Chunk) (hid : id="" → c.id="") (hone : c.choices.length≤1)
    (hsilent : reasons≠[] → c.silent) :
    Runs id (parts++c.choices.flatMap (·.delta.parts))
      (reasons++(c.choices.map (·.finishReason.getD "")).filter (!isBlank ·))
      (chatCompletionsStreamChunkToResponsesEvents c s).1
      (events++(chatCompletionsStreamChunkToResponsesEvents c s).2) := by
  have hmeta := h.metadata c hid
  rw [chunk_eq h.told.going.1]
  cases hchoices : c.choices with
  | nil =>
    have hnone : (s.applyChunkMetadata c).appendChoices []=(s.applyChunkMetadata c,[]) := rfl
    rw [hnone,flatMap_nil,map_nil,filter_nil,append_nil,append_nil,append_nil]
    exact hmeta
  | cons choice rest =>
    rw [hchoices] at hone
    obtain rfl : rest=[] := length_eq_zero_iff.mp (Nat.le_zero.mp (Nat.le_of_succ_le_succ hone))
    rw [appendChoices_one,flatMap_singleton,map_singleton]
    refine hmeta.choice choice fun hreasons => ?_
    obtain ⟨hcontent,hreasoning,hcalls⟩ := hsilent hreasons
    rw [Chunk.content,Chunk.delta,hchoices] at hcontent
    rw [Chunk.reasoning,Chunk.delta,hchoices] at hreasoning
    rw [Chunk.calls,Chunk.delta,hchoices] at hcalls
    simp only [head?_cons,Option.map_some,Option.getD_some] at hcontent hreasoning hcalls
    simp [ChunkDelta.parts,hcontent,hreasoning,hcalls]

def terminal (reasons : List String) (final : OpenAIResponsesResponse) : ResponsesStreamResponse :=
  { type := if (endOf reasons.getLast?).1="incomplete" then .incomplete else .completed, response := some final }

/-- The response that ends the stream, by the parts and the last finish reason. -/
structure Final (id : String) (parts : List Part) (reasons : List String) (final : OpenAIResponsesResponse) : Prop where
  named : final.id=id
  status : final.status=.string (endOf reasons.getLast?).1
  details : final.incompleteDetails=(endOf reasons.getLast?).2
  output : final.output=(mentioned parts).map fun ref => itemOf id (partsAbout ref parts) (endOf reasons.getLast?).1 ref

theorem Runs.finalize (h : Runs id parts reasons s events) : ∃ items final,
    (finalizeChatCompletionsStreamToResponses s).2=items++[terminal reasons final] ∧ Final id parts reasons final ∧
      Telling id parts (doneEvents id (endOf reasons.head?).1 parts) (events++items) := by
  have hstatus := outputStatus_eq h.ending
  have hdone := h.told.done
  have hfinal : (finalizeChatCompletionsStreamToResponses s).2=s.doneDeltaEvents.2 ++
      [terminal reasons { s.doneDeltaEvents.1 with finalized := true }.finalResponse] := by
    have hs : s.status=(endOf reasons.getLast?).1 := congrArg Prod.fst h.ending
    rw [finalizeChatCompletionsStreamToResponses,if_neg (by rw [h.told.going.2]; exact Bool.false_ne_true),terminal,← hs]
    rfl
  refine ⟨_,_,hfinal,⟨hdone.named,?_,congrArg Prod.snd h.ending,?_⟩,?_⟩
  · exact congrArg RawMessage.string (congrArg Prod.fst h.ending)
  · rw [← hstatus]
    exact hdone.output s.outputStatus
  have hended := telling_ended h.told h.telling
  cases reasons with
  | nil =>
    rw [if_pos rfl,hstatus] at hended
    exact hended
  | cons first reasons =>
    rw [if_neg (cons_ne_nil first reasons)] at hended
    exact hended

theorem responsesEvents_cons (s : ChatToResponsesStreamState) (c : Chunk) (cs : List Chunk) :
    responsesEvents s (c::cs)=(chatCompletionsStreamChunkToResponsesEvents c s).2 ++
      responsesEvents (chatCompletionsStreamChunkToResponsesEvents c s).1 cs := rfl

theorem Runs.run (chunks : List Chunk) : ∀ {parts reasons s events}, Runs id parts reasons s events → EndsOnce chunks →
    (reasons≠[] → ∀ c∈chunks, c.silent) → (∀ c∈chunks, id="" → c.id="") → ∃ items final,
      responsesEvents s chunks=items++[terminal (reasons++finishReasons chunks) final] ∧
      Final id (parts++partsOf chunks) (reasons++finishReasons chunks) final ∧
      Telling id (parts++partsOf chunks) (doneEvents id (endOf (reasons++finishReasons chunks).head?).1 (parts++partsOf chunks))
        (events++items) := by
  induction chunks with
  | nil =>
    intro parts reasons s events h _ _ _
    have hnone : partsOf []=[] ∧ finishReasons []=[] := ⟨rfl,rfl⟩
    rw [hnone.1,hnone.2,append_nil,append_nil]
    exact h.finalize
  | cons c cs ih =>
    intro parts reasons s events h hends hsilent hid
    obtain ⟨hone,hafter,hends⟩ := hends
    have hchunk := h.chunk c (hid c mem_cons_self) hone fun hreasons => hsilent hreasons c mem_cons_self
    have hquiet : reasons++(c.choices.map (·.finishReason.getD "")).filter (!isBlank ·)≠[] → ∀ c'∈cs, c'.silent := by
      intro hne c' hc'
      by_cases hreasons : reasons=[]
      · refine hafter ?_ c' hc'
        rw [hreasons,nil_append] at hne
        obtain ⟨reason,hreason⟩ := exists_mem_of_ne_nil _ hne
        obtain ⟨hmem,hgiven⟩ := mem_filter.mp hreason
        obtain ⟨choice,hchoice,rfl⟩ := List.mem_map.mp hmem
        exact any_eq_true.mpr ⟨choice,hchoice,hgiven⟩
      · exact hsilent hreasons c' (mem_cons_of_mem c hc')
    obtain ⟨items,final,hevents,hfinal,htelling⟩ := ih hchunk hends hquiet fun c' hc' => hid c' (mem_cons_of_mem c hc')
    rw [partsOf_cons,finishReasons_cons,← append_assoc,← append_assoc]
    refine ⟨(chatCompletionsStreamChunkToResponsesEvents c s).2++items,final,?_,hfinal,?_⟩
    · rw [responsesEvents_cons,hevents,← append_assoc]
    · rw [← append_assoc]
      exact htelling

end Runs

section Streams
variable {id status : String} {parts : List Part} {events : List ResponsesStreamResponse}

theorem said_deltas (id : String) (i : Nat) (parts : List Part) : ∀ before,
    said (·.delta) (deltaEvents id i before parts)=said Part.words parts := by
  induction parts with
  | nil => exact fun _ => rfl
  | cons p parts ih =>
    intro before
    have hpart : said (·.delta) (deltaEvent id i before p)=p.words := by
      rw [deltaEvent]
      split
      next hsilent =>
        cases p with
        | text | reasoning => cases hsilent
        | tool call => exact (of_decide_eq_true hsilent).symm
      · simp
    rw [deltaEvents,said_append,ih,said_cons,hpart]

theorem Telling.words (h : Telling id parts (doneEvents id status parts) events) {i : Nat} {ref : OutputRef}
    (hi : (mentioned parts)[i]? = some ref) :
    said (·.delta) (events.filter fun e => e.outputIndex=some i)=said Part.words (partsAbout ref parts) := by
  obtain ⟨first,rest,hparts,hfilter⟩ := h.item i ref hi
  have hdone : said (·.delta) (doneEvents id status parts i ref)="" := by simp [doneEvents,NewApi.Relay.ending]
  rw [hfilter,said_cons,said_append,said_deltas,hdone,hparts,String.append_empty]
  exact String.empty_append

/-- A whole response of the parts: its beginning, the events of its items and its end; what the deltas of an item say is in
the item, as its done event and the end have it. -/
structure WholeResponse (id : String) (parts : List Part) (reasons : List String) (begun final : OpenAIResponsesResponse)
    (items : List ResponsesStreamResponse) : Prop where
  begun : begun.id=id ∧ begun.output=[]
  told : Telling id parts (doneEvents id (endOf reasons.head?).1 parts) items
  words : ∀ i ref, (mentioned parts)[i]? = some ref → ∀ status,
    said (·.delta) (items.filter fun e => e.outputIndex=some i)=(itemOf id (partsAbout ref parts) status ref).words
  ended : Final id parts reasons final

def responseID (id : String) (chunks : List Chunk) : String := if id="" then (chunks.head?.map (·.id)).getD "" else id

/-- The events of a chat stream that is not empty and has nothing after its end are a whole response of its parts. The
stream has its id from the start, or none. -/
theorem chat_stream_is_whole_response {chunks : List Chunk} (hne : chunks≠[]) (h : EndsOnce chunks)
    (id model : String) (created : Int) (hid : responseID id chunks="" → ∀ c∈chunks, c.id="") : ∃ begun items final,
    responsesEvents { id := id, model := model, created := created } chunks =
      { type := .created, response := some begun }::(items++[terminal (finishReasons chunks) final]) ∧
    WholeResponse (responseID id chunks) (partsOf chunks) (finishReasons chunks) begun final items := by
  cases chunks with
  | nil => exact absurd rfl hne
  | cons c cs =>
    let s : ChatToResponsesStreamState :=
      { id := responseID id (c::cs), model := model, created := created, sentCreated := true }
    have hruns : Runs (responseID id (c::cs)) [] [] s [] := by
      refine ⟨⟨rfl,fun ref => ?_,rfl,rfl,⟨nodup_nil,fun _ => ⟨rfl,rfl⟩,fun _ => ⟨rfl,rfl⟩⟩,⟨rfl,rfl⟩⟩,telling_nil,rfl⟩
      cases ref <;> rfl
    have hsame : (if id="" then c.id else id)=if responseID id (c::cs)="" then c.id else responseID id (c::cs) := by
      rw [responseID]
      by_cases hempty : id="" <;> simp [hempty]
    have hmeta : ({ id := id, model := model, created := created, sentCreated := true } :
        ChatToResponsesStreamState).applyChunkMetadata c=s.applyChunkMetadata c := by
      rw [applyChunkMetadata,applyChunkMetadata]
      dsimp only [s]
      rw [hsame]
    have hfirst : responsesEvents { id := id, model := model, created := created } (c::cs) =
        { type := .created, response := some (s.applyChunkMetadata c).createdResponse }::responsesEvents s (c::cs) := by
      rw [responsesEvents_cons s,chunk_eq rfl,← hmeta]
      rfl
    obtain ⟨items,final,hevents,hfinal,htelling⟩ := hruns.run (c::cs) h (by simp) fun c' hc' hempty => hid hempty c' hc'
    refine ⟨(s.applyChunkMetadata c).createdResponse,items,final,by rw [hfirst,hevents]; rfl,⟨?_,rfl⟩,htelling,
      fun i ref hi status => ?_,hfinal⟩
    · exact (hruns.metadata c fun hempty => hid hempty c mem_cons_self).told.named
    · rw [words_itemOf]
      exact htelling.words hi

/-- Reasoning, text and two tools, the second before the first, and the usage after the finish reason. -/
def interleavedTools : List Chunk :=
  [{ choices := [{ delta := { reasoning := some "r", content := some "x" } }] },
   { choices := [{ delta := { toolCalls := some [⟨some 1, "", "g", "["⟩,⟨some 0, "a", "f", ""⟩] } }] },
   { choices := [{ delta := { content := some "y", toolCalls := some [⟨some 1, "b", "", "]"⟩] } }] },
   { choices := [{ finishReason := some "length" }] },
   { usage := some {} }]

theorem interleavedTools_endOnce : EndsOnce interleavedTools := by
  refine ⟨Nat.le_refl 1,fun h => absurd h (by decide),Nat.le_refl 1,fun h => absurd h (by decide),Nat.le_refl 1,
    fun h => absurd h (by decide),Nat.le_refl 1,fun _ c hc => ?_,Nat.zero_le 1,fun h => absurd h (by decide),trivial⟩
  rw [mem_singleton.mp hc]
  exact ⟨rfl,rfl,rfl⟩

theorem interleavedTools_whole_response : mentioned (partsOf interleavedTools)=[.reasoning,.message,.tool 1,.tool 0] ∧
    ∃ begun items final, responsesEvents { id := "resp", model := "m", created := 1 } interleavedTools =
        { type := .created, response := some begun }::(items++[terminal (finishReasons interleavedTools) final]) ∧
      WholeResponse "resp" (partsOf interleavedTools) (finishReasons interleavedTools) begun final items :=
  ⟨by decide,chat_stream_is_whole_response (by decide) interleavedTools_endOnce "resp" "m" 1 (by decide)⟩

end Streams

end NewApi.Relay

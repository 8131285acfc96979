import Mathlib.Data.List.Induction
import NewApi.Lib.Pieces
import NewApi.Relay.ToResponses

/-! What the Responses events of a chat stream tell of its output items, set against the parts of the stream: the texts and
the tool calls of its chunks, in their order. -/
namespace NewApi.Relay
open List GoStrings Pieces

inductive Part where
  | text (delta : String)
  | reasoning (delta : String)
  | tool (call : ToolCallResponse)

namespace Part

def ref : Part → OutputRef
  | text _ => .message
  | reasoning _ => .reasoning
  | tool call => .tool (call.index.getD 0)

def words : Part → String
  | text delta => delta
  | reasoning delta => delta
  | tool call => call.arguments

def silent : Part → Bool
  | tool call => call.arguments=""
  | _ => false

def givenID : Part → Option String
  | tool call => some (trimSpace call.id)
  | _ => none

def givenName : Part → Option String
  | tool call => some (trimSpace call.name)
  | _ => none

section
variable (delta : String)

@[simp] theorem text_part : (text delta).ref=.message ∧ (text delta).words=delta ∧ (text delta).silent=false ∧
    (text delta).givenID=none ∧ (text delta).givenName=none := ⟨rfl,rfl,rfl,rfl,rfl⟩

@[simp] theorem reasoning_part : (reasoning delta).ref=.reasoning ∧ (reasoning delta).words=delta ∧
    (reasoning delta).silent=false ∧ (reasoning delta).givenID=none ∧ (reasoning delta).givenName=none :=
  ⟨rfl,rfl,rfl,rfl,rfl⟩

end

end Part

def ChunkDelta.parts (d : ChunkDelta) : List Part :=
  (if d.getReasoningContent≠"" then [.reasoning d.getReasoningContent] else []) ++
    (if d.getContentString≠"" then [.text d.getContentString] else [])++d.calls.map .tool

def partsOf (chunks : List Chunk) : List Part := chunks.flatMap fun c => c.choices.flatMap (·.delta.parts)

/-- The items that parts are of, in the order of their first appearance. -/
def mentioned (parts : List Part) : List OutputRef := (parts.map Part.ref).eraseDups

def partsAbout (ref : OutputRef) (parts : List Part) : List Part := parts.filter fun p => p.ref=ref

section Items
variable (id : String)

def baseID : OutputRef → String
  | .message => id++"_msg_0"
  | .reasoning => id++"_reasoning_0"
  | .tool k => id++"_call_" ++ toString k

/-- The id of an item, from its parts so far: a tool has the last id that was given for it. -/
def itemID (parts : List Part) (ref : OutputRef) : String :=
  (((parts.filterMap Part.givenID).filter (· ≠ "")).getLast?).getD (baseID id ref)

def itemName (parts : List Part) : String := (((parts.filterMap Part.givenName).filter (· ≠ "")).getLast?).getD ""

def outputOf (id name words status : String) : OutputRef → ResponsesOutput
  | .message => { type := .message, id := id, status := status, role := "assistant"
                  content := [{ type := "output_text", text := words }] }
  | .reasoning => { type := .reasoning, id := id, status := status, content := [{ type := "summary_text", text := words }] }
  | .tool _ => { type := .functionCall, id := id, status := status, callId := id, name := name, arguments := .string words }

def itemOf (parts : List Part) (status : String) (ref : OutputRef) : ResponsesOutput :=
  outputOf (itemID id parts ref) (itemName parts) (said Part.words parts) status ref

def ResponsesOutput.words (out : ResponsesOutput) : String :=
  if out.type.isTool then out.argumentsString else said (·.text) out.content

@[simp] theorem words_itemOf (parts : List Part) (status : String) (ref : OutputRef) :
    (itemOf id parts status ref).words=said Part.words parts := by
  cases ref with
  | message | reasoning | tool => simp [itemOf,outputOf,ResponsesOutput.words,OutputType.isTool,ResponsesOutput.argumentsString,
      RawMessage.toText]

def emptyItem (id name : String) : OutputRef → ResponsesOutput
  | .message => { type := .message, id := id, status := "in_progress", role := "assistant" }
  | .reasoning => { type := .reasoning, id := id, status := "in_progress" }
  | .tool _ => { type := .functionCall, id := id, status := "in_progress", callId := id, name := name, arguments := .string "" }

def OutputRef.isTool : OutputRef → Bool
  | .tool _ => true
  | _ => false

def adding (i : Nat) (id name : String) (ref : OutputRef) : ResponsesStreamResponse :=
  { type := .outputItemAdded, outputIndex := some i, itemID := if ref.isTool then id else ""
    item := some (emptyItem id name ref) }

def addedEvent (i : Nat) (first : Part) : ResponsesStreamResponse :=
  adding i (itemID id [first] first.ref) (itemName [first]) first.ref

def OutputRef.deltaType : OutputRef → ResponsesEventType
  | .message => .outputTextDelta
  | .reasoning => .reasoningSummaryDelta
  | .tool _ => .functionArgsDelta

def OutputRef.doneType : OutputRef → ResponsesEventType
  | .message => .outputTextDone
  | .reasoning => .reasoningSummaryDone
  | .tool _ => .functionArgsDone

def deltaEvent (i : Nat) (before : List Part) (p : Part) : List ResponsesStreamResponse :=
  if p.silent then [] else
  [{ type := p.ref.deltaType, outputIndex := some i, itemID := itemID id (before++[p]) p.ref, delta := p.words }]

/-- The deltas of an item from its parts, with the id that it has by then. -/
def deltaEvents (i : Nat) : List Part → List Part → List ResponsesStreamResponse
  | _, [] => []
  | before, p::parts => deltaEvent id i before p++deltaEvents i (before++[p]) parts

def ending (i : Nat) (id name words status : String) (ref : OutputRef) : List ResponsesStreamResponse :=
  [{ type := ref.doneType, outputIndex := some i, itemID := id, part := if ref=.reasoning then some words else none },
   { type := .outputItemDone, outputIndex := some i, item := some (outputOf id name words status ref) }]

def doneEvents (status : String) (parts : List Part) (i : Nat) (ref : OutputRef) : List ResponsesStreamResponse :=
  ending i (itemID id (partsAbout ref parts) ref) (itemName (partsAbout ref parts)) (said Part.words (partsAbout ref parts))
    status ref

end Items

def ResponsesEventType.ofItem : ResponsesEventType → Bool
  | .outputItemAdded | .outputTextDelta | .reasoningSummaryDelta | .functionArgsDelta
  | .outputTextDone | .reasoningSummaryDone | .functionArgsDone | .outputItemDone => true
  | _ => false

def ResponsesEventType.isAdded : ResponsesEventType → Bool
  | .outputItemAdded => true
  | _ => false

/-- The events tell of the items that the parts mention, each under its index in the order of first appearance: they are added
in that order, and those of an item are its addition, its deltas and its ending. -/
structure Telling (id : String) (parts : List Part) (closing : Nat → OutputRef → List ResponsesStreamResponse)
    (events : List ResponsesStreamResponse) : Prop where
  listed : ∀ e∈events, e.type.ofItem=true ∧ ∃ i<(mentioned parts).length, e.outputIndex=some i
  added : (events.filter (·.type.isAdded)).map (·.outputIndex)=(range (mentioned parts).length).map some
  item : ∀ i ref, (mentioned parts)[i]? = some ref → ∃ first rest, partsAbout ref parts=first::rest ∧
    events.filter (fun e => e.outputIndex=some i) =
      addedEvent id i first::(deltaEvents id i [] (first::rest)++closing i ref)

section Lists
variable {id : String} {parts : List Part} {closing : Nat → OutputRef → List ResponsesStreamResponse}
variable {events : List ResponsesStreamResponse} {p : Part} {ref : OutputRef}

theorem mem_mentioned : ref∈mentioned parts ↔ ∃ p∈parts, p.ref=ref := by
  rw [mentioned,mem_eraseDups,mem_map]

theorem mentioned_concat (parts : List Part) (p : Part) : mentioned (parts++[p]) =
    if p.ref∈mentioned parts then mentioned parts else mentioned parts++[p.ref] := by
  have hmem : p.ref∈mentioned parts ↔ p.ref∈parts.map Part.ref := mem_eraseDups
  have hsplit : mentioned (parts++[p])=mentioned parts++([p.ref].removeAll (parts.map Part.ref)).eraseDups := by
    rw [mentioned,map_append,map_singleton,eraseDups_append,mentioned]
  rw [hsplit,removeAll,filter_singleton]
  by_cases h : p.ref∈parts.map Part.ref
  · rw [if_pos (hmem.mpr h)]
    simp [h]
  · rw [if_neg (mt hmem.mp h)]
    simp [h,eraseDups_cons]

theorem nodup_mentioned (parts : List Part) : (mentioned parts).Nodup := by
  induction parts using reverseRecOn with
  | nil => exact nodup_nil
  | append_singleton parts p ih =>
    rw [mentioned_concat]
    split
    · exact ih
    · exact Nodup.append ih (nodup_singleton _) (disjoint_singleton.mpr ‹_›)

theorem partsAbout_concat (ref : OutputRef) (parts : List Part) (p : Part) : partsAbout ref (parts++[p]) =
    if p.ref=ref then partsAbout ref parts++[p] else partsAbout ref parts := by
  rw [partsAbout,filter_append,filter_singleton,partsAbout]
  by_cases h : p.ref=ref <;> simp [h]

theorem partsAbout_new (h : ref∉mentioned parts) : partsAbout ref parts=[] := by
  refine filter_eq_nil_iff.mpr fun p hp => ?_
  simp only [decide_eq_true_eq]
  exact fun he => h (mem_mentioned.mpr ⟨p,hp,he⟩)

theorem deltaEvents_concat (i : Nat) (parts : List Part) (p : Part) : ∀ before,
    deltaEvents id i before (parts++[p])=deltaEvents id i before parts++deltaEvent id i (before++parts) p := by
  induction parts with
  | nil =>
    intro before
    simp [deltaEvents]
  | cons q parts ih =>
    intro before
    rw [cons_append,deltaEvents,deltaEvents,ih,append_assoc,append_assoc]
    rfl

def partEvents (id : String) (parts : List Part) (p : Part) (i : Nat) : List ResponsesStreamResponse :=
  (if p.ref∈mentioned parts then [] else [addedEvent id i p])++deltaEvent id i (partsAbout p.ref parts) p

def indexOf (ref : OutputRef) (parts : List Part) : Nat := (mentioned parts).idxOf ref

theorem indexOf_get (h : ref∈mentioned parts) : (mentioned parts)[indexOf ref parts]? = some ref := by
  rw [indexOf,getElem?_eq_getElem (idxOf_lt_length_of_mem h),getElem_idxOf]

theorem index_unique {i j : Nat} (hi : (mentioned parts)[i]? = some ref) (hj : (mentioned parts)[j]? = some ref) : i=j := by
  obtain ⟨hlt,hget⟩ := List.getElem?_eq_some_iff.mp hi
  obtain ⟨hlt',hget'⟩ := List.getElem?_eq_some_iff.mp hj
  exact (nodup_mentioned parts).getElem_inj_iff.mp (hget.trans hget'.symm)

theorem index_lt {i : Nat} (h : (mentioned parts)[i]? = some ref) : i<(mentioned parts).length :=
  (List.getElem?_eq_some_iff.mp h).1

theorem deltaEvent_index {i : Nat} {before : List Part} {e : ResponsesStreamResponse} (he : e∈deltaEvent id i before p) :
    e.outputIndex=some i ∧ e.type.ofItem=true ∧ e.type.isAdded=false := by
  rw [deltaEvent] at he
  split at he
  · cases he
  rw [mem_singleton.mp he]
  refine ⟨rfl,?_⟩
  cases p with
  | text | reasoning | tool => exact ⟨rfl,rfl⟩

theorem partEvents_index {i : Nat} {e : ResponsesStreamResponse} (he : e∈partEvents id parts p i) :
    e.outputIndex=some i ∧ e.type.ofItem=true := by
  obtain he | he := mem_append.mp he
  · split at he
    · cases he
    rw [mem_singleton.mp he]
    exact ⟨rfl,rfl⟩
  · exact (deltaEvent_index he).imp_right And.left

theorem filter_index {i : Nat} {es : List ResponsesStreamResponse} (h : ∀ e∈es, e.outputIndex=some i) (j : Nat) :
    es.filter (fun e => e.outputIndex=some j)=if i=j then es else [] := by
  split
  next hij => exact filter_eq_self.mpr fun e he => decide_eq_true (hij ▸ h e he)
  next hij =>
    refine filter_eq_nil_iff.mpr fun e he => ?_
    rw [decide_eq_true_eq,h e he]
    exact fun hsame => hij (Option.some_inj.mp hsame)

theorem telling_nil : Telling id [] closing [] where
  listed _ he := by
    cases he
  added := rfl
  item i ref h := by
    simp [mentioned] at h

theorem Telling.snoc (h : Telling id parts (fun _ _ => []) events) (p : Part) :
    Telling id (parts++[p]) (fun _ _ => []) (events++partEvents id parts p (indexOf p.ref (parts++[p]))) := by
  have hmentioned := mentioned_concat parts p
  have hplace : (mentioned (parts++[p]))[indexOf p.ref (parts++[p])]? = some p.ref :=
    indexOf_get (mem_mentioned.mpr ⟨p,mem_append_right _ mem_cons_self,rfl⟩)
  have hdeltas : ∀ i, (deltaEvent id i (partsAbout p.ref parts) p).filter (·.type.isAdded)=[] := by
    intro i
    refine filter_eq_nil_iff.mpr fun e he => ?_
    rw [(deltaEvent_index he).2.2]
    exact Bool.false_ne_true
  have hevents : ∀ e∈partEvents id parts p (indexOf p.ref (parts++[p])), e.outputIndex=some (indexOf p.ref (parts++[p])) :=
    fun e he => (partEvents_index he).1
  have hlisted : (mentioned parts).length≤(mentioned (parts++[p])).length := by
    rw [hmentioned]
    split
    · exact Nat.le_refl _
    · rw [length_append]
      exact Nat.le_add_right _ _
  refine ⟨fun e he => ?_,?_,fun i ref hi => ?_⟩
  · obtain he | he := mem_append.mp he
    · obtain ⟨htype,i,hi,hindex⟩ := h.listed e he
      exact ⟨htype,i,Nat.lt_of_lt_of_le hi hlisted,hindex⟩
    · obtain ⟨hindex,htype⟩ := partEvents_index he
      exact ⟨htype,_,index_lt hplace,hindex⟩
  · rw [filter_append,map_append,h.added,partEvents,filter_append,hdeltas,append_nil]
    by_cases hold : p.ref∈mentioned parts
    · rw [if_pos hold,hmentioned,if_pos hold]
      exact append_nil _
    · have hnew : mentioned (parts++[p])=mentioned parts++[p.ref] := by rw [hmentioned,if_neg hold]
      have hindex : indexOf p.ref (parts++[p])=(mentioned parts).length := by
        rw [indexOf,hnew,idxOf_append_of_notMem hold,idxOf_cons_self]
        rfl
      rw [if_neg hold,hnew,hindex,length_append,length_singleton,range_succ,map_append]
      rfl
  · rw [filter_append,filter_index hevents,partsAbout_concat]
    by_cases href : p.ref=ref
    · subst href
      have hsame : indexOf p.ref (parts++[p])=i := index_unique hplace hi
      rw [if_pos hsame,if_pos rfl,hsame,partEvents]
      by_cases hold : p.ref∈mentioned parts
      · rw [hmentioned,if_pos hold] at hi
        obtain ⟨first,rest,hparts,hfilter⟩ := h.item i p.ref hi
        refine ⟨first,rest++[p],by rw [hparts]; rfl,?_⟩
        have hdelta := @deltaEvents_concat id i (first::rest) p []
        rw [cons_append,nil_append] at hdelta
        rw [hfilter,if_pos hold,hdelta,hparts,append_nil,append_nil,nil_append,cons_append]
      · have hnone : events.filter (fun e => e.outputIndex=some i)=[] := by
          refine filter_eq_nil_iff.mpr fun e he => ?_
          obtain ⟨-,j,hj,hindex⟩ := h.listed e he
          rw [hindex,decide_eq_true_eq]
          intro hji
          rw [Option.some_inj.mp hji] at hj
          rw [hmentioned,if_neg hold,getElem?_append_left hj] at hi
          exact hold (mem_of_getElem? hi)
        rw [partsAbout_new hold,hnone,if_neg hold]
        exact ⟨p,[],rfl,by rw [deltaEvents,deltaEvents,append_nil,append_nil]; rfl⟩
    · have hi' : (mentioned parts)[i]? = some ref := by
        rw [hmentioned] at hi
        split at hi
        · exact hi
        obtain hlt | hge := Nat.lt_or_ge i (mentioned parts).length
        · rwa [getElem?_append_left hlt] at hi
        · have hmem := mem_of_getElem? ((getElem?_append_right hge).symm.trans hi)
          exact absurd (mem_singleton.mp hmem).symm href
      have hother : indexOf p.ref (parts++[p])≠i := by
        rintro rfl
        exact href (Option.some_inj.mp (hplace.symm.trans hi))
      rw [if_neg hother,if_neg href,append_nil]
      exact h.item i ref hi'

theorem flatMap_one {β : Type*} {refs : List OutputRef} (hnodup : refs.Nodup) (hmem : ref∈refs) (bs : List β) :
    refs.flatMap (fun other => if other=ref then bs else [])=bs := by
  induction refs with
  | nil => cases hmem
  | cons first refs ih =>
    obtain ⟨hnot,hnodup⟩ := nodup_cons.mp hnodup
    rw [flatMap_cons]
    by_cases h : first=ref
    · have hrest : refs.flatMap (fun other => if other=ref then bs else [])=[] := by
        refine flatMap_eq_nil_iff.mpr fun other hother => if_neg ?_
        rintro rfl
        exact hnot (h ▸ hother)
      rw [if_pos h,hrest,append_nil]
    · rw [if_neg h,ih hnodup ((mem_cons.mp hmem).resolve_left (Ne.symm h))]
      rfl

theorem Telling.finish (h : Telling id parts (fun _ _ => []) events) {closing : Nat → OutputRef → List ResponsesStreamResponse}
    {refs : List OutputRef} (hperm : refs.Perm (mentioned parts))
    (hclosing : ∀ i ref, ∀ e∈closing i ref, e.outputIndex=some i ∧ e.type.ofItem=true ∧ e.type.isAdded=false) :
    Telling id parts closing (events++refs.flatMap fun ref => closing (indexOf ref parts) ref) := by
  have hmem : ∀ e∈refs.flatMap (fun ref => closing (indexOf ref parts) ref), ∃ ref∈mentioned parts,
      e∈closing (indexOf ref parts) ref := by
    intro e he
    obtain ⟨ref,href,he⟩ := mem_flatMap.mp he
    exact ⟨ref,hperm.mem_iff.mp href,he⟩
  refine ⟨fun e he => ?_,?_,fun i ref hi => ?_⟩
  · obtain he | he := mem_append.mp he
    · exact h.listed e he
    · obtain ⟨ref,href,he⟩ := hmem e he
      obtain ⟨hindex,htype,-⟩ := hclosing _ ref e he
      exact ⟨htype,_,index_lt (indexOf_get href),hindex⟩
  · have hnone : (refs.flatMap fun ref => closing (indexOf ref parts) ref).filter (·.type.isAdded)=[] := by
      refine filter_eq_nil_iff.mpr fun e he => ?_
      obtain ⟨ref,-,he⟩ := hmem e he
      rw [(hclosing _ ref e he).2.2]
      exact Bool.false_ne_true
    rw [filter_append,hnone,append_nil]
    exact h.added
  · obtain ⟨first,rest,hparts,hfilter⟩ := h.item i ref hi
    refine ⟨first,rest,hparts,?_⟩
    have hindex : ∀ other∈refs, indexOf other parts=i ↔ other=ref := by
      intro other hother
      have hget := indexOf_get (hperm.mem_iff.mp hother)
      constructor
      · intro he
        rw [he,hi] at hget
        exact (Option.some_inj.mp hget).symm
      · rintro rfl
        exact index_unique hget hi
    have hone : (refs.flatMap fun ref => closing (indexOf ref parts) ref).filter (fun e => e.outputIndex=some i)=closing i ref := by
      have hpart : ∀ other∈refs, (closing (indexOf other parts) other).filter (fun e => e.outputIndex=some i) =
          if other=ref then closing i ref else [] := by
        intro other hother
        rw [filter_index (fun e he => (hclosing _ other e he).1)]
        by_cases he : other=ref
        · rw [if_pos ((hindex other hother).mpr he),if_pos he,(hindex other hother).mpr he,he]
        · rw [if_neg (mt (hindex other hother).mp he),if_neg he]
      rw [filter_flatMap,flatMap_congr hpart]
      exact flatMap_one (hperm.nodup_iff.mpr (nodup_mentioned parts)) (hperm.mem_iff.mpr (mem_of_getElem? hi)) _
    rw [filter_append,hfilter,hone,append_nil]
    rfl

end Lists

end NewApi.Relay

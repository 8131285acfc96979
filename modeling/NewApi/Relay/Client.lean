import NewApi.Lib.Keyed
import NewApi.Lib.Pieces
import NewApi.Relay.Chat

/-! What a chat client makes of the chunks of a stream: tool calls are put together by their index. -/
namespace NewApi.Relay
open Option Keyed Pieces

structure ToolCall where
  index : Nat
  id : String := ""
  name : String := ""
  arguments : String := ""

def ToolCall.continue (delta : ToolCallResponse) (call : ToolCall) : ToolCall :=
  { call with id := if delta.id="" then call.id else delta.id, name := if delta.name="" then call.name else delta.name
              arguments := call.arguments++delta.arguments }

def addToolCall (calls : List ToolCall) (delta : ToolCallResponse) : List ToolCall :=
  let index := delta.index.getD 0
  if (lookup (·.index) index calls).isSome then modify (·.index) index (·.continue delta) calls
  else calls++[{ index := index, id := delta.id, name := delta.name, arguments := delta.arguments }]

def toolCalls (chunks : List Chunk) : List ToolCall := (chunks.flatMap (·.calls)).foldl addToolCall []

variable {calls : List ToolCall} {delta : ToolCallResponse} {k : Nat} (deltas : List ToolCallResponse)

theorem addToolCall_new (hindex : delta.index=some k) (hnew : k∉calls.map (·.index)) :
    addToolCall calls delta = calls++[{ index := k, id := delta.id, name := delta.name, arguments := delta.arguments }] := by
  have hnone : lookup (·.index) k calls=none :=
    lookup_eq_none.mpr fun call hcall he => hnew (List.mem_map.mpr ⟨call,hcall,he⟩)
  rw [addToolCall,hindex,getD_some,hnone,if_neg (by decide)]

theorem addToolCall_last {call : ToolCall} (hnew : call.index∉calls.map (·.index)) (hindex : delta.index=some call.index) :
    addToolCall (calls++[call]) delta=calls++[call.continue delta] := by
  have hnone : lookup (·.index) call.index calls=none :=
    lookup_eq_none.mpr fun other hother he => hnew (List.mem_map.mpr ⟨other,hother,he⟩)
  have hsome : (lookup (·.index) call.index (calls++[call])).isSome=true := by
    rw [lookup_append,hnone,lookup_cons,if_pos rfl]
    rfl
  have hmodify : modify (·.index) call.index (·.continue delta) (calls++[call]) =
      modify (·.index) call.index (·.continue delta) calls++[call.continue delta] := by
    rw [Keyed.modify,List.map_append,List.map_singleton,if_pos rfl]
    rfl
  rw [addToolCall,hindex,getD_some,hsome,if_pos rfl,hmodify,modify_of_notMem hnew]

theorem foldl_addToolCall_last : ∀ call : ToolCall,
    call.index∉calls.map (·.index) →
    (∀ d∈deltas, d.index=some call.index ∧ d.id="" ∧ d.name="") →
    deltas.foldl addToolCall (calls++[call]) =
      calls++[{ call with arguments := call.arguments++said (·.arguments) deltas }] := by
  induction deltas with
  | nil =>
    intro call _ _
    rw [said_nil,String.append_empty]
    rfl
  | cons d deltas ih =>
    intro call hnew hdeltas
    obtain ⟨hindex,hid,hname⟩ := hdeltas d List.mem_cons_self
    have hcall : call.continue d={ call with arguments := call.arguments++d.arguments } := by
      rw [ToolCall.continue,if_pos hid,if_pos hname]
    rw [List.foldl_cons,addToolCall_last hnew hindex,hcall, ih { call with arguments := call.arguments++d.arguments } hnew
        fun d' hd' => hdeltas d' (List.mem_cons_of_mem d hd'),said_cons,String.append_assoc]

def CountedUp (calls : List ToolCall) : Prop := calls.map (·.index)=List.range calls.length

theorem countedUp_addToolCall (h : CountedUp calls) (hindex : delta.index=some k) (hk : k≤calls.length) :
    CountedUp (addToolCall calls delta) ∧ (addToolCall calls delta).length=max calls.length (k+1) := by
  by_cases hlt : k<calls.length
  · have hknown : (lookup (·.index) k calls).isSome=true := by
      have hmem : k∈calls.map (·.index) := h ▸ List.mem_range.mpr hlt
      obtain ⟨call,hcall,he⟩ := List.mem_map.mp hmem
      exact lookup_isSome.mpr ⟨call,hcall,he⟩
    have hadd : addToolCall calls delta=Keyed.modify (·.index) k (·.continue delta) calls := by
      rw [addToolCall,hindex,getD_some,hknown,if_pos rfl]
    have hkeys : (Keyed.modify (·.index) k (·.continue delta) calls).map (·.index)=calls.map (·.index) :=
      map_key_modify _ _ _ fun _ => rfl
    have hlength : (Keyed.modify (·.index) k (·.continue delta) calls).length=calls.length := List.length_map _
    rw [hadd,CountedUp,hkeys,hlength]
    exact ⟨h,by omega⟩
  · obtain rfl : k=calls.length := by omega
    have hnew : calls.length∉calls.map (·.index) := by
      rw [h,List.mem_range]
      omega
    rw [addToolCall_new hindex hnew,CountedUp,List.map_append,h,List.length_append,List.length_singleton, List.range_succ]
    exact ⟨rfl,by omega⟩

theorem countedUp_foldl : ∀ {calls : List ToolCall} {k : Nat}, CountedUp calls →
    k≤calls.length → deltas.map (·.index)=(List.range' k deltas.length).map some → CountedUp (deltas.foldl addToolCall calls) ∧
      (deltas.foldl addToolCall calls).length=max calls.length (k+deltas.length) := by
  induction deltas with
  | nil =>
    intro calls k h hk _
    rw [List.foldl_nil,List.length_nil]
    exact ⟨h,by omega⟩
  | cons d deltas ih =>
    intro calls k h hk hindices
    rw [List.length_cons,List.range'_succ,List.map_cons,List.map_cons] at hindices
    obtain ⟨hindex,hindices⟩ := List.cons.inj hindices
    obtain ⟨hcounted,hlength⟩ := countedUp_addToolCall h hindex hk
    obtain ⟨hcounted',hlength'⟩ := ih hcounted (by rw [hlength]; omega) hindices
    rw [List.foldl_cons,List.length_cons]
    refine ⟨hcounted',?_⟩
    rw [hlength',hlength]
    omega

theorem foldl_addToolCall_new : ∀ {calls : List ToolCall}, CountedUp calls →
    deltas.map (·.index)=(List.range' calls.length deltas.length).map some →
    deltas.foldl addToolCall calls=calls++deltas.map fun d =>
      { index := d.index.getD 0, id := d.id, name := d.name, arguments := d.arguments } := by
  induction deltas with
  | nil => exact fun _ _ => (List.append_nil _).symm
  | cons d deltas ih =>
    intro calls h hindices
    rw [List.length_cons,List.range'_succ,List.map_cons,List.map_cons] at hindices
    obtain ⟨hindex,hindices⟩ := List.cons.inj hindices
    have hnew : calls.length∉calls.map (·.index) := by
      rw [h,List.mem_range]
      omega
    have hcounted := (countedUp_addToolCall h hindex (Nat.le_refl _)).1
    rw [addToolCall_new hindex hnew] at hcounted
    rw [List.foldl_cons,addToolCall_new hindex hnew,ih hcounted (by rw [List.length_append]; exact hindices),
      List.append_assoc,List.map_cons,hindex]
    rfl

end NewApi.Relay

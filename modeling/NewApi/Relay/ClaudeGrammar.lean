import NewApi.Relay.ClaudeStream

/-! The grammar of Claude's server-sent events as a reader that takes one event after the other, and the streams for
which the converted events are in the grammar. -/
namespace NewApi.Relay
open List Option

inductive ReadPhase where
  | before | content | closing | over
  deriving DecidableEq

abbrev Blocks := List (BlockKind×Bool)

structure Reading where
  phase : ReadPhase := .before
  blocks : Blocks := []
  deriving DecidableEq

/-- One event: a message starts once, blocks are numbered from zero as they start, deltas and stops are of open blocks
(a delta of its block's kind), and the message ends once all blocks are stopped. -/
def Reading.read (r : Reading) : ClaudeEvent → Option Reading
  | .messageStart .. => if r.phase=.before then some { r with phase := .content } else none
  | .contentBlockStart index block =>
    if r.phase=.content ∧ index=r.blocks.length then some { r with blocks := r.blocks++[(block.kind,true)] }
    else none
  | .contentBlockDelta index delta =>
    if r.phase=.content ∧ r.blocks[index]? = some (delta.kind,true) then some r else none
  | .contentBlockStop index =>
    if r.phase=.content then
      match r.blocks[index]? with
      | some (kind,true) => some { r with blocks := r.blocks.set index (kind,false) }
      | _ => none
    else none
  | .messageDelta .. =>
    if r.phase=.content ∧ r.blocks.all (fun b => !b.2) then some { r with phase := .closing } else none
  | .messageStop => if r.phase=.closing then some { r with phase := .over } else none

def Reading.readAll (r : Reading) (events : List ClaudeEvent) : Option Reading := events.foldlM Reading.read r

open Reading (readAll)

def InGrammar (events : List ClaudeEvent) : Bool := (readAll {} events).any (·.phase=.over)

section Reader
variable {bs bs' pre : Blocks} {es : List ClaudeEvent} {index : Nat}

theorem Reading.readAll_append (r : Reading) (es fs : List ClaudeEvent) :
    r.readAll (es++fs)=(r.readAll es).bind (·.readAll fs) := foldlM_append

/-- In a message under way, the reader gets through the events, and then knows of the blocks `bs'`. -/
abbrev Reads (bs : Blocks) (es : List ClaudeEvent) (bs' : Blocks) : Prop :=
  readAll ⟨.content,bs⟩ es=some ⟨.content,bs'⟩

abbrev Blocked (bs : Blocks) (es : List ClaudeEvent) : Prop := readAll ⟨.content,bs⟩ es=none

theorem Reads.then (h : Reads bs es bs') (fs : List ClaudeEvent) :
    readAll ⟨.content,bs⟩ (es++fs)=readAll ⟨.content,bs'⟩ fs := by
  rw [Reading.readAll_append,h,bind_some]

theorem Blocked.append (h : Blocked bs es) (fs : List ClaudeEvent) : Blocked bs (es++fs) := by
  rw [Blocked,Reading.readAll_append,h,bind_none]

def closeAll (bs : Blocks) : Blocks := bs.map fun b => (b.1,false)

theorem closeAll_length (bs : Blocks) : (closeAll bs).length=bs.length := length_map _

def AllClosed (bs : Blocks) : Prop := closeAll bs=bs

theorem closeAll_closeAll (bs : Blocks) : AllClosed (closeAll bs) := by
  simp [AllClosed,closeAll]

theorem closeAll_open (h : AllClosed pre) (kind : BlockKind) (n : Nat) :
    closeAll (pre++List.replicate n (kind,true))=pre++List.replicate n (kind,false) := by
  have hpre : pre.map (fun b => (b.1,false))=pre := h
  rw [closeAll,map_append,map_replicate,hpre]

theorem read_start (bs : Blocks) (block : ContentBlock) :
    Reads bs [.contentBlockStart bs.length block] (bs++[(block.kind,true)]) := by
  simp [Reads,readAll,Reading.read]

theorem read_start_ne (h : index≠bs.length) (block : ContentBlock) :
    Blocked bs [.contentBlockStart index block] := by
  simp [Blocked,readAll,Reading.read,h]

theorem read_delta {delta : BlockDelta} (h : bs[index]? = some (delta.kind,true)) :
    Reads bs [.contentBlockDelta index delta] bs := by
  simp [Reads,readAll,Reading.read,h]

theorem read_delta_cases (bs : Blocks) (index : Nat) (delta : BlockDelta) :
    Blocked bs [.contentBlockDelta index delta] ∨ Reads bs [.contentBlockDelta index delta] bs := by
  by_cases h : bs[index]? = some (delta.kind,true)
  · exact .inr (read_delta h)
  · exact .inl (by simp [Blocked,readAll,Reading.read,h])

theorem read_stops (pre : Blocks) (kind : BlockKind) (n : Nat) :
    Reads (pre++List.replicate n (kind,true)) ((List.range n).map fun i => .contentBlockStop (pre.length+i))
      (pre++List.replicate n (kind,false)) := by
  induction n generalizing pre with
  | zero => rfl
  | succ n ih =>
    have hstop : Reads (pre++List.replicate (n+1) (kind,true)) [.contentBlockStop (pre.length+0)]
          (pre++[(kind,false)]++List.replicate n (kind,true)) := by
      simp [Reads,readAll,Reading.read,replicate_succ,set_append_right]
    have hindices : ((fun i => ClaudeEvent.contentBlockStop (pre.length+i)) ∘ Nat.succ) =
        fun i => ClaudeEvent.contentBlockStop ((pre++[(kind,false)]).length+i) := by
      funext i
      simp [Nat.succ_eq_add_one,Nat.add_assoc,Nat.add_comm 1 i]
    rw [range_succ_eq_map,map_cons,List.map_map,hindices]
    refine (hstop.then _).trans ((ih (pre++[(kind,false)])).trans ?_)
    simp [replicate_succ]

theorem read_stops_stuck (indices : List Nat) : ∀ {bs : Blocks}, (∃ i∈indices, bs.length ≤ i) →
      Blocked bs (indices.map .contentBlockStop) := by
  induction indices with
  | nil => exact fun ⟨i,hi,_⟩ => nomatch hi
  | cons j indices ih =>
    intro bs ⟨i,hi,hlen⟩
    rw [map_cons,Blocked,readAll,foldlM_cons,Reading.read,if_pos rfl]
    split
    next kind hj =>
      obtain rfl | hi := mem_cons.mp hi
      · rw [getElem?_eq_none hlen] at hj
        cases hj
      · exact ih ⟨i,hi,by rw [length_set]; exact hlen⟩
    · rfl

end Reader

section Calls
variable (base : Nat) (calls : List ToolCallResponse)

def introduced (calls : List ToolCallResponse) : Nat := (calls.filter fun call => call.name != "").length

theorem introduced_cons (call : ToolCallResponse) (calls : List ToolCallResponse) :
    introduced (call::calls)=introduced calls + if call.name≠"" then 1 else 0 := by
  by_cases h : call.name="" <;> simp [introduced,h]

theorem callsInOrder_append (calls more : List ToolCallResponse) : ∀ seen : Nat,
    CallsInOrder seen (calls++more) ↔ CallsInOrder seen calls ∧ CallsInOrder (seen+introduced calls) more := by
  induction calls with
  | nil => exact fun seen => ⟨fun h => ⟨trivial,h⟩,fun h => h.2⟩
  | cons call calls ih =>
    intro seen
    rw [introduced_cons,cons_append,CallsInOrder,CallsInOrder,ih,ih]
    constructor
    · rintro (⟨hindex,hid,hname,hcalls,hmore⟩ | ⟨hindex,hid,hname,hcalls,hmore⟩)
      · rw [if_pos hname]
        refine ⟨.inl ⟨hindex,hid,hname,hcalls⟩,?_⟩
        rwa [Nat.add_comm (introduced calls) 1,← Nat.add_assoc]
      · rw [if_neg (not_not.mpr hname),Nat.add_zero]
        exact ⟨.inr ⟨hindex,hid,hname,hcalls⟩,hmore⟩
    · rintro ⟨⟨hindex,hid,hname,hcalls⟩ | ⟨hindex,hid,hname,hcalls⟩,hmore⟩
      · rw [if_pos hname,Nat.add_comm (introduced calls) 1,← Nat.add_assoc] at hmore
        exact .inl ⟨hindex,hid,hname,hcalls,hmore⟩
      · rw [if_neg (not_not.mpr hname),Nat.add_zero] at hmore
        exact .inr ⟨hindex,hid,hname,hcalls,hmore⟩

theorem callsInOrder_index {calls : List ToolCallResponse} : ∀ {seen : Nat}, CallsInOrder seen calls →
    ∀ {call : ToolCallResponse}, call∈calls → ∃ k, call.index=some k := by
  induction calls with
  | nil => exact fun _ _ h => nomatch h
  | cons c calls ih =>
    intro seen horder call hcall
    obtain ⟨hindex,-,-,hcalls⟩ | ⟨⟨k,-,hindex⟩,-,-,hcalls⟩ := horder
    · obtain rfl | hcall := mem_cons.mp hcall
      · exact ⟨seen,hindex⟩
      · exact ih hcalls hcall
    · obtain rfl | hcall := mem_cons.mp hcall
      · exact ⟨k,hindex⟩
      · exact ih hcalls hcall

theorem toolCallLoop_max_le : ∀ i maxOffset : Nat,
    maxOffset≤(toolCallLoop base calls i maxOffset).1 := by
  induction calls with
  | nil => exact fun _ _ => Nat.le_refl _
  | cons call calls ih => exact fun i maxOffset => (Nat.le_max_left _ _).trans (ih _ _)

theorem toolCallLoop_index_le {k : Nat} : ∀ i maxOffset : Nat,
    (∃ call∈calls, call.index=some k) → k≤(toolCallLoop base calls i maxOffset).1 := by
  induction calls with
  | nil => exact fun _ _ ⟨_,h,_⟩ => nomatch h
  | cons call calls ih =>
    intro i maxOffset ⟨c,hc,hk⟩
    obtain rfl | hc := mem_cons.mp hc
    · have hoffset : toolCallOffset i c=k := by rw [toolCallOffset,hk]; rfl
      rw [toolCallLoop,hoffset]
      exact (Nat.le_max_right _ _).trans (toolCallLoop_max_le _ _ _ _)
    · exact ih _ _ ⟨c,hc,hk⟩

end Calls

section Tools
variable {bs : Blocks} {base n : Nat}

def OpenTools (base n : Nat) (bs : Blocks) : Prop :=
  ∃ pre, bs=pre++List.replicate n (.toolUse,true) ∧ AllClosed pre ∧ pre.length=base

theorem OpenTools.length (h : OpenTools base n bs) : bs.length=base+n := by
  obtain ⟨pre,rfl,-,rfl⟩ := h
  rw [length_append,length_replicate]

theorem OpenTools.get (h : OpenTools base n bs) {k : Nat} (hk : k<n) : bs[base+k]? = some (.toolUse,true) := by
  obtain ⟨pre,rfl,-,rfl⟩ := h
  rw [getElem?_append_right (Nat.le_add_right _ _),Nat.add_sub_cancel_left]
  simp [hk]

theorem OpenTools.start (h : OpenTools base n bs) : OpenTools base (n+1) (bs++[(.toolUse,true)]) := by
  obtain ⟨pre,rfl,hclosed,rfl⟩ := h
  exact ⟨pre,by rw [append_assoc,← replicate_succ'],hclosed,rfl⟩

theorem read_arguments (h : OpenTools base n bs) {k : Nat} (hk : k<n) (arguments : String) :
    Reads bs (if arguments≠"" then [.contentBlockDelta (base+k) (.inputJsonDelta arguments)] else []) bs := by
  split
  · exact read_delta (h.get hk)
  · rfl

variable {call : ToolCallResponse} (calls : List ToolCallResponse)

theorem read_introduction (h : OpenTools base n bs) (hname : call.name≠"") :
    Reads bs (toolCallEvents (base+n) call) (bs++[(.toolUse,true)]) := by
  have hstart := read_start bs (.toolUse call.id call.name)
  rw [h.length] at hstart
  rw [toolCallEvents,if_pos hname]
  exact (hstart.then _).trans (read_arguments h.start (Nat.lt_succ_self n) call.arguments)

theorem read_known (h : OpenTools base n bs) (hname : call.name="") {k : Nat} (hk : k<n) :
    Reads bs (toolCallEvents (base+k) call) bs := by
  rw [toolCallEvents,if_neg (not_not.mpr hname),nil_append]
  exact read_arguments h hk call.arguments

theorem toolCallLoop_reads : ∀ {bs : Blocks} {n : Nat} (i : Nat),
    OpenTools base n bs → CallsInOrder n calls →
    ∃ bs', Reads bs (toolCallLoop base calls i (n-1)).2 bs' ∧
      OpenTools base (n+introduced calls) bs' ∧ (toolCallLoop base calls i (n-1)).1=n+introduced calls-1 := by
  induction calls with
  | nil => exact fun {bs n} i h _ => ⟨bs,rfl,h,rfl⟩
  | cons call calls ih =>
    intro bs n i h horder
    obtain ⟨hindex,-,hname,hcalls⟩ | ⟨⟨k,hk,hindex⟩,-,hname,hcalls⟩ := horder
    · have hoffset : toolCallOffset i call=n := by rw [toolCallOffset,hindex]; rfl
      obtain ⟨bs',hread,hopen,hmax⟩ := ih (i+1) h.start hcalls
      have hnext : max (n-1) n=n+1-1 := by omega
      rw [introduced_cons,if_pos hname,Nat.add_comm (introduced calls) 1,← Nat.add_assoc,toolCallLoop,hoffset,hnext]
      exact ⟨bs',((read_introduction h hname).then _).trans hread,hopen,hmax⟩
    · have hoffset : toolCallOffset i call=k := by rw [toolCallOffset,hindex]; rfl
      obtain ⟨bs',hread,hopen,hmax⟩ := ih (i+1) h hcalls
      have hnext : max (n-1) k=n-1 := by omega
      rw [introduced_cons,if_neg (not_not.mpr hname),Nat.add_zero,toolCallLoop,hoffset,hnext]
      exact ⟨bs',((read_known h hname hk).then _).trans hread,hopen,hmax⟩

theorem toolCallLoop_known : ∀ {seen : Nat} (i : Nat), OpenTools base n bs →
    n<seen → CallsInOrder seen calls → (∀ call∈calls, ∀ k, call.index=some k → k<n) →
    Reads bs (toolCallLoop base calls i (n-1)).2 bs ∧
      (toolCallLoop base calls i (n-1)).1=n-1 := by
  induction calls with
  | nil => exact fun i h _ _ _ => ⟨rfl,rfl⟩
  | cons call calls ih =>
    intro seen i h hseen horder hknown
    have htail := fun c hc => hknown c (mem_cons_of_mem call hc)
    obtain ⟨hindex,-,hname,hcalls⟩ | ⟨⟨k,hk,hindex⟩,-,hname,hcalls⟩ := horder
    · have := hknown call mem_cons_self seen hindex
      omega
    · have hkn := hknown call mem_cons_self k hindex
      have hoffset : toolCallOffset i call=k := by rw [toolCallOffset,hindex]; rfl
      obtain ⟨hread,hmax⟩ := ih (i+1) h hseen hcalls htail
      have hnext : max (n-1) k=n-1 := by omega
      rw [toolCallLoop,hoffset,hnext]
      exact ⟨((read_known h hname hkn).then _).trans hread,hmax⟩

theorem toolCallLoop_stuck : ∀ {seen : Nat} (i maxOffset : Nat),
    bs.length<base+seen → CallsInOrder seen calls →
    Blocked bs (toolCallLoop base calls i maxOffset).2 ∨
      Reads bs (toolCallLoop base calls i maxOffset).2 bs := by
  induction calls with
  | nil => exact fun _ _ _ _ => .inr rfl
  | cons call calls ih =>
    intro seen i maxOffset hseen horder
    rw [toolCallLoop]
    obtain ⟨hindex,-,hname,hcalls⟩ | ⟨⟨k,hk,hindex⟩,-,hname,hcalls⟩ := horder
    · have hoffset : toolCallOffset i call=seen := by rw [toolCallOffset,hindex]; rfl
      have hne : base+seen≠bs.length := by omega
      rw [hoffset,toolCallEvents,if_pos hname]
      exact .inl (((read_start_ne hne (.toolUse call.id call.name)).append _).append _)
    · rw [toolCallEvents,if_neg (not_not.mpr hname),nil_append]
      have htail := ih (i+1) (max maxOffset (toolCallOffset i call)) hseen hcalls
      dsimp only
      split
      · obtain hread | hread := read_delta_cases bs (base+toolCallOffset i call) (.inputJsonDelta call.arguments)
        · exact .inl (hread.append _)
        · exact htail.imp (hread.then _).trans (hread.then _).trans
      · exact htail

end Tools

section States
variable {s : ClaudeConvertInfo} {bs : Blocks} {seen started : Nat}

def LastMessageType.kind : LastMessageType → BlockKind
  | .thinking => .thinking
  | .tools => .toolUse
  | .text | .none => .text

/-- The blocks that are open are the ones the state knows of; `started` counts the open tool blocks. -/
def Open (s : ClaudeConvertInfo) (started : Nat) (bs : Blocks) : Prop :=
  match s.lastMessagesType with
  | .none => AllClosed bs ∧ s.index=bs.length
  | .tools => OpenTools s.toolCallBaseIndex started bs ∧ 0<started ∧ s.toolCallMaxIndexOffset=started-1
  | .text | .thinking =>
    ∃ pre, bs=pre++[(s.lastMessagesType.kind,true)] ∧ AllClosed pre ∧ s.index=pre.length

/-- The state counts on a block of a known tool that was never started. -/
def Stuck (s : ClaudeConvertInfo) (seen : Nat) (bs : Blocks) : Prop :=
  s.lastMessagesType=.tools ∧ bs.length ≤ s.toolCallBaseIndex+s.toolCallMaxIndexOffset ∧
    s.toolCallBaseIndex≤bs.length ∧ bs.length<s.toolCallBaseIndex+seen

/-- What follows a conversion is lost on the reader, if it has not been blocked already. -/
def Wedged (bs : Blocks) (seen : Nat) (r : ClaudeConvertInfo×List ClaudeEvent) : Prop :=
  Blocked bs r.2 ∨ ∃ bs', Reads bs r.2 bs' ∧ Stuck r.1 seen bs'

theorem stopOpenBlocks_reads (h : Open s started bs) :
    Reads bs (stopOpenBlocks s) (closeAll bs) := by
  unfold Open at h
  unfold stopOpenBlocks
  cases hlast : s.lastMessagesType with
  | none =>
    rw [hlast] at h
    rw [h.1]
    rfl
  | tools =>
    rw [hlast] at h
    obtain ⟨⟨pre,rfl,hclosed,hbase⟩,hpos,hmax⟩ := h
    have hcount : s.toolCallMaxIndexOffset+1=started := by omega
    have hread := read_stops pre .toolUse started
    rw [hbase] at hread
    dsimp only
    rw [hcount,closeAll_open hclosed]
    exact hread
  | text =>
    rw [hlast] at h
    obtain ⟨pre,rfl,hclosed,hindex⟩ := h
    have hread := read_stops pre .text 1
    rw [← hindex,← closeAll_open hclosed] at hread
    exact hread
  | thinking =>
    rw [hlast] at h
    obtain ⟨pre,rfl,hclosed,hindex⟩ := h
    have hread := read_stops pre .thinking 1
    rw [← hindex,← closeAll_open hclosed] at hread
    exact hread

theorem stopOpenBlocks_stuck (h : Stuck s seen bs) : Blocked bs (stopOpenBlocks s) := by
  obtain ⟨hlast,hmax,hbase,-⟩ := h
  have hmap : (List.range (s.toolCallMaxIndexOffset+1)).map
      (fun offset => ClaudeEvent.contentBlockStop (s.toolCallBaseIndex+offset)) =
      ((List.range (s.toolCallMaxIndexOffset+1)).map (s.toolCallBaseIndex + ·)).map .contentBlockStop := by
    rw [List.map_map]
    rfl
  rw [stopOpenBlocks,hlast]
  dsimp only
  rw [hmap]
  refine read_stops_stuck _ ⟨bs.length,List.mem_map.mpr ⟨bs.length-s.toolCallBaseIndex,?_,?_⟩,Nat.le_refl _⟩
  · rw [mem_range]
    omega
  · omega

theorem stopAndAdvance_reads (h : Open s started bs) :
    Reads bs (stopOpenBlocksAndAdvance s).2 (closeAll bs) ∧ (stopOpenBlocksAndAdvance s).1.index=bs.length := by
  have hstops := stopOpenBlocks_reads h
  unfold Open at h
  unfold stopOpenBlocksAndAdvance
  cases hlast : s.lastMessagesType with
  | none =>
    rw [hlast] at h
    rw [h.1]
    exact ⟨rfl,h.2⟩
  | tools =>
    rw [hlast] at h
    refine ⟨hstops,?_⟩
    rw [h.1.length,h.2.2]
    have := h.2.1
    dsimp only
    omega
  | text | thinking =>
    rw [hlast] at h
    obtain ⟨pre,rfl,-,hindex⟩ := h
    exact ⟨hstops,by rw [length_append,← hindex]; rfl⟩

theorem terminate_reads (h : Open s started bs) (usage : Option Usage) (stopReason : String) :
    (Reading.mk .content bs).readAll (terminate s usage stopReason).2=some ⟨.over,closeAll bs⟩ := by
  have hend : (Reading.mk .content (closeAll bs)).readAll [.messageDelta usage stopReason,.messageStop] =
      some ⟨.over,closeAll bs⟩ := by
    simp [readAll,Reading.read,closeAll]
  exact ((stopOpenBlocks_reads h).then _).trans hend

theorem terminate_stuck (h : Stuck s seen bs) (usage : Option Usage) (stopReason : String) :
    Blocked bs (terminate s usage stopReason).2 := (stopOpenBlocks_stuck h).append _

variable {block : ContentBlock} {delta : BlockDelta}

theorem openTalk_reads (h : Open s started bs) {kind : LastMessageType} (hkind : kind=.text ∨ kind=.thinking)
    (hblock : block.kind=kind.kind) (hdelta : delta.kind=kind.kind) :
    Reads bs ((stopOpenBlocksAndAdvance s).2 ++
        [.contentBlockStart (stopOpenBlocksAndAdvance s).1.index block,
         .contentBlockDelta (stopOpenBlocksAndAdvance s).1.index delta]) (closeAll bs++[(kind.kind,true)]) ∧
    Open { (stopOpenBlocksAndAdvance s).1 with lastMessagesType := kind } started (closeAll bs++[(kind.kind,true)]) := by
  obtain ⟨hread,hindex⟩ := stopAndAdvance_reads h
  rw [← closeAll_length] at hindex
  constructor
  · have hstart := read_start (closeAll bs) block
    have hdeltas : Reads (closeAll bs++[(kind.kind,true)]) [.contentBlockDelta (closeAll bs).length delta]
        (closeAll bs++[(kind.kind,true)]) := by
      refine read_delta ?_
      rw [getElem?_append_right (Nat.le_refl _),Nat.sub_self,hdelta]
      rfl
    rw [hblock] at hstart
    rw [hindex]
    exact (hread.then _).trans ((hstart.then _).trans hdeltas)
  · unfold Open
    obtain rfl | rfl := hkind
    · exact ⟨closeAll bs,rfl,closeAll_closeAll bs,hindex⟩
    · exact ⟨closeAll bs,rfl,closeAll_closeAll bs,hindex⟩

theorem laterTalk_reads (h : Open s started bs) {kind : LastMessageType} (hkind : kind=.text ∨ kind=.thinking)
    (hblock : block.kind=kind.kind) (hdelta : delta.kind=kind.kind) :
    ∃ bs', Reads bs (laterTalk s kind block delta).2 bs' ∧
      Open (laterTalk s kind block delta).1 started bs' := by
  unfold laterTalk
  by_cases hlast : s.lastMessagesType=kind
  · rw [if_neg (not_not.mpr hlast)]
    refine ⟨bs,?_,?_⟩
    · have hopen : ∃ pre, bs=pre++[(s.lastMessagesType.kind,true)] ∧ AllClosed pre ∧ s.index=pre.length := by
        unfold Open at h
        obtain rfl | rfl := hkind
        · rw [hlast] at h ⊢
          exact h
        · rw [hlast] at h ⊢
          exact h
      obtain ⟨pre,rfl,-,hindex⟩ := hopen
      have hget : (pre++[(s.lastMessagesType.kind,true)])[s.index]? = some (delta.kind,true) := by
        rw [hindex,getElem?_append_right (Nat.le_refl _),Nat.sub_self,hdelta,hlast]
        rfl
      exact read_delta hget
    · rw [← hlast]
      exact h
  · rw [if_pos hlast]
    obtain ⟨hread,hopen⟩ := openTalk_reads h hkind hblock hdelta
    refine ⟨_,?_,hopen⟩
    dsimp only
    rw [append_assoc]
    exact hread

theorem laterTalk_stuck (h : Stuck s seen bs) {kind : LastMessageType} (hkind : kind=.text ∨ kind=.thinking)
    (block : ContentBlock) (delta : BlockDelta) : Blocked bs (laterTalk s kind block delta).2 := by
  have hstops : (stopOpenBlocksAndAdvance s).2=stopOpenBlocks s := by
    rw [stopOpenBlocksAndAdvance,h.1]
  have hlast : s.lastMessagesType≠kind := by
    rw [h.1]
    obtain rfl | rfl := hkind <;> nofun
  rw [laterTalk,if_pos hlast]
  dsimp only
  rw [hstops]
  exact ((stopOpenBlocks_stuck h).append _).append _

variable {calls : List ToolCallResponse}

theorem laterToolCalls_first (h : Open s started bs) (hlast : s.lastMessagesType≠.tools)
    (hcalls : calls≠[]) (horder : CallsInOrder 0 calls) :
    ∃ bs', Reads bs (laterToolCalls s calls).2 bs' ∧
      Open (laterToolCalls s calls).1 (introduced calls) bs' := by
  obtain ⟨hread,hindex⟩ := stopAndAdvance_reads h
  have hopen : OpenTools (stopOpenBlocksAndAdvance s).1.index 0 (closeAll bs) :=
    ⟨closeAll bs,(append_nil _).symm,closeAll_closeAll bs,(closeAll_length bs).trans hindex.symm⟩
  obtain ⟨bs',hloop,hopen',hmax⟩ := toolCallLoop_reads calls 0 hopen horder
  have hpos : 0 < introduced calls := by
    cases calls with
    | nil => exact absurd rfl hcalls
    | cons call calls =>
      obtain ⟨-,-,hname,-⟩ | ⟨⟨k,hk,-⟩,-⟩ := horder
      · rw [introduced_cons,if_pos hname]
        omega
      · omega
  rw [Nat.zero_add] at hopen' hmax
  unfold laterToolCalls
  rw [if_pos hlast]
  exact ⟨bs',(hread.then _).trans hloop,hopen',hpos,hmax⟩

theorem laterToolCalls_again (h : Open s started bs) (hlast : s.lastMessagesType≠.tools) (hseen : 0<seen)
    (horder : CallsInOrder seen calls) : Wedged bs (seen+introduced calls) (laterToolCalls s calls) := by
  obtain ⟨hread,hindex⟩ := stopAndAdvance_reads h
  rw [← closeAll_length] at hindex
  have hlt : (closeAll bs).length<(stopOpenBlocksAndAdvance s).1.index+seen := by omega
  have hloop := toolCallLoop_stuck calls 0 0 hlt horder
  rw [laterToolCalls,if_pos hlast]
  obtain hloop | hloop := hloop
  · exact .inl ((hread.then _).trans hloop)
  refine .inr ⟨closeAll bs,(hread.then _).trans hloop,rfl,?_,?_,?_⟩
  · dsimp only
    omega
  · dsimp only
    omega
  · dsimp only
    omega

theorem laterToolCalls_going (h : Open s seen bs) (hlast : s.lastMessagesType=.tools) (horder : CallsInOrder seen calls) :
    ∃ bs', Reads bs (laterToolCalls s calls).2 bs' ∧
      Open (laterToolCalls s calls).1 (seen+introduced calls) bs' := by
  unfold Open at h
  rw [hlast] at h
  obtain ⟨hopen,hpos,hmax⟩ := h
  obtain ⟨bs',hloop,hopen',hmax'⟩ := toolCallLoop_reads calls 0 hopen horder
  unfold laterToolCalls
  rw [if_neg (not_not.mpr hlast)]
  dsimp only
  rw [hmax,nil_append]
  exact ⟨bs',hloop,hopen',Nat.add_pos_left hpos _,hmax'⟩

theorem laterToolCalls_known (h : Open s started bs) (hlast : s.lastMessagesType=.tools) (hseen : started<seen)
    (horder : CallsInOrder seen calls) (hknown : ∀ call∈calls, ∀ k, call.index=some k → k<started) :
    Reads bs (laterToolCalls s calls).2 bs ∧
      Open (laterToolCalls s calls).1 started bs := by
  unfold Open at h
  rw [hlast] at h
  obtain ⟨hopen,hpos,hmax⟩ := h
  obtain ⟨hloop,hmax'⟩ := toolCallLoop_known calls 0 hopen hseen horder hknown
  unfold laterToolCalls
  rw [if_neg (not_not.mpr hlast)]
  dsimp only
  rw [hmax,nil_append]
  exact ⟨hloop,hopen,hpos,hmax'⟩

theorem laterToolCalls_stuck (hlast : s.lastMessagesType=.tools) (hbase : s.toolCallBaseIndex≤bs.length)
    (hlen : bs.length<s.toolCallBaseIndex+seen) (horder : CallsInOrder seen calls)
    (hmax : bs.length ≤ s.toolCallBaseIndex+(toolCallLoop s.toolCallBaseIndex calls 0 s.toolCallMaxIndexOffset).1) :
    Wedged bs (seen+introduced calls) (laterToolCalls s calls) := by
  have hloop := toolCallLoop_stuck calls 0 s.toolCallMaxIndexOffset hlen horder
  rw [laterToolCalls,if_neg (not_not.mpr hlast)]
  obtain hloop | hloop := hloop
  · exact .inl hloop
  · exact .inr ⟨bs,hloop,rfl,hmax,hbase,by dsimp only; omega⟩

end States

section Chunks
variable {s : ClaudeConvertInfo} {bs : Blocks} {seen : Nat} {lossy : Bool}

inductive Payload where
  | talk | tools
  deriving DecidableEq

def Chunk.talks (c : Chunk) : Bool := c.reasoning != "" || c.content != ""

/-- What the converter sees of a later chunk: its tool calls hide its text. -/
def Chunk.payload (c : Chunk) : List Payload := if c.calls≠[] then [.tools] else if c.talks then [.talk] else []

def Chunk.firstPayload (c : Chunk) : List Payload :=
  (if c.calls≠[] then [.tools] else []) ++ if c.talks then [.talk] else []

/-- The later chunks whose payload is looked at: a chunk with the finish reason only if it has the usage too. -/
def lookedAt : List Chunk → List Chunk
  | [] => []
  | c::cs => if c.finished then (if c.usage.isSome then [c] else []) else c::lookedAt cs

/-- The payloads that must not come, in this order: a second run of tool calls. -/
def ahead (s : ClaudeConvertInfo) (seen : Nat) : List Payload :=
  if s.lastMessagesType=.tools then [.talk,.tools] else if seen=0 then [.tools,.talk,.tools] else [.tools]

/-- The converter is on its way, and the reader with it; `lossy` when the first chunk introduced tools it did not start. -/
structure Going (lossy : Bool) (s : ClaudeConvertInfo) (seen : Nat) (bs : Blocks) : Prop where
  blocks : Open s (if lossy then 1 else seen) bs
  some : s.lastMessagesType=.tools → 0<seen
  more : lossy=true → 1<seen
  going : s.done=false
  usage : s.usage=none

theorem stopAndAdvance_keeps (s : ClaudeConvertInfo) : (stopOpenBlocksAndAdvance s).1.done=s.done ∧
    (stopOpenBlocksAndAdvance s).1.usage=s.usage ∧ (stopOpenBlocksAndAdvance s).1.finishReason=s.finishReason := by
  unfold stopOpenBlocksAndAdvance
  split <;> exact ⟨rfl,rfl,rfl⟩

theorem laterToolCalls_keeps (s : ClaudeConvertInfo) (calls : List ToolCallResponse) :
    (laterToolCalls s calls).1.done=s.done ∧ (laterToolCalls s calls).1.usage=s.usage ∧
      (laterToolCalls s calls).1.lastMessagesType=.tools := by
  have hkeeps := stopAndAdvance_keeps s
  unfold laterToolCalls
  by_cases hlast : s.lastMessagesType≠.tools
  · rw [if_pos hlast]
    exact ⟨hkeeps.1,hkeeps.2.1,rfl⟩
  · rw [if_neg hlast]
    exact ⟨rfl,rfl,rfl⟩

theorem laterTalk_keeps (s : ClaudeConvertInfo) (kind : LastMessageType) (block : ContentBlock) (delta : BlockDelta) :
    (laterTalk s kind block delta).1.done=s.done ∧ (laterTalk s kind block delta).1.usage=s.usage ∧
      (laterTalk s kind block delta).1.lastMessagesType=kind := by
  have hkeeps := stopAndAdvance_keeps s
  unfold laterTalk
  by_cases hlast : s.lastMessagesType≠kind
  · rw [if_pos hlast]
    exact ⟨hkeeps.1,hkeeps.2.1,rfl⟩
  · rw [if_neg hlast]
    exact ⟨rfl,rfl,rfl⟩

variable {c : Chunk}

theorem content_of_talks (htalks : c.talks=true) (hreasoning : ¬ c.delta.getReasoningContent≠"") :
    c.delta.getContentString≠"" := by
  intro hempty
  simp only [Chunk.talks,Chunk.reasoning,Chunk.content,not_not.mp hreasoning,hempty] at htalks
  exact absurd htalks (by decide)

theorem laterPayload_talk (hcalls : c.calls=[]) (htalks : c.talks=true) :
    ∃ kind block delta, (kind=.text ∨ kind=.thinking) ∧ block.kind=LastMessageType.kind kind ∧
      BlockDelta.kind delta=LastMessageType.kind kind ∧ ∀ s, laterPayload s c.delta=laterTalk s kind block delta := by
  have hcalls' : ¬ c.delta.calls≠[] := not_not.mpr hcalls
  by_cases hreasoning : c.delta.getReasoningContent≠""
  · refine ⟨.thinking,.thinking,.thinkingDelta c.delta.getReasoningContent,.inr rfl,rfl,rfl,fun s => ?_⟩
    rw [laterPayload,if_neg hcalls',if_pos hreasoning]
  · have hcontent := content_of_talks htalks hreasoning
    refine ⟨.text,.text,.textDelta c.delta.getContentString,.inl rfl,rfl,rfl,fun s => ?_⟩
    rw [laterPayload,if_neg hcalls',if_neg hreasoning,if_pos hcontent]

theorem laterPayload_silent (hcalls : c.calls=[]) (htalks : c.talks=false) (s : ClaudeConvertInfo) :
    laterPayload s c.delta=(s,[]) := by
  simp only [Chunk.talks,Bool.or_eq_false_iff,bne_eq_false_iff_eq] at htalks
  have hcalls' : ¬ c.delta.calls≠[] := not_not.mpr hcalls
  have hreasoning : ¬ c.delta.getReasoningContent≠"" := not_not.mpr htalks.1
  have hcontent : ¬ c.delta.getContentString≠"" := not_not.mpr htalks.2
  rw [laterPayload,if_neg hcalls',if_neg hreasoning,if_neg hcontent]

theorem laterPayload_tools (hcalls : c.calls≠[]) (s : ClaudeConvertInfo) :
    laterPayload s c.delta=laterToolCalls s c.calls := if_pos hcalls

theorem laterPayload_keeps (s : ClaudeConvertInfo) (c : Chunk) :
    (laterPayload s c.delta).1.done=s.done ∧ (laterPayload s c.delta).1.usage=s.usage := by
  by_cases hcalls : c.calls=[]
  · cases htalks : c.talks with
    | false =>
      rw [laterPayload_silent hcalls htalks]
      exact ⟨rfl,rfl⟩
    | true =>
      obtain ⟨kind,block,delta,-,-,-,htalk⟩ := laterPayload_talk hcalls htalks
      rw [htalk]
      exact ⟨(laterTalk_keeps s kind block delta).1,(laterTalk_keeps s kind block delta).2.1⟩
  · rw [laterPayload_tools hcalls]
    exact ⟨(laterToolCalls_keeps s c.calls).1,(laterToolCalls_keeps s c.calls).2.1⟩

theorem sublist_cons_ne {α : Type} {a b : α} {l m : List α} (h : a≠b) : a::l <+ b::m ↔ a::l <+ m := by
  rw [cons_sublist_cons']
  simp [h]

theorem laterPayload_reads (h : Going lossy s seen bs) (horder : CallsInOrder seen c.calls)
    (hahead : ¬ ahead s seen <+ c.payload) (hknown : lossy=true → ∀ call∈c.calls, call.index=some 0) :
    ∃ bs', Reads bs (laterPayload s c.delta).2 bs' ∧
      Going lossy (laterPayload s c.delta).1 (seen+introduced c.calls) bs' ∧
      ∀ l, ahead s seen <+ c.payload++l ↔ ahead (laterPayload s c.delta).1 (seen+introduced c.calls) <+ l := by
  by_cases hcalls : c.calls=[]
  · have hsame : seen+introduced c.calls=seen := by rw [hcalls]; rfl
    rw [hsame]
    cases htalks : c.talks with
    | false =>
      have hpayload : c.payload=[] := by rw [Chunk.payload,if_neg (not_not.mpr hcalls),htalks]; rfl
      rw [laterPayload_silent hcalls htalks,hpayload]
      exact ⟨bs,rfl,h,fun l => Iff.rfl⟩
    | true =>
      have hpayload : c.payload=[.talk] := by rw [Chunk.payload,if_neg (not_not.mpr hcalls),htalks]; rfl
      obtain ⟨kind,block,delta,hkind,hblock,hdelta,htalk⟩ := laterPayload_talk hcalls htalks
      obtain ⟨bs',hread,hopen⟩ := laterTalk_reads h.blocks hkind hblock hdelta
      obtain ⟨hdone,husage,hlast⟩ := laterTalk_keeps s kind block delta
      have hnot : (laterTalk s kind block delta).1.lastMessagesType≠.tools := by
        rw [hlast]
        obtain rfl | rfl := hkind <;> nofun
      rw [htalk,hpayload]
      refine ⟨bs',hread,⟨hopen,fun ht => absurd ht hnot,h.more,hdone.trans h.going,husage.trans h.usage⟩,fun l => ?_⟩
      unfold ahead
      rw [if_neg hnot]
      by_cases ht : s.lastMessagesType=.tools
      · have hpos := h.some ht
        rw [if_pos ht,if_neg (by omega)]
        exact cons_sublist_cons
      · rw [if_neg ht]
        split <;> exact sublist_cons_ne nofun
  · have hpayload : c.payload=[.tools] := if_pos hcalls
    obtain ⟨hdone,husage,hlast⟩ := laterToolCalls_keeps s c.calls
    rw [laterPayload_tools hcalls]
    rw [hpayload] at hahead ⊢
    by_cases ht : s.lastMessagesType=.tools
    · have hpattern : ∀ l, ahead s seen <+ [.tools]++l ↔ ahead (laterToolCalls s c.calls).1 (seen+introduced c.calls) <+ l := by
        intro l
        rw [ahead,if_pos ht,ahead,if_pos hlast]
        exact sublist_cons_ne nofun
      have hpos := h.some ht
      cases hl : lossy with
      | false =>
        subst hl
        obtain ⟨bs',hread,hopen⟩ := laterToolCalls_going h.blocks ht horder
        exact ⟨bs',hread,⟨hopen,fun _ => Nat.add_pos_left hpos _,nofun,hdone.trans h.going,husage.trans h.usage⟩,hpattern⟩
      | true =>
        subst hl
        have hmore := h.more rfl
        obtain ⟨hread,hopen⟩ := laterToolCalls_known h.blocks ht hmore horder fun call hc k hk => by
          rw [hknown rfl call hc] at hk
          cases hk
          exact Nat.lt_succ_self 0
        exact ⟨bs,hread,⟨hopen,fun _ => Nat.add_pos_left hpos _,fun _ => Nat.lt_add_right _ hmore,
          hdone.trans h.going,husage.trans h.usage⟩,hpattern⟩
    · rw [ahead,if_neg ht] at hahead
      have hzero : seen=0 := by
        by_contra hne
        rw [if_neg hne] at hahead
        exact hahead (List.Sublist.refl _)
      subst hzero
      have hl : lossy=false := by
        cases hl : lossy with
        | false => rfl
        | true => exact absurd (h.more hl) (by omega)
      subst hl
      obtain ⟨bs',hread,hopen⟩ := laterToolCalls_first h.blocks ht hcalls horder
      have hopen' : Open (laterToolCalls s c.calls).1 (0+introduced c.calls) bs' := by
        rw [Nat.zero_add]
        exact hopen
      refine ⟨bs',hread,⟨hopen',fun _ => ?_,nofun,hdone.trans h.going,husage.trans h.usage⟩,fun l => ?_⟩
      · unfold Open at hopen'
        rw [hlast] at hopen'
        exact hopen'.2.1
      · rw [ahead,if_neg ht,if_pos rfl,ahead,if_pos hlast]
        exact cons_sublist_cons

/-- A chunk with a second run of tool calls, or with a call of a tool that was passed over. -/
def Strays (lossy : Bool) (s : ClaudeConvertInfo) (seen : Nat) (c : Chunk) : Prop :=
  ahead s seen <+ c.payload ∨ (lossy=true ∧ ∃ call∈c.calls, call.index≠some 0)

theorem not_strays (h : ¬ Strays lossy s seen c) :
    ¬ ahead s seen <+ c.payload ∧ (lossy=true → ∀ call∈c.calls, call.index=some 0) := by
  refine ⟨fun hsub => h (.inl hsub),fun hl call hcall => ?_⟩
  by_contra hindex
  exact h (.inr ⟨hl,call,hcall,hindex⟩)

theorem strays_break (h : Strays lossy s seen c) (cs : List Chunk) : ¬ (¬ ahead s seen <+ (c::cs).flatMap (·.payload) ∧
      (lossy=true → ∀ c'∈c::cs, ∀ call∈c'.calls, call.index=some 0)) := by
  rintro ⟨hahead,hknown⟩
  obtain hsub | ⟨hl,call,hcall,hindex⟩ := h
  · rw [flatMap_cons] at hahead
    exact hahead (hsub.trans (sublist_append_left _ _))
  · exact hindex (hknown hl c mem_cons_self call hcall)

theorem ahead_ne_nil (s : ClaudeConvertInfo) (seen : Nat) : ahead s seen≠[] := by
  unfold ahead
  split
  · nofun
  · split <;> nofun

theorem laterPayload_strays (h : Going lossy s seen bs) (horder : CallsInOrder seen c.calls) (hstrays : Strays lossy s seen c) :
    Wedged bs (seen+introduced c.calls) (laterPayload s c.delta) := by
  have hcalls : c.calls≠[] := by
    obtain hsub | ⟨-,call,hcall,-⟩ := hstrays
    · intro hcalls
      rw [Chunk.payload,if_neg (not_not.mpr hcalls)] at hsub
      have htools : Payload.tools∈(if c.talks then [Payload.talk] else []) := hsub.subset (by
        unfold ahead
        split
        · decide
        · split <;> decide)
      split at htools <;> simp at htools
    · exact ne_nil_of_mem hcall
  rw [laterPayload_tools hcalls]
  by_cases ht : s.lastMessagesType=.tools
  · obtain hsub | ⟨hl,call,hcall,hindex⟩ := hstrays
    · rw [Chunk.payload,if_pos hcalls,ahead,if_pos ht] at hsub
      exact absurd hsub.length_le (by decide)
    · have hopen := h.blocks
      unfold Open at hopen
      rw [ht,hl] at hopen
      have hlen := hopen.1.length
      have hmore := h.more hl
      rw [if_pos rfl] at hlen
      refine laterToolCalls_stuck ht (by omega) (by omega) horder ?_
      obtain ⟨k,hk⟩ := callsInOrder_index horder hcall
      have hle := toolCallLoop_index_le s.toolCallBaseIndex c.calls 0 s.toolCallMaxIndexOffset ⟨call,hcall,hk⟩
      have hne : k≠0 := fun h0 => hindex (h0 ▸ hk)
      omega
  · have hpos : 0<seen := by
      obtain hsub | ⟨hl,-⟩ := hstrays
      · rw [Chunk.payload,if_pos hcalls,ahead,if_neg ht] at hsub
        by_contra hzero
        rw [if_pos (by omega)] at hsub
        exact absurd hsub.length_le (by decide)
      · exact Nat.lt_trans Nat.zero_lt_one (h.more hl)
    exact laterToolCalls_again h.blocks ht hpos horder

theorem laterPayload_stuck (h : Stuck s seen bs) (horder : CallsInOrder seen c.calls) :
    Wedged bs (seen+introduced c.calls) (laterPayload s c.delta) := by
  by_cases hcalls : c.calls=[]
  · cases htalks : c.talks with
    | false =>
      rw [laterPayload_silent hcalls htalks,hcalls]
      exact .inr ⟨bs,rfl,h⟩
    | true =>
      obtain ⟨kind,block,delta,hkind,-,-,htalk⟩ := laterPayload_talk hcalls htalks
      rw [htalk]
      exact .inl (laterTalk_stuck h hkind block delta)
  · rw [laterPayload_tools hcalls]
    obtain ⟨hlast,hmax,hbase,hlen⟩ := h
    have hle := toolCallLoop_max_le s.toolCallBaseIndex c.calls 0 s.toolCallMaxIndexOffset
    exact laterToolCalls_stuck hlast hbase hlen horder (by omega)

def Reading.Accepts (r : Reading) (events : List ClaudeEvent) : Prop := (r.readAll events).any (·.phase=.over)=true

variable {es fs : List ClaudeEvent} (estimate : Int)

theorem accepts_append_of_none {r : Reading} (h : r.readAll es=none) : ¬ r.Accepts (es++fs) := by
  rw [Reading.Accepts,Reading.readAll_append,h]
  exact nofun

theorem accepts_append_of_some {r r' : Reading} (h : r.readAll es=some r') : r.Accepts (es++fs) ↔ r'.Accepts fs := by
  rw [Reading.Accepts,Reading.readAll_append,h]
  exact Iff.rfl

theorem done_silent (chunks : List Chunk) : ∀ {n : Nat} {s : ClaudeConvertInfo}, s.done=true →
    claudeEventsFrom estimate n s chunks=[] := by
  induction chunks with
  | nil => exact fun h => by rw [claudeEventsFrom,finalizeStreamResponseOpenAI2Claude,if_pos h]
  | cons c chunks ih =>
    intro n s h
    rw [claudeEventsFrom,streamResponseOpenAI2Claude,if_pos h]
    exact ih h

theorem later_step {n : Nat} (hn : n≠1) (hdone : s.done=false) (c : Chunk) (cs : List Chunk) :
    claudeEventsFrom estimate n s (c::cs)=(laterChunk s c).2++claudeEventsFrom estimate (n+1) (laterChunk s c).1 cs := by
  have hnot : ¬ s.done=true := by rw [hdone]; exact Bool.false_ne_true
  rw [claudeEventsFrom,streamResponseOpenAI2Claude,if_neg hnot,if_neg hn]

def Chunk.reason (c : Chunk) : String := (c.choices.head?.bind (·.finishReason)).getD ""

section
variable (hone : c.choices.length=1)
include hone

theorem oneChoice : ∃ x, c.choices=[x] ∧ c.delta=x.delta ∧ c.finished=x.finished ∧ c.reason=x.finishReason.getD "" := by
  obtain ⟨x,hx⟩ := length_eq_one_iff.mp hone
  refine ⟨x,hx,?_,?_,?_⟩
  · rw [Chunk.delta,hx]
    rfl
  · rw [Chunk.finished,hx]
    rfl
  · rw [Chunk.reason,hx]
    rfl

theorem laterChunk_unfinished (hfinished : c.finished=false)
    (s : ClaudeConvertInfo) : laterChunk s c=laterPayload s c.delta := by
  obtain ⟨x,hx,hdelta,hfin,-⟩ := oneChoice hone
  rw [hfinished] at hfin
  rw [laterChunk,hx,hdelta]
  exact if_neg (by rw [← hfin]; exact Bool.false_ne_true)

theorem laterChunk_deferred (hfinished : c.finished=true) (husage : c.usage=none) (s : ClaudeConvertInfo) :
    laterChunk s c=({ s with finishReason := c.reason },[]) := by
  obtain ⟨x,hx,-,hfin,hreason⟩ := oneChoice hone
  rw [laterChunk,hx,husage,hreason]
  exact if_pos (hfin.symm.trans hfinished)

theorem laterChunk_finished (hfinished : c.finished=true) {usage : Usage}
    (husage : c.usage=some usage) (s : ClaudeConvertInfo) :
    ∃ stopReason, laterChunk s c =
      ((terminate (laterPayload { s with finishReason := c.reason } c.delta).1 (some usage) stopReason).1,
        (laterPayload { s with finishReason := c.reason } c.delta).2 ++
          (terminate (laterPayload { s with finishReason := c.reason } c.delta).1 (some usage) stopReason).2) := by
  obtain ⟨x,hx,hdelta,hfin,hreason⟩ := oneChoice hone
  rw [laterChunk,hx,husage,hreason,hdelta]
  exact ⟨_,if_pos (hfin.symm.trans hfinished)⟩

end

variable (estimate : Int) (chunks : List Chunk)

theorem laterChunk_usageOnly (h : c.usageOnly) (s : ClaudeConvertInfo) :
    ∃ usage stopReason, laterChunk s c=terminate s usage stopReason := by
  obtain ⟨usage,husage⟩ := isSome_iff_exists.mp h.2
  rw [laterChunk,h.1,husage]
  exact ⟨_,_,rfl⟩

theorem finalize_terminates (hdone : s.done=false) :
    ∃ stopReason, finalizeStreamResponseOpenAI2Claude s=terminate s s.usage stopReason := by
  have hnot : ¬ s.done=true := by rw [hdone]; exact Bool.false_ne_true
  rw [finalizeStreamResponseOpenAI2Claude,if_neg hnot]
  exact ⟨_,rfl⟩

theorem tail_terminates {n : Nat} (hn : 2≤n) (hdone : s.done=false) {cs : List Chunk}
    (htail : cs=[] ∨ ∃ u, cs=[u] ∧ u.usageOnly) :
    ∃ usage stopReason, claudeEventsFrom estimate n s cs=(terminate s usage stopReason).2 := by
  obtain rfl | ⟨u,rfl,hu⟩ := htail
  · obtain ⟨stopReason,hfinal⟩ := finalize_terminates hdone
    exact ⟨s.usage,stopReason,congrArg Prod.snd hfinal⟩
  · obtain ⟨usage,stopReason,hchunk⟩ := laterChunk_usageOnly hu s
    refine ⟨usage,stopReason,?_⟩
    rw [later_step estimate (by omega) hdone,hchunk,done_silent estimate [] rfl,append_nil]

theorem finish_events {n : Nat} (hn : 2≤n) (hdone : s.done=false) {cs : List Chunk}
    (hone : c.choices.length=1) (hfinished : c.finished=true) (htail : cs=[] ∨ ∃ u, cs=[u] ∧ u.usageOnly) :
    ∃ usage stopReason, claudeEventsFrom estimate n s (c::cs) =
      if c.usage.isSome then (laterPayload { s with finishReason := c.reason } c.delta).2 ++
        (terminate (laterPayload { s with finishReason := c.reason } c.delta).1 usage stopReason).2
      else (terminate { s with finishReason := c.reason } usage stopReason).2 := by
  rw [later_step estimate (by omega) hdone]
  cases husage : c.usage with
  | none =>
    rw [laterChunk_deferred hone hfinished husage]
    exact tail_terminates (s := { s with finishReason := c.reason }) estimate (n := n+1) (by omega) hdone htail
  | some usage =>
    obtain ⟨stopReason,hchunk⟩ := laterChunk_finished hone hfinished husage s
    refine ⟨some usage,stopReason,?_⟩
    rw [hchunk,done_silent estimate cs rfl,append_nil]
    rfl

theorem stuck_rejected : ∀ {n : Nat} {s : ClaudeConvertInfo} {seen : Nat}
    {bs : Blocks}, 2≤n → s.done=false → Stuck s seen bs → ChunksInOrder chunks →
    CallsInOrder seen (chunks.flatMap (·.calls)) →
    ¬ (Reading.mk .content bs).Accepts (claudeEventsFrom estimate n s chunks) := by
  induction chunks with
  | nil =>
    intro n s seen bs hn hdone h _ _
    obtain ⟨usage,stopReason,hevents⟩ := tail_terminates estimate hn hdone (.inl rfl)
    rw [hevents,← append_nil (terminate s usage stopReason).2]
    exact accepts_append_of_none (terminate_stuck h usage stopReason)
  | cons c cs ih =>
    intro n s seen bs hn hdone h hchunks hcalls
    obtain ⟨hone,htail⟩ := hchunks
    rw [flatMap_cons,callsInOrder_append] at hcalls
    cases hfinished : c.finished with
    | false =>
      rw [hfinished] at htail
      rw [later_step estimate (by omega) hdone,laterChunk_unfinished hone hfinished]
      obtain hnone | ⟨bs',hsome,hstuck⟩ := laterPayload_stuck h hcalls.1
      · exact accepts_append_of_none hnone
      rw [accepts_append_of_some hsome]
      exact ih (by omega) ((laterPayload_keeps s c).1.trans hdone) hstuck htail hcalls.2
    | true =>
      rw [hfinished] at htail
      obtain ⟨usage,stopReason,hevents⟩ := finish_events estimate hn hdone hone hfinished htail
      have h' : Stuck { s with finishReason := c.reason } seen bs := h
      rw [hevents]
      split
      · obtain hnone | ⟨bs',hsome,hstuck⟩ := laterPayload_stuck h' hcalls.1
        · exact accepts_append_of_none hnone
        rw [accepts_append_of_some hsome,← append_nil (terminate _ usage stopReason).2]
        exact accepts_append_of_none (terminate_stuck hstuck usage stopReason)
      · rw [← append_nil (terminate _ usage stopReason).2]
        exact accepts_append_of_none (terminate_stuck h' usage stopReason)

theorem going_accepts_end (h : Going lossy s seen bs) (usage : Option Usage) (stopReason : String) :
    (Reading.mk .content bs).Accepts (terminate s usage stopReason).2 := by
  rw [Reading.Accepts,terminate_reads h.blocks]
  rfl

theorem later_accepted_iff : ∀ {n : Nat} {s : ClaudeConvertInfo} {seen : Nat}
    {bs : Blocks}, 2≤n → Going lossy s seen bs → ChunksInOrder chunks →
    CallsInOrder seen (chunks.flatMap (·.calls)) → ((Reading.mk .content bs).Accepts (claudeEventsFrom estimate n s chunks) ↔
      ¬ ahead s seen <+ (lookedAt chunks).flatMap (·.payload) ∧
      (lossy=true → ∀ c∈lookedAt chunks, ∀ call∈c.calls, call.index=some 0)) := by
  induction chunks with
  | nil =>
    intro n s seen bs hn h _ _
    obtain ⟨usage,stopReason,hevents⟩ := tail_terminates estimate hn h.going (.inl rfl)
    rw [hevents]
    refine iff_of_true (going_accepts_end h usage stopReason) ⟨?_,fun _ c hc => nomatch hc⟩
    exact fun hsub => ahead_ne_nil s seen (sublist_nil.mp hsub)
  | cons c cs ih =>
    intro n s seen bs hn h hchunks hcalls
    obtain ⟨hone,htail⟩ := hchunks
    rw [flatMap_cons,callsInOrder_append] at hcalls
    cases hfinished : c.finished with
    | false =>
      rw [hfinished] at htail
      have hlooked : lookedAt (c::cs)=c::lookedAt cs := by rw [lookedAt,hfinished]; rfl
      rw [later_step estimate (by omega) h.going,laterChunk_unfinished hone hfinished,hlooked]
      by_cases hstrays : Strays lossy s seen c
      · refine iff_of_false ?_ (strays_break hstrays _)
        obtain hnone | ⟨bs',hsome,hstuck⟩ := laterPayload_strays h hcalls.1 hstrays
        · exact accepts_append_of_none hnone
        rw [accepts_append_of_some hsome]
        exact stuck_rejected estimate cs (by omega) ((laterPayload_keeps s c).1.trans h.going) hstuck htail hcalls.2
      · obtain ⟨hahead,hknown⟩ := not_strays hstrays
        obtain ⟨bs',hsome,hgoing,hpattern⟩ := laterPayload_reads h hcalls.1 hahead hknown
        rw [accepts_append_of_some hsome,ih (by omega) hgoing htail hcalls.2,flatMap_cons,hpattern]
        refine and_congr_right fun _ => forall_congr' fun hl => ?_
        rw [forall_mem_cons]
        exact (and_iff_right (hknown hl)).symm
    | true =>
      rw [hfinished] at htail
      obtain ⟨usage,stopReason,hevents⟩ := finish_events estimate hn h.going hone hfinished htail
      have h' : Going lossy { s with finishReason := c.reason } seen bs := ⟨h.blocks,h.some,h.more,h.going,h.usage⟩
      rw [hevents,lookedAt,hfinished,if_pos rfl]
      cases husage : c.usage with
      | none =>
        refine iff_of_true (going_accepts_end h' usage stopReason) ⟨fun hsub => ?_,fun _ c hc => nomatch hc⟩
        exact ahead_ne_nil s seen (sublist_nil.mp hsub)
      | some _ =>
        rw [isSome_some,if_pos rfl,if_pos rfl]
        by_cases hstrays : Strays lossy s seen c
        · refine iff_of_false ?_ (strays_break hstrays _)
          obtain hnone | ⟨bs',hsome,hstuck⟩ := laterPayload_strays h' hcalls.1 hstrays
          · exact accepts_append_of_none hnone
          rw [accepts_append_of_some hsome,← append_nil (terminate _ usage stopReason).2]
          exact accepts_append_of_none (terminate_stuck hstuck usage stopReason)
        · obtain ⟨hahead,hknown⟩ := not_strays hstrays
          obtain ⟨bs',hsome,hgoing,-⟩ := laterPayload_reads h' hcalls.1 hahead hknown
          rw [accepts_append_of_some hsome]
          refine iff_of_true (going_accepts_end hgoing usage stopReason) ⟨?_,fun hl => ?_⟩
          · rw [flatMap_singleton]
            exact hahead
          · exact fun c' hc' => mem_singleton.mp hc' ▸ hknown hl

end Chunks

section First

theorem firstToolCall_reads {calls : List ToolCallResponse} (horder : CallsInOrder 0 calls) :
    ∃ bs, Reads [] (firstToolCall {} calls).2 bs ∧
      Going (decide (1 < introduced calls)) (firstToolCall {} calls).1 (introduced calls) bs ∧
      (firstToolCall {} calls).1.lastMessagesType = if calls=[] then .none else .tools := by
  cases calls with
  | nil => exact ⟨[],rfl,⟨⟨rfl,rfl⟩,nofun,nofun,rfl,rfl⟩,rfl⟩
  | cons call rest =>
    obtain ⟨-,-,hname,-⟩ | ⟨⟨k,hk,-⟩,-⟩ := horder
    · have hpos : introduced (call::rest)≠0 := by
        rw [introduced_cons,if_pos hname]
        omega
      have hopen : OpenTools 0 0 [] := ⟨[],rfl,rfl,rfl⟩
      have hread := read_introduction hopen hname
      have hstarted : (if decide (1 < introduced (call::rest)) then 1 else introduced (call::rest))=1 := by
        split
        · rfl
        rename_i hnot
        have := of_decide_eq_false (Bool.eq_false_iff.mpr hnot)
        omega
      refine ⟨[(.toolUse,true)],?_,⟨?_,fun _ => Nat.pos_of_ne_zero hpos,of_decide_eq_true,rfl,rfl⟩,rfl⟩
      · rw [toolCallEvents,if_pos hname] at hread
        exact hread
      · rw [hstarted]
        exact ⟨⟨[],rfl,rfl,rfl⟩,Nat.one_pos,rfl⟩
    · omega

variable {s : ClaudeConvertInfo}

theorem firstTalk_eq {kind : LastMessageType} (hlast : s.lastMessagesType≠kind) (block : ContentBlock) (delta : BlockDelta) :
    firstTalk s kind block delta=({ (stopOpenBlocksAndAdvance s).1 with lastMessagesType := kind },
      (stopOpenBlocksAndAdvance s).2++[.contentBlockStart (stopOpenBlocksAndAdvance s).1.index block,
        .contentBlockDelta (stopOpenBlocksAndAdvance s).1.index delta]) := by
  rw [firstTalk,if_pos hlast]

theorem firstTalk_reads {lossy : Bool} {seen : Nat} {bs : Blocks} (h : Going lossy s seen bs)
    {kind : LastMessageType} (hkind : kind=.text ∨ kind=.thinking)
    (hlast : s.lastMessagesType=.none ∨ s.lastMessagesType=.tools) {block : ContentBlock} {delta : BlockDelta}
    (hblock : block.kind=kind.kind) (hdelta : delta.kind=kind.kind) :
    ∃ bs', Reads bs (firstTalk s kind block delta).2 bs' ∧
      Going lossy (firstTalk s kind block delta).1 seen bs' ∧ (firstTalk s kind block delta).1.lastMessagesType≠.tools := by
  have hne : s.lastMessagesType≠kind := by
    obtain hlast | hlast := hlast <;> obtain rfl | rfl := hkind <;> rw [hlast] <;> nofun
  have hnot : kind≠.tools := by obtain rfl | rfl := hkind <;> nofun
  obtain ⟨hread,hopen⟩ := openTalk_reads h.blocks hkind hblock hdelta
  obtain ⟨hdone,husage,-⟩ := stopAndAdvance_keeps s
  rw [firstTalk_eq hne]
  exact ⟨_,hread,⟨hopen,fun ht => absurd ht hnot,h.more,hdone.trans h.going,husage.trans h.usage⟩,hnot⟩

variable {c : Chunk}

theorem firstDelta_talk (htalks : c.talks=true) :
    ∃ kind block delta, (kind=.text ∨ kind=.thinking) ∧ block.kind=LastMessageType.kind kind ∧
      BlockDelta.kind delta=LastMessageType.kind kind ∧
      firstDelta {} c.delta=((firstTalk (firstToolCall {} c.calls).1 kind block delta).1,
        (firstToolCall {} c.calls).2++(firstTalk (firstToolCall {} c.calls).1 kind block delta).2) := by
  by_cases hreasoning : c.delta.getReasoningContent≠""
  · refine ⟨.thinking,.thinking,.thinkingDelta c.reasoning,.inr rfl,rfl,rfl,?_⟩
    rw [firstDelta,firstSpeech,if_pos hreasoning]
    rfl
  · have hcontent := content_of_talks htalks hreasoning
    refine ⟨.text,.text,.textDelta c.content,.inl rfl,rfl,rfl,?_⟩
    rw [firstDelta,firstSpeech,if_neg hreasoning,if_pos hcontent]
    rfl

theorem firstDelta_silent (htalks : c.talks=false) : firstDelta {} c.delta=firstToolCall {} c.calls := by
  simp only [Chunk.talks,Bool.or_eq_false_iff,bne_eq_false_iff_eq] at htalks
  have hreasoning : ¬ c.delta.getReasoningContent≠"" := not_not.mpr htalks.1
  have hcontent : ¬ c.delta.getContentString≠"" := not_not.mpr htalks.2
  rw [firstDelta,firstSpeech,if_neg hreasoning,if_neg hcontent]
  dsimp only
  rw [append_nil]
  rfl

theorem firstDelta_reads (horder : CallsInOrder 0 c.calls) :
    ∃ bs, Reads [] (firstDelta {} c.delta).2 bs ∧
      Going (decide (1 < introduced c.calls)) (firstDelta {} c.delta).1 (introduced c.calls) bs ∧
      ∀ l, [.tools,.talk,.tools] <+ c.firstPayload++l ↔ ahead (firstDelta {} c.delta).1 (introduced c.calls) <+ l := by
  obtain ⟨bs,hread,hgoing,hlast⟩ := firstToolCall_reads horder
  have hseen : c.calls=[] → introduced c.calls=0 := fun h => by rw [h]; rfl
  cases htalks : c.talks with
  | false =>
    rw [firstDelta_silent htalks]
    refine ⟨bs,hread,hgoing,fun l => ?_⟩
    rw [Chunk.firstPayload,htalks,ahead,hlast]
    by_cases hcalls : c.calls=[]
    · rw [if_neg (not_not.mpr hcalls),if_pos hcalls,if_neg (by decide),if_pos (hseen hcalls)]
      exact Iff.rfl
    · rw [if_pos hcalls,if_neg hcalls,if_pos rfl]
      exact cons_sublist_cons
  | true =>
    obtain ⟨kind,block,delta,hkind,hblock,hdelta,htalk⟩ := firstDelta_talk htalks
    have hnone : (firstToolCall {} c.calls).1.lastMessagesType=.none ∨
        (firstToolCall {} c.calls).1.lastMessagesType=.tools := by
      rw [hlast]
      split
      · exact .inl rfl
      · exact .inr rfl
    obtain ⟨bs',hread',hgoing',hnot⟩ := firstTalk_reads hgoing hkind hnone hblock hdelta
    rw [htalk]
    refine ⟨bs',(hread.then _).trans hread',hgoing',fun l => ?_⟩
    rw [Chunk.firstPayload,htalks,ahead,if_neg hnot]
    by_cases hcalls : c.calls=[]
    · rw [if_neg (not_not.mpr hcalls),if_pos (hseen hcalls)]
      exact sublist_cons_ne nofun
    · have hpos : introduced c.calls≠0 := by
        rw [if_neg hcalls] at hlast
        exact Nat.pos_iff_ne_zero.mp (hgoing.some hlast)
      rw [if_pos hcalls,if_neg hpos]
      exact cons_sublist_cons.trans cons_sublist_cons

theorem firstDelta_usage (c : Chunk) (horder : CallsInOrder 0 c.calls) : (firstDelta {} c.delta).1.usage=none := by
  obtain ⟨bs,-,hgoing,-⟩ := firstDelta_reads horder
  exact hgoing.usage

theorem firstChunk_unfinished (estimate : Int) (hone : c.choices.length=1) (hfinished : c.finished=false) :
    firstChunk {} estimate c = ((firstDelta {} c.delta).1,.messageStart c.id c.model estimate::(firstDelta {} c.delta).2) := by
  obtain ⟨x,hx,hdelta,hfin,-⟩ := oneChoice hone
  rw [hfinished] at hfin
  rw [firstChunk,hx,hdelta]
  dsimp only
  rw [if_neg (by rw [← hfin]; exact Bool.false_ne_true)]

theorem firstChunk_finished (estimate : Int) (hone : c.choices.length=1) (hfinished : c.finished=true)
    (horder : CallsInOrder 0 c.calls) :
    (c.usage=none ∧ firstChunk {} estimate c=({ (firstDelta {} c.delta).1 with finishReason := c.reason },
      .messageStart c.id c.model estimate::(firstDelta {} c.delta).2)) ∨
    ∃ usage stopReason, firstChunk {} estimate c =
      ((terminate { (firstDelta {} c.delta).1 with finishReason := c.reason } usage stopReason).1,
        .messageStart c.id c.model estimate::(firstDelta {} c.delta).2 ++
          (terminate { (firstDelta {} c.delta).1 with finishReason := c.reason } usage stopReason).2) := by
  have husage := firstDelta_usage c horder
  obtain ⟨x,hx,hdelta,hfin,hreason⟩ := oneChoice hone
  rw [hfinished] at hfin
  have hor : c.usage.or (firstDelta {} c.delta).1.usage=c.usage := by rw [husage,or_none]
  rw [hdelta] at hor ⊢
  rw [firstChunk,hx,hreason]
  dsimp only
  rw [if_pos hfin.symm,hor]
  cases c.usage with
  | none => exact .inl ⟨rfl,rfl⟩
  | some usage => exact .inr ⟨some usage,stopReasonOpenAI2Claude (x.finishReason.getD ""),rfl⟩

theorem tail_silent {cs : List Chunk} (htail : cs=[] ∨ ∃ u, cs=[u] ∧ u.usageOnly) :
    (lookedAt cs).flatMap (·.payload)=[] ∧ ∀ c∈lookedAt cs, c.calls=[] := by
  obtain rfl | ⟨u,rfl,hu,-⟩ := htail
  · exact ⟨rfl,fun c hc => nomatch hc⟩
  have hfinished : u.finished=false := by rw [Chunk.finished,hu]; rfl
  have hdelta : u.delta={} := by rw [Chunk.delta,hu]; rfl
  have hcalls : u.calls=[] := by rw [Chunk.calls,hdelta]; rfl
  have htalks : u.talks=false := by rw [Chunk.talks,Chunk.reasoning,Chunk.content,hdelta]; rfl
  have hlooked : lookedAt [u]=[u] := by rw [lookedAt,hfinished]; rfl
  rw [hlooked]
  refine ⟨?_,fun c hc => mem_singleton.mp hc ▸ hcalls⟩
  rw [flatMap_singleton,Chunk.payload,if_neg (not_not.mpr hcalls),htalks]
  rfl

end First

/-- The stream is not empty, and of what the converter looks at there is one run of tool calls: no tool call comes after
text or reasoning that came after a tool call, and if the first chunk introduces several tools, later calls are of the
first of them. -/
def SingleToolRun : List Chunk → Prop
  | [] => False
  | first::later =>
    ¬ [.tools,.talk,.tools] <+ first.firstPayload++(lookedAt later).flatMap (·.payload) ∧
    (1 < introduced first.calls → ∀ c∈lookedAt later, ∀ call∈c.calls, call.index=some 0)

instance (chunks : List Chunk) : Decidable (SingleToolRun chunks) :=
  match chunks with
  | [] => inferInstanceAs (Decidable False)
  | _::_ => inferInstanceAs (Decidable (_ ∧ _))

/-- The events of a well-formed stream are in Claude's grammar exactly when the stream has a single run of tools. -/
theorem claude_stream_in_grammar_iff {chunks : List Chunk} (h : WellFormed chunks) (estimate : Int) :
    InGrammar (claudeEvents estimate chunks)=true ↔ SingleToolRun chunks := by
  cases chunks with
  | nil => exact iff_of_false nofun id
  | cons c cs =>
    obtain ⟨⟨hone,htail⟩,hcalls⟩ := h
    rw [flatMap_cons,callsInOrder_append,Nat.zero_add] at hcalls
    obtain ⟨bs,hread,hgoing,hpattern⟩ := firstDelta_reads hcalls.1
    have hstart : readAll {} (.messageStart c.id c.model estimate::(firstDelta {} c.delta).2)=some ⟨.content,bs⟩ := hread
    have hevents : claudeEvents estimate (c::cs) =
        (firstChunk {} estimate c).2++claudeEventsFrom estimate 2 (firstChunk {} estimate c).1 cs := rfl
    change Reading.Accepts {} (claudeEvents estimate (c::cs)) ↔ _
    rw [hevents,SingleToolRun,hpattern]
    cases hfinished : c.finished with
    | false =>
      rw [hfinished] at htail
      rw [firstChunk_unfinished estimate hone hfinished,accepts_append_of_some hstart,
        later_accepted_iff estimate cs (Nat.le_refl 2) hgoing htail hcalls.2]
      exact and_congr_right fun _ => by rw [decide_eq_true_iff]
    | true =>
      rw [hfinished] at htail
      have hgoing' : Going _ { (firstDelta {} c.delta).1 with finishReason := c.reason } _ bs :=
        ⟨hgoing.blocks,hgoing.some,hgoing.more,hgoing.going,hgoing.usage⟩
      have hsilent : (lookedAt cs).flatMap (·.payload)=[] ∧ ∀ c'∈lookedAt cs, c'.calls=[] := tail_silent htail
      refine iff_of_true ?_ ⟨?_,fun _ c' hc' call hcall => ?_⟩
      · obtain ⟨-,hfirst⟩ | ⟨usage,stopReason,hfirst⟩ := firstChunk_finished estimate hone hfinished hcalls.1
        · obtain ⟨usage,stopReason,hrest⟩ := tail_terminates estimate (Nat.le_refl 2) hgoing'.going htail
          rw [hfirst,accepts_append_of_some hstart,hrest]
          exact going_accepts_end hgoing' usage stopReason
        · rw [hfirst,done_silent estimate cs rfl,append_nil,accepts_append_of_some hstart]
          exact going_accepts_end hgoing' usage stopReason
      · rw [hsilent.1]
        exact fun hsub => ahead_ne_nil _ _ (sublist_nil.mp hsub)
      · rw [hsilent.2 c' hc'] at hcall
        cases hcall

def parallelTools : List Chunk :=
  [{ choices := [{ delta := { content := some "x" } }] },
   { choices := [{ delta := { toolCalls := some [⟨some 0, "a", "f", ""⟩,⟨some 1, "b", "g", "["⟩] } }] },
   { choices := [{ delta := { toolCalls := some [⟨some 0, "", "", "1"⟩,⟨some 1, "", "", "]"⟩] } }] },
   { choices := [{ finishReason := some "tool_calls" }], usage := some {} }]

theorem parallelTools_wellFormed : WellFormed parallelTools := by
  refine ⟨⟨rfl,rfl,rfl,rfl,.inl rfl⟩,.inl ⟨rfl,by decide,by decide,.inl ⟨rfl,by decide,by decide,?_⟩⟩⟩
  exact .inr ⟨⟨0,by decide,rfl⟩,rfl,rfl,.inr ⟨⟨1,by decide,rfl⟩,rfl,rfl,trivial⟩⟩

theorem parallelTools_in_grammar : WellFormed parallelTools ∧ InGrammar (claudeEvents 0 parallelTools)=true :=
  ⟨parallelTools_wellFormed,(claude_stream_in_grammar_iff parallelTools_wellFormed 0).mpr (by decide)⟩

def textBetweenTools : List Chunk :=
  [{ choices := [{ delta := { toolCalls := some [⟨some 0, "a", "f", "1"⟩] } }] },
   { choices := [{ delta := { content := some "x" } }] },
   { choices := [{ delta := { toolCalls := some [⟨some 1, "b", "g", "2"⟩] } }] },
   { choices := [{ finishReason := some "tool_calls" }] }]

theorem textBetweenTools_wellFormed : WellFormed textBetweenTools := by
  refine ⟨⟨rfl,rfl,rfl,rfl,.inl rfl⟩,?_⟩
  exact .inl ⟨rfl,by decide,by decide,.inl ⟨rfl,by decide,by decide,trivial⟩⟩

theorem textBetweenTools_out_of_grammar : WellFormed textBetweenTools ∧ InGrammar (claudeEvents 0 textBetweenTools)=false :=
  ⟨textBetweenTools_wellFormed,by decide +kernel⟩

end NewApi.Relay

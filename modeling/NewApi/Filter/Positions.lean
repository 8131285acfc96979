import NewApi.Filter.Hits
import NewApi.Filter.Stream
import NewApi.Lib.Runs

/-! Positions of a stream: how much of the pushed text has left the buffer, and what is held back. -/
namespace NewApi.Filter
open List

section Queue
variable {queue : List StreamChunk} {start count target : Nat}

theorem length_queueText (queue : List StreamChunk) : (queueText queue).length=(queue.map (·.runes)).sum := by
  rw [queueText,length_flatMap]
  rfl

theorem queueOffset_eq (queue : List StreamChunk) (start count : Nat) :
    queueOffset queue start count=start+(queueText (queue.take count)).length := by
  rw [queueOffset,length_queueText]

theorem queueText_append (left right : List StreamChunk) : queueText (left++right)=queueText left++queueText right :=
  flatMap_append

theorem queueText_take_drop (queue : List StreamChunk) (count : Nat) :
    queueText (queue.take count)++queueText (queue.drop count)=queueText queue := by
  rw [← queueText_append,take_append_drop]

theorem queueOffset_mono {count' : Nat} (h : count≤count') : queueOffset queue start count≤queueOffset queue start count' := by
  have hsplit : queue.take count'=queue.take count++(queue.take count').drop count := by
    have htake : (queue.take count').take count=queue.take count := by rw [take_take,min_eq_left h]
    rw [← htake,take_append_drop]
  rw [queueOffset_eq,queueOffset_eq,hsplit,queueText_append,length_append]
  omega

theorem queueOffset_index_le (queue : List StreamChunk) (start target : Nat) :
    queueOffset queue start (queueIndexAtOffset target start queue) ≤ max start target := by
  induction queue generalizing start with
  | nil => exact le_max_left _ _
  | cons chunk rest ih =>
    unfold queueIndexAtOffset
    split
    · exact le_max_left _ _
    rename_i hge
    have hrest := ih (start+chunk.runes)
    rw [max_eq_right (by omega)] at hrest
    rw [queueOffset,take_succ_cons,map_cons,sum_cons,← Nat.add_assoc]
    exact hrest.trans (le_max_right _ _)

theorem queueIndex_le (h : target<queueOffset queue start count) : queueIndexAtOffset target start queue≤count := by
  induction queue generalizing start count with
  | nil => exact Nat.zero_le _
  | cons chunk rest ih =>
    unfold queueIndexAtOffset
    split
    · exact Nat.zero_le _
    rename_i hge
    cases count with
    | zero =>
      rw [queueOffset_eq,take_zero] at h
      simp only [queueText,flatMap_nil,length_nil,Nat.add_zero] at h
      omega
    | succ count =>
      rw [queueOffset,take_succ_cons,map_cons,sum_cons,← Nat.add_assoc] at h
      exact Nat.succ_le_succ (ih h)

theorem atomicIndexFrom_le (queue : List StreamChunk) (index : Nat) : atomicIndexFrom queue index ≤ index := by
  induction index with
  | zero => exact le_refl _
  | succ index ih =>
    unfold atomicIndexFrom
    split
    · exact ih.trans (Nat.le_succ _)
    · exact le_refl _

theorem atomicIndex_le (h : count<queue.length) : atomicIndex queue count≤count := by
  unfold atomicIndex
  rw [if_neg (by omega)]
  exact atomicIndexFrom_le queue count

theorem moved_le (queue : List StreamChunk) (start : Nat) (ranges : List TextRangeMatch) (first : Nat) :
    ranges.foldl (fun holdIndex item =>
      let readyEnd := queueOffset queue start holdIndex
      if item.start<readyEnd && readyEnd < item.stop then queueIndexAtOffset item.start start queue
      else holdIndex) first≤first := by
  induction ranges generalizing first with
  | nil => exact le_refl _
  | cons item ranges ih =>
    rw [foldl_cons]
    refine (ih _).trans ?_
    dsimp only
    split
    next hcross =>
      rw [Bool.and_eq_true,decide_eq_true_eq] at hcross
      exact queueIndex_le hcross.1
    · exact le_refl _

end Queue

section Aligned
variable {lower : Char → Char} {pushed : List Char} {b : StreamDelayBuffer} {sent : Nat} {endKnown : Bool}

/-- The first `sent` runes have left the buffer, the others wait in it, and the last one sent is kept. -/
structure Aligned (pushed : List Char) (b : StreamDelayBuffer) (sent : Nat) : Prop where
  le : sent≤pushed.length
  queue : queueText b.queue=pushed.drop sent
  history : b.historyTail=lastRunes (pushed.take sent) 1

theorem Aligned.length_history (h : Aligned pushed b sent) : b.historyTail.length=min 1 sent := by
  have hle := h.le
  rw [h.history,lastRunes,length_drop,length_take]
  omega

theorem Aligned.candidate_eq (h : Aligned pushed b sent) : b.candidate=pushed.drop (sent-min 1 sent) := by
  have hle := h.le
  have hlength : (pushed.take sent).length=sent := by
    rw [length_take]
    omega
  rw [StreamDelayBuffer.candidate,h.queue,h.history,lastRunes,hlength]
  rcases Nat.eq_zero_or_pos sent with rfl | hpos
  · simp
  rw [min_eq_left hpos]
  have hdrop : (pushed.take sent++pushed.drop sent).drop (sent-1) =
      (pushed.take sent).drop (sent-1)++pushed.drop sent := drop_append_of_le_length (by omega)
  rw [← hdrop,take_append_drop]

theorem holdIndex_offset_le (hpending : 0<pendingSuffixRunes lower b.filter b.candidate) :
    queueOffset b.queue b.historyTail.length (b.holdIndex lower false) ≤
      max b.historyTail.length (b.candidate.length-pendingSuffixRunes lower b.filter b.candidate) := by
  refine le_trans (queueOffset_mono ?_) (queueOffset_index_le b.queue b.historyTail.length _)
  unfold StreamDelayBuffer.holdIndex
  simp only [Bool.false_or,decide_eq_true_eq,hpending.ne',if_false]
  split
  next hlt =>
    exact (atomicIndex_le hlt).trans (moved_le _ _ _ _)
  · exact moved_le _ _ _ _

theorem Aligned.held_back (h : Aligned pushed b sent) {k : SensitiveKeyword} (hk : b.filter.HasKeyword k) {p : Nat}
    (hp : sent≤p) (hpending : Pending (pushed.map lower) k.runes p) :
    sent+(queueText (b.queue.take (b.holdIndex lower false))).length≤p := by
  have hle := h.le
  have hhistory := h.length_history
  have hcandidate := h.candidate_eq
  have hlength : b.candidate.length=pushed.length-(sent-min 1 sent) := by rw [hcandidate,length_drop]
  have hin : Pending (b.candidate.map lower) k.runes (p-(sent-min 1 sent)) := by
    rw [hcandidate,map_drop]
    rcases Nat.eq_zero_or_pos sent with rfl | hpos
    · simpa using hpending
    apply Pending.drop
    · rwa [Nat.add_sub_cancel' (by omega)]
    · omega
  have hlt := hin.1
  rw [length_map] at hlt
  have hsuffix := hin.le_pendingSuffixRunes hk
  have hoffset := @holdIndex_offset_le lower b (by omega)
  rw [queueOffset_eq,hhistory] at hoffset
  have hmax : max (min 1 sent) (b.candidate.length-pendingSuffixRunes lower b.filter b.candidate) ≤ p-(sent-min 1 sent) := by
    apply max_le
    · omega
    · omega
  omega

theorem Aligned.hit_candidate (h : Aligned pushed b sent) {pattern : List Char} {i : Nat} (hi : min 1 sent ≤ i) :
    hit (b.candidate.map lower) pattern endKnown i = hit (pushed.map lower) pattern endKnown (sent-min 1 sent+i) := by
  rw [h.candidate_eq,map_drop]
  rcases Nat.eq_zero_or_pos sent with rfl | hpos
  · simp
  · exact hit_drop (by omega)

theorem lastRunes_lastRunes (left right : List Char) : lastRunes (lastRunes left 1++right) 1=lastRunes (left++right) 1 := by
  unfold lastRunes
  rw [drop_append,drop_append,drop_drop,length_append,length_append,length_drop]
  congr 2
  · omega
  · omega

theorem Aligned.ready (h : Aligned pushed b sent) (count : Nat) :
    queueText (b.queue.take count)=(pushed.drop sent).take (queueText (b.queue.take count)).length := by
  have hsplit := queueText_take_drop b.queue count
  rw [h.queue] at hsplit
  rw [← hsplit,take_left']
  rfl

theorem Aligned.evaluate (h : Aligned pushed b sent) (hclear : (b.evaluate lower endKnown).2.blocked=false) :
    Aligned pushed (b.evaluate lower endKnown).1 (sent+(queueText (b.queue.take (b.holdIndex lower endKnown))).length) := by
  have hle := h.le
  unfold StreamDelayBuffer.evaluate at hclear ⊢
  by_cases hempty : b.queue.isEmpty=true
  · rw [if_pos hempty]
    rw [List.isEmpty_iff.mp hempty,take_nil]
    exact h
  · rw [if_neg hempty] at hclear ⊢
    dsimp only at hclear ⊢
    split at hclear
    · cases hclear
    rename_i hblocks
    rw [if_neg hblocks]
    have hsplit := queueText_take_drop b.queue (b.holdIndex lower endKnown)
    have hlength := congrArg List.length hsplit
    rw [length_append,h.queue,length_drop] at hlength
    rw [h.queue] at hsplit
    refine ⟨by omega,?_,?_⟩
    · dsimp only
      rw [← drop_drop,← hsplit,drop_left']
      rfl
    · dsimp only
      rw [h.history,lastRunes_lastRunes,take_add,← h.ready]

end Aligned

section Step
variable {lower : Char → Char} {s : StreamState} (items : List StreamItem) (n : Nat) (item : StreamItem)

def StreamEvent.Sound : StreamEvent → Prop
  | .push items => ∀ item∈items, ∀ text, item.data≠.malformed text
  | .flush => True

def StreamEvent.text : StreamEvent → List Char
  | .push items => items.flatMap (·.text)
  | .flush => []

def StreamEvent.endKnown : StreamEvent → Bool
  | .push _ => false
  | .flush => true

def StreamEvent.load (b : StreamDelayBuffer) : StreamEvent → StreamDelayBuffer
  | .push items => { b with queue := b.queue++(batchChunks items).getD [] }
  | .flush => b

def chunkOf (item : StreamItem) : StreamChunk :=
  match item.data with
  | .json payload => { item := item, payload := some payload, text := responseText payload }
  | _ => { item := item }

theorem chunkOf_item : (chunkOf item).item=item := by
  unfold chunkOf
  split <;> rfl

theorem chunkOf_text : (chunkOf item).text=item.text := by
  unfold chunkOf StreamItem.text
  cases item.data <;> rfl

theorem newSensitiveStreamChunk_eq {item : StreamItem} (h : ∀ text, item.data≠.malformed text) :
    newSensitiveStreamChunk item=some (chunkOf item) := by
  unfold newSensitiveStreamChunk chunkOf
  cases hdata : item.data with
  | plain _ | json _ => rfl
  | malformed text => exact absurd hdata (h text)

theorem batchChunks_eq {items : List StreamItem} (h : ∀ item∈items, ∀ text, item.data≠.malformed text) :
    batchChunks items=some ((items.map chunkOf).zipIdx.map fun (chunk,i) => { chunk with batchStart := i=0 }) := by
  have hmap : items.mapM newSensitiveStreamChunk=some (items.map chunkOf) := by
    induction items with
    | nil => rfl
    | cons item items ih =>
      rw [mapM_cons,newSensitiveStreamChunk_eq (h item mem_cons_self),
        ih fun other hother => h other (mem_cons_of_mem _ hother)]
      rfl
  rw [batchChunks,hmap]
  rfl

theorem queueText_batch :
    queueText (((items.map chunkOf).zipIdx n).map fun (chunk,i) => { chunk with batchStart := i=0 }) =
      items.flatMap (·.text) := by
  induction items generalizing n with
  | nil => rfl
  | cons item items ih =>
    rw [map_cons,zipIdx_cons,map_cons,flatMap_cons,← ih (n+1),← chunkOf_text]
    rfl

def Coherent (queue : List StreamChunk) : Prop :=
  ∀ chunk∈queue, chunk.payload=(chunkOf chunk.item).payload ∧ chunk.text=(chunkOf chunk.item).text

theorem coherent_batch :
    Coherent (((items.map chunkOf).zipIdx n).map fun (chunk,i) => { chunk with batchStart := i=0 }) := by
  induction items generalizing n with
  | nil =>
    intro chunk hchunk
    cases hchunk
  | cons item items ih =>
    intro chunk hchunk
    rw [map_cons,zipIdx_cons,map_cons] at hchunk
    obtain rfl | hchunk := mem_cons.mp hchunk
    · dsimp only
      rw [chunkOf_item]
      exact ⟨rfl,rfl⟩
    · exact ih (n+1) chunk hchunk

theorem streamStep_eq {e : StreamEvent} (h : e.Sound) :
    streamStep lower s e =
      ({ buffer := ((e.load s.buffer).evaluate lower e.endKnown).1
         pushed := s.pushed++e.text
         blocked := s.blocked || ((e.load s.buffer).evaluate lower e.endKnown).2.blocked },
        ((e.load s.buffer).evaluate lower e.endKnown).2) := by
  cases e with
  | push items =>
    unfold streamStep StreamDelayBuffer.pushBatch StreamEvent.load
    dsimp only
    rw [batchChunks_eq h]
    rfl
  | flush =>
    unfold streamStep StreamDelayBuffer.flush StreamEvent.text
    rw [append_nil]
    rfl

theorem Coherent.load {b : StreamDelayBuffer} {e : StreamEvent} (h : Coherent b.queue) (he : e.Sound) :
    Coherent (e.load b).queue := by
  cases e with
  | push items =>
    unfold StreamEvent.load
    dsimp only
    rw [batchChunks_eq he,Option.getD_some]
    intro chunk hchunk
    obtain hchunk | hchunk := mem_append.mp hchunk
    · exact h chunk hchunk
    · exact coherent_batch items 0 chunk hchunk
  | flush => exact h

theorem Coherent.evaluate {b : StreamDelayBuffer} {endKnown : Bool} (h : Coherent b.queue) :
    Coherent (b.evaluate lower endKnown).1.queue := by
  unfold StreamDelayBuffer.evaluate
  split
  · exact h
  dsimp only
  split
  · intro chunk hchunk
    cases hchunk
  · intro chunk hchunk
    exact h chunk (mem_of_mem_drop hchunk)

theorem Aligned.load {pushed : List Char} {b : StreamDelayBuffer} {sent : Nat} {e : StreamEvent} (h : Aligned pushed b sent)
    (he : e.Sound) : Aligned (pushed++e.text) (e.load b) sent := by
  have hle := h.le
  cases e with
  | push items =>
    refine ⟨by rw [length_append]; omega,?_,?_⟩
    · unfold StreamEvent.load StreamEvent.text
      dsimp only
      rw [batchChunks_eq he,Option.getD_some,queueText_append,h.queue,queueText_batch, drop_append_of_le_length hle]
    · rw [take_append_of_le_length hle]
      exact h.history
  | flush =>
    unfold StreamEvent.text
    rw [append_nil]
    exact h

end Step

end NewApi.Filter

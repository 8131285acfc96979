import NewApi.Filter.Blocking
import NewApi.Filter.Rewriting

/-! Mask rules on a stream. Between two cuts that no keyword crosses, the ranges of a part of the text are those of the
whole text, so what a stream sends is the masked text as long as it is never cut inside a keyword. -/
namespace NewApi.Filter

open List Runs Spans
open GoStrings (toLowerChar)
open TextRangeMatch (Before)

instance : Std.Total Before where
  total a b := by
    unfold Before
    omega

instance : IsTrans TextRangeMatch Before where
  trans a b c hab hbc := by
    unfold Before at hab hbc ⊢
    omega

theorem TextRangeMatch.Before.start_le {a b : TextRangeMatch} (h : a.Before b) : a.start≤b.start := by
  unfold Before at h
  omega

def TextRangeMatch.shift (d : Nat) (r : TextRangeMatch) : TextRangeMatch :=
  { r with start := r.start+d, stop := r.stop+d }

open TextRangeMatch (shift)

section Segments
variable {lower : Char → Char} {f : SensitiveTextFilter} {text : List Char} {endKnown : Bool} {low high : Nat} {r : TextRangeMatch}

def Uncut (lower : Char → Char) (f : SensitiveTextFilter) (text : List Char) (endKnown : Bool) (cut : Nat) : Prop :=
  ∀ rule∈f.maskRules, ∀ k∈rule.keywords, ∀ i<cut, hit (text.map lower) k.runes endKnown i=true → i+k.runes.length≤cut

theorem maskRangesWithEnd_eq : maskRangesWithEnd lower f text endKnown =
    f.maskRules.flatMap fun rule => rule.keywords.flatMap fun k =>
      (greedy (hit (text.map lower) k.runes endKnown) k.runes.length text.length 0 0).map fun i =>
        ⟨i,i+k.runes.length,rule,k⟩ := by
  unfold maskRangesWithEnd
  congr 1
  funext rule
  congr 1
  funext k
  rw [keywordRanges_eq rule k (by rw [length_map]; omega) (Nat.zero_le _),length_map,Nat.sub_zero]

theorem mem_maskRanges (h : r∈maskRangesWithEnd lower f text endKnown) :
    ∃ rule∈f.maskRules, ∃ k∈rule.keywords, hit (text.map lower) k.runes endKnown r.start=true ∧
      r.stop=r.start+k.runes.length := by
  rw [maskRangesWithEnd_eq,mem_flatMap] at h
  obtain ⟨rule,hrule,h⟩ := h
  obtain ⟨k,hk,h⟩ := mem_flatMap.mp h
  obtain ⟨i,hi,rfl⟩ := mem_map.mp h
  exact ⟨rule,hrule,k,hk,(mem_greedy hi).2.2,rfl⟩

theorem maskRange_bounds (h : r∈maskRangesWithEnd lower f text endKnown) :
    r.start<r.stop ∧ r.stop≤text.length := by
  obtain ⟨rule,-,k,-,hhit,hstop⟩ := mem_maskRanges h
  have hlength := hit_length hhit
  rw [length_map] at hlength
  omega

theorem mem_selected (h : r∈selectedMaskRanges lower f text endKnown) :
    r∈maskRangesWithEnd lower f text endKnown :=
  (mem_insertionSort _).mp (Spans.apart_sublist.subset h)

theorem selected_separated : SeparatedRanges 0 (selectedMaskRanges lower f text endKnown) :=
  separated_apart fun _ hr => (maskRange_bounds ((mem_insertionSort _).mp hr)).1

def between (low high : Nat) (r : TextRangeMatch) : Bool := decide (low≤r.start) && decide (r.start<high)

theorem between_iff {low high : Nat} {r : TextRangeMatch} : between low high r=true ↔ low≤r.start ∧ r.start<high := by
  rw [between,Bool.and_eq_true,decide_eq_true_eq,decide_eq_true_eq]

theorem maskRanges_between (hlow : Uncut lower f text endKnown low) (hhigh : Uncut lower f text endKnown high)
    (hle : low≤high) (hlength : high≤text.length) : (maskRangesWithEnd lower f text endKnown).filter (between low high) =
      f.maskRules.flatMap fun rule => rule.keywords.flatMap fun k =>
        (greedy (hit (text.map lower) k.runes endKnown) k.runes.length (high-low) low low).map fun i =>
          ⟨i,i+k.runes.length,rule,k⟩ := by
  rw [maskRangesWithEnd_eq,filter_flatMap,List.flatMap,List.flatMap]
  congr 1
  apply map_congr_left
  intro rule hrule
  rw [filter_flatMap,List.flatMap,List.flatMap]
  congr 1
  apply map_congr_left
  intro k hk
  have hcutLow := hlow rule hrule k hk
  have hcutHigh := hhigh rule hrule k hk
  obtain ⟨hits,hhits⟩ : ∃ hits, hits=hit (text.map lower) k.runes endKnown := ⟨_,rfl⟩
  rw [← hhits] at hcutLow hcutHigh ⊢
  have hlen : text.length=low+((high-low)+(text.length-high)) := by omega
  have hfirst : ∀ j, 0≤j → j<0+low → hits j=true → j+k.runes.length≤0+low := by
    intro j _ hj hhit
    have hcut := hcutLow j (by omega) hhit
    omega
  have hsecond : ∀ j, 0+low≤j → j<0+low+(high-low) → hits j=true → j+k.runes.length≤0+low+(high-low) := by
    intro j _ hj hhit
    have hcut := hcutHigh j (by omega) hhit
    omega
  have hsplit : greedy hits k.runes.length text.length 0 0 = greedy hits k.runes.length low 0 0 ++
      (greedy hits k.runes.length (high-low) low low++greedy hits k.runes.length (text.length-high) high high) := by
    conv_lhs => rw [hlen]
    rw [greedy_append (by omega) hfirst,greedy_append (by omega) hsecond,Nat.zero_add,Nat.add_sub_cancel' hle]
  obtain ⟨range,hrange⟩ : ∃ range : Nat → TextRangeMatch, range=fun i => ⟨i,i+k.runes.length,rule,k⟩ := ⟨_,rfl⟩
  have hbetween : ∀ i, between low high (range i)=true ↔ low ≤ i ∧ i<high := fun i => by rw [hrange,between_iff]
  rw [← hrange]
  have hbefore : ((greedy hits k.runes.length low 0 0).map range).filter (between low high)=[] := by
    refine filter_eq_nil_iff.mpr fun r hr hin => ?_
    obtain ⟨i,hi,rfl⟩ := mem_map.mp hr
    have hbound := mem_greedy hi
    have hlow := ((hbetween i).mp hin).1
    omega
  have hafter : ((greedy hits k.runes.length (text.length-high) high high).map range).filter (between low high)=[] := by
    refine filter_eq_nil_iff.mpr fun r hr hin => ?_
    obtain ⟨i,hi,rfl⟩ := mem_map.mp hr
    have hbound := mem_greedy hi
    have hhigh := ((hbetween i).mp hin).2
    omega
  have hwithin : ((greedy hits k.runes.length (high-low) low low).map range).filter (between low high) =
      (greedy hits k.runes.length (high-low) low low).map range := by
    refine filter_eq_self.mpr fun r hr => ?_
    obtain ⟨i,hi,rfl⟩ := mem_map.mp hr
    have hbound := mem_greedy hi
    exact (hbetween i).mpr (by omega)
  rw [hsplit,map_append,map_append,filter_append,filter_append,hbefore,hafter,hwithin,nil_append,append_nil]

theorem selected_between (hlow : Uncut lower f text endKnown low) (hhigh : Uncut lower f text endKnown high) (hle : low≤high) :
    (selectedMaskRanges lower f text endKnown).filter (between low high) =
      apart TextRangeMatch.start TextRangeMatch.stop 0
        (((maskRangesWithEnd lower f text endKnown).filter (between low high)).insertionSort Before) := by
  refine apart_between (fun _ _ h => h.start_le) hle ?_ ?_ fun _ => between_iff
  · intro r hr hlt
    obtain ⟨rule,hrule,k,hk,hhit,hstop⟩ := mem_maskRanges hr
    rw [hstop]
    exact hlow rule hrule k hk r.start hlt hhit
  · intro r hr hlt
    obtain ⟨rule,hrule,k,hk,hhit,hstop⟩ := mem_maskRanges hr
    rw [hstop]
    exact hhigh rule hrule k hk r.start hlt hhit

theorem selected_shift {whole : List Char} {wholeEnd : Bool} {d : Nat} (hlow : Uncut lower f text endKnown low)
    (hhigh : Uncut lower f text endKnown high) (hlow' : Uncut lower f whole wholeEnd (low+d))
    (hhigh' : Uncut lower f whole wholeEnd (high+d)) (hle : low≤high) (hlength : high≤text.length)
    (hlength' : high+d≤whole.length) (hhits : ∀ rule∈f.maskRules, ∀ k∈rule.keywords, ∀ i, low ≤ i → i<high →
      hit (text.map lower) k.runes endKnown i=hit (whole.map lower) k.runes wholeEnd (i+d)) :
    (selectedMaskRanges lower f whole wholeEnd).filter (between (low+d) (high+d)) =
      ((selectedMaskRanges lower f text endKnown).filter (between low high)).map (shift d) := by
  have hranges : (maskRangesWithEnd lower f whole wholeEnd).filter (between (low+d) (high+d)) =
      ((maskRangesWithEnd lower f text endKnown).filter (between low high)).map (shift d) := by
    rw [maskRanges_between hlow hhigh hle hlength,maskRanges_between hlow' hhigh' (by omega) hlength',map_flatMap,
      List.flatMap,List.flatMap]
    congr 1
    apply map_congr_left
    intro rule hrule
    rw [map_flatMap,List.flatMap,List.flatMap]
    congr 1
    apply map_congr_left
    intro k hk
    have hcount : high+d-(low+d)=high-low := by omega
    rw [hcount,greedy_shift fun j hj hlt => hhits rule hrule k hk j hj (by omega),map_map,map_map]
    apply map_congr_left
    intro i _
    simp only [Function.comp_apply,shift,TextRangeMatch.mk.injEq,and_true,true_and]
    omega
  have hsorted : ∀ ranges : List TextRangeMatch, (ranges.map (shift d)).insertionSort Before =
      (ranges.insertionSort Before).map (shift d) := by
    intro ranges
    refine (map_insertionSort _ _ _ _ fun a _ b _ => ?_).symm
    simp only [Before,shift]
    omega
  rw [selected_between hlow hhigh hle,selected_between hlow' hhigh' (by omega),hranges,hsorted]
  have hapart := @Spans.apart_map _ TextRangeMatch.start TextRangeMatch.stop 0
    (((maskRangesWithEnd lower f text endKnown).filter (between low high)).insertionSort Before) _
    (shift d) TextRangeMatch.start TextRangeMatch.stop d (fun _ => rfl) (fun _ => rfl)
  rw [← hapart]
  refine (apart_of_le (fun r hr => ?_) (le_of_eq (Nat.zero_add d))).symm
  obtain ⟨r',-,rfl⟩ := mem_map.mp hr
  exact Nat.le_add_left d _

theorem masked_between (hlow : Uncut lower f text endKnown low) {part : List Char} (hpart : low+part.length=high) :
    masked ((selectedMaskRanges lower f text endKnown).filter (between low high)) low part =
      masked (selectedMaskRanges lower f text endKnown) low part := by
  apply pieces_congr
  intro j hj a
  rw [piece,piece,cover_filter]
  intro r hr hstart hstop
  obtain ⟨rule,hrule,k,hk,hhit,hend⟩ := mem_maskRanges (mem_selected hr)
  refine between_iff.mpr ⟨?_,by omega⟩
  by_contra hbefore
  have hcut := hlow rule hrule k hk r.start (by omega) hhit
  omega

theorem masked_shift (ranges : List TextRangeMatch) (d offset : Nat) (part : List Char) :
    masked (ranges.map (shift d)) (offset+d) part=masked ranges offset part := by
  symm
  apply pieces_congr
  intro j _ a
  have hcover : cover TextRangeMatch.start TextRangeMatch.stop (ranges.map (shift d)) (offset+d+j) =
      (cover TextRangeMatch.start TextRangeMatch.stop ranges (offset+j)).map (shift d) := by
    rw [Nat.add_right_comm]
    exact cover_map (fun _ => rfl) fun _ => rfl
  have hinsert : ∀ r : TextRangeMatch, (r.shift d).rule.replacement=r.rule.replacement := fun _ => rfl
  exact piece_of_cover hcover (Nat.add_right_comm _ _ _) (fun _ => rfl) hinsert a

theorem maskText_eq (lower : Char → Char) (f : SensitiveTextFilter) (text : List Char) :
    (maskText lower f text).1=masked (selectedMaskRanges lower f text true) 0 text := by
  unfold maskText maskTextWithEnd
  dsimp only
  split
  next hnone =>
    rw [Bool.or_eq_true,List.isEmpty_iff,List.isEmpty_iff] at hnone
    obtain rfl | hnone := hnone
    · rfl
    · rw [hnone,masked_nil]
  · have hseparated : SeparatedRanges 0 (selectedMaskRanges lower f text true) := selected_separated
    have hfill := @Spans.fill_eq_pieces _ _ TextRangeMatch.start TextRangeMatch.stop (·.rule.replacement) _ text 0
      hseparated fun r hr => (maskRange_bounds (mem_selected hr)).2
    rw [drop_zero] at hfill
    exact hfill

end Segments

section Evaluation
variable {lower : Char → Char} {pushed : List Char} {b : StreamDelayBuffer} {sent : Nat} {endKnown : Bool}

def StreamDelayBuffer.readyEnd (lower : Char → Char) (b : StreamDelayBuffer) (endKnown : Bool) : Nat :=
  queueOffset b.queue b.historyTail.length (b.holdIndex lower endKnown)

def StreamDelayBuffer.readyRanges (lower : Char → Char) (b : StreamDelayBuffer) (endKnown : Bool) : List TextRangeMatch :=
  maskRangesWithin (selectedMaskRanges lower b.filter b.candidate endKnown) b.historyTail.length (b.readyEnd lower endKnown)

/-- An evaluation that cuts nothing: no mask keyword of the candidate crosses the end of the kept rune or the place where
the evaluation stops sending, and no rewritten field is skipped afterwards. -/
structure CutsNothing (lower : Char → Char) (b : StreamDelayBuffer) (endKnown : Bool) : Prop where
  kept : Uncut lower b.filter b.candidate endKnown b.historyTail.length
  ready : Uncut lower b.filter b.candidate endKnown (b.readyEnd lower endKnown)
  fields : FieldsKept (b.readyRanges lower endKnown) b.historyTail.length (b.queue.take (b.holdIndex lower endKnown))

theorem Aligned.readyEnd_eq (h : Aligned pushed b sent) :
    b.readyEnd lower endKnown=min 1 sent+(queueText (b.queue.take (b.holdIndex lower endKnown))).length := by
  rw [StreamDelayBuffer.readyEnd,queueOffset_eq,h.length_history]

theorem Aligned.readyEnd_le (h : Aligned pushed b sent) : b.readyEnd lower endKnown≤b.candidate.length := by
  have hle := h.le
  have hlength := congrArg List.length (queueText_take_drop b.queue (b.holdIndex lower endKnown))
  rw [length_append,h.queue,length_drop] at hlength
  rw [h.readyEnd_eq,h.candidate_eq,length_drop]
  omega

theorem readyRanges_eq (hready : Uncut lower b.filter b.candidate endKnown (b.readyEnd lower endKnown)) :
    b.readyRanges lower endKnown=(selectedMaskRanges lower b.filter b.candidate endKnown).filter
      (between b.historyTail.length (b.readyEnd lower endKnown)) := by
  apply filter_congr
  intro r hr
  obtain ⟨rule,hrule,k,hk,hhit,hstop⟩ := mem_maskRanges (mem_selected hr)
  have hwidth := (maskRange_bounds (mem_selected hr)).1
  have hcut : r.start<b.readyEnd lower endKnown → r.stop≤b.readyEnd lower endKnown := by
    intro hlt
    rw [hstop]
    exact hready rule hrule k hk r.start hlt hhit
  rw [Bool.eq_iff_iff,between_iff,Bool.and_eq_true,decide_eq_true_eq,decide_eq_true_eq]
  omega

theorem Aligned.hit_whole (h : Aligned pushed b sent) {more : List Char} {wholeEnd : Bool}
    (hend : endKnown=false ∨ more=[] ∧ wholeEnd=true ∧ endKnown=true) {k : SensitiveKeyword}
    (hk : b.filter.HasKeyword k) {i : Nat} (hlow : min 1 sent ≤ i) (hhigh : i<b.readyEnd lower endKnown) :
    hit (b.candidate.map lower) k.runes endKnown i = hit ((pushed++more).map lower) k.runes wholeEnd (i+(sent-min 1 sent)) := by
  rw [h.hit_candidate hlow,Nat.add_comm]
  obtain rfl | ⟨rfl,rfl,rfl⟩ := hend
  · rw [Bool.eq_iff_iff,map_append]
    constructor
    · exact hit_append
    intro hhit
    have hreach := @Aligned.readyEnd_le lower _ _ _ false h
    rw [h.candidate_eq,length_drop] at hreach
    obtain hnow | hpending := hit_settled hhit (by rw [length_map]; omega)
    · exact hnow
    have hheld := h.held_back hk (by omega) hpending
    rw [h.readyEnd_eq] at hhigh
    omega
  · rw [append_nil]

theorem CutsNothing.sends (h : Aligned pushed b sent) (hclean : CutsNothing lower b endKnown) {more : List Char}
    {wholeEnd : Bool} (hend : endKnown=false ∨ more=[] ∧ wholeEnd=true ∧ endKnown=true)
    (hsent : Uncut lower b.filter (pushed++more) wholeEnd sent) :
    ∀ out, queueText (b.queue.take (b.holdIndex lower endKnown))=out → masked (b.readyRanges lower endKnown)
        b.historyTail.length out=masked (selectedMaskRanges lower b.filter (pushed++more) wholeEnd) sent out ∧
      Uncut lower b.filter (pushed++more) wholeEnd (sent+out.length) := by
  intro out hout
  have hle := h.le
  have hhistory := h.length_history
  have hreadyEnd := @Aligned.readyEnd_eq lower _ _ _ endKnown h
  have hreach := @Aligned.readyEnd_le lower _ _ _ endKnown h
  have hlength : b.candidate.length=pushed.length-(sent-min 1 sent) := by rw [h.candidate_eq,length_drop]
  rw [hout] at hreadyEnd
  have hcut : Uncut lower b.filter (pushed++more) wholeEnd (sent+out.length) := by
    intro rule hrule k hk i hi hhit
    rcases Nat.lt_or_ge i sent with hlt | hge
    · exact (hsent rule hrule k hk i hlt hhit).trans (Nat.le_add_right _ _)
    have hin := h.hit_whole hend ⟨rule,mem_append_right _ hrule,hk⟩ (show min 1 sent ≤ i-(sent-min 1 sent) by omega)
      (show i-(sent-min 1 sent)<b.readyEnd lower endKnown by omega)
    rw [Nat.sub_add_cancel (by omega),hhit] at hin
    have hstop := hclean.ready rule hrule k hk _ (by omega) hin
    omega
  refine ⟨?_,hcut⟩
  have hbase : b.historyTail.length+(sent-min 1 sent)=sent := by omega
  have htop : b.readyEnd lower endKnown+(sent-min 1 sent)=sent+out.length := by omega
  have hshift := @selected_shift lower b.filter b.candidate endKnown b.historyTail.length (b.readyEnd lower endKnown)
    (pushed++more) wholeEnd (sent-min 1 sent) hclean.kept hclean.ready (by rw [hbase]; exact hsent)
    (by rw [htop]; exact hcut) (by omega) hreach (by rw [length_append]; omega)
    fun rule hrule k hk i hlow hhigh =>
      h.hit_whole hend ⟨rule,mem_append_right _ hrule,hk⟩ (by omega) hhigh
  rw [hbase,htop] at hshift
  have hmoved := masked_shift ((selectedMaskRanges lower b.filter b.candidate endKnown).filter
    (between b.historyTail.length (b.readyEnd lower endKnown))) (sent-min 1 sent) b.historyTail.length out
  rw [hbase] at hmoved
  rw [readyRanges_eq hclean.ready,← masked_between hsent rfl,hshift,hmoved]

/-- What was sent is the masked text up to a cut of the whole. -/
structure SentAs (lower : Char → Char) (f : SensitiveTextFilter) (whole : List Char) (wholeEnd : Bool) (sent : Nat)
    (emitted : List StreamItem) : Prop where
  uncut : Uncut lower f whole wholeEnd sent
  text : emitted.flatMap (·.text)=masked (selectedMaskRanges lower f whole wholeEnd) 0 (whole.take sent)

theorem blockMatches_nil {f : SensitiveTextFilter} {text : List Char} (h : f.blockRules=[]) :
    blockMatchesWithEnd lower f text endKnown=[] := by
  rw [blockMatchesWithEnd,h,filterMap_nil]

theorem evaluate_split (hblock : b.filter.blockRules=[]) : (b.evaluate lower endKnown).2.items =
        (rewriteStreamChunks (b.readyRanges lower endKnown) b.historyTail.length
          (b.queue.take (b.holdIndex lower endKnown))).1 ∧
      (b.evaluate lower endKnown).1.queue=b.queue.drop (b.holdIndex lower endKnown) := by
  unfold StreamDelayBuffer.evaluate
  by_cases hempty : b.queue.isEmpty=true
  · have hnil := List.isEmpty_iff.mp hempty
    rw [if_pos hempty]
    constructor
    · rw [hnil,take_nil]
      rfl
    · rw [hnil,drop_nil]
  · rw [if_neg hempty]
    dsimp only
    rw [blockMatches_nil hblock,isEmpty_nil,Bool.not_true,if_neg Bool.false_ne_true]
    exact ⟨rfl,rfl⟩

theorem readyRanges_separated : SeparatedRanges 0 (b.readyRanges lower endKnown) :=
  Spans.Separated.filter selected_separated _

theorem evaluate_not_blocked (hblock : b.filter.blockRules=[]) : (b.evaluate lower endKnown).2.blocked=false := by
  rw [← Bool.not_eq_true,evaluate_blocked_iff]
  exact fun h => h.2 (blockMatches_nil hblock)

theorem SentAs.evaluate {more : List Char} {wholeEnd : Bool} {emitted : List StreamItem}
    (h : SentAs lower b.filter (pushed++more) wholeEnd sent emitted) (haligned : Aligned pushed b sent)
    (hcoherent : Coherent b.queue) (hblock : b.filter.blockRules=[]) (hclean : CutsNothing lower b endKnown)
    (hend : endKnown=false ∨ more=[] ∧ wholeEnd=true ∧ endKnown=true) : SentAs lower b.filter (pushed++more) wholeEnd
      (sent+(queueText (b.queue.take (b.holdIndex lower endKnown))).length) (emitted++(b.evaluate lower endKnown).2.items) := by
  obtain ⟨hmasked,hcut⟩ := hclean.sends haligned hend h.uncut _ rfl
  have hle := haligned.le
  have hchunks : Coherent (b.queue.take (b.holdIndex lower endKnown)) :=
    fun chunk hchunk => hcoherent chunk (mem_of_mem_take hchunk)
  have hitems := (rewriteStreamChunks_spec readyRanges_separated hchunks).2 hclean.fields
  have hready : ((pushed++more).drop sent).take (queueText (b.queue.take (b.holdIndex lower endKnown))).length =
      queueText (b.queue.take (b.holdIndex lower endKnown)) := by
    have hlength := congrArg List.length (queueText_take_drop b.queue (b.holdIndex lower endKnown))
    rw [length_append,haligned.queue,length_drop] at hlength
    rw [drop_append_of_le_length hle,take_append_of_le_length (by rw [length_drop]; omega), ← haligned.ready]
  have hbase : 0+((pushed++more).take sent).length=sent := by
    rw [length_take,length_append]
    omega
  refine ⟨hcut,?_⟩
  rw [flatMap_append,h.text,(evaluate_split hblock).1,hitems,hmasked,take_add,hready,masked_append, hbase]

end Evaluation

section Run
variable {lower : Char → Char} {f : SensitiveTextFilter} {s : StreamState} {e : StreamEvent} {received emitted : List StreamItem}
variable (u v : List StreamEvent)

def emittedItems (lower : Char → Char) (s : StreamState) (events : List StreamEvent) : List StreamItem :=
  (streamResults lower s events).flatMap (·.items)

def StreamEvent.items : StreamEvent → List StreamItem
  | .push items => items
  | .flush => []

theorem load_items (he : e.Sound) (b : StreamDelayBuffer) : (e.load b).queue.map (·.item)=b.queue.map (·.item)++e.items := by
  cases e with
  | push items =>
    have hbatch : ∀ n, (((items.map chunkOf).zipIdx n).map fun p =>
        ({ p.1 with batchStart := p.2=0 } : StreamChunk)).map (·.item)=items := by
      clear he
      induction items with
      | nil => exact fun _ => rfl
      | cons item items ih =>
        intro n
        rw [map_cons,zipIdx_cons,map_cons,map_cons,ih,chunkOf_item]
    unfold StreamEvent.load
    dsimp only
    rw [batchChunks_eq he,Option.getD_some,map_append,hbatch]
    rfl
  | flush => exact (append_nil _).symm

structure StreamInv (f : SensitiveTextFilter) (received emitted : List StreamItem) (s : StreamState) : Prop where
  filter : s.buffer.filter=f
  coherent : Coherent s.buffer.queue
  items : ∃ done, received=done++s.buffer.queue.map (·.item) ∧ List.Forall₂ Derived done emitted

theorem StreamInv.step (h : StreamInv f received emitted s) (hblock : f.blockRules=[])
    (he : e.Sound) : StreamInv f (received++e.items) (emitted++(streamStep lower s e).2.items) (streamStep lower s e).1 := by
  have hfilter : (e.load s.buffer).filter=f := (load_filter e s.buffer).trans h.filter
  have hcoherent := h.coherent.load he
  obtain ⟨hitems,hqueue⟩ := @evaluate_split lower (e.load s.buffer) e.endKnown (hfilter ▸ hblock)
  have hchunks : Coherent ((e.load s.buffer).queue.take ((e.load s.buffer).holdIndex lower e.endKnown)) :=
    fun chunk hchunk => hcoherent chunk (mem_of_mem_take hchunk)
  have hderived := (@rewriteStreamChunks_spec _ 0 _ (@readyRanges_separated lower (e.load s.buffer) e.endKnown) hchunks
    (e.load s.buffer).historyTail.length).1
  rw [streamStep_eq he]
  refine ⟨(evaluate_filter _ _ _).trans hfilter,hcoherent.evaluate,?_⟩
  obtain ⟨done,hreceived,hdone⟩ := h.items
  refine ⟨done++((e.load s.buffer).queue.take ((e.load s.buffer).holdIndex lower e.endKnown)).map (·.item),?_,?_⟩
  · dsimp only
    rw [hqueue,hreceived,append_assoc,append_assoc,← map_append,take_append_drop,load_items he]
  · dsimp only
    rw [hitems]
    exact rel_append hdone hderived

structure MaskInv (lower : Char → Char) (f : SensitiveTextFilter) (received emitted : List StreamItem) (s : StreamState) :
    Prop extends StreamInv f received emitted s where
  sent : ∃ sent, Aligned s.pushed s.buffer sent ∧ ∀ more wholeEnd, SentAs lower f (s.pushed++more) wholeEnd sent emitted

def CleanStep (lower : Char → Char) (s : StreamState) (e : StreamEvent) : Prop :=
  CutsNothing lower (e.load s.buffer) e.endKnown

theorem MaskInv.push {received emitted items : List StreamItem} (h : MaskInv lower f received emitted s)
    (hblock : f.blockRules=[]) (he : (StreamEvent.push items).Sound) (hclean : CleanStep lower s (.push items)) :
    MaskInv lower f (received++items) (emitted++(streamStep lower s (.push items)).2.items)
      (streamStep lower s (.push items)).1 := by
  refine ⟨h.toStreamInv.step hblock he,?_⟩
  obtain ⟨sent,haligned,hsent⟩ := h.sent
  have hfilter : ((StreamEvent.push items).load s.buffer).filter=f := (load_filter _ s.buffer).trans h.filter
  have hrules : ((StreamEvent.push items).load s.buffer).filter.blockRules=[] := hfilter ▸ hblock
  have hloaded := haligned.load he
  rw [streamStep_eq he]
  refine ⟨_,hloaded.evaluate (evaluate_not_blocked hrules),?_⟩
  intro more wholeEnd
  dsimp only
  have hbefore := hsent ((StreamEvent.push items).text++more) wholeEnd
  rw [← append_assoc,← hfilter] at hbefore
  rw [← hfilter]
  exact hbefore.evaluate hloaded (h.coherent.load he) hrules hclean (.inl rfl)

theorem streamResults_append : streamResults lower s (u++v) =
      streamResults lower s u++streamResults lower (Runs.run (fun s e => (streamStep lower s e).1) u s) v := by
  induction u generalizing s with
  | nil => rfl
  | cons e u ih => rw [cons_append,streamResults,ih,streamResults,cons_append,Runs.run]

theorem emittedItems_append : emittedItems lower s (u++v) =
      emittedItems lower s u++emittedItems lower (Runs.run (fun s e => (streamStep lower s e).1) u s) v := by
  rw [emittedItems,streamResults_append,flatMap_append]
  rfl

theorem MaskInv.run {batches : List (List StreamItem)}
    (h : MaskInv lower f received emitted s) (hblock : f.blockRules=[])
    (hsound : ∀ batch∈batches, (StreamEvent.push batch).Sound)
    (hclean : Guarded (fun s e => (streamStep lower s e).1) (CleanStep lower) (batches.map .push) s) :
    MaskInv lower f (received++batches.flatten) (emitted++emittedItems lower s (batches.map .push))
      (Runs.run (fun s e => (streamStep lower s e).1) (batches.map .push) s) := by
  induction batches generalizing s received emitted with
  | nil =>
    rw [flatten_nil,append_nil,map_nil,emittedItems,streamResults,flatMap_nil,append_nil]
    exact h
  | cons batch batches ih =>
    rw [flatten_cons,← append_assoc,map_cons,emittedItems,streamResults,flatMap_cons, ← append_assoc]
    exact ih (h.push hblock (hsound batch mem_cons_self) hclean.1)
      (fun other hother => hsound other (mem_cons_of_mem _ hother)) hclean.2

theorem streamInv_run {events : List StreamEvent} (h : StreamInv f received emitted s)
    (hblock : f.blockRules=[]) (hsound : ∀ e∈events, e.Sound) :
    StreamInv f (received++events.flatMap (·.items)) (emitted++emittedItems lower s events)
      (Runs.run (fun s e => (streamStep lower s e).1) events s) := by
  induction events generalizing s received emitted with
  | nil =>
    rw [flatMap_nil,append_nil,emittedItems,streamResults,flatMap_nil,append_nil]
    exact h
  | cons e events ih =>
    rw [flatMap_cons,← append_assoc,emittedItems,streamResults,flatMap_cons,← append_assoc]
    exact ih (h.step hblock (hsound e mem_cons_self)) fun other hother => hsound other (mem_cons_of_mem _ hother)

theorem maskInv_start (lower : Char → Char) (f : SensitiveTextFilter) :
    MaskInv lower f [] [] { buffer := { filter := f } } := by
  refine ⟨⟨rfl,fun chunk hchunk => absurd hchunk not_mem_nil,[],rfl,.nil⟩,0,⟨Nat.zero_le _,rfl,rfl⟩,?_⟩
  intro more wholeEnd
  refine ⟨?_,rfl⟩
  intro _ _ _ _ i hi
  exact absurd hi (Nat.not_lt_zero i)

theorem holdIndex_flush (b : StreamDelayBuffer) : b.holdIndex lower true=b.queue.length := by
  have hwhole : queueOffset b.queue b.historyTail.length b.queue.length=b.candidate.length := by
    rw [queueOffset_eq,take_length,StreamDelayBuffer.candidate,length_append]
  have hmoved : ∀ ranges : List TextRangeMatch, (∀ r∈ranges, r.stop≤b.candidate.length) → ranges.foldl (fun holdIndex item =>
        let readyEnd := queueOffset b.queue b.historyTail.length holdIndex
        if item.start<readyEnd && readyEnd < item.stop then queueIndexAtOffset item.start b.historyTail.length b.queue
        else holdIndex) b.queue.length=b.queue.length := by
    intro ranges hranges
    induction ranges with
    | nil => rfl
    | cons r ranges ih =>
      have hstop := hranges r mem_cons_self
      rw [foldl_cons]
      dsimp only
      rw [hwhole,if_neg]
      · exact ih fun other hother => hranges other (mem_cons_of_mem _ hother)
      rw [Bool.and_eq_true,decide_eq_true_eq,decide_eq_true_eq]
      omega
  unfold StreamDelayBuffer.holdIndex
  simp only [Bool.true_or,if_true]
  rw [hmoved _ fun r hr => (maskRange_bounds (mem_selected hr)).2,if_neg (Nat.lt_irrefl _)]

theorem flush_queue (hblock : s.buffer.filter.blockRules=[]) : (streamStep lower s .flush).1.buffer.queue=[] := by
  have hqueue := (@evaluate_split lower s.buffer true hblock).2
  rw [holdIndex_flush,drop_length] at hqueue
  exact hqueue

theorem stream_items_in_order (hblock : f.blockRules=[]) {batches : List (List StreamItem)}
    (hsound : ∀ batch∈batches, (StreamEvent.push batch).Sound) :
    List.Forall₂ Derived batches.flatten (emittedItems lower { buffer := { filter := f } } (streamEvents batches)) := by
  have hpushes : ∀ e∈batches.map StreamEvent.push, e.Sound := by
    intro e he
    obtain ⟨batch,hbatch,rfl⟩ := mem_map.mp he
    exact hsound batch hbatch
  have hinv := @streamInv_run lower f _ _ _ _ (maskInv_start lower f).toStreamInv hblock hpushes
  have hflush : StreamEvent.flush.Sound := trivial
  obtain ⟨done,hreceived,hdone⟩ := (@StreamInv.step lower f _ .flush _ _ hinv hblock hflush).items
  have hflat : (batches.map StreamEvent.push).flatMap (·.items)=batches.flatten := by
    rw [flatMap_map]
    exact flatMap_id'
  have hrules := hinv.filter.symm ▸ hblock
  rw [flush_queue hrules,map_nil,append_nil,hflat,nil_append] at hreceived
  rw [streamEvents,emittedItems_append]
  have hlast : batches.flatten=done := (append_nil _).symm.trans hreceived
  have hitems : ∀ s, emittedItems lower s [.flush]=(streamStep lower s .flush).2.items := fun s => append_nil _
  rw [hlast,hitems]
  exact hdone

/-- A stream whose evaluations cut nothing emits its masked text. -/
theorem stream_masked_as_text (lower : Char → Char) (f : SensitiveTextFilter) (hblock : f.blockRules=[])
    (batches : List (List StreamItem)) (hsound : ∀ batch∈batches, ∀ item∈batch, ∀ text, item.data≠.malformed text)
    (hclean : Guarded (fun s e => (streamStep lower s e).1) (CleanStep lower) (streamEvents batches)
      { buffer := { filter := f } }) :
    List.Forall₂ Derived batches.flatten (emittedItems lower { buffer := { filter := f } } (streamEvents batches)) ∧
      (emittedItems lower { buffer := { filter := f } } (streamEvents batches)).flatMap (·.text) =
        (maskText lower f (batches.flatten.flatMap (·.text))).1 := by
  have hpushes : ∀ batch∈batches, (StreamEvent.push batch).Sound := hsound
  refine ⟨stream_items_in_order hblock hpushes,?_⟩
  obtain ⟨hguard,hflush,-⟩ := guarded_append.mp hclean
  have hinv := (maskInv_start lower f).run hblock hpushes hguard
  have hpushed := @run_pushed lower { buffer := { filter := f } } batches hpushes
  rw [streamEvents,emittedItems_append,maskText_eq]
  rw [nil_append] at hpushed
  obtain ⟨s,hs⟩ : ∃ s, s=Runs.run (fun s e => (streamStep lower s e).1) (batches.map .push)
    { buffer := { filter := f } } := ⟨_,rfl⟩
  rw [← hs] at hinv hflush hpushed ⊢
  rw [← hpushed]
  obtain ⟨sent,haligned,hsent⟩ := hinv.sent
  have hrules : s.buffer.filter.blockRules=[] := hinv.filter ▸ hblock
  have hbefore := hsent [] true
  rw [← hinv.filter] at hbefore
  have hafter := (@SentAs.evaluate lower _ _ _ true _ _ _ hbefore haligned hinv.coherent hrules hflush
    (.inr ⟨rfl,rfl,rfl⟩)).text
  have hall : sent+(queueText (s.buffer.queue.take (s.buffer.holdIndex lower true))).length=s.pushed.length := by
    have hle := haligned.le
    rw [holdIndex_flush,take_length,haligned.queue,length_drop]
    omega
  rw [hall,append_nil,take_length,hinv.filter] at hafter
  have hlast : emittedItems lower s [.flush]=(s.buffer.evaluate lower true).2.items := append_nil _
  rw [hlast]
  exact hafter

end Run

section Decide

instance (lower : Char → Char) (f : SensitiveTextFilter) (text : List Char) (endKnown : Bool) (cut : Nat) :
    Decidable (Uncut lower f text endKnown cut) :=
  inferInstanceAs (Decidable (∀ rule∈f.maskRules, ∀ k∈rule.keywords, ∀ i<cut,
    hit (text.map lower) k.runes endKnown i=true → i+k.runes.length≤cut))

instance FieldsKept.decidable (ranges : List TextRangeMatch) : ∀ offset chunks, Decidable (FieldsKept ranges offset chunks)
  | _, [] => isTrue trivial
  | offset, chunk::rest =>
    haveI := FieldsKept.decidable ranges (offset+chunk.runes) rest
    inferInstanceAs (Decidable ((∀ payload∈chunk.payload,
      (collectResponseTextFields (rewriteResponseTextRanges ranges "" offset payload).1).length =
        (collectResponseTextFields payload).length) ∧ FieldsKept ranges (offset+chunk.runes) rest))

instance (lower : Char → Char) (s : StreamState) (e : StreamEvent) : Decidable (CleanStep lower s e) :=
  decidable_of_iff (Uncut lower (e.load s.buffer).filter (e.load s.buffer).candidate e.endKnown
      (e.load s.buffer).historyTail.length ∧
    Uncut lower (e.load s.buffer).filter (e.load s.buffer).candidate e.endKnown ((e.load s.buffer).readyEnd lower e.endKnown) ∧
    FieldsKept ((e.load s.buffer).readyRanges lower e.endKnown) (e.load s.buffer).historyTail.length
      ((e.load s.buffer).queue.take ((e.load s.buffer).holdIndex lower e.endKnown)))
    ⟨fun h => ⟨h.1,h.2.1,h.2.2⟩,fun h => ⟨h.kept,h.ready,h.fields⟩⟩

def maskFilter (keyword : String) : SensitiveTextFilter :=
  newSensitiveTextFilter toLowerChar [{ action := .mask, replacement := "*", keywords := [keyword] }]

theorem split_keyword_masked :
    (emittedItems toLowerChar { buffer := { filter := maskFilter "cat" } }
      (streamEvents [[deltaItem "a ca"],[deltaItem "t."]])).flatMap (·.text)="a *.".toList ∧
    (emittedItems toLowerChar { buffer := { filter := maskFilter "cat" } }
      (streamEvents [[deltaItem "a ca"],[deltaItem "t."]])).flatMap (·.text) =
      (maskText toLowerChar (maskFilter "cat")
        ([[deltaItem "a ca"],[deltaItem "t."]].flatten.flatMap (·.text))).1 := by
  refine ⟨by decide +kernel,(stream_masked_as_text toLowerChar (maskFilter "cat") (by decide +kernel)
    [[deltaItem "a ca"],[deltaItem "t."]] ?_ (by decide +kernel)).2⟩
  intro batch hbatch item hitem text
  simp only [mem_cons,not_mem_nil,or_false] at hbatch
  obtain rfl | rfl := hbatch <;> (obtain rfl := mem_singleton.mp hitem; exact fun h => by cases h)

theorem second_occurrence_sent :
    (emittedItems toLowerChar { buffer := { filter := maskFilter "哈哈" } }
      (streamEvents [[deltaItem "哈"],[deltaItem "哈"],[deltaItem "哈"],[deltaItem "哈"]])).flatMap (·.text) = "*哈哈".toList ∧
    (maskText toLowerChar (maskFilter "哈哈")
      ([[deltaItem "哈"],[deltaItem "哈"],[deltaItem "哈"],[deltaItem "哈"]].flatten.flatMap (·.text))).1="**".toList ∧
    (emittedItems toLowerChar { buffer := { filter := maskFilter "哈哈" } }
      (streamEvents [[deltaItem "哈"],[deltaItem "哈"],[deltaItem "哈"],[deltaItem "哈"]])).flatMap (·.text) ≠
      (maskText toLowerChar (maskFilter "哈哈")
        ([[deltaItem "哈"],[deltaItem "哈"],[deltaItem "哈"],[deltaItem "哈"]].flatten.flatMap (·.text))).1 := by
  refine ⟨?_,?_,?_⟩ <;> decide +kernel

end Decide

end NewApi.Filter

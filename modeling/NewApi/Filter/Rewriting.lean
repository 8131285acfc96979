import NewApi.Filter.Positions

/-! What the rewritten items of a stream say: the pieces of the pushed text, field by field. -/
namespace NewApi.Filter
open List Spans

def masked (ranges : List TextRangeMatch) (offset : Nat) (text : List Char) : List Char :=
  pieces TextRangeMatch.start TextRangeMatch.stop (·.rule.replacement) ranges offset text

def SeparatedRanges (last : Nat) (ranges : List TextRangeMatch) : Prop :=
  Separated TextRangeMatch.start TextRangeMatch.stop last ranges

section Segment
variable {source : List Char} {start cursor last : Nat} {ranges : List TextRangeMatch}

theorem masked_cons_outside {r : TextRangeMatch} {offset : Nat} {text : List Char}
    (h : ∀ j<text.length, offset+j<r.start ∨ r.stop≤offset+j) : masked (r::ranges) offset text=masked ranges offset text := by
  apply pieces_congr
  intro j hj a
  rw [piece,piece,cover_cons_outside (h j hj)]

theorem rewriteSegmentFrom_eq (hranges : SeparatedRanges last ranges) (hcursor : cursor ≤ source.length)
    (hlast : cursor=0 ∨ start+cursor≤last) :
    rewriteSegmentFrom source start cursor ranges=masked ranges (start+cursor) (source.drop cursor) := by
  induction ranges generalizing cursor last with
  | nil =>
    rw [rewriteSegmentFrom,masked,pieces_uncovered]
    intro j _
    rfl
  | cons r rest ih =>
    obtain ⟨hafter,hwidth,hrest⟩ := hranges
    unfold rewriteSegmentFrom
    by_cases hskip : r.stop ≤ start ∨ start+source.length≤r.start
    · rw [if_pos hskip,ih hrest hcursor (by omega),masked_cons_outside]
      intro j hj
      rw [length_drop] at hj
      omega
    · rw [if_neg hskip]
      dsimp only
      obtain ⟨localEnd,hlocalEnd⟩ : ∃ localEnd, localEnd=min (r.stop-start) source.length := ⟨_,rfl⟩
      rw [← hlocalEnd]
      have htail : masked (r::rest) (start+localEnd) (source.drop localEnd) =
          rewriteSegmentFrom source start localEnd rest := by
        rw [ih hrest (by omega) (by omega),masked_cons_outside]
        intro j hj
        rw [length_drop] at hj
        omega
      by_cases hinside : start≤r.start
      · have hmax : max cursor localEnd=localEnd := by omega
        have hopen : source.drop cursor = (source.drop cursor).take (r.start-start-cursor)++source.drop (r.start-start) := by
          have hsplit := (take_append_drop (r.start-start-cursor) (source.drop cursor)).symm
          rwa [drop_drop,Nat.add_sub_cancel' (by omega)] at hsplit
        have hclose : source.drop (r.start-start) =
            (source.drop (r.start-start)).take (localEnd-(r.start-start))++source.drop localEnd := by
          have hsplit := (take_append_drop (localEnd-(r.start-start)) (source.drop (r.start-start))).symm
          rwa [drop_drop,Nat.add_sub_cancel' (by omega)] at hsplit
        have hlen1 : ((source.drop cursor).take (r.start-start-cursor)).length=r.start-start-cursor := by
          rw [length_take,length_drop]
          omega
        have hlen2 : ((source.drop (r.start-start)).take (localEnd-(r.start-start))).length = localEnd-(r.start-start) := by
          rw [length_take,length_drop]
          omega
        have hlater := hrest.le
        have hfirst : masked (r::rest) (start+cursor) ((source.drop cursor).take (r.start-start-cursor)) =
            (source.drop cursor).take (r.start-start-cursor) := by
          apply pieces_uncovered
          intro j hj
          apply cover_eq_none
          intro t ht
          obtain rfl | ht := mem_cons.mp ht
          · omega
          have htle := hlater t ht
          omega
        have hsecond : masked (r::rest) r.start ((source.drop (r.start-start)).take (localEnd-(r.start-start))) =
            r.rule.replacement := by
          apply pieces_span
          · apply ne_nil_of_length_pos
            omega
          · intro j hj
            exact cover_cons_inside (by omega) (by omega)
        rw [if_pos hinside,hmax,← htail,hopen]
        unfold masked at hfirst hsecond ⊢
        rw [pieces_append,hfirst,hlen1,show start+cursor+(r.start-start-cursor)=r.start by omega,hclose,
          pieces_append,hsecond,hlen2,show r.start+(localEnd-(r.start-start))=start+localEnd by omega,
          ← hclose,take_append_of_le_length (by omega),take_of_length_le (by omega),append_assoc]
      · obtain rfl : cursor=0 := by omega
        have hmax : max 0 localEnd=localEnd := by omega
        have hclose : source.drop 0=source.take localEnd++source.drop localEnd := by
          rw [drop_zero,take_append_drop]
        have hlen : (source.take localEnd).length=localEnd := by
          rw [length_take]
          omega
        have hcovered : masked (r::rest) start (source.take localEnd)=[] := by
          refine @Spans.pieces_inside _ _ _ _ _ _ _ _ r (by omega) fun j hj => ?_
          exact cover_cons_inside (by omega) (by omega)
        rw [if_neg hinside,hmax,← htail,hclose,show r.start-start-0=0 by omega,take_zero]
        unfold masked at hcovered ⊢
        rw [Nat.add_zero,pieces_append,hcovered,hlen]
        rfl

theorem rewriteSensitiveTextSegment_eq (hranges : SeparatedRanges last ranges) (text : String) (offset : Nat) :
    (rewriteSensitiveTextSegment text offset ranges).1.toList=masked ranges offset text.toList := by
  unfold rewriteSensitiveTextSegment
  dsimp only
  split
  · rw [String.toList_ofList,rewriteSegmentFrom_eq hranges (Nat.zero_le _) (.inl rfl),Nat.add_zero,drop_zero]
  rename_i hnone
  symm
  apply pieces_uncovered
  intro j hj
  apply cover_eq_none
  intro r hr
  by_contra hcover
  refine hnone (any_eq_true.mpr ⟨r,hr,?_⟩)
  rw [Bool.and_eq_true,decide_eq_true_eq,decide_eq_true_eq]
  omega

theorem rewriteSensitiveTextSegment_unchanged {text : String} {offset : Nat}
    (h : (rewriteSensitiveTextSegment text offset ranges).2=false) :
    (rewriteSensitiveTextSegment text offset ranges).1=text := by
  unfold rewriteSensitiveTextSegment at h ⊢
  dsimp only at h ⊢
  split at h
  · cases h
  next hnone =>
    rw [if_neg hnone]

end Segment

section Payload
variable (ranges : List TextRangeMatch)

def rewrittenTexts : Nat → List String → List String
  | _, [] => []
  | offset, text::rest =>
    (rewriteSensitiveTextSegment text offset ranges).1::rewrittenTexts (offset+text.toList.length) rest

def textRunes (texts : List String) : Nat := (texts.flatMap String.toList).length

/-- What the rewriting of a value keeps: its offset counts the collected texts, it shows some of the rewritten texts in
their order, and without a change it is the value. -/
structure Rewrites (offset : Nat) (texts shown : List String) (offset' : Nat) (changed : Bool) (same : Prop) : Prop where
  offset_eq : offset'=offset+textRunes texts
  sublist : shown.Sublist (rewrittenTexts ranges offset texts)
  unchanged : changed=false → same

variable {ranges} (offset : Nat) (left right : List String)

theorem textRunes_append : textRunes (left++right)=textRunes left+textRunes right := by
  rw [textRunes,flatMap_append,length_append]
  rfl

theorem textRunes_singleton (text : String) : textRunes [text]=text.toList.length := by
  rw [textRunes,flatMap_cons,flatMap_nil,append_nil]

theorem rewrittenTexts_append : rewrittenTexts ranges offset (left++right) =
      rewrittenTexts ranges offset left++rewrittenTexts ranges (offset+textRunes left) right := by
  induction left generalizing offset with
  | nil => rfl
  | cons text left ih =>
    rw [cons_append,rewrittenTexts,ih,rewrittenTexts,cons_append,Nat.add_assoc,← textRunes_singleton,
      ← textRunes_append,singleton_append]

theorem rewrittenTexts_flatMap {last : Nat} (hranges : SeparatedRanges last ranges) (offset : Nat) (texts : List String) :
    (rewrittenTexts ranges offset texts).flatMap String.toList=masked ranges offset (texts.flatMap String.toList) := by
  induction texts generalizing offset with
  | nil => rfl
  | cons text texts ih =>
    rw [rewrittenTexts,flatMap_cons,flatMap_cons,ih,rewriteSensitiveTextSegment_eq hranges]
    unfold masked
    rw [pieces_append]

theorem length_rewrittenTexts (texts : List String) :
    (rewrittenTexts ranges offset texts).length=texts.length := by
  induction texts generalizing offset with
  | nil => rfl
  | cons text texts ih => rw [rewrittenTexts,length_cons,ih,length_cons]

theorem Rewrites.nil {same : Prop} (h : same) : Rewrites ranges offset [] [] offset false same :=
  ⟨rfl,List.Sublist.refl _,fun _ => h⟩

theorem Rewrites.append {offset offset1 offset2 : Nat} {texts1 texts2 shown1 shown2 : List String} {changed1 changed2 : Bool}
    {same1 same2 : Prop} (h1 : Rewrites ranges offset texts1 shown1 offset1 changed1 same1)
    (h2 : Rewrites ranges offset1 texts2 shown2 offset2 changed2 same2) :
    Rewrites ranges offset (texts1++texts2) (shown1++shown2) offset2 (changed1 || changed2) (same1 ∧ same2) := by
  refine ⟨?_,?_,?_⟩
  · rw [h2.offset_eq,h1.offset_eq,textRunes_append,Nat.add_assoc]
  · rw [rewrittenTexts_append,← h1.offset_eq]
    exact h1.sublist.append h2.sublist
  · intro hchanged
    obtain ⟨hc1,hc2⟩ := Bool.or_eq_false_iff.mp hchanged
    exact ⟨h1.unchanged hc1,h2.unchanged hc2⟩

theorem Rewrites.imp {offset offset' : Nat} {texts shown : List String} {changed : Bool} {same same' : Prop}
    (h : Rewrites ranges offset texts shown offset' changed same) (himp : same → same') :
    Rewrites ranges offset texts shown offset' changed same' :=
  ⟨h.offset_eq,h.sublist,fun hc => himp (h.unchanged hc)⟩

theorem Rewrites.text (offset : Nat) (text : String) (skipped : Bool) :
    ∀ r, rewriteSensitiveTextSegment text offset ranges=r → Rewrites ranges offset [text] (if skipped=true then [] else [r.1])
      (offset+text.toList.length) r.2 (r.1=text) := by
  rintro _ rfl
  refine ⟨by rw [textRunes_singleton],?_,rewriteSensitiveTextSegment_unchanged⟩
  split
  · exact nil_sublist _
  · exact List.Sublist.refl _

variable (ranges) in
def RewritesValue (v : Json) : Prop :=
  ∀ key offset, Rewrites ranges offset (collectResponseTextValue key v)
    (collectResponseTextValue key (rewriteResponseTextRanges ranges key offset v).1)
    (rewriteResponseTextRanges ranges key offset v).2.1 (rewriteResponseTextRanges ranges key offset v).2.2
    ((rewriteResponseTextRanges ranges key offset v).1=v)

variable (ranges) in
def RewritesFields (fields : List (String×Json)) : Prop :=
  ∀ offset, Rewrites ranges offset (collectFields fields) (collectFields (rewriteFields ranges offset fields).1)
    (rewriteFields ranges offset fields).2.1 (rewriteFields ranges offset fields).2.2
    ((rewriteFields ranges offset fields).1=fields)

variable (ranges) in
def RewritesItems (items : List Json) : Prop :=
  ∀ key offset, Rewrites ranges offset (collectItems key items) (collectItems key (rewriteItems ranges key offset items).1)
    (rewriteItems ranges key offset items).2.1 (rewriteItems ranges key offset items).2.2
    ((rewriteItems ranges key offset items).1=items)

section Cons
variable {child : Json} {childKey : String} {rest : List (String×Json)} {others : List Json}

section
variable (hchild : ∀ text, child≠.str text)
include hchild
variable (key : String)

theorem collectFields_cons : collectFields ((childKey,child)::rest) =
      (if skipsValue childKey then [] else collectResponseTextValue childKey child)++collectFields rest := by
  cases child with
  | str text => exact absurd rfl (hchild text)
  | _ => rfl

theorem rewriteFields_cons (offset : Nat) :
    rewriteFields ranges offset ((childKey,child)::rest) =
      if skipsValue childKey then
        ((childKey,child)::(rewriteFields ranges offset rest).1,(rewriteFields ranges offset rest).2)
      else
        let updated := rewriteResponseTextRanges ranges childKey offset child
        let result := rewriteFields ranges updated.2.1 rest
        ((childKey,updated.1)::result.1,result.2.1,updated.2.2 || result.2.2) := by
  cases child with
  | str text => exact absurd rfl (hchild text)
  | _ => rfl

theorem collectItems_cons :
    collectItems key (child::others)=collectResponseTextValue key child++collectItems key others := by
  cases child with
  | str text => exact absurd rfl (hchild text)
  | _ => rfl

theorem rewriteItems_cons (offset : Nat) :
    rewriteItems ranges key offset (child::others) =
      let updated := rewriteResponseTextRanges ranges key offset child
      let result := rewriteItems ranges key updated.2.1 others
      (updated.1::result.1,result.2.1,updated.2.2 || result.2.2) := by
  cases child with
  | str text => exact absurd rfl (hchild text)
  | _ => rfl

theorem rewriteValue_not_text (offset : Nat) :
    ∀ text, (rewriteResponseTextRanges ranges key offset child).1≠.str text := by
  intro text heq
  cases child with
  | str other => exact hchild other rfl
  | null | bool _ | num _ => cases heq
  | arr _ | obj _ =>
    rw [rewriteResponseTextRanges] at heq
    cases heq

end

theorem collectFields_text (text : String) : collectFields ((childKey,.str text)::rest) =
    (if skipsText childKey text then [] else [text])++collectFields rest := rfl

theorem RewritesFields.cons (hchild : RewritesValue ranges child) (hrest : RewritesFields ranges rest) :
    RewritesFields ranges ((childKey,child)::rest) := by
  intro offset
  by_cases htext : ∃ text, child=.str text
  · obtain ⟨text,rfl⟩ := htext
    rw [rewriteFields,collectFields_text]
    by_cases hskip : skipsText childKey text=true
    · rw [if_pos hskip,if_pos hskip,nil_append]
      dsimp only
      rw [collectFields_text,if_pos hskip,nil_append]
      exact (hrest offset).imp fun h => by rw [h]
    · rw [if_neg hskip,if_neg hskip]
      dsimp only
      rw [collectFields_text]
      exact ((Rewrites.text offset text _ _ rfl).append (hrest _)).imp fun h => by rw [h.1,h.2]
  · have hvalue : ∀ text, child≠.str text := fun text heq => htext ⟨text,heq⟩
    rw [rewriteFields_cons hvalue,collectFields_cons hvalue]
    by_cases hskip : skipsValue childKey=true
    · rw [if_pos hskip,if_pos hskip,nil_append]
      dsimp only
      rw [collectFields_cons hvalue,if_pos hskip,nil_append]
      exact (hrest offset).imp fun h => by rw [h]
    · rw [if_neg hskip,if_neg hskip]
      dsimp only
      rw [collectFields_cons (rewriteValue_not_text hvalue childKey offset),if_neg hskip]
      exact ((hchild childKey offset).append (hrest _)).imp fun h => by rw [h.1,h.2]

theorem RewritesItems.cons (hchild : RewritesValue ranges child) (hrest : RewritesItems ranges others) :
    RewritesItems ranges (child::others) := by
  intro key offset
  by_cases htext : ∃ text, child=.str text
  · obtain ⟨text,rfl⟩ := htext
    rw [rewriteItems,collectItems]
    by_cases hskip : skipsText key text=true
    · rw [if_pos hskip,if_pos hskip,nil_append]
      dsimp only
      rw [collectItems,if_pos hskip,nil_append]
      exact (hrest key offset).imp fun h => by rw [h]
    · rw [if_neg hskip,if_neg hskip]
      dsimp only
      rw [collectItems]
      exact ((Rewrites.text offset text _ _ rfl).append (hrest key _)).imp fun h => by rw [h.1,h.2]
  · have hvalue : ∀ text, child≠.str text := fun text heq => htext ⟨text,heq⟩
    rw [rewriteItems_cons hvalue,collectItems_cons hvalue]
    dsimp only
    rw [collectItems_cons (rewriteValue_not_text hvalue key offset)]
    exact ((hchild key offset).append (hrest key _)).imp fun h => by rw [h.1,h.2]

end Cons

mutual

theorem rewritesValue : ∀ v : Json, RewritesValue ranges v
  | .null | .bool _ | .num _ | .str _ => fun _ offset => .nil offset rfl
  | .arr items => fun key offset => (rewritesItems items key offset).imp fun h => congrArg Json.arr h
  | .obj fields => fun _ offset => (rewritesFields fields offset).imp fun h => congrArg Json.obj h

theorem rewritesFields : ∀ fields : List (String×Json), RewritesFields ranges fields
  | [] => fun offset => .nil offset rfl
  | (_,child)::rest => RewritesFields.cons (rewritesValue child) (rewritesFields rest)

theorem rewritesItems : ∀ items : List Json, RewritesItems ranges items
  | [] => fun _ offset => .nil offset rfl
  | child::rest => RewritesItems.cons (rewritesValue child) (rewritesItems rest)

end

end Payload

section Chunks
variable {ranges : List TextRangeMatch} {last : Nat} {chunks : List StreamChunk} {item : StreamItem}

/-- No rewritten field of the chunks is skipped where its text was collected. -/
def FieldsKept (ranges : List TextRangeMatch) : Nat → List StreamChunk → Prop
  | _, [] => True
  | offset, chunk::rest =>
    (∀ payload, chunk.payload=some payload →
      (collectResponseTextFields (rewriteResponseTextRanges ranges "" offset payload).1).length =
        (collectResponseTextFields payload).length) ∧
    FieldsKept ranges (offset+chunk.runes) rest

def Derived (pushed sent : StreamItem) : Prop :=
  sent.eventLine=pushed.eventLine ∧ (sent.data=pushed.data ∨ ∃ payload ranges offset,
      pushed.data=.json payload ∧ sent.data=.json (rewriteResponseTextRanges ranges "" offset payload).1)

theorem derived_refl (item : StreamItem) : Derived item item := ⟨rfl,.inl rfl⟩

theorem chunkOf_payload {payload : Json} (h : (chunkOf item).payload=some payload) :
    item.data=.json payload ∧ item.text=responseText payload := by
  unfold chunkOf at h
  unfold StreamItem.text
  cases hdata : item.data with
  | plain text =>
    rw [hdata] at h
    cases h
  | json other =>
    rw [hdata] at h
    obtain rfl := Option.some.inj h
    exact ⟨rfl,rfl⟩
  | malformed text =>
    rw [hdata] at h
    cases h

theorem chunkOf_text_of_none (h : (chunkOf item).payload=none) : item.text=[] := by
  unfold chunkOf at h
  unfold StreamItem.text
  cases hdata : item.data with
  | json payload =>
    rw [hdata] at h
    cases h
  | _ => rfl

theorem masked_nil (offset : Nat) (text : List Char) : masked [] offset text=text :=
  pieces_uncovered fun _ _ => rfl

theorem masked_append (ranges : List TextRangeMatch) (offset : Nat) (left right : List Char) :
    masked ranges offset (left++right)=masked ranges offset left++masked ranges (offset+left.length) right :=
  pieces_append right

theorem responseText_rewritten (hranges : SeparatedRanges last ranges) {payload : Json} {offset : Nat}
    (hkept : (collectResponseTextFields (rewriteResponseTextRanges ranges "" offset payload).1).length =
      (collectResponseTextFields payload).length) :
    responseText (rewriteResponseTextRanges ranges "" offset payload).1=masked ranges offset (responseText payload) := by
  have hrewrites := @rewritesValue ranges payload "" offset
  have htexts : collectResponseTextFields (rewriteResponseTextRanges ranges "" offset payload).1 =
      rewrittenTexts ranges offset (collectResponseTextFields payload) := by
    apply hrewrites.sublist.eq_of_length
    rw [length_rewrittenTexts]
    exact hkept
  rw [responseText,htexts,rewrittenTexts_flatMap hranges]
  rfl

theorem rewriteStreamChunks_spec (hranges : SeparatedRanges last ranges) (hcoherent : Coherent chunks) {offset : Nat} :
    List.Forall₂ Derived (chunks.map (·.item)) (rewriteStreamChunks ranges offset chunks).1 ∧ (FieldsKept ranges offset chunks →
        (rewriteStreamChunks ranges offset chunks).1.flatMap (·.text)=masked ranges offset (queueText chunks)) := by
  induction chunks generalizing offset with
  | nil => exact ⟨.nil,fun _ => rfl⟩
  | cons chunk rest ih =>
    obtain ⟨hpayload,htext⟩ := hcoherent chunk mem_cons_self
    rw [chunkOf_text] at htext
    have hrest := fun offset => @ih (fun other hother => hcoherent other (mem_cons_of_mem _ hother)) offset
    have hqueue : queueText (chunk::rest)=chunk.text++queueText rest := flatMap_cons
    have hplain : chunk.item.text=masked ranges offset chunk.text → List.Forall₂ Derived ((chunk::rest).map (·.item))
            (chunk.item::(rewriteStreamChunks ranges (offset+chunk.runes) rest).1) ∧
          (FieldsKept ranges offset (chunk::rest) →
            (chunk.item::(rewriteStreamChunks ranges (offset+chunk.runes) rest).1).flatMap (·.text) =
              masked ranges offset (queueText (chunk::rest))) := by
      intro hsame
      refine ⟨.cons (derived_refl _) (hrest _).1,fun hkept => ?_⟩
      rw [flatMap_cons,(hrest _).2 hkept.2,hqueue,masked_append,hsame]
      rfl
    unfold rewriteStreamChunks
    cases hcase : chunk.payload with
    | none =>
      refine hplain ?_
      rw [hcase] at hpayload
      rw [htext,chunkOf_text_of_none hpayload.symm]
      rfl
    | some payload =>
      rw [hcase] at hpayload
      obtain ⟨hdata,hitem⟩ := chunkOf_payload hpayload.symm
      dsimp only
      by_cases hempty : ranges.isEmpty=true
      · rw [if_pos hempty]
        refine hplain ?_
        rw [List.isEmpty_iff.mp hempty,masked_nil,htext]
      · rw [if_neg hempty]
        have hrewrites := @rewritesValue ranges payload "" offset
        have hoffset : (rewriteResponseTextRanges ranges "" offset payload).2.1=offset+chunk.runes := by
          rw [hrewrites.offset_eq,StreamChunk.runes,htext,hitem]
          rfl
        dsimp only
        rw [hoffset]
        by_cases hchanged : (rewriteResponseTextRanges ranges "" offset payload).2.2=true
        · rw [if_pos hchanged]
          refine ⟨.cons ⟨rfl,.inr ⟨payload,ranges,offset,hdata,rfl⟩⟩ (hrest _).1,fun hkept => ?_⟩
          have hnew := responseText_rewritten hranges (hkept.1 payload hcase)
          rw [flatMap_cons,(hrest _).2 hkept.2,hqueue,masked_append,htext,hitem,← hnew,StreamChunk.runes,htext, hitem]
          rfl
        · rw [if_neg hchanged]
          rw [Bool.not_eq_true] at hchanged
          refine ⟨.cons (derived_refl _) (hrest _).1,fun hkept => ?_⟩
          have hnew := responseText_rewritten hranges (hkept.1 payload hcase)
          rw [hrewrites.unchanged hchanged] at hnew
          rw [flatMap_cons,(hrest _).2 hkept.2,hqueue,masked_append,htext,hitem,← hnew,StreamChunk.runes,htext, hitem]

end Chunks

end NewApi.Filter

import NewApi.Filter.Positions

/-! Block rules on a stream. Nothing that can still become a keyword leaves the buffer, so the stream is blocked when the
whole text is, except where a keyword is read at the kept rune in the middle of a word. -/
namespace NewApi.Filter

open List Runs GoStrings

variable {lower : Char → Char} {f : SensitiveTextFilter} {pushed : List Char} {b : StreamDelayBuffer} {sent : Nat}
  {endKnown : Bool}

/-- Where the kept rune is inside a word, no block keyword stands at it. -/
def KeptRuneClear (lower : Char → Char) (pushed : List Char) (b : StreamDelayBuffer) (endKnown : Bool) : Prop :=
  let sent := pushed.length-(queueText b.queue).length
  2 ≤ sent → ((pushed.map lower)[sent-2]?).any isASCIISensitiveWordRune=true →
    ∀ rule∈b.filter.blockRules, ∀ k∈rule.keywords, k.runes.head?.any isASCIISensitiveWordRune=true →
      hit (b.candidate.map lower) k.runes endKnown 0=false

/-- No block keyword begins in the text that was sent, whatever follows. -/
def Settled (lower : Char → Char) (f : SensitiveTextFilter) (pushed : List Char) (sent : Nat) : Prop :=
  ∀ rule∈f.blockRules, ∀ k∈rule.keywords, ∀ i<sent, ∀ more endKnown, hit ((pushed++more).map lower) k.runes endKnown i=false

theorem Settled.extend (h : Settled lower f pushed sent) (more : List Char) : Settled lower f (pushed++more) sent := by
  intro rule hrule k hk i hi later endKnown
  rw [append_assoc]
  exact h rule hrule k hk i hi (more++later) endKnown

theorem Settled.beyond_kept (h : Settled lower b.filter pushed sent) (haligned : Aligned pushed b sent)
    (hclear : KeptRuneClear lower pushed b endKnown) {rule : CompiledSensitiveRule} (hrule : rule∈b.filter.blockRules)
    {k : SensitiveKeyword} (hk : k∈rule.keywords) {i : Nat}
    (hhit : hit (b.candidate.map lower) k.runes endKnown i=true) : min 1 sent ≤ i := by
  by_contra hlt
  obtain rfl : i=0 := by omega
  have hpos : 0<sent := by omega
  have hle := haligned.le
  have hsent : pushed.length-(queueText b.queue).length=sent := by
    rw [haligned.queue,length_drop]
    omega
  have hcandidate : b.candidate.map lower=(pushed.map lower).drop (sent-1) := by
    rw [haligned.candidate_eq,map_drop,min_eq_left hpos]
  obtain ⟨hne,hfront,-,hstop⟩ := hit_iff.mp hhit
  rw [hcandidate,drop_zero] at hfront
  have hend : endBoundaryOK (pushed.map lower) k.runes endKnown (sent-1+k.runes.length)=true := by
    have hlength := hit_length hhit
    rw [hcandidate,length_drop] at hlength
    rw [hcandidate] at hstop
    unfold endBoundaryOK at hstop ⊢
    have hinside : decide (0+k.runes.length<((pushed.map lower).drop (sent-1)).length) =
        decide (sent-1+k.runes.length<(pushed.map lower).length) := by
      rw [length_drop]
      exact decide_eq_decide.mpr (by omega)
    have hwhole : decide (0+k.runes.length=((pushed.map lower).drop (sent-1)).length) =
        decide (sent-1+k.runes.length=(pushed.map lower).length) := by
      rw [length_drop]
      exact decide_eq_decide.mpr (by omega)
    rw [hinside,hwhole,getElem?_drop,Nat.zero_add] at hstop
    exact hstop
  have hstart : startBoundaryOK (pushed.map lower) k.runes (sent-1)=true := by
    by_contra hbad
    unfold startBoundaryOK at hbad
    rw [Bool.or_eq_true,Bool.or_eq_true,not_or,not_or,Bool.not_eq_true',Bool.not_eq_true',Bool.not_eq_false,
      Bool.not_eq_false,decide_eq_true_eq] at hbad
    have hmiss := hclear (by omega) (by rw [hsent]; exact hbad.2) rule hrule k hk hbad.1.1
    rw [hmiss] at hhit
    cases hhit
  have hseen := h rule hrule k hk (sent-1) (by omega) [] endKnown
  rw [append_nil,← Bool.not_eq_true,hit_iff] at hseen
  exact hseen ⟨hne,hfront,hstart,hend⟩

theorem evaluate_blocked_iff : (b.evaluate lower endKnown).2.blocked=true ↔
    b.queue≠[] ∧ blockMatchesWithEnd lower b.filter b.candidate endKnown≠[] := by
  unfold StreamDelayBuffer.evaluate
  by_cases hempty : b.queue.isEmpty=true
  · rw [if_pos hempty]
    exact iff_of_false Bool.false_ne_true fun h => h.1 (List.isEmpty_iff.mp hempty)
  · rw [if_neg hempty]
    dsimp only
    rw [List.isEmpty_iff] at hempty
    split
    next hblocks =>
      rw [Bool.not_eq_true',isEmpty_eq_false_iff] at hblocks
      exact iff_of_true rfl ⟨hempty,hblocks⟩
    next hblocks =>
      rw [Bool.not_eq_true',isEmpty_eq_false_iff] at hblocks
      exact iff_of_false Bool.false_ne_true fun h => hblocks h.2

theorem Settled.evaluate (h : Settled lower b.filter pushed sent) (haligned : Aligned pushed b sent)
    (hpass : (b.evaluate lower false).2.blocked=false) :
    Settled lower b.filter pushed (sent+(queueText (b.queue.take (b.holdIndex lower false))).length) := by
  intro rule hrule k hk p hp more endKnown
  rcases Nat.lt_or_ge p sent with hlt | hge
  · exact h rule hrule k hk p hlt more endKnown
  rw [← Bool.not_eq_true]
  intro hhit
  have hle := haligned.le
  have hlength := congrArg List.length (queueText_take_drop b.queue (b.holdIndex lower false))
  rw [length_append,haligned.queue,length_drop] at hlength
  rw [map_append] at hhit
  obtain hnow | hpending := hit_settled hhit (by rw [length_map]; omega)
  · -- The whole keyword is there, so the evaluation blocks.
    have hseen : hit (b.candidate.map lower) k.runes false (p-(sent-min 1 sent))=true := by
      rw [haligned.hit_candidate (by omega),Nat.add_sub_cancel' (by omega)]
      exact hnow
    have hqueue : b.queue≠[] := by
      rintro hnil
      rw [hnil,take_nil] at hp
      simp only [queueText,flatMap_nil,length_nil,Nat.add_zero] at hp
      omega
    have hblocked := evaluate_blocked_iff.mpr ⟨hqueue,blockMatches_ne_nil_iff.mpr ⟨rule,hrule,k,hk,_,hseen⟩⟩
    rw [hpass] at hblocked
    cases hblocked
  · have hheld := haligned.held_back ⟨rule,mem_append_left _ hrule,hk⟩ hge hpending
    omega

section Run
variable {s : StreamState} {e : StreamEvent}

def ClearStep (lower : Char → Char) (s : StreamState) (e : StreamEvent) : Prop :=
  s.blocked=true ∨ KeptRuneClear lower (s.pushed++e.text) (e.load s.buffer) e.endKnown

def sends (lower : Char → Char) (s : StreamState) (e : StreamEvent) : List Char :=
  (streamStep lower s e).2.items.flatMap (·.text)

/-- What the batches of a stream keep, with the text sent so far. -/
structure BlockInv (lower : Char → Char) (f : SensitiveTextFilter) (text : List Char) (s : StreamState) : Prop where
  filter : s.buffer.filter=f
  coherent : Coherent s.buffer.queue
  passing : s.blocked=false → ∃ sent, Aligned s.pushed s.buffer sent ∧ Settled lower f s.pushed sent ∧ text=s.pushed.take sent
  stopped : s.blocked=true → ∃ rule∈f.blockRules, ∃ k∈rule.keywords, ∃ p, hit (s.pushed.map lower) k.runes false p=true

theorem load_filter (e : StreamEvent) (b : StreamDelayBuffer) : (e.load b).filter=b.filter := by
  cases e <;> rfl

theorem evaluate_filter (lower : Char → Char) (b : StreamDelayBuffer) (endKnown : Bool) :
    (b.evaluate lower endKnown).1.filter=b.filter := by
  unfold StreamDelayBuffer.evaluate
  split
  · rfl
  · dsimp only
    split <;> rfl

theorem evaluate_items (hmask : b.filter.maskRules=[]) (hcoherent : Coherent b.queue)
    (hpass : (b.evaluate lower endKnown).2.blocked=false) :
    (b.evaluate lower endKnown).2.items.flatMap (·.text)=queueText (b.queue.take (b.holdIndex lower endKnown)) := by
  have hplain : ∀ (chunks : List StreamChunk) (offset : Nat),
      (rewriteStreamChunks [] offset chunks).1=chunks.map (·.item) := by
    intro chunks
    induction chunks with
    | nil => intro _; rfl
    | cons chunk rest ih =>
      intro offset
      unfold rewriteStreamChunks
      split
      · change chunk.item::(rewriteStreamChunks [] (offset+chunk.runes) rest).1=_
        rw [ih,map_cons]
      · change chunk.item::(rewriteStreamChunks [] (offset+chunk.runes) rest).1=_
        rw [ih,map_cons]
  have hranges : selectedMaskRanges lower b.filter b.candidate endKnown=[] := by
    unfold selectedMaskRanges maskRangesWithEnd
    rw [hmask]
    rfl
  unfold StreamDelayBuffer.evaluate at hpass ⊢
  by_cases hempty : b.queue.isEmpty=true
  · rw [if_pos hempty,List.isEmpty_iff.mp hempty,take_nil]
    rfl
  · rw [if_neg hempty] at hpass ⊢
    dsimp only at hpass ⊢
    split at hpass
    · cases hpass
    rename_i hblocks
    rw [if_neg hblocks,hranges]
    dsimp only [maskRangesWithin,filter_nil]
    rw [hplain,flatMap_map,queueText,List.flatMap,List.flatMap]
    congr 1
    apply map_congr_left
    intro chunk hchunk
    rw [(hcoherent chunk (mem_of_mem_take hchunk)).2,chunkOf_text]

variable {text : List Char} {batches : List (List StreamItem)}

theorem BlockInv.blocked_beyond (h : BlockInv lower f text s) (he : e.Sound) (hpassing : s.blocked=false)
    (hclear : ClearStep lower s e) {rule : CompiledSensitiveRule} (hrule : rule∈f.blockRules) {k : SensitiveKeyword}
    (hk : k∈rule.keywords) {i : Nat} (hhit : hit ((e.load s.buffer).candidate.map lower) k.runes e.endKnown i=true) :
    text <+: s.pushed++e.text ∧ ∃ p, text.length≤p ∧ hit ((s.pushed++e.text).map lower) k.runes e.endKnown p=true := by
  obtain ⟨sent,haligned,hsettled,rfl⟩ := h.passing hpassing
  have hle := haligned.le
  have hloaded := haligned.load he
  have hfilter : (e.load s.buffer).filter=f := (load_filter e s.buffer).trans h.filter
  have hkept := hclear.resolve_left (by rw [hpassing]; exact Bool.false_ne_true)
  have hbeyond := Settled.beyond_kept (hfilter ▸ hsettled.extend e.text) hloaded hkept (hfilter ▸ hrule) hk hhit
  refine ⟨( take_prefix _ _).trans (prefix_append _ _),sent-min 1 sent+i,?_,?_⟩
  · rw [length_take]
    omega
  · rw [← hloaded.hit_candidate hbeyond]
    exact hhit

theorem BlockInv.push (h : BlockInv lower f text s) (hmask : f.maskRules=[]) {items : List StreamItem}
    (he : (StreamEvent.push items).Sound) (hclear : ClearStep lower s (.push items)) :
    BlockInv lower f (text++sends lower s (.push items)) (streamStep lower s (.push items)).1 := by
  unfold sends
  have hfilter : ((StreamEvent.push items).load s.buffer).filter=f := (load_filter _ s.buffer).trans h.filter
  rw [streamStep_eq he]
  have hcoherent := h.coherent.load he
  refine ⟨(evaluate_filter _ _ _).trans hfilter,hcoherent.evaluate,?_,?_⟩
  · intro hpass
    obtain ⟨hbefore,hnow⟩ := Bool.or_eq_false_iff.mp hpass
    obtain ⟨sent,haligned,hsettled,rfl⟩ := h.passing hbefore
    have hloaded := haligned.load he
    have hextended : Settled lower ((StreamEvent.push items).load s.buffer).filter
      (s.pushed++(StreamEvent.push items).text) sent := hfilter ▸ hsettled.extend _
    have hafter := hloaded.evaluate hnow
    refine ⟨_,hafter,hfilter ▸ hextended.evaluate hloaded hnow,?_⟩
    dsimp only
    rw [evaluate_items (hfilter ▸ hmask) hcoherent hnow,take_add,← take_append_of_le_length haligned.le]
    exact congrArg _ (hloaded.ready _)
  · intro hstop
    by_cases hbefore : s.blocked=true
    · obtain ⟨rule,hrule,k,hk,p,hp⟩ := h.stopped hbefore
      refine ⟨rule,hrule,k,hk,p,?_⟩
      dsimp only
      rw [map_append]
      exact hit_append hp
    · rw [Bool.not_eq_true] at hbefore
      have hblocked := (Bool.or_eq_true_iff.mp hstop).resolve_left (by rw [hbefore]; exact Bool.false_ne_true)
      obtain ⟨rule,hrule,k,hk,i,hi⟩ := blockMatches_ne_nil_iff.mp (evaluate_blocked_iff.mp hblocked).2
      rw [hfilter] at hrule
      obtain ⟨-,p,-,hp⟩ := h.blocked_beyond he hbefore hclear hrule hk hi
      exact ⟨rule,hrule,k,hk,p,hp⟩

theorem blockInv_start (lower : Char → Char) (f : SensitiveTextFilter) :
    BlockInv lower f [] { buffer := { filter := f } } := by
  refine ⟨rfl,fun chunk hchunk => absurd hchunk not_mem_nil,fun _ => ⟨0,⟨Nat.zero_le _,rfl,rfl⟩,?_,rfl⟩,
    fun hstop => absurd hstop Bool.false_ne_true⟩
  intro _ _ _ _ i hi
  exact absurd hi (Nat.not_lt_zero i)

theorem BlockInv.run (h : BlockInv lower f text s) (hmask : f.maskRules=[])
    (hsound : ∀ batch∈batches, (StreamEvent.push batch).Sound)
    (hclear : Guarded (fun s e => (streamStep lower s e).1) (ClearStep lower) (batches.map .push) s) :
    BlockInv lower f (text++Runs.events (fun s e => (streamStep lower s e).1) (sends lower) (batches.map .push) s)
      (Runs.run (fun s e => (streamStep lower s e).1) (batches.map .push) s) := by
  induction batches generalizing s text with
  | nil =>
    rw [map_nil,Runs.events,append_nil]
    exact h
  | cons batch batches ih =>
    rw [map_cons,Runs.events,← append_assoc]
    exact ih (h.push hmask (hsound batch mem_cons_self) hclear.1)
      (fun other hother => hsound other (mem_cons_of_mem _ hother)) hclear.2

theorem blocked_iff_results {events : List StreamEvent} (hsound : ∀ e∈events, e.Sound) :
    (Runs.run (fun s e => (streamStep lower s e).1) events s).blocked=true ↔
      s.blocked=true ∨ ∃ r∈streamResults lower s events, r.blocked=true := by
  induction events generalizing s with
  | nil => simp [Runs.run,streamResults]
  | cons e events ih =>
    have hstep : (streamStep lower s e).1.blocked=(s.blocked || (streamStep lower s e).2.blocked) := by
      rw [streamStep_eq (hsound e mem_cons_self)]
    rw [Runs.run,ih fun other hother => hsound other (mem_cons_of_mem _ hother),hstep,streamResults,
      Bool.or_eq_true,exists_mem_cons_iff,or_assoc]

theorem run_pushed (hsound : ∀ batch∈batches, (StreamEvent.push batch).Sound) :
    (Runs.run (fun s e => (streamStep lower s e).1) (batches.map .push) s).pushed =
      s.pushed++batches.flatten.flatMap (·.text) := by
  induction batches generalizing s with
  | nil => exact (append_nil _).symm
  | cons batch batches ih =>
    rw [map_cons,Runs.run,ih fun other hother => hsound other (mem_cons_of_mem _ hother),
      streamStep_eq (hsound batch mem_cons_self),flatten_cons,flatMap_append,← append_assoc]
    rfl

theorem events_before {before after : List StreamEvent}
    (h : streamEvents batches=before++e::after) :
    ∃ n, before=(batches.take n).map .push ∧ ∀ items, e=.push items → items∈batches := by
  have hlength : before.length≤batches.length := by
    have hsame := congrArg List.length h
    simp only [streamEvents,length_append,length_map,length_cons,length_nil] at hsame
    omega
  have htake := congrArg (List.take before.length) h
  rw [take_left,streamEvents,take_append_of_le_length (by rw [length_map]; exact hlength), ← map_take] at htake
  refine ⟨before.length,htake.symm,?_⟩
  rintro items rfl
  have hmem : StreamEvent.push items∈streamEvents batches := by
    rw [h]
    exact mem_append_right _ mem_cons_self
  rw [streamEvents,mem_append,mem_singleton] at hmem
  obtain hmem | hmem := hmem
  · obtain ⟨other,hother,heq⟩ := mem_map.mp hmem
    exact StreamEvent.push.inj heq ▸ hother
  · cases hmem

/-- A clear stream is blocked exactly when its whole text is, and for keywords of which nothing was sent. -/
theorem stream_blocked_as_text (lower : Char → Char) (f : SensitiveTextFilter) (hmask : f.maskRules=[])
    (batches : List (List StreamItem)) (hsound : ∀ batch∈batches, ∀ item∈batch, ∀ text, item.data≠.malformed text)
    (hclear : Guarded (fun s e => (streamStep lower s e).1) (ClearStep lower) (streamEvents batches)
      { buffer := { filter := f } }) :
    ((∃ r∈streamResults lower { buffer := { filter := f } } (streamEvents batches), r.blocked=true) ↔
      blockMatches lower f (batches.flatten.flatMap (·.text))≠[]) ∧
    ∀ before e after, streamEvents batches=before++e::after →
      let s := Runs.run (fun s e => (streamStep lower s e).1) before { buffer := { filter := f } }
      let sent := Runs.events (fun s e => (streamStep lower s e).1) (sends lower) before { buffer := { filter := f } }
      s.blocked=false → (streamStep lower s e).2.blocked=true → ∀ m∈(streamStep lower s e).2.found,
        ∃ rule∈f.blockRules, ∃ k∈rule.keywords, m=rule.toMatch k ∧ sent <+: s.pushed++e.text ∧
          ∃ p, sent.length≤p ∧ hit ((s.pushed++e.text).map lower) k.runes e.endKnown p=true := by
  have hpushes : ∀ batch∈batches, (StreamEvent.push batch).Sound := hsound
  have hevents : ∀ e∈streamEvents batches, e.Sound := by
    intro e he
    rw [streamEvents,mem_append,mem_singleton] at he
    obtain he | rfl := he
    · obtain ⟨batch,hbatch,rfl⟩ := mem_map.mp he
      exact hpushes batch hbatch
    · trivial
  constructor
  · obtain ⟨hguard,hflush⟩ := guarded_append.mp hclear
    have hinv := (blockInv_start lower f).run hmask hpushes hguard
    have hpushed : (Runs.run (fun s e => (streamStep lower s e).1) (batches.map .push)
        { buffer := { filter := f } }).pushed=batches.flatten.flatMap (·.text) := run_pushed hpushes
    have hflag := @blocked_iff_results lower { buffer := { filter := f } } (streamEvents batches) hevents
    rw [or_iff_right Bool.false_ne_true] at hflag
    rw [← hflag,streamEvents,Runs.run_append,blockMatches,blockMatches_ne_nil_iff,← hpushed]
    obtain ⟨s,hs⟩ : ∃ s, s=Runs.run (fun s e => (streamStep lower s e).1) (batches.map .push)
      { buffer := { filter := f } } := ⟨_,rfl⟩
    rw [← hs] at hinv hflush ⊢
    have hend : Runs.run (fun s e => (streamStep lower s e).1) [.flush] s=(streamStep lower s .flush).1 := rfl
    have hsound' : StreamEvent.flush.Sound := trivial
    rw [hend,streamStep_eq hsound']
    dsimp only
    constructor
    · intro hblocked
      by_cases hbefore : s.blocked=true
      · obtain ⟨rule,hrule,k,hk,p,hp⟩ := hinv.stopped hbefore
        have hgrown := @hit_append _ [] _ true _ hp
        rw [append_nil] at hgrown
        exact ⟨rule,hrule,k,hk,p,hgrown⟩
      · rw [Bool.not_eq_true] at hbefore
        have hnow := (Bool.or_eq_true_iff.mp hblocked).resolve_left (by rw [hbefore]; exact Bool.false_ne_true)
        obtain ⟨rule,hrule,k,hk,i,hi⟩ := blockMatches_ne_nil_iff.mp (evaluate_blocked_iff.mp hnow).2
        rw [load_filter,hinv.filter] at hrule
        obtain ⟨-,p,-,hp⟩ := hinv.blocked_beyond hsound' hbefore hflush.1 hrule hk hi
        rw [StreamEvent.text,append_nil] at hp
        exact ⟨rule,hrule,k,hk,p,hp⟩
    · rintro ⟨rule,hrule,k,hk,p,hp⟩
      by_cases hbefore : s.blocked=true
      · rw [hbefore]
        rfl
      · rw [Bool.not_eq_true] at hbefore
        obtain ⟨sent,haligned,hsettled,-⟩ := hinv.passing hbefore
        have hge : sent≤p := by
          by_contra hlt
          have hmiss := hsettled rule hrule k hk p (by omega) [] true
          rw [append_nil,hp] at hmiss
          cases hmiss
        have hlength := hit_length hp
        rw [length_map] at hlength
        have hqueue : s.buffer.queue≠[] := by
          intro hnil
          have htext := haligned.queue
          rw [hnil] at htext
          have hzero := congrArg List.length htext
          rw [length_drop] at hzero
          simp only [queueText,flatMap_nil,length_nil] at hzero
          omega
        have hseen : hit (s.buffer.candidate.map lower) k.runes true (p-(sent-min 1 sent))=true := by
          rw [haligned.hit_candidate (by omega),Nat.add_sub_cancel' (by omega)]
          exact hp
        have hnow := evaluate_blocked_iff.mpr ⟨hqueue,blockMatches_ne_nil_iff.mpr ⟨rule,hinv.filter ▸ hrule,k,hk,_,hseen⟩⟩
        exact Bool.or_eq_true_iff.mpr (.inr hnow)
  · intro before e after hsplit s sent hpassing hblocked m hm
    obtain ⟨n,rfl,hbatch⟩ := events_before hsplit
    rw [hsplit] at hclear
    obtain ⟨hguard,hrest⟩ := guarded_append.mp hclear
    have hinv := (blockInv_start lower f).run hmask (fun batch hin => hpushes batch (mem_of_mem_take hin)) hguard
    rw [nil_append] at hinv
    have he : e.Sound := hevents e (hsplit ▸ mem_append_right _ mem_cons_self)
    rw [streamStep_eq he] at hblocked hm
    obtain ⟨hqueue,hblocks⟩ := evaluate_blocked_iff.mp hblocked
    have hfound : ((e.load s.buffer).evaluate lower e.endKnown).2.found =
        blockMatchesWithEnd lower (e.load s.buffer).filter (e.load s.buffer).candidate e.endKnown := by
      unfold StreamDelayBuffer.evaluate
      rw [if_neg fun hempty => hqueue (List.isEmpty_iff.mp hempty)]
      dsimp only
      rw [if_pos (by rw [Bool.not_eq_true',isEmpty_eq_false_iff]; exact hblocks)]
    dsimp only at hm
    rw [hfound] at hm
    simp only [blockMatchesWithEnd,mem_filterMap,Option.map_eq_some_iff] at hm
    obtain ⟨rule,hrule,k,hk,hmatch⟩ := hm
    have hsome : (indexSensitiveKeywordWithEnd ((e.load s.buffer).candidate.map lower) k.runes 0 e.endKnown).isSome=true := by
      simpa only using find?_some hk
    obtain ⟨i,-,hi⟩ := index_isSome_iff.mp hsome
    rw [load_filter,hinv.filter] at hrule
    have hmem := mem_of_find?_eq_some hk
    exact ⟨rule,hrule,k,hmem,hmatch.symm,hinv.blocked_beyond he hpassing hrest.1 hrule hmem hi⟩

end Run

section Cat

def deltaItem (text : String) : StreamItem := { data := .json (.obj [("delta",.str text)]) }

def catFilter : SensitiveTextFilter :=
  newSensitiveTextFilter toLowerChar [{ action := .block, keywords := ["cat"] }]

theorem split_keyword_blocked :
    (∃ r∈streamResults toLowerChar { buffer := { filter := catFilter } }
      (streamEvents [[deltaItem "a ca"],[deltaItem "t."]]), r.blocked=true) ∧
    blockMatches toLowerChar catFilter ([[deltaItem "a ca"],[deltaItem "t."]].flatten.flatMap (·.text))≠[] := by
  have hwhole : blockMatches toLowerChar catFilter
      ([[deltaItem "a ca"],[deltaItem "t."]].flatten.flatMap (·.text))≠[] := by decide +kernel
  refine ⟨(stream_blocked_as_text toLowerChar catFilter (by decide +kernel)
    [[deltaItem "a ca"],[deltaItem "t."]] ?_ ?_).1.mpr hwhole,hwhole⟩
  · intro batch hbatch item hitem text
    simp only [mem_cons,not_mem_nil,or_false] at hbatch
    obtain rfl | rfl := hbatch <;> (obtain rfl := mem_singleton.mp hitem; exact fun h => by cases h)
  · exact ⟨.inr fun h => absurd h (by decide +kernel),.inr fun h => absurd h (by decide +kernel),
      .inl (by decide +kernel),trivial⟩

theorem embedded_keyword_blocked :
    (∃ r∈streamResults toLowerChar { buffer := { filter := catFilter } }
      (streamEvents [[deltaItem "x"],[deltaItem "c"],[deltaItem "a"],[deltaItem "t"],[deltaItem "."]]),
      r.blocked=true) ∧
    blockMatches toLowerChar catFilter
      ([[deltaItem "x"],[deltaItem "c"],[deltaItem "a"],[deltaItem "t"],[deltaItem "."]].flatten.flatMap (·.text)) = [] :=
  ⟨any_eq_true.mp (by decide +kernel),by decide +kernel⟩

end Cat

end NewApi.Filter

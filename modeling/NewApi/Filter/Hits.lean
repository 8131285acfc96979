import NewApi.Filter.Text

/-! Where keywords stand in a text, when the text grows at its end or is cut at its start. -/
namespace NewApi.Filter
open Option List
open Bool (and_eq_true not_eq_true' or_eq_true not_eq_true)

section Hits
variable {text more pattern : List Char} {endKnown : Bool} {i start : Nat} {d : Nat}

theorem hit_iff : hit text pattern endKnown i=true ↔ pattern≠[] ∧ pattern <+: text.drop i ∧
    startBoundaryOK text pattern i=true ∧ endBoundaryOK text pattern endKnown (i+pattern.length)=true := by
  simp only [hit,and_eq_true, isPrefixOf_iff_prefix,not_eq_true',isEmpty_eq_false_iff,and_assoc]

theorem hit_length (h : hit text pattern endKnown i=true) : 0<pattern.length ∧ i+pattern.length≤text.length := by
  obtain ⟨hne,hfront,-⟩ := hit_iff.mp h
  have hpos := length_pos_of_ne_nil hne
  have hle := hfront.length_le
  rw [length_drop] at hle
  exact ⟨hpos,by omega⟩

theorem indexRunes_eq_some {idx : Nat} (h : indexRunes text pattern=some idx) :
    pattern <+: text.drop idx ∧ ∀ j < idx, ¬pattern <+: text.drop j := by
  unfold indexRunes at h
  split at h
  · cases h
  obtain ⟨hfound,hrange,hbefore⟩ := find?_range_eq_some.mp h
  refine ⟨ isPrefixOf_iff_prefix.mp hfound,fun j hj hfront => ?_⟩
  have hnot := hbefore j hj
  rw [ isPrefixOf_iff_prefix.mpr hfront] at hnot
  cases hnot

theorem indexRunes_eq_none (hpattern : pattern≠[]) (h : indexRunes text pattern=none) : ∀ j, ¬pattern <+: text.drop j := by
  intro j hfront
  have hpos := length_pos_of_ne_nil hpattern
  have hle := hfront.length_le
  rw [length_drop] at hle
  unfold indexRunes at h
  split at h
  next hshort =>
    rw [or_eq_true,List.isEmpty_iff,decide_eq_true_eq] at hshort
    obtain hnil | hlt := hshort
    · exact hpattern hnil
    · omega
  · have hnot := find?_eq_none.mp h j (mem_range.mpr (by omega))
    exact hnot ( isPrefixOf_iff_prefix.mpr hfront)

/-- A search result: the first hit from a position on, or none when there is none. -/
def FirstHit (text pattern : List Char) (endKnown : Bool) (start : Nat) : Option Nat → Prop
  | some i => start ≤ i ∧ hit text pattern endKnown i=true ∧ ∀ j, start≤j → j < i → hit text pattern endKnown j=false
  | none => ∀ j, start≤j → hit text pattern endKnown j=false

theorem FirstHit.later {result : Option Nat} {start' : Nat} (h : FirstHit text pattern endKnown start' result)
    (hle : start ≤ start') (hnone : ∀ j, start≤j → j<start' → hit text pattern endKnown j=false) :
    FirstHit text pattern endKnown start result := by
  cases result with
  | none =>
    intro j hj
    rcases Nat.lt_or_ge j start' with hlt | hge
    · exact hnone j hj hlt
    · exact h j hge
  | some i =>
    refine ⟨hle.trans h.1,h.2.1,fun j hj hlt => ?_⟩
    rcases Nat.lt_or_ge j start' with hlt' | hge
    · exact hnone j hj hlt'
    · exact h.2.2 j hge hlt

theorem firstHit_none (h : ∀ j, start≤j → ¬pattern <+: text.drop j) : FirstHit text pattern endKnown start none := by
  intro j hj
  rw [← not_eq_true,hit_iff]
  exact fun hhit => h j hj hhit.2.1

theorem indexKeywordFrom_spec (hpattern : pattern≠[]) {fuel : Nat} (hfuel : text.length<start+fuel) :
    FirstHit text pattern endKnown start (indexKeywordFrom text pattern endKnown fuel start) := by
  have hpos := length_pos_of_ne_nil hpattern
  induction fuel generalizing start with
  | zero =>
    refine firstHit_none fun j hj hfront => ?_
    have hle := hfront.length_le
    rw [length_drop] at hle
    omega
  | succ fuel ih =>
    unfold indexKeywordFrom
    by_cases hshort : text.length<start+pattern.length
    · rw [if_pos hshort]
      refine firstHit_none fun j hj hfront => ?_
      have hle := hfront.length_le
      rw [length_drop] at hle
      omega
    · rw [if_neg hshort]
      cases hindex : indexRunes (text.drop start) pattern with
      | none =>
        refine firstHit_none fun j hj hfront => indexRunes_eq_none hpattern hindex (j-start) ?_
        rwa [drop_drop,Nat.add_sub_cancel' hj]
      | some idx =>
        obtain ⟨hfront,hbefore⟩ := indexRunes_eq_some hindex
        rw [drop_drop] at hfront
        have hearlier : ∀ j, start≤j → j<start+idx → hit text pattern endKnown j=false := by
          intro j hj hlt
          rw [← not_eq_true,hit_iff]
          rintro ⟨-,hpre,-⟩
          refine hbefore (j-start) (by omega) ?_
          rwa [drop_drop,Nat.add_sub_cancel' hj]
        dsimp only
        by_cases hbound : (startBoundaryOK text pattern (start+idx) &&
            endBoundaryOK text pattern endKnown (start+idx+pattern.length))=true
        · rw [if_pos hbound]
          rw [and_eq_true] at hbound
          exact ⟨by omega,hit_iff.mpr ⟨hpattern,hfront,hbound⟩,hearlier⟩
        · rw [if_neg hbound]
          refine (ih (by omega)).later (by omega) fun j hj hlt => ?_
          rcases Nat.lt_or_eq_of_le (Nat.le_of_lt_succ hlt) with hlt | rfl
          · exact hearlier j hj hlt
          rw [← not_eq_true,hit_iff]
          rintro ⟨-,-,hb⟩
          exact hbound (Bool.and_eq_true_iff.mpr hb)

theorem index_spec : FirstHit text pattern endKnown start (indexSensitiveKeywordWithEnd text pattern start endKnown) := by
  unfold indexSensitiveKeywordWithEnd
  by_cases hshort : (pattern.isEmpty || decide (text.length<start+pattern.length))=true
  · rw [if_pos hshort]
    intro j hj
    rw [← not_eq_true]
    intro h
    have hle := hit_length h
    rw [or_eq_true,List.isEmpty_iff,decide_eq_true_eq] at hshort
    obtain rfl | hlt := hshort
    · exact absurd hle.1 (Nat.lt_irrefl 0)
    · omega
  · rw [if_neg hshort]
    rw [or_eq_true,List.isEmpty_iff,not_or] at hshort
    exact indexKeywordFrom_spec hshort.1 (by omega)

theorem index_isSome_iff : (indexSensitiveKeywordWithEnd text pattern start endKnown).isSome=true ↔
      ∃ i, start ≤ i ∧ hit text pattern endKnown i=true := by
  have hspec := @index_spec text pattern endKnown start
  cases hindex : indexSensitiveKeywordWithEnd text pattern start endKnown with
  | none =>
    rw [hindex] at hspec
    refine iff_of_false Bool.false_ne_true ?_
    rintro ⟨i,hi,hhit⟩
    rw [hspec i hi] at hhit
    cases hhit
  | some i =>
    rw [hindex] at hspec
    exact iff_of_true rfl ⟨i,hspec.1,hspec.2.1⟩

theorem keywordRanges_eq (rule : CompiledSensitiveRule) (k : SensitiveKeyword) {fuel : Nat}
    (hfuel : text.length<start+fuel) (hstart : start≤text.length) : keywordRanges text endKnown rule k fuel start =
      (Spans.greedy (hit text k.runes endKnown) k.runes.length (text.length-start) start start).map fun i =>
        ⟨i,i+k.runes.length,rule,k⟩ := by
  induction fuel generalizing start with
  | zero => omega
  | succ fuel ih =>
    have hspec := @index_spec text k.runes endKnown start
    unfold keywordRanges
    cases hindex : indexSensitiveKeywordWithEnd text k.runes start endKnown with
    | none =>
      rw [hindex] at hspec
      have hempty := @Spans.greedy_skip (hit text k.runes endKnown) k.runes.length 0 (text.length-start) start start
        fun j hj _ _ => hspec j hj
      rw [Nat.add_zero] at hempty
      rw [hempty]
      rfl
    | some i =>
      rw [hindex] at hspec
      obtain ⟨hle,hhit,hbefore⟩ := hspec
      obtain ⟨hpos,hend⟩ := hit_length hhit
      have hcount : text.length-start=(i-start)+((text.length-(i+k.runes.length))+(k.runes.length-1)+1) := by
        omega
      have hinside : k.runes.length-1+(text.length-(i+k.runes.length)) =
          text.length-(i+k.runes.length)+(k.runes.length-1) := by omega
      dsimp only
      rw [hcount,Spans.greedy_skip fun j hj hlt _ => hbefore j hj (by omega),Nat.add_sub_cancel' hle,Spans.greedy,
        if_pos ⟨hle,hhit⟩,map_cons,← hinside,
        Spans.greedy_skip fun j hj hlt hfree => absurd hfree (by omega),ih (by omega) hend]
      have hnext : i+1+(k.runes.length-1)=i+k.runes.length := by omega
      rw [hnext]

theorem startBoundaryOK_append (h : i≤text.length) : startBoundaryOK (text++more) pattern i=startBoundaryOK text pattern i := by
  unfold startBoundaryOK
  rcases Nat.eq_zero_or_pos i with rfl | hi
  · simp
  · rw [getElem?_append_left (by omega)]

theorem hit_append (h : hit text pattern false i=true) : hit (text++more) pattern endKnown i=true := by
  obtain ⟨hne,hfront,hstart,hstop⟩ := hit_iff.mp h
  obtain ⟨hpos,hend⟩ := hit_length h
  rw [hit_iff]
  refine ⟨hne,?_,?_,?_⟩
  · rw [drop_append_of_le_length (by omega)]
    exact hfront.trans (prefix_append _ _)
  · rw [startBoundaryOK_append (by omega)]
    exact hstart
  · unfold endBoundaryOK at hstop ⊢
    rw [Bool.and_false,Bool.or_false,or_eq_true,and_eq_true,decide_eq_true_eq] at hstop
    rw [or_eq_true,or_eq_true,and_eq_true,decide_eq_true_eq]
    obtain hword | ⟨hlt,hnext⟩ := hstop
    · exact .inl (.inl hword)
    refine .inl (.inr ⟨by rw [length_append]; omega,?_⟩)
    rwa [getElem?_append_left hlt]

/-- The text ends in the opening of a keyword that is not settled yet. -/
def Pending (text pattern : List Char) (i : Nat) : Prop :=
  i < text.length ∧ text.drop i <+: pattern ∧ startBoundaryOK text pattern i=true ∧
    ¬(text.length-i=pattern.length ∧ pattern.getLast?.any isASCIISensitiveWordRune=false)

theorem hit_settled (h : hit (text++more) pattern endKnown i=true) (hi : i<text.length) :
    hit text pattern false i=true ∨ Pending text pattern i := by
  obtain ⟨hne,hfront,hstart,hstop⟩ := hit_iff.mp h
  have hpos := length_pos_of_ne_nil hne
  rw [startBoundaryOK_append (by omega)] at hstart
  rw [drop_append_of_le_length (by omega)] at hfront
  have hdrop : (text.drop i).length=text.length-i := length_drop
  rcases Nat.lt_or_ge (i+pattern.length) text.length with hlt | hge
  · left
    rw [hit_iff]
    refine ⟨hne,prefix_of_prefix_length_le hfront (prefix_append _ _) (by omega),hstart,?_⟩
    unfold endBoundaryOK at hstop ⊢
    rw [or_eq_true,or_eq_true,and_eq_true,and_eq_true,decide_eq_true_eq,decide_eq_true_eq,
      getElem?_append_left hlt,length_append] at hstop
    rw [or_eq_true,or_eq_true,and_eq_true,decide_eq_true_eq]
    obtain (hword | hnext) | hend := hstop
    · exact .inl (.inl hword)
    · exact .inl (.inr ⟨hlt,hnext.2⟩)
    · omega
  · have hopens : text.drop i <+: pattern :=
      prefix_of_prefix_length_le (prefix_append _ _) hfront (by omega)
    by_cases hfull : text.length-i=pattern.length ∧ pattern.getLast?.any isASCIISensitiveWordRune=false
    · left
      have hwhole : text.drop i=pattern := hopens.eq_of_length (by omega)
      rw [hit_iff]
      refine ⟨hne,by rw [hwhole],hstart,?_⟩
      unfold endBoundaryOK
      rw [hfull.2]
      rfl
    · exact .inr ⟨hi,hopens,hstart,hfull⟩

/-- The end of a text is held back at a word boundary, unless it is the whole keyword and settled. -/
def holdsBack (text pattern : List Char) (m : Nat) : Bool :=
  startBoundaryOK text pattern (text.length-m) &&
    !(decide (m=pattern.length) && !pattern.getLast?.any isASCIISensitiveWordRune)

theorem holdsBack_iff {m : Nat} : holdsBack text pattern m=true ↔ startBoundaryOK text pattern (text.length-m)=true ∧
    ¬(m=pattern.length ∧ pattern.getLast?.any isASCIISensitiveWordRune=false) := by
  rw [holdsBack,and_eq_true,not_eq_true',← not_eq_true,and_eq_true,decide_eq_true_eq,
    not_eq_true']

theorem pendingSuffix_spec (text : List Char) (k : SensitiveKeyword) :
    Borders.Overlaps k.runes text (pendingSensitiveKeywordSuffix text k) ∧
    (pendingSensitiveKeywordSuffix text k=0 ∨ holdsBack text k.runes (pendingSensitiveKeywordSuffix text k)=true) ∧
    ∀ m, Borders.Overlaps k.runes text m → holdsBack text k.runes m=true → m≤pendingSensitiveKeywordSuffix text k := by
  unfold pendingSensitiveKeywordSuffix
  split
  next hempty =>
    rw [or_eq_true,List.isEmpty_iff,List.isEmpty_iff] at hempty
    refine ⟨Borders.overlaps_zero _ _,.inl rfl,fun m hm _ => ?_⟩
    obtain hnil | hnil := hempty
    · exact hm.le_length.trans_eq (congrArg length hnil)
    · exact hm.1.trans_eq (congrArg length hnil)
  have hlongest := Borders.scan_longest (Borders.prefixTable_table k.runes) (text.drop (text.length-k.runes.length))
    ⟨Borders.overlaps_zero k.runes [],fun q hq => hq.le_length⟩
  rw [nil_append] at hlongest
  obtain ⟨-,hover,hend,hskip⟩ := @Borders.descend_spec _ _ _ _ _ _ _ (holdsBack text k.runes)
    (Borders.prefixTable_table k.runes) hlongest.1.1 hlongest.1 le_rfl
  refine ⟨Borders.overlaps_window.mp hover,hend,fun m hm hback => ?_⟩
  by_contra hgt
  have hwindow := Borders.overlaps_window.mpr hm
  rw [hskip m (Nat.lt_of_not_le hgt) (hlongest.2 _ hwindow) hwindow] at hback
  cases hback

theorem Pending.le_suffix {k : SensitiveKeyword} (h : Pending text k.runes i) :
    text.length-i≤pendingSensitiveKeywordSuffix text k := by
  obtain ⟨hlt,hopens,hstart,hfull⟩ := h
  have hle := hopens.length_le
  have htake := prefix_iff_eq_take.mp hopens
  rw [length_drop] at hle htake
  refine (pendingSuffix_spec text k).2.2 _ ⟨hle,htake ▸ drop_suffix _ _⟩ (holdsBack_iff.mpr ⟨?_,hfull⟩)
  rwa [show text.length-(text.length-i)=i by omega]

/-- The last `m` runes open the keyword at a word boundary, and are not the whole keyword with a settled end. -/
structure Viable (text keyword : List Char) (m : Nat) : Prop where
  fits : m≤text.length ∧ m≤keyword.length
  opens : text.drop (text.length-m)=keyword.take m
  starts : startBoundaryOK text keyword (text.length-m)=true
  unsettled : ¬(m=keyword.length ∧ keyword.getLast?.any isASCIISensitiveWordRune=false)

/-- What is held back for a keyword is the longest end of the text that opens it. -/
theorem pendingSuffix_longest (text : List Char) (k : SensitiveKeyword) :
    (pendingSensitiveKeywordSuffix text k=0 ∨ Viable text k.runes (pendingSensitiveKeywordSuffix text k)) ∧
      ∀ m, Viable text k.runes m → m≤pendingSensitiveKeywordSuffix text k := by
  obtain ⟨hover,hend,hmax⟩ := pendingSuffix_spec text k
  refine ⟨hend.imp_right fun hback => ?_,fun m hm =>
    hmax m ⟨hm.fits.2,hm.opens ▸ drop_suffix _ _⟩ (holdsBack_iff.mpr ⟨hm.starts,hm.unsettled⟩)⟩
  obtain ⟨hstart,hopen⟩ := holdsBack_iff.mp hback
  refine ⟨⟨hover.le_length,hover.1⟩,?_,hstart,hopen⟩
  rw [suffix_iff_eq_drop.mp hover.2,length_take,min_eq_left hover.1]

theorem hit_drop (hi : 0 < i) : hit (text.drop d) pattern endKnown i=hit text pattern endKnown (d+i) := by
  rcases Nat.lt_or_ge text.length d with hd | hd
  · have hempty : text.drop d=[] := drop_eq_nil_of_le (by omega)
    have hleft : hit (text.drop d) pattern endKnown i=false := by
      rw [← not_eq_true]
      intro h
      have hle := hit_length h
      rw [hempty,length_nil] at hle
      omega
    have hright : hit text pattern endKnown (d+i)=false := by
      rw [← not_eq_true]
      intro h
      have hle := hit_length h
      omega
    rw [hleft,hright]
  · unfold hit startBoundaryOK endBoundaryOK
    have hstop : (i+pattern.length<(text.drop d).length)=(d+i+pattern.length<text.length) := by
      rw [length_drop]
      exact propext (by omega)
    have hend : (i+pattern.length=(text.drop d).length)=(d+i+pattern.length=text.length) := by
      rw [length_drop]
      exact propext (by omega)
    have hback : d+(i-1)=d+i-1 := by omega
    have hzero : decide (i=0)=decide (d+i=0) := by
      rw [decide_eq_false (by omega),decide_eq_false (by omega)]
    simp only [drop_drop,getElem?_drop,hstop,hend,hback,hzero,Nat.add_assoc]

theorem Pending.drop (h : Pending text pattern (d+i)) (hi : 0 < i) : Pending (text.drop d) pattern i := by
  obtain ⟨hlt,hopens,hstart,hfull⟩ := h
  have hback : d+(i-1)=d+i-1 := by omega
  refine ⟨by rw [length_drop]; omega,by rwa [drop_drop],?_,?_⟩
  · unfold startBoundaryOK at hstart ⊢
    rw [getElem?_drop,hback,decide_eq_false (by omega : ¬i=0)]
    rwa [decide_eq_false (by omega : ¬d+i=0)] at hstart
  · rwa [length_drop,show text.length-d-i=text.length-(d+i) by omega]

end Hits

section Suffix
variable {lower : Char → Char} {f : SensitiveTextFilter} {text : List Char}

def SensitiveTextFilter.HasKeyword (f : SensitiveTextFilter) (k : SensitiveKeyword) : Prop :=
  ∃ rule∈f.blockRules++f.maskRules, k∈rule.keywords

theorem le_foldl_max {α : Type} (g : α → Nat) (l : List α) (m : Nat) :
    m≤l.foldl (fun m a => max m (g a)) m ∧ ∀ a∈l, g a≤l.foldl (fun m a => max m (g a)) m := by
  induction l generalizing m with
  | nil => exact ⟨le_refl _,fun a ha => absurd ha not_mem_nil⟩
  | cons b l ih =>
    obtain ⟨hle,hall⟩ := ih (max m (g b))
    rw [foldl_cons]
    refine ⟨le_trans (le_max_left _ _) hle,fun a ha => ?_⟩
    obtain rfl | ha := mem_cons.mp ha
    · exact le_trans (le_max_right _ _) hle
    · exact hall a ha

theorem Pending.le_pendingSuffixRunes {k : SensitiveKeyword} {i : Nat} (hk : f.HasKeyword k)
    (h : Pending (text.map lower) k.runes i) : text.length-i≤pendingSuffixRunes lower f text := by
  obtain ⟨rule,hrule,hmem⟩ := hk
  have hle := h.le_suffix
  rw [length_map] at hle
  exact hle.trans ((le_foldl_max (pendingSensitiveKeywordSuffix (text.map lower)) _ 0).2 k (mem_flatMap.mpr ⟨rule,hrule,hmem⟩))

theorem blockMatches_ne_nil_iff {endKnown : Bool} : blockMatchesWithEnd lower f text endKnown≠[] ↔
      ∃ rule∈f.blockRules, ∃ k∈rule.keywords, ∃ i, hit (text.map lower) k.runes endKnown i=true := by
  constructor
  · intro hne
    obtain ⟨m,hm⟩ := exists_mem_of_ne_nil _ hne
    simp only [blockMatchesWithEnd,mem_filterMap,map_eq_some_iff] at hm
    obtain ⟨rule,hrule,k,hk,-⟩ := hm
    have hsome : (indexSensitiveKeywordWithEnd (text.map lower) k.runes 0 endKnown).isSome=true := by
      simpa only using find?_some hk
    obtain ⟨i,-,hi⟩ := index_isSome_iff.mp hsome
    exact ⟨rule,hrule,k,mem_of_find?_eq_some hk,i,hi⟩
  · rintro ⟨rule,hrule,k,hk,i,hi⟩
    obtain ⟨k',hk'⟩ : ∃ k', rule.keywords.find? (fun k =>
        (indexSensitiveKeywordWithEnd (text.map lower) k.runes 0 endKnown).isSome)=some k' := by
      rw [← isSome_iff_exists,find?_isSome]
      exact ⟨k,hk,index_isSome_iff.mpr ⟨i,Nat.zero_le i,hi⟩⟩
    apply ne_nil_of_mem (a := rule.toMatch k')
    simp only [blockMatchesWithEnd,mem_filterMap,map_eq_some_iff]
    exact ⟨rule,hrule,k',hk',rfl⟩

end Suffix

end NewApi.Filter

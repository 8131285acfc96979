import NewApi.Filter.Masking

/-! Which occurrences of the mask keywords the chosen ranges reach. The ranges are those of a walk over the text that steps
over the longest occurrence the scans took at each place; what a scan passed over may be left between two of them. -/
namespace NewApi.Filter
open List GoStrings

section Walk
variable (lower : Char → Char) (f : SensitiveTextFilter) (text : List Char) (endKnown : Bool)

/-- The scan of a mask keyword takes an occurrence of `width` runes at the place. -/
def Takes (i width : Nat) : Prop :=
  ∃ rule∈f.maskRules, ∃ k∈rule.keywords, width=k.runes.length ∧
    i∈Spans.greedy (hit (text.map lower) k.runes endKnown) k.runes.length text.length 0 0

/-- The places of the walk: over the longest occurrence taken where it stands, or else over one rune. -/
inductive Stops : Nat → Prop where
  | start : Stops 0
  | rune {i : Nat} : Stops i → (∀ width, ¬Takes lower f text endKnown i width) → Stops (i+1)
  | over {i width : Nat} : Stops i → Takes lower f text endKnown i width →
      (∀ w, Takes lower f text endKnown i w → w≤width) → Stops (i+width)

/-- The ranges are in order and apart, and every occurrence of a mask keyword meets one. -/
def OccurrencesMet : Prop :=
  (selectedMaskRanges lower f text endKnown).Pairwise (fun r s => r.start<s.start ∧ r.stop ≤ s.start) ∧
  ∀ rule∈f.maskRules, ∀ k∈rule.keywords, ∀ i, hit (text.map lower) k.runes endKnown i=true →
    ∃ r∈selectedMaskRanges lower f text endKnown, r.start < i+k.runes.length ∧ i<r.stop

/-- Where the walk stops at an occurrence, one begins within it that a scan took. -/
def TakenWithin : Prop :=
  ∀ rule∈f.maskRules, ∀ k∈rule.keywords, ∀ i, hit (text.map lower) k.runes endKnown i=true →
    Stops lower f text endKnown i → ∃ j width, i≤j ∧ j < i+k.runes.length ∧ Takes lower f text endKnown j width

variable {lower f text endKnown} {i width : Nat} {r s : TextRangeMatch}

theorem takes_iff : Takes lower f text endKnown i width ↔
    ∃ r∈maskRangesWithEnd lower f text endKnown, r.start=i ∧ r.stop=i+width := by
  rw [maskRangesWithEnd_eq]
  constructor
  · rintro ⟨rule,hrule,k,hk,rfl,hi⟩
    exact ⟨_,mem_flatMap.mpr ⟨rule,hrule,mem_flatMap.mpr ⟨k,hk,mem_map_of_mem hi⟩⟩,rfl,rfl⟩
  · rintro ⟨r,hr,rfl,hstop⟩
    obtain ⟨rule,hrule,hr⟩ := mem_flatMap.mp hr
    obtain ⟨k,hk,hr⟩ := mem_flatMap.mp hr
    obtain ⟨i,hi,rfl⟩ := mem_map.mp hr
    exact ⟨rule,hrule,k,hk,by simpa using hstop.symm,hi⟩

theorem selected_takes (hr : r∈selectedMaskRanges lower f text endKnown) :
    r.start<r.stop ∧ Takes lower f text endKnown r.start (r.stop-r.start) := by
  have hmem := mem_selected hr
  have hlt := (maskRange_bounds hmem).1
  exact ⟨hlt,takes_iff.mpr ⟨r,hmem,rfl,by omega⟩⟩

theorem takes_met (h : Takes lower f text endKnown i width) : ∃ r∈selectedMaskRanges lower f text endKnown,
    r.start ≤ i ∧ i<r.stop ∧ (r.start=i → i+width≤r.stop) := by
  obtain ⟨c,hc,rfl,hstop⟩ := takes_iff.mp h
  have hsorted := pairwise_insertionSort TextRangeMatch.Before (maskRangesWithEnd lower f text endKnown)
  rw [← hstop]
  refine Spans.apart_meets (hsorted.imp fun h => ?_) (fun r hr => ?_) ((mem_insertionSort _).mpr hc) (Nat.zero_le _)
  · unfold TextRangeMatch.Before at h
    omega
  · exact (maskRange_bounds ((mem_insertionSort _).mp hr)).1

/-- The walk stops where no chosen range goes on. -/
theorem stops_iff : ∀ i, Stops lower f text endKnown i ↔
    ∀ r∈selectedMaskRanges lower f text endKnown, r.start < i → r.stop ≤ i := by
  refine fun i => ⟨fun h => ?_,?_⟩
  · induction h with
    | start => exact fun r _ hlt => absurd hlt (Nat.not_lt_zero _)
    | @rune i _ hnone ih =>
      intro r hr hlt
      obtain hlt | rfl := Nat.lt_or_eq_of_le (Nat.le_of_lt_succ hlt)
      · exact (ih r hr hlt).trans (Nat.le_succ i)
      · exact absurd (selected_takes hr).2 (hnone _)
    | @«over» i width _ htakes hlongest ih =>
      intro r hr hlt
      obtain ⟨s,hs,hle,hin,hwide⟩ := takes_met htakes
      have hstart : s.start=i := by
        by_contra hne
        have := ih s hs (by omega)
        omega
      have hshort := hlongest _ (hstart ▸ (selected_takes hs).2)
      have hwide' := hwide hstart
      obtain h | h | rfl := selected_separated.apart hr hs
      · omega
      · omega
      · omega
  · induction i using Nat.strongRecOn with
    | ind i ih =>
      intro hfree
      cases i with
      | zero => exact .start
      | succ i =>
        by_cases hend : ∃ r∈selectedMaskRanges lower f text endKnown, r.stop=i+1
        · obtain ⟨r,hr,hstop⟩ := hend
          obtain ⟨hlt,htakes⟩ := selected_takes hr
          have hsum : i+1=r.start+(r.stop-r.start) := by omega
          rw [hsum]
          refine .over (ih r.start (by omega) fun s hs hbefore => ?_) htakes fun w hw => ?_
          · obtain h | h | rfl := selected_separated.apart hs hr
            · exact h
            · have := (selected_takes hr).1
              omega
            · exact absurd hbefore (Nat.lt_irrefl _)
          · obtain ⟨s,hs,hle,hin,hwide⟩ := takes_met hw
            obtain h | h | rfl := selected_separated.apart hs hr
            · omega
            · omega
            have := hwide rfl
            omega
        · have hnext : ∀ r∈selectedMaskRanges lower f text endKnown, r.start < i+1 → r.stop ≤ i := by
            intro r hr hlt
            have hle := hfree r hr hlt
            have hne : r.stop≠i+1 := fun h => hend ⟨r,hr,h⟩
            omega
          refine .rune (ih i (Nat.lt_succ_self i) fun r hr hlt => hnext r hr (by omega)) fun w hw => ?_
          obtain ⟨r,hr,hle,hin,-⟩ := takes_met hw
          have := hnext r hr (by omega)
          omega

/-- Every occurrence of a mask keyword meets a chosen range exactly when a taken occurrence begins within each one that
the walk comes to. -/
theorem occurrences_covered_iff (lower : Char → Char) (f : SensitiveTextFilter) (text : List Char) (endKnown : Bool) :
    OccurrencesMet lower f text endKnown ↔ TakenWithin lower f text endKnown := by
  constructor
  · rintro ⟨-,hcover⟩ rule hrule k hk i hhit hstops
    obtain ⟨r,hr,hlt,hin⟩ := hcover rule hrule k hk i hhit
    have hle : i≤r.start := by
      by_contra hbefore
      have := (stops_iff i).mp hstops r hr (by omega)
      omega
    exact ⟨r.start,_,hle,hlt,(selected_takes hr).2⟩
  · refine fun hwithin => ⟨selected_separated.pairwise,fun rule hrule k hk i hhit => ?_⟩
    by_cases hstops : Stops lower f text endKnown i
    · obtain ⟨j,width,hle,hlt,htakes⟩ := hwithin rule hrule k hk i hhit hstops
      obtain ⟨r,hr,hstart,hin,-⟩ := takes_met htakes
      exact ⟨r,hr,by omega,by omega⟩
    · simp only [stops_iff,not_forall,not_le] at hstops
      obtain ⟨r,hr,hstart,hin⟩ := hstops
      have hpos := (hit_length hhit).1
      exact ⟨r,hr,by omega,hin⟩

end Walk

def overlappingFilter : SensitiveTextFilter :=
  newSensitiveTextFilter toLowerChar
    [{ action := .mask, replacement := "*", keywords := ["国中"] },{ action := .mask, replacement := "*", keywords := ["中文中"] }]

theorem second_occurrence_left : (maskText toLowerChar overlappingFilter "国中文中文中".toList).1="*文中文中".toList ∧
    ¬OccurrencesMet toLowerChar overlappingFilter "国中文中文中".toList true := by
  refine ⟨by decide +kernel,fun ⟨_,hcover⟩ => ?_⟩
  have hall : ∀ rule∈overlappingFilter.maskRules, ∀ k∈rule.keywords, ∀ i<6,
      hit ("国中文中文中".toList.map toLowerChar) k.runes true i=true →
      ∃ r∈selectedMaskRanges toLowerChar overlappingFilter "国中文中文中".toList true,
        r.start < i+k.runes.length ∧ i<r.stop := fun rule hrule k hk i _ => hcover rule hrule k hk i
  exact absurd hall (by decide +kernel)

end NewApi.Filter

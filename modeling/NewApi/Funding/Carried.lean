import Mathlib.Algebra.Order.BigOperators.Group.List
import NewApi.Funding.Atomicity

/-! Rules for the calls of a composite by a relation between what its sources hold and the world. A source
has to carry the relation only where its call goes through: a loop without an error makes no other calls. -/
namespace NewApi.Funding
open Function List CompositeFunding

variable {W : Type} {inv : (Nat → Int) → W → Prop} {sources : List (FundingSource W)}

/-- The relation holds again after the pre-consumption of a source, and after one that is passed over. -/
structure CarriesPreConsume (inv : (Nat → Int) → W → Prop) (sources : List (FundingSource W)) : Prop where
  preConsume : ∀ {i : Nat} {src : FundingSource W} {amount : Int} {c : Nat → Int} {w w' : W},
    sources[i]? = some src → 0<amount → c i=0 → inv c w → src.preConsume amount w=(w',none) →
    inv (put c i (measured src amount w')) w'
  skip : ∀ {i : Nat} {src : FundingSource W} {amount : Int} {c : Nat → Int} {w w' : W} {err : FundingError},
    sources[i]? = some src → 0<amount → inv c w → src.preConsume amount w=(w',some err) → inv c w'

def CarriesReserve (inv : (Nat → Int) → W → Prop) (sources : List (FundingSource W)) : Prop :=
  ∀ {i : Nat} {src : FundingSource W} {call : Int → Call W} {amount : Int} {c : Nat → Int} {w w' : W},
    sources[i]? = some src → src.reserveAdditional=some call → 0<amount → inv c w →
    call amount w=(w',none) → inv (bump c i amount) w'

theorem CarriesPreConsume.and {inv' : (Nat → Int) → W → Prop} (h : CarriesPreConsume inv sources)
    (h' : CarriesPreConsume inv' sources) : CarriesPreConsume (fun c w => inv c w ∧ inv' c w) sources where
  preConsume hsrc hpos hzero hinv hcall :=
    ⟨h.preConsume hsrc hpos hzero hinv.1 hcall,h'.preConsume hsrc hpos hzero hinv.2 hcall⟩
  skip hsrc hpos hinv hcall := ⟨h.skip hsrc hpos hinv.1 hcall,h'.skip hsrc hpos hinv.2 hcall⟩

theorem CarriesPreConsume.loop_ok (hc : CarriesPreConsume inv sources) (rest : List (FundingSource W)) :
    ∀ (index : Nat) (remaining : Int) (f : CompositeFunding W), rest=sources.drop index →
      (∀ j, index≤j → f.consumed j=0) → inv f.consumed f.world → ∀ r, preConsumeLoop sources rest index remaining f=r →
      r.2.2=[] → inv r.1.consumed r.1.world ∧ r.1.additional=f.additional := by
  induction rest with
  | nil =>
    rintro index remaining f _ _ h _ rfl _
    exact ⟨h,rfl⟩
  | cons src rest ih =>
    rintro index remaining f hrest habove h _ rfl herrs
    obtain ⟨hsrc,hrest⟩ := head_of_drop hrest
    have habove' : ∀ j, index+1≤j → f.consumed j=0 := fun j hj => habove j (by omega)
    by_cases h0 : remaining≤0
    · rw [preConsumeLoop,if_pos h0]
      exact ⟨h,rfl⟩
    by_cases hatt : attempt src remaining f.world≤0
    · simp only [preConsumeLoop,if_neg h0,if_pos hatt] at herrs ⊢
      exact ih (index+1) remaining f hrest habove' h _ rfl herrs
    simp only [preConsumeLoop,if_neg h0,if_neg hatt] at herrs ⊢
    rcases hcall : src.preConsume (attempt src remaining f.world) f.world with ⟨w,_ | err⟩
    · rw [hcall] at herrs
      simp only at herrs ⊢
      split at herrs
      · cases herrs
      rename_i hvalid
      rw [if_neg hvalid]
      refine ih (index+1) _ { f with world := w, consumed := _ } hrest (fun j hj => ?_) ?_ _ rfl herrs
      · simp only [put]
        rw [update_of_ne (by omega)]
        exact habove j (by omega)
      · exact hc.preConsume hsrc (by omega) (habove index (Nat.le_refl _)) h hcall
    · rw [hcall] at herrs
      simp only at herrs ⊢
      split at herrs
      next hskip =>
        rw [if_pos hskip]
        exact ih (index+1) remaining { f with world := w } hrest habove' (hc.skip hsrc (by omega) h hcall) _ rfl herrs
      · cases herrs

variable {amount : Int}

theorem CarriesPreConsume.ok (hc : CarriesPreConsume inv sources) {w : W} (h : inv (fun _ => 0) w) : ∀ r,
    CompositeFunding.preConsume sources amount (newCompositeFunding w)=r → r.2=[] →
    inv r.1.consumed r.1.world ∧ r.1.additional = fun _ => 0 := by
  rintro _ rfl herrs
  unfold CompositeFunding.preConsume at herrs ⊢
  split at herrs
  next h0 =>
    rw [if_pos h0]
    exact ⟨h,rfl⟩
  next h0 =>
    rw [if_neg h0]
    simp only at herrs ⊢
    split at herrs
    next hne =>
      exact absurd herrs hne
    next hnil =>
      rw [if_neg hnil]
      split at herrs
      · cases herrs
      rename_i hleft
      rw [if_neg hleft]
      exact hc.loop_ok sources 0 amount _ (by simp) (fun _ _ => rfl) h _ rfl (not_not.mp hnil)

structure Extended (sources : List (FundingSource W)) (f₀ f : CompositeFunding W) (applied : List Adjustment) :
    Prop where
  consumed : ∀ j, f.consumed j=f₀.consumed j+totalAt applied j
  additional : ∀ j, f.additional j=f₀.additional j+totalAt applied j
  nodup : (applied.map (·.index)).Nodup
  known : ∀ a∈applied, 0<a.delta ∧ ∃ src, sources[a.index]? = some src

theorem Extended.cons {f0 f : CompositeFunding W} {applied : List Adjustment} (h : Extended sources f0 f applied)
    {index : Nat} {src : FundingSource W} (hsrc : sources[index]? = some src) (hlt : ∀ a∈applied, a.index < index)
    {d : Int} (hd : 0<d) (w : W) :
    Extended sources f0 { f with world := w, consumed := bump f.consumed index d,
                                 additional := bump f.additional index d } (⟨index,d⟩::applied) := by
  refine ⟨fun j => ?_,fun j => ?_,?_,fun a ha => ?_⟩
  · simp only [bump_apply,h.consumed j,totalAt]
    omega
  · simp only [bump_apply,h.additional j,totalAt]
    omega
  · simp only [map_cons,nodup_cons,mem_map,not_exists,not_and]
    exact ⟨fun a ha => (hlt a ha).ne,h.nodup⟩
  · obtain rfl | ha := mem_cons.mp ha
    · exact ⟨hd,src,hsrc⟩
    · exact h.known a ha

variable {f f' : CompositeFunding W}

theorem Extended.nonneg {f0 : CompositeFunding W} {applied : List Adjustment} (h : Extended sources f0 f applied)
    (j : Nat) : 0≤totalAt applied j := by
  have hpos : ∀ a∈applied, 0<a.delta := fun a ha => (h.known a ha).1
  clear h
  induction applied with
  | nil => exact Int.le_refl 0
  | cons a applied ih =>
    have ha := hpos a (by simp)
    have hrest := ih fun b hb => hpos b (by simp [hb])
    rw [totalAt]
    split <;> omega

variable {n : Nat}

theorem sum_totalAt (applied : List Adjustment) (h : ∀ a∈applied, a.index<n) :
    ∑ j∈Finset.range n, totalAt applied j=(applied.map (·.delta)).sum := by
  induction applied with
  | nil => simp [totalAt]
  | cons a applied ih =>
    simp only [totalAt,Finset.sum_add_distrib,map_cons,sum_cons]
    rw [ih fun b hb => h b (by simp [hb]),Finset.sum_ite_eq,if_pos (Finset.mem_range.mpr (h a (by simp)))]

theorem CarriesReserve.loop_ok (hc : CarriesReserve inv sources) (f0 : CompositeFunding W) {planned : Nat → Int}
    (hpos : ∀ j, 0≤planned j) (rest : List (FundingSource W)) :
    ∀ (index : Nat) (applied : List Adjustment) (f : CompositeFunding W), rest=sources.drop index →
      inv f.consumed f.world → Extended sources f0 f applied → (∀ a∈applied, a.index < index) →
      Planned planned index applied → ∀ r, reserveLoop sources planned rest index applied f=r → r.2.2=[] →
      inv r.1.consumed r.1.world ∧ Extended sources f0 r.1 r.2.1 ∧ Planned planned (index+rest.length) r.2.1 := by
  induction rest with
  | nil =>
    rintro index applied f _ h hext _ htotal _ rfl _
    exact ⟨h,hext,htotal⟩
  | cons src rest ih =>
    rintro index applied f hrest h hext hlt htotal _ rfl herrs
    obtain ⟨hsrc,hrest⟩ := head_of_drop hrest
    have hlt' : ∀ a∈applied, a.index < index+1 := fun a ha => Nat.lt_succ_of_lt (hlt a ha)
    rw [length_cons,Nat.add_comm rest.length,← Nat.add_assoc]
    by_cases hz : planned index=0
    · simp only [reserveLoop,if_pos hz] at herrs ⊢
      exact ih (index+1) applied f hrest h hext hlt' (htotal.skip hz) _ rfl herrs
    · simp only [reserveLoop,if_neg hz] at herrs ⊢
      have hd : 0<planned index := by
        have := hpos index
        omega
      rcases hres : src.reserveAdditional with _ | reserve
      · rw [hres] at herrs
        cases herrs
      · rw [hres] at herrs
        simp only at herrs ⊢
        rcases hcall : reserve (planned index) f.world with ⟨w,_ | err⟩
        · rw [hcall] at herrs
          simp only at herrs ⊢
          refine ih (index+1) _ _ hrest (hc hsrc hres hd h hcall) (hext.cons hsrc hlt hd w) (fun a ha => ?_) htotal.cons _ rfl
            herrs
          obtain rfl | ha := mem_cons.mp ha
          · exact Nat.lt_succ_self _
          · exact hlt' a ha
        · rw [hcall] at herrs
          cases herrs

/-- What a successful `ReserveAdditional` leaves: the last reservation is the split of the amount. -/
structure ReservedOn (sources : List (FundingSource W)) (amount : Int) (f f' : CompositeFunding W) : Prop where
  extended : Extended sources f f' f'.lastReserve.reverse
  sum : (f'.lastReserve.reverse.map (·.delta)).sum=amount

theorem CarriesReserve.ok (hc : CarriesReserve inv sources) (h0 : 0<amount) (h : inv f.consumed f.world) :
    ∀ r, reserveAdditional sources amount f=r → r.2=[] → inv r.1.consumed r.1.world ∧ ReservedOn sources amount f r.1 := by
  rintro _ rfl herrs
  obtain ⟨hleft,hpos,hout,hsum⟩ := planShares_spec f.world sources 0 amount h0.le _ rfl
  simp only [reserveAdditional,if_neg (Int.not_le.mpr h0)] at herrs ⊢
  split at herrs
  · cases herrs
  rename_i hrem
  rw [if_neg hrem]
  split at herrs
  next hne =>
    exact absurd herrs hne
  rename_i hnil
  rw [if_neg hnil]
  obtain ⟨hinv,hext,htotal⟩ := hc.loop_ok f hpos sources 0 [] { f with lastReserve := [] } (by simp) h
    ⟨by simp [totalAt],by simp [totalAt],by simp,by simp⟩ (by simp) (fun _ => by simp [totalAt]) _ rfl (not_not.mp hnil)
  refine ⟨hinv,⟨⟨?_,?_,?_,?_⟩,?_⟩⟩
  · simpa using hext.consumed
  · simpa using hext.additional
  · simpa using hext.nodup
  · simpa using hext.known
  simp only [reverse_reverse]
  rw [← sum_totalAt _ fun a ha => by
    obtain ⟨-,src,hsrc⟩ := hext.known a ha
    exact (List.getElem?_eq_some_iff.mp hsrc).1]
  have hplan : ∀ j∈Finset.range sources.length, totalAt
      (reserveLoop sources (planShares f.world sources 0 amount).1 sources 0 [] { f with lastReserve := [] }).2.1 j =
        (planShares f.world sources 0 amount).1 j := by
    intro j hj
    rw [htotal j,if_pos (by simpa using hj)]
  rw [Finset.sum_congr rfl hplan,hsum sources.length (by simp)]
  omega

/-- A source gives back what was reserved on top of `floor`, and the relation holds again. -/
def Returns (inv : (Nat → Int) → W → Prop) (sources : List (FundingSource W)) (floor : Nat → Int) : Prop :=
  ∀ {i : Nat} {src : FundingSource W}, sources[i]? = some src → ∃ call, src.refundAdditional=some call ∧
    ∀ {delta : Int} {c : Nat → Int} {w : W}, 0<delta → c i=floor i+delta → inv c w →
      ∃ w', call delta w=(w',none) ∧ inv (put c i (floor i)) w'

theorem rollbackLoop_returns {floor : Nat → Int} (hr : Returns inv sources floor) (l : List Adjustment) :
    ∀ (f : CompositeFunding W), (l.map (·.index)).Nodup →
      (∀ a∈l, 0<a.delta ∧ ∃ src, sources[a.index]? = some src) → (∀ j, f.consumed j=floor j+totalAt l j) →
      inv f.consumed f.world → ∃ f', rollbackLoop sources l (l.map (·.delta)).sum f=(f',0,[]) ∧ inv f'.consumed f'.world ∧
        f'.consumed=floor ∧ ∀ j, f'.additional j=f.additional j-totalAt l j := by
  induction l with
  | nil =>
    intro f _ _ hcons h
    exact ⟨f,rfl,h,funext fun j => by simpa [totalAt] using hcons j,by simp [totalAt]⟩
  | cons a l ih =>
    intro f hnodup hknown hcons h
    obtain ⟨hd,src,hsrc⟩ := hknown a (by simp)
    obtain ⟨call,href,hback⟩ := hr hsrc
    simp only [map_cons,nodup_cons,mem_map,not_exists,not_and] at hnodup
    have hself : totalAt l a.index=0 := totalAt_eq_zero hnodup.1
    have hrest : 0≤(l.map (·.delta)).sum := sum_nonneg fun x hx => by
      obtain ⟨b,hb,rfl⟩ := mem_map.mp hx
      exact (hknown b (by simp [hb])).1.le
    have hheld : f.consumed a.index=floor a.index+a.delta := by
      rw [hcons,totalAt,if_pos rfl,hself]
      omega
    obtain ⟨w',hcall,hinv⟩ := hback hd hheld h
    have hput : bump f.consumed a.index (-a.delta)=put f.consumed a.index (floor a.index) := by
      rw [bump,put,hheld]
      congr 1
      omega
    obtain ⟨f',hloop,hinv',hcons',hadd⟩ := ih
      { f with world := w', consumed := bump f.consumed a.index (-a.delta),
               additional := bump f.additional a.index (-a.delta) } hnodup.2 (fun b hb => hknown b (by simp [hb]))
      (fun j => by
        simp only [bump_apply,hcons j,totalAt]
        split <;> omega)
      (by rw [hput]; exact hinv)
    refine ⟨f',?_,hinv',hcons',fun j => ?_⟩
    · simp only [rollbackLoop,map_cons,sum_cons,hsrc,href]
      rw [if_neg (by omega),if_neg (by omega),hcall]
      simp only [add_sub_cancel_left]
      exact hloop
    · rw [hadd j]
      simp only [bump_apply,totalAt]
      split <;> omega

theorem rollbackAdditional_returns (h0 : 0<amount) (hres : ReservedOn sources amount f f')
    (hr : Returns inv sources f.consumed) (h : inv f'.consumed f'.world) :
    ∃ f'', rollbackAdditional sources amount f'=(f'',[]) ∧ inv f''.consumed f''.world ∧
      f''.consumed=f.consumed ∧ f''.additional=f.additional := by
  obtain ⟨f'',hloop,hinv,hcons,hadd⟩ := rollbackLoop_returns hr f'.lastReserve.reverse f' hres.extended.nodup
    hres.extended.known hres.extended.consumed h
  rw [hres.sum] at hloop
  have hne : f'.lastReserve≠[] := by
    intro hnil
    have hsum := hres.sum
    rw [hnil] at hsum
    simp at hsum
    omega
  refine ⟨{ f'' with lastReserve := [] },?_,hinv,hcons,funext fun j => ?_⟩
  · simp only [rollbackAdditional,hloop]
    rw [if_neg (by simp [hne]; omega),if_neg (by omega)]
  · have hext := hres.extended.additional j
    have hback := hadd j
    simp only
    omega

theorem bump_zero (v : Nat → Int) (i : Nat) : bump v i 0=v := by
  rw [bump,Int.add_zero,update_eq_self]

def bookedAt (f : CompositeFunding W) (w : W) (index : Nat) (consumed settled : Int) : CompositeFunding W :=
  { f with world := w, consumed := bump f.consumed index consumed, lastSettleDeltas := put f.lastSettleDeltas index settled }

variable {src : FundingSource W}

theorem refundLoop_skip (hsrc : sources[n]? = some src) (hnone : f.consumed n≤0) :
    refundLoop sources (n+1) f=refundLoop sources n f := by
  rw [refundLoop,hsrc]
  simp only
  rw [if_pos hnone]

theorem refundLoop_turn (hsrc : sources[n]? = some src) (hheld : 0<f.consumed n)
    (hrelease : releaseAdditional src n f=(f',[])) {w' : W}
    (hrefund : src.refund f'.world=(w',none)) :
    refundLoop sources (n+1) f=refundLoop sources n { f' with world := w', consumed := put f'.consumed n 0 } := by
  rw [refundLoop,hsrc]
  simp only
  rw [if_neg (by omega),hrelease]
  simp only [hrefund]

theorem releaseAdditional_ok (hnonneg : 0 ≤ f.additional n) {call : Int → Call W}
    (hsrc : src.refundAdditional=some call) (w' : W)
    (hcall : 0<f.additional n → call (f.additional n) f.world=(w',none))
    (hnone : f.additional n=0 → w'=f.world) :
    releaseAdditional src n f = ({ f with world := w', consumed := bump f.consumed n (-f.additional n),
                                          additional := put f.additional n 0 },[]) := by
  unfold releaseAdditional
  split
  next hpos =>
    rw [hsrc]
    simp only [hcall hpos]
  next hle =>
    have hz : f.additional n=0 := by omega
    have hput : put f.additional n 0=f.additional := by
      rw [put,← hz,update_eq_self]
    rw [hz,Int.neg_zero,bump_zero,hput,hnone hz]

section settleUp
variable {src : FundingSource W} {adjustments : Nat → Int} {index : Nat} {f : CompositeFunding W} {w w' : W}
  (sources rest : List (FundingSource W)) (applied added : List Adjustment)

theorem settleUp_skip (hz : adjustments index=0) (hno : f.consumed index≤0 ∨ src.source≠.benefitVoucher) :
    settleUp sources adjustments (src::rest) index applied added f =
      settleUp sources adjustments rest (index+1) applied added f := by
  rw [settleUp,if_pos ⟨hz,hno⟩]

theorem settleUp_book (hin : ¬ (adjustments index=0 ∧ (f.consumed index≤0 ∨ src.source≠.benefitVoucher)))
    (hopen : mustOpen src (f.consumed index) (adjustments index)=false)
    (hsettle : src.settle (adjustments index) f.world=(w',none)) :
    settleUp sources adjustments (src::rest) index applied added f =
      settleUp sources adjustments rest (index+1) (⟨index,adjustments index⟩::applied) added
        (bookedAt f w' index (adjustments index) (adjustments index)) := by
  rw [settleUp,if_neg hin,hopen]
  simp only [Bool.false_eq_true,if_false,settleSource,hsettle]
  rfl

theorem settleUp_open (hopen : mustOpen src (f.consumed index) (adjustments index)=true) {call : Int → Call W}
    (hcall : src.reserveAdditional=some call) (hreserve : call (adjustments index) f.world=(w,none))
    (hsettle : src.settle 0 w=(w',none)) : settleUp sources adjustments (src::rest) index applied added f =
      settleUp sources adjustments rest (index+1) (⟨index,0⟩::applied) (⟨index,adjustments index⟩::added)
        (bookedAt f w' index (adjustments index) 0) := by
  have hpos : adjustments index>0 := by
    simp only [mustOpen,decide_eq_true_eq] at hopen
    exact hopen.1
  rw [settleUp,if_neg (by omega),if_pos hopen]
  simp only [hcall,hreserve,settleSource,hsettle,bump_zero]
  rfl

theorem settleUp_refused (hin : ¬ (adjustments index=0 ∧ (f.consumed index≤0 ∨ src.source≠.benefitVoucher)))
    (hopen : mustOpen src (f.consumed index) (adjustments index)=false) {err : FundingError}
    (hsettle : src.settle (adjustments index) f.world=(w',some err)) :
    (settleUp sources adjustments (src::rest) index applied added f).2≠[] := by
  rw [settleUp,if_neg hin,hopen]
  simp [settleSource,hsettle]

end settleUp

end NewApi.Funding

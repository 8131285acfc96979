import NewApi.Funding.Atomicity

/-! The settlement of a composite: exact when it succeeds, restored when a source fails, as
long as at most one voucher source has to open a reservation on the way. A second one that
is refused leaves the first one's reservation behind. -/
namespace NewApi.Funding
open Option Nat List CompositeFunding
variable {W A : Type} {view : Nat → W → A} {acct : A → Account} {sources : List (FundingSource W)}

structure Settling (view : Nat → W → A) (acct : A → Account) (sources : List (FundingSource W))
    (f₀ f : CompositeFunding W) (applied added : List Adjustment) : Prop where
  book : ∀ j, books view acct f.world j={ books view acct f₀.world j with
    extra := (books view acct f₀.world j).extra+totalAt added j
    settled := (books view acct f₀.world j).settled+totalAt applied j }
  consumed : ∀ j, f.consumed j=f₀.consumed j+totalAt added j+totalAt applied j
  additional : f.additional=f₀.additional
  appliedNodup : (applied.map (·.index)).Nodup
  addedNodup : (added.map (·.index)).Nodup
  undoable : ∀ a∈applied, Undoable view sources a f
  opened : ∀ a ∈ added, (∃ src, sources[a.index]? = some src) ∧ 0 < a.delta

variable {f f₀ : CompositeFunding W}

theorem Undoable.keep {a : Adjustment} {f' : CompositeFunding W} (h : Undoable view sources a f)
    (hsame : view a.index f'.world=view a.index f.world) : Undoable view sources a f' := by
  obtain ⟨src,w,hsrc,hok,hview⟩ := h
  exact ⟨src,w,hsrc,hok,hsame.trans hview⟩

theorem Settling.start (f : CompositeFunding W) : Settling view acct sources f f [] [] := by
  constructor <;> simp [totalAt]

variable {applied added : List Adjustment} {w : W}

theorem Settling.world (h : Settling view acct sources f₀ f applied added) (hw : ∀ j, view j w=view j f.world)
    :
    Settling view acct sources f₀ { f with world := w } applied added := by
  refine ⟨fun j => ?_,h.consumed,h.additional,h.appliedNodup,h.addedNodup, fun a ha => (h.undoable a ha).keep (hw _),h.opened⟩
  rw [← h.book j,books,books,hw]

theorem Settling.rollback (hs : AllSound view acct sources) (h : Settling view acct sources f₀ f applied added) :
    ∃ f', rollbackCompositeSettlement sources applied f=(f',[]) ∧ Settling view acct sources f₀ f' [] added := by
  obtain ⟨f',hloop,hun⟩ := rollbackCompositeSettlement_unwound hs applied f h.appliedNodup h.undoable
  refine ⟨f',hloop,fun j => ?_,fun j => ?_,funext fun j => ?_,by simp,h.addedNodup,by simp,h.opened⟩
  · rw [hun.book j,h.book j]
    simp [totalAt]
  · rw [hun.consumed j,h.consumed j,totalAt]
    omega
  · rw [hun.additional j,h.additional]
    simp

theorem Settling.restored (h : Settling view acct sources f₀ f [] []) : Restored view acct f₀ f :=
  ⟨fun j => by simpa [totalAt] using h.book j,funext fun j => by simpa [totalAt] using h.consumed j,h.additional⟩

theorem Settling.refundAdded (hs : AllSound view acct sources) (h : Settling view acct sources f₀ f [] added) :
    ∃ f', refundAdded sources added f=(f',[]) ∧ Restored view acct f₀ f' := by
  have hheld : ∀ a∈added, Held view acct sources a f := by
    intro a ha
    obtain ⟨⟨src,hsrc⟩,hpos⟩ := h.opened a ha
    refine ⟨⟨src,hsrc⟩,hpos,?_⟩
    have hnonneg : 0≤(books view acct f₀.world a.index).extra := (hs _ _ hsrc).extra_nonneg f₀.world
    rw [h.book,totalAt_of_mem h.addedNodup ha]
    simp only
    omega
  obtain ⟨f',hloop,hun⟩ := refundAdded_unwound hs added f h.addedNodup hheld
  refine ⟨f',hloop,fun j => ?_,funext fun j => ?_,funext fun j => ?_⟩
  · rw [hun.book j,h.book j]
    simp [totalAt]
  · rw [hun.consumed j,h.consumed j]
    simp [totalAt]
  · rw [hun.additional j,h.additional]
    simp

variable {index i j : Nat} {src : FundingSource W} {d delta : Int}

section
variable (hs : AllSound view acct sources)
include hs

section
variable (h : Settling view acct sources f₀ f applied added)
include h

theorem Settling.settle (hsrc : sources[index]? = some src) (hnew : ∀ a∈applied, a.index≠index)
    (hcall : src.settle d f.world=(w,none)) (last : Nat → Int) :
    Settling view acct sources f₀
      { f with world := w, consumed := bump f.consumed index d, lastSettleDeltas := last }
      (⟨index,d⟩::applied) added := by
  have hout := (hs _ _ hsrc).settle d f.world
  rw [hcall] at hout
  have hself : books view acct w index=_ := hout.done rfl
  refine ⟨fun j => ?_,fun j => ?_,h.additional,?_,h.addedNodup,fun a ha => ?_,h.opened⟩
  · by_cases hj : index=j
    · subst hj
      have hb := h.book index
      rw [books] at hb
      rw [hself,hb,totalAt,if_pos rfl,totalAt_eq_zero hnew]
      simp
    · have hsame : books view acct w j=books view acct f.world j := congrArg acct (hout.others j (Ne.symm hj))
      rw [hsame,h.book j,totalAt,if_neg hj,zero_add]
  · simp only [bump_apply,h.consumed j,totalAt]
    omega
  · simp only [map_cons,nodup_cons,List.mem_map,not_exists,not_and]
    exact ⟨hnew,h.appliedNodup⟩
  · rcases mem_cons.mp ha with rfl | ha
    · exact ⟨src,f.world,hsrc,by rw [hcall],by rw [hcall]⟩
    · exact (h.undoable a ha).keep (hout.others _ (hnew a ha))

theorem Settling.open (hsrc : sources[index]? = some src) (hnew : ∀ a∈applied, a.index≠index)
    (hnew' : ∀ a∈added, a.index≠index) {reserve : Int → Call W}
    (hreserve : src.reserveAdditional=some reserve) (hd : 0<d)
    (hcall : reserve d f.world=(w,none)) :
    Settling view acct sources f₀ { f with world := w, consumed := bump f.consumed index d }
      applied (⟨index,d⟩::added) := by
  have hout := (hs _ _ hsrc).reserve reserve hreserve d f.world hd
  rw [hcall] at hout
  have hself : books view acct w index=_ := hout.done rfl
  refine ⟨fun j => ?_,fun j => ?_,h.additional,h.appliedNodup,?_,fun a ha =>
    (h.undoable a ha).keep (hout.others _ (hnew a ha)),fun a ha => ?_⟩
  · by_cases hj : index=j
    · subst hj
      have hb := h.book index
      rw [books] at hb
      rw [hself,hb,totalAt,if_pos rfl,totalAt_eq_zero hnew']
      simp
    · have hsame : books view acct w j=books view acct f.world j := congrArg acct (hout.others j (Ne.symm hj))
      rw [hsame,h.book j,totalAt,if_neg hj,zero_add]
  · simp only [bump_apply,h.consumed j,totalAt]
    omega
  · simp only [map_cons,nodup_cons,List.mem_map,not_exists,not_and]
    exact ⟨hnew',h.addedNodup⟩
  · rcases mem_cons.mp ha with rfl | ha
    · exact ⟨⟨src,hsrc⟩,hd⟩
    · exact h.opened a ha

theorem settleSource_ok (hsrc : sources[index]? = some src) (hnew : ∀ a∈applied, a.index≠index)
    (hcall : src.settle d f.world=(w,none)) : ∃ f', settleSource sources src index d applied added f=(f',[]) ∧
      Settling view acct sources f₀ f' (⟨index,d⟩::applied) added := by
  refine ⟨_,?_,h.settle hs hsrc hnew hcall (put f.lastSettleDeltas index d)⟩
  rw [settleSource,hcall]

theorem settleSource_spec (hsrc : sources[index]? = some src) (hnew : ∀ a∈applied, a.index≠index) (d : Int) :
    (∃ f', settleSource sources src index d applied added f=(f',[]) ∧
      Settling view acct sources f₀ f' (⟨index,d⟩::applied) added) ∨
    (∃ f' e errs, settleSource sources src index d applied added f=(f',e::errs) ∧ Restored view acct f₀ f') := by
  have hout := (hs _ _ hsrc).settle d f.world
  rcases hcall : src.settle d f.world with ⟨w,_ | err⟩
  · exact Or.inl (settleSource_ok hs h hsrc hnew hcall)
  rw [hcall] at hout
  obtain ⟨f1,hroll,hset⟩ := (h.world hout.view_eq).rollback hs
  obtain ⟨f2,hback,hres⟩ := hset.refundAdded hs
  refine Or.inr ⟨f2,err,[],?_,hres⟩
  simp only [settleSource,hcall,hroll,hback]
  rfl

end

end

def Opens (sources : List (FundingSource W)) (consumed adjustments : Nat → Int) (i : Nat) : Prop :=
  ∃ src, sources[i]? = some src ∧ mustOpen src (consumed i) (adjustments i)=true

theorem total_cons {l : List Adjustment} (other adjustments : Nat → Int)
    (h : ∀ j, other j+totalAt l j = if j < index then adjustments j else 0) (j : Nat) :
    other j+totalAt (⟨index,adjustments index⟩::l) j = if j < index+1 then adjustments j else 0 := by
  have hj := h j
  rw [totalAt]
  by_cases he : index=j
  · subst he
    simp only [Nat.lt_irrefl,if_false] at hj
    simp only [if_true,lt_succ_self]
    omega
  · simp only [he,if_false,show (j < index+1)=(j < index) from propext (by omega),← hj]
    omega

variable {adjustments : Nat → Int} {W' : Type}

theorem total_skip {g : Nat → Int} (hz : adjustments index=0) (h : ∀ j, g j = if j < index then adjustments j else 0) (j : Nat) :
    g j = if j < index+1 then adjustments j else 0 := by
  rw [h j]
  by_cases hj : j=index
  · subst hj
    simp [hz]
  · simp only [show (j < index+1)=(j < index) from propext (by omega)]

theorem settleUp_spec (hs : AllSound view acct sources)
    (honce : ∀ i j, Opens sources f₀.consumed adjustments i → Opens sources f₀.consumed adjustments j → i=j)
    (rest : List (FundingSource W)) :
    ∀ (index : Nat) (applied added : List Adjustment) (f : CompositeFunding W), rest=sources.drop index →
      Settling view acct sources f₀ f applied added → (∀ a∈applied, a.index < index) →
      (∀ a∈added, a.index < index ∧ Opens sources f₀.consumed adjustments a.index) →
      (∀ j, totalAt added j+totalAt applied j = if j < index then adjustments j else 0) →
      (∃ f' applied' added', settleUp sources adjustments rest index applied added f=(f',[]) ∧
        Settling view acct sources f₀ f' applied' added' ∧
        ∀ j, totalAt added' j+totalAt applied' j = if j < index+rest.length then adjustments j else 0) ∨
      (∃ f' e errs, settleUp sources adjustments rest index applied added f=(f',e::errs) ∧ Restored view acct f₀ f') := by
  induction rest with
  | nil =>
    intro index applied added f _ h _ _ htotal
    exact Or.inl ⟨f,applied,added,rfl,h,by simpa using htotal⟩
  | cons src rest ih =>
    intro index applied added f hrest h hlt hopened htotal
    obtain ⟨hsrc,hrest⟩ := head_of_drop hrest
    have hnew : ∀ a∈applied, a.index≠index := fun a ha => (hlt a ha).ne
    have hnew' : ∀ a∈added, a.index≠index := fun a ha => (hopened a ha).1.ne
    have hlen : index+(src::rest).length=index+1+rest.length := by simp; omega
    have hcons : f.consumed index=f₀.consumed index := by
      rw [h.consumed,totalAt_eq_zero hnew,totalAt_eq_zero hnew']
      omega
    have hopened' : ∀ a∈added, a.index < index+1 ∧ Opens sources f₀.consumed adjustments a.index :=
      fun a ha => ⟨lt_succ_of_lt (hopened a ha).1,(hopened a ha).2⟩
    have hlt' : ∀ d : Int, ∀ a∈(⟨index,d⟩ : Adjustment)::applied, a.index < index+1 := by
      intro d a ha
      rcases mem_cons.mp ha with rfl | ha
      · exact lt_succ_self _
      · exact lt_succ_of_lt (hlt a ha)
    rw [hlen]
    simp only [settleUp]
    by_cases hskip : adjustments index=0 ∧ (f.consumed index≤0 ∨ src.source≠.benefitVoucher)
    · rw [if_pos hskip]
      exact ih (index+1) applied added f hrest h (fun a ha => lt_succ_of_lt (hlt a ha)) hopened'
        (total_skip hskip.1 htotal)
    rw [if_neg hskip]
    by_cases hopen : mustOpen src (f.consumed index) (adjustments index)=true
    · rw [if_pos hopen]
      rw [hcons] at hopen
      have hopens : Opens sources f₀.consumed adjustments index := ⟨src,hsrc,hopen⟩
      have hnone : added=[] := by
        rw [eq_nil_iff_forall_not_mem]
        intro a ha
        exact hnew' a ha (honce _ _ (hopened a ha).2 hopens)
      subst hnone
      rcases hres : src.reserveAdditional with _ | reserve
      · obtain ⟨f1,hroll,hset⟩ := h.rollback hs
        exact Or.inr ⟨f1,.cannotReserveSettlement src.source,[],by simp only [hroll],hset.restored⟩
      · simp only
        have hd : 0<adjustments index := by
          simp only [mustOpen,decide_eq_true_eq] at hopen
          omega
        have hout := (hs _ _ hsrc).reserve reserve hres (adjustments index) f.world hd
        rcases hcall : reserve (adjustments index) f.world with ⟨w,_ | err⟩
        · have hstep := h.open hs hsrc hnew (by simp) hres hd hcall
          rcases settleSource_spec hs hstep hsrc hnew 0 with ⟨f1,hset,hnext⟩ | ⟨f1,e,errs,hset,hrest'⟩
          · simp only [hset]
            refine ih (index+1) _ _ f1 hrest hnext (hlt' 0) (fun a ha => ?_) fun j => ?_
            · rw [mem_singleton] at ha
              subst ha
              exact ⟨lt_succ_self _,hopens⟩
            · have hadd := total_cons (l := []) (totalAt applied) adjustments (fun j => by simpa [totalAt] using htotal j) j
              rw [← hadd]
              simp only [totalAt]
              split <;> omega
          · exact Or.inr ⟨f1,e,errs,by simp only [hset],hrest'⟩
        · rw [hcall] at hout
          obtain ⟨f1,hroll,hset⟩ := (h.world hout.view_eq).rollback hs
          exact Or.inr ⟨f1,err,[],by simp only [hroll],hset.restored⟩
    · rw [if_neg hopen]
      rcases settleSource_spec hs h hsrc hnew (adjustments index) with ⟨f1,hset,hnext⟩ | ⟨f1,e,errs,hset,hrest'⟩
      · simp only [hset]
        exact ih (index+1) _ _ f1 hrest hnext (hlt' _) hopened' (total_cons _ _ htotal)
      · exact Or.inr ⟨f1,e,errs,by simp only [hset],hrest'⟩

theorem settleDown_spec (hs : AllSound view acct sources) (rest : List (FundingSource W)) :
    ∀ (index : Nat) (applied : List Adjustment) (f : CompositeFunding W), rest=sources.drop index →
      Settling view acct sources f₀ f applied [] → (∀ a∈applied, a.index < index) →
      (∀ j, totalAt applied j = if j < index then adjustments j else 0) →
      (∃ f' applied', settleDown sources adjustments rest index applied f=(f',[]) ∧
        Settling view acct sources f₀ f' applied' [] ∧
        ∀ j, totalAt applied' j = if j < index+rest.length then adjustments j else 0) ∨
      (∃ f' e errs, settleDown sources adjustments rest index applied f=(f',e::errs) ∧ Restored view acct f₀ f') := by
  induction rest with
  | nil =>
    intro index applied f _ h _ htotal
    exact Or.inl ⟨f,applied,rfl,h,by simpa using htotal⟩
  | cons src rest ih =>
    intro index applied f hrest h hlt htotal
    obtain ⟨hsrc,hrest⟩ := head_of_drop hrest
    have hnew : ∀ a∈applied, a.index≠index := fun a ha => (hlt a ha).ne
    have hlen : index+(src::rest).length=index+1+rest.length := by simp; omega
    rw [hlen]
    simp only [settleDown]
    by_cases hskip : adjustments index=0 ∧ (f.consumed index≤0 ∨ src.source≠.benefitVoucher)
    · rw [if_pos hskip]
      exact ih (index+1) applied f hrest h (fun a ha => lt_succ_of_lt (hlt a ha)) (total_skip hskip.1 htotal)
    · rw [if_neg hskip]
      rcases settleSource_spec hs h hsrc hnew (adjustments index) with ⟨f1,hset,hnext⟩ | ⟨f1,e,errs,hset,hrest'⟩
      · simp only [hset]
        refine ih (index+1) _ f1 hrest hnext (fun a ha => ?_) fun j => ?_
        · rcases mem_cons.mp ha with rfl | ha
          · exact lt_succ_self _
          · exact lt_succ_of_lt (hlt a ha)
        · have htotal' := total_cons (l := applied) (fun _ => 0) adjustments (fun j => by simpa using htotal j) j
          simpa using htotal'
      · exact Or.inr ⟨f1,e,errs,by simp only [hset],hrest'⟩

theorem settleZero_spec (hs : AllSound view acct sources) (rest : List (FundingSource W)) :
    ∀ (index : Nat) (f : CompositeFunding W), rest=sources.drop index → Restored view acct f (settleZero rest index f).1 := by
  induction rest with
  | nil =>
    intro index f _
    exact ⟨fun _ => rfl,rfl,rfl⟩
  | cons src rest ih =>
    intro index f hrest
    obtain ⟨hsrc,hrest⟩ := head_of_drop hrest
    simp only [settleZero]
    split
    · exact ih (index+1) f hrest
    have hout := (hs _ _ hsrc).settle 0 f.world
    rcases hcall : src.settle 0 f.world with ⟨w,_ | err⟩
    · rw [hcall] at hout
      have hsame : ∀ j, books view acct w j=books view acct f.world j := by
        intro j
        by_cases hj : j=index
        · subst hj
          have hself : books view acct w j=_ := hout.done rfl
          rw [hself,books]
          simp
        · exact congrArg acct (hout.others j hj)
      obtain ⟨hb,hc,ha⟩ := ih (index+1) { f with world := w } hrest
      exact ⟨fun j => (hb j).trans (hsame j),hc,ha⟩
    · rw [hcall] at hout
      exact ⟨fun j => congrArg acct (hout.view_eq j),rfl,rfl⟩

/-- At most one voucher source has to open a reservation in a `Settle(delta)` that the
capacities cover. -/
def OpensOnce (sources : List (FundingSource W)) (f : CompositeFunding W) (delta : Int) : Prop :=
  (planShares f.world sources 0 delta).2≤0 → ∀ i j, Opens sources f.consumed (planShares f.world sources 0 delta).1 i →
    Opens sources f.consumed (planShares f.world sources 0 delta).1 j → i=j

theorem Settling.exact (h : Settling view acct sources f₀ f applied added) {d : Nat → Int} {n : Nat}
    (hd : ∀ j, totalAt added j+totalAt applied j=d j) (hsum : ∑ j∈Finset.range n,d j=delta) :
    ∑ j ∈ Finset.range n, f.consumed j = ∑ j∈Finset.range n, f₀.consumed j+delta ∧
      ∀ j, (books view acct f.world j).total-(books view acct f₀.world j).total = f.consumed j-f₀.consumed j := by
  have hc : ∀ j, f.consumed j=f₀.consumed j+d j := by
    intro j
    rw [h.consumed j,← hd j]
    omega
  refine ⟨?_,fun j => ?_⟩
  · simp only [hc,Finset.sum_add_distrib,hsum]
  rw [h.book j,h.consumed j]
  simp only [Account.total]
  omega

theorem settle_atomic (hs : AllSound view acct sources) (f : CompositeFunding W) (honce : OpensOnce sources f delta) :
    Atomic view acct sources.length f delta (settle sources delta f) := by
  simp only [settle]
  set f1 : CompositeFunding W := { f with lastSettleDeltas := fun _ => 0 } with hf1
  have hstart : Settling view acct sources f f1 [] [] := by
    constructor <;> simp [totalAt,hf1]
  by_cases h0 : delta=0
  · rw [if_pos h0]
    obtain ⟨hb,hc,ha⟩ := settleZero_spec hs sources 0 f1 (by simp)
    refine ⟨fun _ => ⟨?_,fun j => ?_⟩,fun _ => ⟨hb,hc,ha⟩⟩
    · rw [hc,h0,hf1]
      simp
    · rw [hb,hc,hf1]
      simp
  rw [if_neg h0]
  by_cases hup : delta>0
  · rw [if_pos hup]
    obtain ⟨hleft,hpos,hout,hsum⟩ := planShares_spec f.world sources 0 delta (by omega) _ rfl
    by_cases hr : (planShares f1.world sources 0 delta).2>0
    · rw [if_pos hr]
      exact ⟨fun he => by simp at he,fun _ => ⟨fun _ => rfl,rfl,rfl⟩⟩
    · rw [if_neg hr]
      rcases settleUp_spec hs (honce (by simp only [hf1] at hr; omega)) sources 0 [] [] f1
        (by simp) hstart (by simp) (by simp) (by simp [totalAt]) with
        ⟨f',applied,added,hgo,hset,htotal⟩ | ⟨f',e,errs,hgo,hres⟩
      · rw [hgo]
        refine ⟨fun _ => hset.exact (d := (planShares f.world sources 0 delta).1) (fun j => ?_) ?_, fun he => absurd rfl he⟩
        · rw [htotal j]
          split
          · rfl
          · exact (hout j (by omega)).symm
        · have hall := hsum sources.length (by simp)
          simp only [hf1] at hr
          omega
      · rw [hgo]
        exact ⟨fun he => by simp at he,fun _ => hres⟩
  · rw [if_neg hup]
    obtain ⟨hleft,hout,hsum⟩ := planRefunds_spec f.consumed sources.length (-delta) (by omega) _ rfl
    by_cases hr : (planRefunds f1.consumed sources.length (-delta)).2>0
    · rw [if_pos hr]
      exact ⟨fun he => by simp at he,fun _ => ⟨fun _ => rfl,rfl,rfl⟩⟩
    · rw [if_neg hr]
      rcases settleDown_spec hs sources 0 [] f1 (by simp) hstart (by simp) (by simp [totalAt]) with
        ⟨f',applied,hgo,hset,htotal⟩ | ⟨f',e,errs,hgo,hres⟩
      · rw [hgo]
        refine ⟨fun _ => hset.exact (d := (planRefunds f.consumed sources.length (-delta)).1) (fun j => ?_) ?_,
          fun he => absurd rfl he⟩
        · rw [htotal j]
          simp only [totalAt,zero_add]
          split
          · rfl
          · exact (hout j (by omega)).symm
        · have hall := hsum sources.length (Nat.le_refl _)
          simp only [hf1] at hr
          omega
      · rw [hgo]
        exact ⟨fun he => by simp at he,fun _ => hres⟩

/-- The composite after `PreConsume(amount)` and the extra reservations `extras`, each granted
or refused. -/
def reached (sources : List (FundingSource W)) (w : W) (amount : Int) (extras : List Int) : CompositeFunding W :=
  extras.foldl (fun f x => (reserveAdditional sources x f).1) (preConsume sources amount (newCompositeFunding w)).1

theorem fresh_new (h : ∀ j, books view acct w j=⟨0,0,0⟩) : Fresh view acct (newCompositeFunding w) :=
  ⟨h,fun _ => rfl,fun _ => rfl⟩

theorem tracks_foldl (hs : AllSound view acct sources) (extras : List Int) :
    ∀ f : CompositeFunding W, (∀ x∈extras, 0≤x) → Tracks view acct f → (∀ j, sources.length≤j → f.consumed j=0) →
      Tracks view acct (extras.foldl (fun f x => (reserveAdditional sources x f).1) f) ∧ ∀ j, sources.length≤j →
          (extras.foldl (fun f x => (reserveAdditional sources x f).1) f).consumed j=0 := by
  induction extras with
  | nil =>
    intro f _ h hz
    exact ⟨h,hz⟩
  | cons x extras ih =>
    intro f hx h hz
    obtain ⟨h',hz'⟩ := h.reserveAdditional hs hz (hx x (by simp))
    exact ih _ (fun y hy => hx y (by simp [hy])) h' hz'

theorem reached_tracks (hs : AllSound view acct sources) (hw : ∀ j, books view acct w j=⟨0,0,0⟩)
    {amount : Int} (ha : 0≤amount) {extras : List Int} (hx : ∀ x∈extras, 0≤x) :
    Tracks view acct (reached sources w amount extras) ∧
      ∀ j, sources.length≤j → (reached sources w amount extras).consumed j=0 := by
  obtain ⟨-,htracks,hz⟩ := preConsume_atomic hs (fresh_new hw) ha
  exact tracks_foldl hs extras _ hx htracks hz

def Alike {W' : Type} (w : W) (w' : W') (a : FundingSource W) (b : FundingSource W') : Prop :=
  a.source=b.source ∧ a.additionalCapacity.map (· w)=b.additionalCapacity.map (· w')

/-- The two composites have the same kinds of sources, with the same capacities and the
same amounts consumed; how their sources answer may differ. -/
def SameShape {W' : Type} (sources : List (FundingSource W)) (f : CompositeFunding W)
    (sources' : List (FundingSource W')) (f' : CompositeFunding W') : Prop :=
  List.Forall₂ (Alike f.world f'.world) sources sources' ∧ f'.consumed=f.consumed

theorem share_congr {a : FundingSource W} {b : FundingSource W'} {w' : W'}
    (h : a.additionalCapacity.map (· w)=b.additionalCapacity.map (· w')) (remaining : Int) :
    share b remaining w'=share a remaining w := by
  unfold share
  rcases ha : a.additionalCapacity with _ | c <;> rcases hb : b.additionalCapacity with _ | c' <;>
    simp only [ha,hb,map_none,map_some,Option.some.injEq,reduceCtorEq] at h ⊢
  rw [h]

theorem planShares_congr {w' : W'} {srcs : List (FundingSource W)} {srcs' : List (FundingSource W')}
    (h : List.Forall₂ (Alike w w') srcs srcs') :
    ∀ index remaining, planShares w' srcs' index remaining=planShares w srcs index remaining := by
  induction h with
  | nil => exact fun _ _ => rfl
  | cons hab _ ih =>
    intro index remaining
    simp only [planShares,share_congr hab.2,ih]

theorem opens_congr {sources' : List (FundingSource W')} {f' : CompositeFunding W'}
    (h : SameShape sources f sources' f') : Opens sources' f'.consumed (planShares f'.world sources' 0 delta).1 i ↔
      Opens sources f.consumed (planShares f.world sources 0 delta).1 i := by
  rw [planShares_congr h.1,h.2]
  have hget : ∀ i : Nat, Option.Rel (Alike f.world f'.world) sources[i]? sources'[i]? := by
    obtain ⟨hall,-⟩ := h
    induction hall with
    | nil => exact fun _ => Option.Rel.none
    | cons hab _ ih =>
      intro i
      cases i with
      | zero => exact Option.Rel.some hab
      | succ i => exact ih i
  unfold Opens mustOpen
  have hi := hget i
  rcases ha : sources[i]? with _ | a <;> rcases hb : sources'[i]? with _ | b <;> rw [ha,hb] at hi
  · simp
  · cases hi
  · cases hi
  · cases hi with
    | some hab => simp [hab.1]

/-- What is promised of a composite of this shape, whatever its sources answer within their
contract. -/
def CompositeExact (sources : List (FundingSource W)) (f : CompositeFunding W) (delta : Int) : Prop :=
  ∀ (W' A' : Type) (view : Nat → W' → A') (acct : A' → Account) (sources' : List (FundingSource W'))
    (f' : CompositeFunding W'), AllSound view acct sources' → SameShape sources f sources' f' →
    (∀ w, (∀ j, books view acct w j=⟨0,0,0⟩) → ∀ a, 0≤a → Atomic view acct sources'.length (newCompositeFunding w) a
        (preConsume sources' a (newCompositeFunding w))) ∧
    (∀ a, 0≤a → Atomic view acct sources'.length f' a (reserveAdditional sources' a f')) ∧
    Atomic view acct sources'.length f' delta (settle sources' delta f') ∧
    (∀ w a extras, (∀ j, books view acct w j=⟨0,0,0⟩) → 0≤a → (∀ x∈extras, 0≤x) →
      f'=reached sources' w a extras → (settle sources' delta f').2≠[] →
      (refund sources' (settle sources' delta f').1).2=[] ∧ Fresh view acct (refund sources' (settle sources' delta f').1).1)

theorem OpensOnce.exact (h : OpensOnce sources f delta) : CompositeExact sources f delta := by
  intro W' A' view acct sources' f' hs hshape
  have honce : OpensOnce sources' f' delta := fun hr i j hi hj =>
    h (by rwa [← planShares_congr hshape.1]) i j ((opens_congr hshape).mp hi) ((opens_congr hshape).mp hj)
  have hsettle := settle_atomic hs f' honce
  refine ⟨fun w hw a ha => (preConsume_atomic hs (fresh_new hw) ha).1,
    fun a ha => reserveAdditional_atomic hs f' ha,hsettle,?_⟩
  intro w a extras hw ha hx hreach hfail
  obtain ⟨htracks,hz⟩ := reached_tracks hs hw ha hx
  rw [← hreach] at htracks hz
  have hres := hsettle.2 hfail
  refine refundLoop_fresh hs sources'.length _ (Nat.le_refl _) (htracks.of_restored hres) fun j hj => ?_
  rw [hres.2.1]
  exact hz j hj

/-- A source's books when nothing ever goes wrong but a refused reservation. -/
structure Purse where
  pre : Int
  extra : Nat
  settled : Int

def Purse.account (p : Purse) : Account := ⟨p.pre,p.extra,p.settled⟩

def purse (i : Nat) (w : Nat → Purse) : Purse := w i

def onPurse (i : Nat) (g : Purse → Purse) (w : Nat → Purse) : (Nat → Purse)×Option FundingError :=
  (Function.update w i (g (w i)),none)

/-- A source that does what it is asked; where `refuses` is set it grants no reservation. -/
def plainSource (kind : BillingSource) (capacity : Option Int) (refuses : Bool) (i : Nat) :
    FundingSource (Nat → Purse) where
  source := kind
  preConsume a := onPurse i fun p => { p with pre := p.pre+a }
  settle d := onPurse i fun p => { p with settled := p.settled+d }
  refund := onPurse i fun p => { p with pre := 0 }
  additionalCapacity := capacity.map fun c _ => c
  reserveAdditional := some fun a w =>
    if refuses then (w,some (.message "refused"))
    else onPurse i (fun p => { p with extra := p.extra+a.toNat }) w
  refundAdditional := some fun a => onPurse i fun p => { p with extra := p.extra-a.toNat }

theorem outcome_onPurse (i : Nat) (w : Nat → Purse) {g : Purse → Purse} {move : Account → Account}
    (h : (g (w i)).account=move (w i).account) : Outcome purse Purse.account i w (onPurse i g w) move := by
  refine ⟨fun j hj => ?_,fun he => absurd rfl he,fun _ => ?_⟩
  · simp [purse,onPurse,hj]
  · simpa [purse,onPurse] using h

theorem plainSource_sound (kind : BillingSource) (capacity : Option Int) (refuses : Bool) (i : Nat) :
    Sound purse Purse.account i (plainSource kind capacity refuses i) where
  extra_nonneg w := Int.natCast_nonneg _
  preConsume a w _ := outcome_onPurse i w (g := fun p => { p with pre := p.pre+a }) rfl
  measured a w m _ _ hm := by cases hm
  reserve reserve hres a w ha := by
    cases hres
    cases refuses with
    | true => exact ⟨fun _ _ => rfl,fun _ => rfl,fun he => by simp at he⟩
    | false =>
      refine outcome_onPurse i w (g := fun p => { p with extra := p.extra+a.toNat }) ?_
      simp only [Purse.account,Account.mk.injEq,true_and,and_true]
      omega
  settle d w := outcome_onPurse i w (g := fun p => { p with settled := p.settled+d }) rfl
  refund w _ _ := ⟨rfl,outcome_onPurse i w (g := fun p => { p with pre := 0 }) rfl⟩
  refundAdditional a w ha hle := by
    refine ⟨_,rfl,rfl,outcome_onPurse i w (g := fun p => { p with extra := p.extra-a.toNat }) ?_⟩
    simp only [purse,Purse.account] at hle
    simp only [Purse.account,Account.mk.injEq,true_and,and_true]
    omega
  undo d w w' _ _ := by
    refine ⟨rfl,outcome_onPurse i w' (g := fun p => { p with settled := p.settled + -d }) ?_⟩
    simp only [Purse.account,Account.mk.injEq,true_and]
    omega

/-- Plain sources of the same shape as the given ones; the one at `j` grants no reservation. -/
def refusingAt (w : W) (j : Nat) : List (FundingSource W) → Nat → List (FundingSource (Nat → Purse))
  | [], _ => []
  | src::rest, k =>
    plainSource src.source (src.additionalCapacity.map (· w)) (k == j) k::refusingAt w j rest (k+1)

theorem getElem?_refusingAt (w : W) (j : Nat) (srcs : List (FundingSource W)) : ∀ k i, (refusingAt w j srcs k)[i]? =
      srcs[i]?.map fun src => plainSource src.source (src.additionalCapacity.map (· w)) (k+i == j) (k+i) := by
  induction srcs with
  | nil => simp [refusingAt]
  | cons src rest ih =>
    intro k i
    cases i with
    | zero => rfl
    | succ i =>
      simp only [refusingAt,getElem?_cons_succ,ih]
      rw [Nat.add_right_comm k 1 i,Nat.add_assoc k i 1]

theorem refusingAt_alike (w : W) (w' : Nat → Purse) (j : Nat) (srcs : List (FundingSource W)) :
    ∀ k, List.Forall₂ (Alike w w') srcs (refusingAt w j srcs k) := by
  induction srcs with
  | nil => exact fun _ => List.Forall₂.nil
  | cons src rest ih =>
    intro k
    refine List.Forall₂.cons ⟨rfl,?_⟩ (ih (k+1))
    simp only [plainSource,Option.map_map]
    rcases src.additionalCapacity with _ | c <;> rfl

theorem refusingAt_sound (w : W) (j : Nat) (srcs : List (FundingSource W)) :
    AllSound purse Purse.account (refusingAt w j srcs 0) := by
  intro i src hsrc
  rw [getElem?_refusingAt,map_eq_some_iff] at hsrc
  obtain ⟨a,-,rfl⟩ := hsrc
  rw [Nat.zero_add]
  exact plainSource_sound _ _ _ _

theorem settleUp_reaches (hs : AllSound view acct sources) (f₀ : CompositeFunding W) (adjustments : Nat → Int)
    (hj : j<sources.length) (hplain : ∀ i src, i<j → sources[i]? = some src → (∀ d w, (src.settle d w).2=none) ∧
      ∃ reserve, src.reserveAdditional=some reserve ∧ ∀ a w, (reserve a w).2=none) : ∀ k, k≤j → ∃ applied added f,
      settleUp sources adjustments sources 0 [] [] f₀ = settleUp sources adjustments (sources.drop k) k applied added f ∧
      Settling view acct sources f₀ f applied added ∧ (∀ a∈applied, a.index<k) ∧ (∀ a∈added, a.index<k) ∧
      ∀ x, x<k → Opens sources f₀.consumed adjustments x → totalAt added x=adjustments x := by
  intro k
  induction k with
  | zero =>
    intro _
    exact ⟨[],[],f₀,rfl,Settling.start f₀,by simp,by simp,by simp⟩
  | succ k ih =>
    intro hk
    obtain ⟨applied,added,f,hgo,h,hlt,hlt',hopened⟩ := ih (by omega)
    obtain ⟨src,hsrc⟩ : ∃ src, sources[k]? = some src := ⟨_,getElem?_eq_getElem (by omega)⟩
    obtain ⟨hsettles,reserve,hreserve,hgrants⟩ := hplain k src (by omega) hsrc
    have hdrop : sources.drop k=src::sources.drop (k+1) := by
      rw [drop_eq_getElem_cons (by omega)]
      rw [getElem?_eq_getElem (by omega),Option.some.injEq] at hsrc
      rw [hsrc]
    have hnew : ∀ a∈applied, a.index≠k := fun a ha => (hlt a ha).ne
    have hnew' : ∀ a∈added, a.index≠k := fun a ha => (hlt' a ha).ne
    have hcons : f.consumed k=f₀.consumed k := by
      rw [h.consumed,totalAt_eq_zero hnew,totalAt_eq_zero hnew']
      omega
    have hup : ∀ d : Int, ∀ a∈(⟨k,d⟩ : Adjustment)::applied, a.index<k+1 := by
      intro d a ha
      rcases mem_cons.mp ha with rfl | ha
      · exact lt_succ_self _
      · exact lt_succ_of_lt (hlt a ha)
    have hkeep : mustOpen src (f.consumed k) (adjustments k)≠true →
        ∀ x, x<k+1 → Opens sources f₀.consumed adjustments x → totalAt added x=adjustments x := by
      intro hno x hx hx'
      by_cases he : x=k
      · subst he
        obtain ⟨src',hsrc',hmust⟩ := hx'
        rw [hsrc,Option.some.injEq] at hsrc'
        subst hsrc'
        rw [hcons] at hno
        exact absurd hmust hno
      · exact hopened x (by omega) hx'
    rw [hgo,hdrop]
    simp only [settleUp]
    by_cases hskip : adjustments k=0 ∧ (f.consumed k≤0 ∨ src.source≠.benefitVoucher)
    · rw [if_pos hskip]
      refine ⟨applied,added,f,rfl,h,fun a ha => lt_succ_of_lt (hlt a ha),
        fun a ha => lt_succ_of_lt (hlt' a ha),hkeep ?_⟩
      simp [mustOpen,hskip.1]
    rw [if_neg hskip]
    by_cases hopen : mustOpen src (f.consumed k) (adjustments k)=true
    · rw [if_pos hopen,hreserve]
      have hd : 0<adjustments k := by
        simp only [mustOpen,decide_eq_true_eq] at hopen
        omega
      have hgrant := hgrants (adjustments k) f.world
      rcases hcall : reserve (adjustments k) f.world with ⟨w,err⟩
      rw [hcall] at hgrant
      simp only at hgrant
      subst hgrant
      have hstep := h.open hs hsrc hnew hnew' hreserve hd hcall
      have hdone := hsettles 0 w
      rcases hcall' : src.settle 0 w with ⟨w',err⟩
      rw [hcall'] at hdone
      simp only at hdone
      subst hdone
      obtain ⟨f',hset,hnext⟩ := settleSource_ok hs hstep hsrc hnew hcall'
      simp only [hcall,hset]
      refine ⟨_,_,f',rfl,hnext,hup 0,fun a ha => ?_,fun x hx hx' => ?_⟩
      · rcases mem_cons.mp ha with rfl | ha
        · exact lt_succ_self _
        · exact lt_succ_of_lt (hlt' a ha)
      · rw [totalAt]
        by_cases he : k=x
        · subst he
          simp [totalAt_eq_zero hnew']
        · simp [he,hopened x (by omega) hx']
    · rw [if_neg hopen]
      have hdone := hsettles (adjustments k) f.world
      rcases hcall : src.settle (adjustments k) f.world with ⟨w,err⟩
      rw [hcall] at hdone
      simp only at hdone
      subst hdone
      obtain ⟨f',hset,hnext⟩ := settleSource_ok hs h hsrc hnew hcall
      simp only [hset]
      exact ⟨_,_,f',rfl,hnext,hup _,fun a ha => lt_succ_of_lt (hlt' a ha),hkeep hopen⟩

theorem lt_length_of_opens {consumed : Nat → Int} (h : Opens sources consumed adjustments i) : i<sources.length := by
  obtain ⟨src,hsrc,-⟩ := h
  by_contra hn
  rw [getElem?_eq_none (by omega)] at hsrc
  cases hsrc

theorem CompositeExact.opens_le (h : CompositeExact sources f delta) (hcover : (planShares f.world sources 0 delta).2≤0)
    (hi : Opens sources f.consumed (planShares f.world sources 0 delta).1 i)
    (hj : Opens sources f.consumed (planShares f.world sources 0 delta).1 j) : j ≤ i := by
  by_contra hlt
  set S := refusingAt f.world j sources 0 with hS
  set f₀ : CompositeFunding (Nat → Purse) := ⟨fun _ => ⟨0,0,0⟩,f.consumed,f.additional,fun _ => 0,[]⟩ with hf0
  have hs : AllSound purse Purse.account S := refusingAt_sound f.world j sources
  have hshape : SameShape sources f S f₀ := ⟨refusingAt_alike _ _ _ _ 0,rfl⟩
  have hplan := planShares_congr hshape.1 0 delta
  obtain ⟨-,-,hatomic,-⟩ := h _ _ _ _ S f₀ hs hshape
  have hi' := (opens_congr hshape).mpr hi
  obtain ⟨src,hsrc,hopen⟩ := (opens_congr hshape).mpr hj
  set adjustments := (planShares f₀.world S 0 delta).1 with hadj
  have hpositive : ∀ x, Opens S f₀.consumed adjustments x → 0<adjustments x := by
    rintro x ⟨a,-,hmust⟩
    simp only [mustOpen,decide_eq_true_eq] at hmust
    exact hmust.1
  have hdelta : 0<delta := by
    by_contra hn
    have hpos := hpositive i hi'
    rw [hadj,hplan] at hpos
    rcases sources with _ | ⟨a,rest⟩
    · simp [planShares] at hpos
    · simp [planShares,show delta≤0 by omega] at hpos
  have hplain : ∀ x a, x<j → S[x]? = some a → (∀ d w, (a.settle d w).2=none) ∧
      ∃ reserve, a.reserveAdditional=some reserve ∧ ∀ b w, (reserve b w).2=none := by
    intro x a hx ha
    rw [hS,getElem?_refusingAt,map_eq_some_iff] at ha
    obtain ⟨b,-,rfl⟩ := ha
    have hne : (0+x == j)=false := by simp; omega
    rw [hne]
    exact ⟨fun _ _ => rfl,_,rfl,fun _ _ => rfl⟩
  have hjlen := lt_length_of_opens ⟨src,hsrc,hopen⟩
  obtain ⟨applied,added,f1,hgo,hset,hlt1,hlt2,hopened⟩ := settleUp_reaches hs f₀
    adjustments hjlen hplain j (Nat.le_refl j)
  have hdrop : S.drop j=src::S.drop (j+1) := by
    rw [drop_eq_getElem_cons hjlen]
    rw [getElem?_eq_getElem hjlen,Option.some.injEq] at hsrc
    rw [hsrc]
  have hcons : f1.consumed j=f₀.consumed j := by
    rw [hset.consumed,totalAt_eq_zero fun a ha => (hlt1 a ha).ne,totalAt_eq_zero fun a ha => (hlt2 a ha).ne]
    omega
  have hrefuse : src.reserveAdditional=some fun _ w => (w,some (.message "refused")) := by
    rw [hS,getElem?_refusingAt,map_eq_some_iff] at hsrc
    obtain ⟨b,-,rfl⟩ := hsrc
    simp [plainSource]
  obtain ⟨f2,hroll,hkept⟩ := hset.rollback hs
  have hrun : settle S delta f₀=(f2,[.message "refused"]) := by
    have hcover' : ¬ (planShares f₀.world S 0 delta).2>0 := by rw [hplan]; omega
    simp only [settle,hdelta.ne',hdelta,if_true,if_false,gt_iff_lt]
    rw [if_neg hcover',hgo,hdrop]
    simp only [settleUp]
    rw [if_neg (fun hz => (hpositive j ⟨src,hsrc,hopen⟩).ne' hz.1),hcons,if_pos hopen]
    simp only [hrefuse,hroll]
  rw [hrun] at hatomic
  have hsame := congrFun (hatomic.2 (by simp)).2.1 i
  have hmoved := hkept.consumed i
  rw [hopened i (by omega) hi',totalAt] at hmoved
  have := hpositive i hi'
  simp only at hsame
  omega

/-- A composite keeps its promises, whatever its sources answer, exactly when no settlement
has two voucher sources to open. -/
theorem composite_exact_iff (sources : List (FundingSource W)) (f : CompositeFunding W) (delta : Int) :
    CompositeExact sources f delta ↔ OpensOnce sources f delta := by
  constructor
  · intro h hcover i j hi hj
    exact Nat.le_antisymm (h.opens_le hcover hj hi) (h.opens_le hcover hi hj)
  · exact OpensOnce.exact

def twoVouchers : List (FundingSource (Nat → Purse)) :=
  [plainSource .benefitVoucher (some 5) false 0,plainSource .benefitVoucher (some 5) true 1]

theorem opened_reservation_stays : AllSound purse Purse.account twoVouchers ∧
      ¬ Atomic purse Purse.account 2 (newCompositeFunding fun _ => ⟨0,0,0⟩) 8
        (settle twoVouchers 8 (newCompositeFunding fun _ => ⟨0,0,0⟩)) := by
  constructor
  · intro i src hsrc
    match i with
    | 0 => cases hsrc; exact plainSource_sound _ _ _ 0
    | 1 => cases hsrc; exact plainSource_sound _ _ _ 1
    | i+2 => simp [twoVouchers] at hsrc
  · intro h
    have hkept := congrFun (h.2 (by decide)).2.1 0
    revert hkept
    decide

end NewApi.Funding

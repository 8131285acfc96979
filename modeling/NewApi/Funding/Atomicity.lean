import Mathlib.Algebra.BigOperators.Intervals
import Mathlib.Algebra.Order.Ring.Int
import Mathlib.Tactic.Ring
import NewApi.Funding.Composite
import NewApi.Lib.Keyed

/-! All or nothing: what the hand-written compensations of `CompositeFunding` restore when a
source fails half way. Nothing is assumed of a source but that a call of it does what it is
asked or does nothing, and that the compensating calls go through. -/
namespace NewApi.Funding
open Function List CompositeFunding
variable {W A : Type}

/-- What a source holds: by pre-consumption, by extra reservations, by settlement. -/
structure Account where
  pre : Int
  extra : Int
  settled : Int

def Account.total (a : Account) : Int := a.pre+a.extra+a.settled

/-- What a call may do to the world: other sources keep their state, a failed call keeps the
source's own too, and a successful one moves its account by `move`. -/
structure Outcome (view : Nat → W → A) (acct : A → Account) (i : Nat) (w : W)
    (out : W×Option FundingError) (move : Account → Account) : Prop where
  others : ∀ j, j≠i → view j out.1=view j w
  failed : out.2≠none → view i out.1=view i w
  done : out.2=none → acct (view i out.1)=move (acct (view i w))

/-- The contract of the source at index `i`. `view` is the state of a source, with whatever
history it keeps; `acct` is its account. -/
structure Sound (view : Nat → W → A) (acct : A → Account) (i : Nat) (src : FundingSource W) : Prop where
  extra_nonneg : ∀ w, 0≤(acct (view i w)).extra
  preConsume : ∀ a w, 0<a → Outcome view acct i w (src.preConsume a w) fun c => { c with pre := c.pre+a }
  measured : ∀ a w m, 0<a → (src.preConsume a w).2=none → src.preConsumedAmount=some m → m (src.preConsume a w).1=a
  reserve : ∀ reserve, src.reserveAdditional=some reserve → ∀ a w, 0<a →
    Outcome view acct i w (reserve a w) fun c => { c with extra := c.extra+a }
  settle : ∀ d w, Outcome view acct i w (src.settle d w) fun c => { c with settled := c.settled+d }
  refund : ∀ w, (acct (view i w)).extra=0 → (acct (view i w)).settled=0 →
    (src.refund w).2=none ∧ Outcome view acct i w (src.refund w) fun c => { c with pre := 0 }
  refundAdditional : ∀ a w, 0<a → a≤(acct (view i w)).extra → ∃ refund,
    src.refundAdditional=some refund ∧ (refund a w).2=none ∧
      Outcome view acct i w (refund a w) fun c => { c with extra := c.extra-a }
  undo : ∀ d w w', (src.settle d w).2=none → view i w'=view i (src.settle d w).1 → (undoSettle src d w').2=none ∧
      Outcome view acct i w' (undoSettle src d w') fun c => { c with settled := c.settled-d }

def AllSound (view : Nat → W → A) (acct : A → Account) (sources : List (FundingSource W)) : Prop :=
  ∀ i src, sources[i]? = some src → Sound view acct i src

def totalAt : List Adjustment → Nat → Int
  | [], _ => 0
  | a::l, j => (if a.index=j then a.delta else 0)+totalAt l j

variable {l applied : List Adjustment}

theorem totalAt_eq_zero {j : Nat} (h : ∀ a∈l, a.index≠j) : totalAt l j=0 := by
  induction l with
  | nil => rfl
  | cons a l ih =>
    rw [totalAt,if_neg (h a (by simp)),ih fun b hb => h b (by simp [hb])]
    rfl

theorem bump_apply (v : Nat → Int) (i : Nat) (d : Int) (j : Nat) : bump v i d j=v j + if i=j then d else 0 := by
  by_cases h : i=j
  · subst h
    simp [bump]
  · simp [bump,h,Ne.symm h]

section
variable (view : Nat → W → A) (acct : A → Account)

def books (w : W) (j : Nat) : Account := acct (view j w)

/-- The weights of a compensation: what it takes off the account and the `additional` slice. -/
structure Weights where
  extra : Int
  settled : Int
  additional : Int

structure Undone (k : Weights) (adj : Adjustment) (f f' : CompositeFunding W) : Prop where
  others : ∀ j, j≠adj.index → view j f'.world=view j f.world
  book : books view acct f'.world adj.index =
    { books view acct f.world adj.index with
      extra := (books view acct f.world adj.index).extra-k.extra*adj.delta
      settled := (books view acct f.world adj.index).settled-k.settled*adj.delta }
  consumed : f'.consumed=bump f.consumed adj.index (-adj.delta)
  additional : f'.additional=bump f.additional adj.index (-(k.additional*adj.delta))

structure Unwound (k : Weights) (l : List Adjustment) (f f' : CompositeFunding W) : Prop where
  book : ∀ j, books view acct f'.world j =
    { books view acct f.world j with
      extra := (books view acct f.world j).extra-k.extra*totalAt l j
      settled := (books view acct f.world j).settled-k.settled*totalAt l j }
  consumed : ∀ j, f'.consumed j=f.consumed j-totalAt l j
  additional : ∀ j, f'.additional j=f.additional j-k.additional*totalAt l j

/-- Run rule of the compensation loops: if every adjustment of the list can be undone, and
stays so while others are, the loop undoes them all and reports no error. -/
theorem unwound {k : Weights} {loop : List Adjustment → CompositeFunding W → CompositeFunding W×Errors}
    {able : Adjustment → CompositeFunding W → Prop} (hnil : ∀ f, loop [] f=(f,[]))
    (hstep : ∀ adj l f, able adj f → ∃ f', Undone view acct k adj f f' ∧ loop (adj::l) f=loop l f')
    (hkeep : ∀ adj f f', able adj f → view adj.index f'.world=view adj.index f.world → able adj f')
    (l : List Adjustment) : ∀ f, (l.map (·.index)).Nodup → (∀ adj∈l, able adj f) →
      ∃ f', loop l f=(f',[]) ∧ Unwound view acct k l f f' := by
  induction l with
  | nil =>
    intro f _ _
    exact ⟨f,hnil f,by simp [totalAt],by simp [totalAt],by simp [totalAt]⟩
  | cons adj l ih =>
    intro f hn hable
    simp only [map_cons,nodup_cons] at hn
    obtain ⟨f1,hundone,hloop⟩ := hstep adj l f (hable adj (by simp))
    have hne : ∀ b∈l, b.index≠adj.index := fun b hb he => hn.1 (he ▸ mem_map_of_mem hb)
    obtain ⟨f',hrest,hunwound⟩ := ih f1 hn.2 fun b hb =>
      hkeep b f f1 (hable b (by simp [hb])) (hundone.others _ (hne b hb))
    refine ⟨f',hloop.trans hrest,fun j => ?_,fun j => ?_,fun j => ?_⟩
    · rw [hunwound.book j]
      by_cases hj : adj.index=j
      · subst hj
        rw [hundone.book,totalAt,if_pos rfl,totalAt_eq_zero hne]
        simp
      · have hsame : books view acct f1.world j=books view acct f.world j := by
          rw [books,hundone.others j (Ne.symm hj),books]
        rw [hsame,totalAt,if_neg hj,zero_add]
    · rw [hunwound.consumed j,hundone.consumed,bump_apply,totalAt]
      split <;> omega
    · rw [hunwound.additional j,hundone.additional,bump_apply,totalAt]
      by_cases hj : adj.index=j
      · simp only [hj,if_true]
        ring
      · simp [hj]

end

variable {view : Nat → W → A} {acct : A → Account} {sources : List (FundingSource W)}

def Undoable (view : Nat → W → A) (sources : List (FundingSource W)) (adj : Adjustment)
    (f : CompositeFunding W) : Prop :=
  ∃ src w, sources[adj.index]? = some src ∧ (src.settle adj.delta w).2=none ∧
    view adj.index f.world=view adj.index (src.settle adj.delta w).1

theorem rollbackCompositeSettlement_unwound (hs : AllSound view acct sources) (l : List Adjustment)
    (f : CompositeFunding W) (hn : (l.map (·.index)).Nodup) (hable : ∀ adj∈l, Undoable view sources adj f) :
    ∃ f', rollbackCompositeSettlement sources l f=(f',[]) ∧ Unwound view acct ⟨0,1,0⟩ l f f' := by
  refine unwound view acct (fun _ => rfl) ?_ ?_ l f hn hable
  · rintro adj l f ⟨src,w,hsrc,hset,hview⟩
    obtain ⟨hok,hout⟩ := (hs _ _ hsrc).undo adj.delta w f.world hset hview
    refine ⟨{ f with world := (undoSettle src adj.delta f.world).1
                     consumed := bump f.consumed adj.index (-adj.delta) },⟨hout.others,?_,rfl,?_⟩,?_⟩
    · simp only [books,hout.done hok]
      simp
    · funext j
      simp [bump_apply]
    · rw [rollbackCompositeSettlement,hsrc]
      simp only
      rcases hcall : undoSettle src adj.delta f.world with ⟨w',err⟩
      rw [hcall] at hok
      simp only at hok
      subst hok
      rfl
  · rintro adj f f' ⟨src,w,hsrc,hset,hview⟩ hsame
    exact ⟨src,w,hsrc,hset,hsame.trans hview⟩

def Held (view : Nat → W → A) (acct : A → Account) (sources : List (FundingSource W)) (adj : Adjustment)
    (f : CompositeFunding W) : Prop :=
  (∃ src, sources[adj.index]? = some src) ∧ 0<adj.delta ∧ adj.delta≤(books view acct f.world adj.index).extra

variable {f f' f₀ : CompositeFunding W}

theorem Held.keep {adj : Adjustment} (h : Held view acct sources adj f)
    (hsame : view adj.index f'.world=view adj.index f.world) : Held view acct sources adj f' := by
  obtain ⟨hsrc,hpos,hle⟩ := h
  refine ⟨hsrc,hpos,?_⟩
  rw [books,hsame]
  exact hle

theorem rollbackCompositeAdditional_unwound (hs : AllSound view acct sources) (l : List Adjustment)
    (f : CompositeFunding W) (hn : (l.map (·.index)).Nodup) (hable : ∀ adj∈l, Held view acct sources adj f) :
    ∃ f', rollbackCompositeAdditional sources l f=(f',[]) ∧ Unwound view acct ⟨1,0,1⟩ l f f' := by
  refine unwound view acct (fun _ => rfl) ?_ (fun _ _ _ => Held.keep) l f hn hable
  rintro adj l f ⟨⟨src,hsrc⟩,hpos,hle⟩
  obtain ⟨refund,hrefund,hok,hout⟩ := (hs _ _ hsrc).refundAdditional adj.delta f.world hpos hle
  refine ⟨{ f with world := (refund adj.delta f.world).1
                   consumed := bump f.consumed adj.index (-adj.delta)
                   additional := bump f.additional adj.index (-adj.delta) },⟨hout.others,?_,rfl,?_⟩,?_⟩
  · simp only [books,hout.done hok]
    simp
  · simp
  · rw [rollbackCompositeAdditional,hsrc]
    simp only [hrefund]
    rcases hcall : refund adj.delta f.world with ⟨w',err⟩
    rw [hcall] at hok
    simp only at hok
    subst hok
    rfl

theorem refundAdded_unwound (hs : AllSound view acct sources) (l : List Adjustment)
    (f : CompositeFunding W) (hn : (l.map (·.index)).Nodup) (hable : ∀ adj∈l, Held view acct sources adj f) :
    ∃ f', refundAdded sources l f=(f',[]) ∧ Unwound view acct ⟨1,0,0⟩ l f f' := by
  refine unwound view acct (fun _ => rfl) ?_ (fun _ _ _ => Held.keep) l f hn hable
  rintro adj l f ⟨⟨src,hsrc⟩,hpos,hle⟩
  obtain ⟨refund,hrefund,hok,hout⟩ := (hs _ _ hsrc).refundAdditional adj.delta f.world hpos hle
  refine ⟨{ f with world := (refund adj.delta f.world).1
                   consumed := bump f.consumed adj.index (-adj.delta) },⟨hout.others,?_,rfl,?_⟩,?_⟩
  · simp only [books,hout.done hok]
    simp
  · funext j
    simp [bump_apply]
  · rw [refundAdded,hsrc]
    simp only [hrefund]
    rcases hcall : refund adj.delta f.world with ⟨w',err⟩
    rw [hcall] at hok
    simp only at hok
    subst hok
    rfl

theorem totalAt_of_mem (hn : (l.map (·.index)).Nodup) {a : Adjustment} (ha : a∈l) : totalAt l a.index=a.delta := by
  induction l with
  | nil => simp at ha
  | cons b l ih =>
    simp only [map_cons,nodup_cons,mem_map,not_exists,not_and] at hn
    rcases mem_cons.mp ha with rfl | ha
    · rw [totalAt,if_pos rfl,totalAt_eq_zero hn.1]
      omega
    · rw [totalAt,if_neg (Ne.symm (hn.1 a ha)),ih hn.2 ha]
      omega

variable {i n index : Nat}

theorem head_of_drop {α : Type*} {l xs : List α} {x : α} (h : x::xs=l.drop i) : l[i]? = some x ∧ xs=l.drop (i+1) := by
  constructor
  · have h0 : (l.drop i)[0]? = some x := by rw [← h]; rfl
    rwa [getElem?_drop] at h0
  · have ht : (l.drop i).tail=xs := by rw [← h]; rfl
    rw [← ht,tail_drop]

def Restored (view : Nat → W → A) (acct : A → Account) (f f' : CompositeFunding W) : Prop :=
  (∀ j, books view acct f'.world j=books view acct f.world j) ∧ f'.consumed=f.consumed ∧ f'.additional=f.additional

def Atomic (view : Nat → W → A) (acct : A → Account) (n : Nat) (f : CompositeFunding W) (amount : Int)
    (out : CompositeFunding W×Errors) : Prop :=
  (out.2=[] → ∑ j∈Finset.range n,out.1.consumed j = ∑ j∈Finset.range n,f.consumed j+amount ∧
    ∀ j, (books view acct out.1.world j).total-(books view acct f.world j).total = out.1.consumed j-f.consumed j) ∧
  (out.2≠[] → Restored view acct f out.1)

theorem share_bounds (src : FundingSource W) {remaining : Int} (w : W) (h : 0<remaining) :
    0 ≤ share src remaining w ∧ share src remaining w≤remaining := by
  unfold share
  split
  · simp only
    split <;> split <;> omega
  · omega

theorem planShares_spec (w : W) (srcs : List (FundingSource W)) : ∀ (index : Nat) (remaining : Int), 0≤remaining →
      ∀ r, planShares w srcs index remaining=r → 0≤r.2 ∧ (∀ j, 0≤r.1 j) ∧ (∀ j, j < index ∨ index+srcs.length≤j → r.1 j=0) ∧
        ∀ n, index+srcs.length≤n → ∑ j∈Finset.range n, r.1 j=remaining-r.2 := by
  induction srcs with
  | nil =>
    rintro index remaining h _ rfl
    simp [planShares,h]
  | cons src rest ih =>
    rintro index remaining h _ rfl
    by_cases hr : remaining≤0
    · simp [planShares,hr,h]
    obtain ⟨h0,hle⟩ := share_bounds src w (show 0<remaining by omega)
    obtain ⟨hleft,hpos,hout,hsum⟩ := ih (index+1) (remaining-share src remaining w) (by omega) _ rfl
    simp only [planShares,if_neg hr,length_cons]
    refine ⟨hleft,fun j => ?_,fun j hj => ?_,fun n hn => ?_⟩
    · by_cases hj : j=index
      · subst hj
        simpa [put] using h0
      · simpa [put,hj] using hpos j
    · have hne : j≠index := by omega
      rw [put,update_of_ne hne]
      exact hout j (by omega)
    · have hmove := Keyed.sum_move (S := Finset.range n) (i := index)
        (f := (planShares w rest (index+1) (remaining-share src remaining w)).1)
        (g := put (planShares w rest (index+1) (remaining-share src remaining w)).1 index
          (share src remaining w)) (by simp; omega) (fun j hj => by rw [put,update_of_ne hj])
      rw [hmove,hsum n (by omega),hout index (by omega)]
      simp only [put,update_self]
      omega

theorem planRefunds_spec (consumed : Nat → Int) (m : Nat) : ∀ (remaining : Int), 0≤remaining →
      ∀ r, planRefunds consumed m remaining=r → 0≤r.2 ∧ (∀ j, m≤j → r.1 j=0) ∧
        ∀ n, m≤n → ∑ j∈Finset.range n, r.1 j=r.2-remaining := by
  induction m with
  | zero =>
    rintro remaining h _ rfl
    simp [planRefunds,h]
  | succ m ih =>
    rintro remaining h _ rfl
    by_cases hr : remaining≤0
    · simp [planRefunds,hr,h]
    simp only [planRefunds,if_neg hr]
    set refund := if consumed m>remaining then remaining else consumed m with hdef
    have hle : refund≤remaining := by
      rw [hdef]
      split <;> omega
    by_cases hz : refund=0
    · simp only [hz,if_true]
      obtain ⟨hleft,hout,hsum⟩ := ih remaining h _ rfl
      exact ⟨hleft,fun j hj => hout j (by omega),fun n hn => hsum n (by omega)⟩
    · simp only [hz,if_false]
      obtain ⟨hleft,hout,hsum⟩ := ih (remaining-refund) (by omega) _ rfl
      refine ⟨hleft,fun j hj => ?_,fun n hn => ?_⟩
      · have hne : j≠m := by omega
        rw [put,update_of_ne hne]
        exact hout j (by omega)
      · have hmove := Keyed.sum_move (S := Finset.range n) (i := m) (f := (planRefunds consumed m (remaining-refund)).1)
          (g := put (planRefunds consumed m (remaining-refund)).1 m (-refund)) (by simp; omega)
          (fun j hj => by rw [put,update_of_ne hj])
        rw [hmove,hsum n (by omega),hout m (by omega)]
        simp only [put,update_self]
        omega

structure Reserving (view : Nat → W → A) (acct : A → Account) (sources : List (FundingSource W))
    (f₀ f : CompositeFunding W) (applied : List Adjustment) : Prop where
  book : ∀ j, books view acct f.world j={ books view acct f₀.world j with
    extra := (books view acct f₀.world j).extra+totalAt applied j }
  consumed : ∀ j, f.consumed j=f₀.consumed j+totalAt applied j
  additional : ∀ j, f.additional j=f₀.additional j+totalAt applied j
  nodup : (applied.map (·.index)).Nodup
  held : ∀ a∈applied, Held view acct sources a f

theorem Reserving.world (h : Reserving view acct sources f₀ f applied) {w : W}
    (hw : ∀ j, view j w=view j f.world) :
    Reserving view acct sources f₀ { f with world := w } applied := by
  refine ⟨fun j => ?_,h.consumed,h.additional,h.nodup,fun a ha => (h.held a ha).keep (hw _)⟩
  rw [← h.book j,books,books,hw]

theorem Reserving.rollback (hs : AllSound view acct sources) (h : Reserving view acct sources f₀ f applied) :
    Restored view acct f₀ (rollbackCompositeAdditional sources applied f).1 := by
  obtain ⟨f',hloop,hun⟩ := rollbackCompositeAdditional_unwound hs applied f h.nodup h.held
  rw [hloop]
  refine ⟨fun j => ?_,funext fun j => ?_,funext fun j => ?_⟩
  · rw [hun.book j,h.book j]
    simp
  · rw [hun.consumed j,h.consumed j]
    omega
  · rw [hun.additional j,h.additional j]
    simp

theorem Outcome.view_eq {w w' : W} {err : FundingError} {move : Account → Account}
    (h : Outcome view acct i w (w',some err) move) (j : Nat) : view j w'=view j w := by
  by_cases hj : j=i
  · subst hj
    exact h.failed (by simp)
  · exact h.others j hj

theorem Reserving.cons (hs : AllSound view acct sources) {f₀ f : CompositeFunding W}
    {applied : List Adjustment} (h : Reserving view acct sources f₀ f applied) {index : Nat}
    {src : FundingSource W} (hsrc : sources[index]? = some src) (hlt : ∀ a∈applied, a.index < index)
    {d : Int} (hd : 0<d) {w : W}
    (hout : Outcome view acct index f.world (w,none) fun c => { c with extra := c.extra+d }) :
    Reserving view acct sources f₀ { f with world := w, consumed := bump f.consumed index d,
                                            additional := bump f.additional index d }
      (⟨index,d⟩::applied) := by
  have hself : books view acct w index={ books view acct f.world index with
      extra := (books view acct f.world index).extra+d } := hout.done rfl
  have hzero : totalAt applied index=0 := totalAt_eq_zero fun a ha => (hlt a ha).ne
  refine ⟨fun j => ?_,fun j => ?_,fun j => ?_,?_,fun a ha => ?_⟩
  · by_cases hj : index=j
    · subst hj
      rw [hself,h.book,totalAt,if_pos rfl,hzero]
      simp
    · have hsame : books view acct w j=books view acct f.world j := congrArg acct (hout.others j (Ne.symm hj))
      rw [hsame,h.book j,totalAt,if_neg hj,zero_add]
  · simp only [bump_apply,h.consumed j,totalAt]
    omega
  · simp only [bump_apply,h.additional j,totalAt]
    omega
  · simp only [map_cons,nodup_cons,mem_map,not_exists,not_and]
    exact ⟨fun a ha => (hlt a ha).ne,h.nodup⟩
  · rcases mem_cons.mp ha with rfl | ha
    · refine ⟨⟨src,hsrc⟩,hd,?_⟩
      have hnonneg := (hs _ _ hsrc).extra_nonneg f.world
      simp only [hself]
      simp only [books]
      omega
    · exact (h.held a ha).keep (hout.others _ (hlt a ha).ne)

def Planned (planned : Nat → Int) (index : Nat) (applied : List Adjustment) : Prop :=
  ∀ j, totalAt applied j = if j < index then planned j else 0

section
variable {planned : Nat → Int} {index : Nat} {applied : List Adjustment}

theorem Planned.skip (h : Planned planned index applied) (hz : planned index=0) : Planned planned (index+1) applied := by
  intro j
  rw [h j]
  by_cases hj : j=index
  · subst hj
    simp [hz]
  · simp only [show (j < index+1)=(j < index) from propext (by omega)]

theorem Planned.cons (h : Planned planned index applied) :
    Planned planned (index+1) (⟨index,planned index⟩::applied) := by
  intro j
  rw [totalAt,h j]
  by_cases hj : index=j
  · subst hj
    simp
  · simp only [hj,if_false,zero_add,show (j < index+1)=(j < index) from propext (by omega)]

end

theorem reserveLoop_spec (hs : AllSound view acct sources) (f₀ : CompositeFunding W) {planned : Nat → Int}
    (hpos : ∀ j, 0≤planned j) (rest : List (FundingSource W)) :
    ∀ (index : Nat) (applied : List Adjustment) (f : CompositeFunding W), rest=sources.drop index →
      Reserving view acct sources f₀ f applied → (∀ a∈applied, a.index < index) → Planned planned index applied →
      ∀ r, reserveLoop sources planned rest index applied f=r → (r.2.2≠[] → Restored view acct f₀ r.1) ∧
        (r.2.2=[] → ∃ applied', Reserving view acct sources f₀ r.1 applied' ∧ Planned planned (index+rest.length) applied') := by
  induction rest with
  | nil =>
    rintro index applied f _ h _ htotal _ rfl
    exact ⟨fun he => absurd rfl he,fun _ => ⟨applied,h,htotal⟩⟩
  | cons src rest ih =>
    rintro index applied f hrest h hlt htotal _ rfl
    obtain ⟨hsrc,hrest⟩ := head_of_drop hrest
    have hlt' : ∀ a∈applied, a.index < index+1 := fun a ha => Nat.lt_succ_of_lt (hlt a ha)
    rw [length_cons,Nat.add_comm rest.length,← Nat.add_assoc]
    by_cases hz : planned index=0
    · simp only [reserveLoop,if_pos hz]
      exact ih (index+1) applied f hrest h hlt' (htotal.skip hz) _ rfl
    · simp only [reserveLoop,if_neg hz]
      rcases hres : src.reserveAdditional with _ | reserve
      · simp only
        exact ⟨fun _ => h.rollback hs,fun he => by simp at he⟩
      · simp only
        have hd : 0<planned index := by
          have := hpos index
          omega
        have hout := (hs _ _ hsrc).reserve reserve hres (planned index) f.world hd
        rcases hcall : reserve (planned index) f.world with ⟨w,_ | err⟩
        · rw [hcall] at hout
          have hstep := h.cons hs hsrc hlt hd hout
          refine ih (index+1) _ _ hrest hstep (fun a ha => ?_) htotal.cons _ rfl
          obtain rfl | ha := mem_cons.mp ha
          · exact Nat.lt_succ_self _
          · exact hlt' a ha
        · rw [hcall] at hout
          exact ⟨fun _ => (h.world hout.view_eq).rollback hs,fun he => by simp at he⟩

/-- A successful `ReserveAdditional` adds the split `d` of the amount to the accounts. -/
structure ReservedMore (view : Nat → W → A) (acct : A → Account) (n : Nat) (amount : Int)
    (f f' : CompositeFunding W) (d : Nat → Int) : Prop where
  nonneg : ∀ j, 0≤d j
  above : ∀ j, n≤j → d j=0
  sum : ∑ j∈Finset.range n, d j=amount
  book : ∀ j, books view acct f'.world j =
    { books view acct f.world j with extra := (books view acct f.world j).extra+d j }
  consumed : ∀ j, f'.consumed j=f.consumed j+d j
  additional : ∀ j, f'.additional j=f.additional j+d j

variable {amount : Int}

theorem reserveAdditional_spec (hs : AllSound view acct sources) (f : CompositeFunding W) (h : 0≤amount) :
    ∀ r, reserveAdditional sources amount f=r → (r.2≠[] → Restored view acct f r.1) ∧
      (r.2=[] → ∃ d, ReservedMore view acct sources.length amount f r.1 d) := by
  rintro _ rfl
  unfold reserveAdditional
  by_cases h0 : amount≤0
  · rw [if_pos h0]
    have hz : amount=0 := by omega
    exact ⟨fun he => absurd rfl he,fun _ => ⟨fun _ => 0,by simp,by simp,by simp [hz],by simp,by simp,by simp⟩⟩
  · rw [if_neg h0]
    obtain ⟨hleft,hpos,hout,hsum⟩ := planShares_spec f.world sources 0 amount h _ rfl
    simp only
    by_cases hr : (planShares f.world sources 0 amount).2>0
    · rw [if_pos hr]
      exact ⟨fun _ => ⟨fun _ => rfl,rfl,rfl⟩,fun he => by simp at he⟩
    · rw [if_neg hr]
      set f1 : CompositeFunding W := { f with lastReserve := [] }
      obtain ⟨hfail,hok⟩ := reserveLoop_spec hs f hpos sources 0 [] f1 (by simp)
        ⟨fun j => by simp [totalAt,f1],fun j => by simp [totalAt,f1],fun j => by simp [totalAt,f1],
          by simp,by simp⟩ (by simp) (fun _ => by simp [totalAt]) _ rfl
      by_cases he : (reserveLoop sources (planShares f.world sources 0 amount).1 sources 0 [] f1).2.2=[]
      · obtain ⟨applied,hres,htotal⟩ := hok he
        have htotal' : ∀ j, totalAt applied j=(planShares f.world sources 0 amount).1 j := by
          intro j
          rw [htotal j]
          split
          · rfl
          · exact (hout j (by omega)).symm
        simp only [he,ne_eq,not_true_eq_false,if_false]
        have hall := hsum sources.length (by simp)
        refine ⟨False.elim,fun _ => ⟨totalAt applied,fun j => ?_,fun j hj => ?_,?_,hres.book, hres.consumed,hres.additional⟩⟩
        · rw [htotal' j]
          exact hpos j
        · rw [htotal' j]
          exact hout j (by omega)
        · simp only [htotal',hall]
          omega
      · simp only [ne_eq,he,not_false_eq_true,if_true]
        exact ⟨fun _ => hfail he,False.elim⟩

theorem reserveAdditional_atomic (hs : AllSound view acct sources) (f : CompositeFunding W) (h : 0≤amount) :
    Atomic view acct sources.length f amount (reserveAdditional sources amount f) := by
  obtain ⟨hfail,hok⟩ := reserveAdditional_spec hs f h _ rfl
  refine ⟨fun he => ?_,hfail⟩
  obtain ⟨d,hd⟩ := hok he
  refine ⟨?_,fun j => ?_⟩
  · simp only [hd.consumed,Finset.sum_add_distrib,hd.sum]
  simp only [hd.book j,hd.consumed j,Account.total]
  omega

structure Fresh (view : Nat → W → A) (acct : A → Account) (f : CompositeFunding W) : Prop where
  book : ∀ j, books view acct f.world j=⟨0,0,0⟩
  consumed : ∀ j, f.consumed j=0
  additional : ∀ j, f.additional j=0

/-- The slices say what the sources hold, and nothing is settled yet. -/
structure Tracks (view : Nat → W → A) (acct : A → Account) (f : CompositeFunding W) : Prop where
  book : ∀ j, books view acct f.world j=⟨f.consumed j-f.additional j,f.additional j,0⟩
  additional : ∀ j, 0≤f.additional j ∧ f.additional j≤f.consumed j

theorem Fresh.tracks (h : Fresh view acct f) : Tracks view acct f :=
  ⟨fun j => by rw [h.book,h.consumed,h.additional]; rfl,fun j => by rw [h.consumed,h.additional]; simp⟩

theorem Tracks.fresh (h : Tracks view acct f) (hz : ∀ j, f.consumed j=0) : Fresh view acct f := by
  have hadd : ∀ j, f.additional j=0 := fun j => by
    have := h.additional j
    have := hz j
    omega
  exact ⟨fun j => by rw [h.book,hz,hadd]; rfl,hz,hadd⟩

theorem Tracks.of_restored (h : Tracks view acct f) (hr : Restored view acct f f') : Tracks view acct f' := by
  obtain ⟨hbook,hc,ha⟩ := hr
  refine ⟨fun j => ?_,fun j => ?_⟩
  · rw [hbook,hc,ha]
    exact h.book j
  · rw [hc,ha]
    exact h.additional j

theorem Tracks.reserveAdditional (hs : AllSound view acct sources) (h : Tracks view acct f)
    (hz : ∀ j, sources.length≤j → f.consumed j=0) (ha : 0≤amount) : Tracks view acct (reserveAdditional sources amount f).1 ∧
      ∀ j, sources.length≤j → (CompositeFunding.reserveAdditional sources amount f).1.consumed j=0 := by
  obtain ⟨hfail,hok⟩ := reserveAdditional_spec hs f ha _ rfl
  by_cases he : (CompositeFunding.reserveAdditional sources amount f).2=[]
  · obtain ⟨d,hd⟩ := hok he
    refine ⟨⟨fun j => ?_,fun j => ?_⟩,fun j hj => ?_⟩
    · rw [hd.book j,hd.consumed j,hd.additional j,h.book j]
      simp only [Account.mk.injEq,and_true]
      omega
    · rw [hd.consumed j,hd.additional j]
      have := h.additional j
      have := hd.nonneg j
      omega
    · rw [hd.consumed j,hz j hj,hd.above j hj]
      rfl
  · have hr := hfail he
    refine ⟨h.of_restored hr,fun j hj => ?_⟩
    rw [hr.2.1]
    exact hz j hj

theorem Tracks.cleared {f : CompositeFunding W} (h : Tracks view acct f) {n : Nat} {w : W}
    (additional : Nat → Int) (hbook : books view acct w n=⟨0,0,0⟩)
    (hothers : ∀ j, j≠n → view j w=view j f.world) (hself : additional n=0)
    (hadd : ∀ j, j≠n → additional j=f.additional j) :
    Tracks view acct { f with world := w, consumed := put f.consumed n 0, additional := additional } := by
  refine ⟨fun j => ?_,fun j => ?_⟩
  · by_cases hj : j=n
    · subst hj
      simp [hbook,put,hself]
    · have hsame : books view acct w j=books view acct f.world j := congrArg acct (hothers j hj)
      simp only [hsame,h.book j,put,update_of_ne hj,hadd j hj]
  · by_cases hj : j=n
    · subst hj
      simp [put,hself]
    · simp only [put,update_of_ne hj,hadd j hj]
      exact h.additional j

theorem cleared_above {v : Nat → Int} (h : ∀ j, n+1≤j → v j=0) : ∀ j, n≤j → put v n 0 j=0 := by
  intro j hj
  by_cases he : j=n
  · simp [put,he]
  rw [put,update_of_ne he]
  exact h j (by omega)

theorem refundConsumed_fresh (hs : AllSound view acct sources) (m : Nat) :
    ∀ f : CompositeFunding W, m ≤ sources.length → Tracks view acct f → (∀ j, f.additional j=0) → (∀ j, m≤j → f.consumed j=0) →
      (refundConsumed sources m f).2=[] ∧ Fresh view acct (refundConsumed sources m f).1 := by
  induction m with
  | zero =>
    intro f _ h _ hz
    exact ⟨rfl,h.fresh fun j => hz j (Nat.zero_le j)⟩
  | succ n ih =>
    intro f hm h hadd hz
    obtain ⟨src,hsrc⟩ : ∃ src, sources[n]? = some src := ⟨_,getElem?_eq_getElem (by omega)⟩
    rw [refundConsumed,hsrc]
    by_cases hc : f.consumed n>0
    · simp only [if_pos hc]
      have hb := h.book n
      rw [hadd] at hb
      obtain ⟨hok,hout⟩ := (hs _ _ hsrc).refund f.world (congrArg Account.extra hb) (congrArg Account.settled hb)
      have hdone := hout.done hok
      rcases hcall : src.refund f.world with ⟨w,err⟩
      rw [hcall] at hok hout hdone
      simp only at hok hdone
      subst hok
      have hcleared : books view acct w n=⟨0,0,0⟩ := by
        rw [books,hdone]
        simp only [books] at hb
        rw [hb]
      refine ih _ (by omega) (h.cleared _ hcleared hout.others (by simp [put]) fun j hj => by
        rw [put,update_of_ne hj]) (fun j => ?_) (cleared_above hz)
      by_cases hj : j=n
      · simp [put,hj]
      · simpa [put,hj] using hadd j
    · simp only [if_neg hc]
      refine ih f (by omega) h hadd fun j hj => ?_
      by_cases he : j=n
      · subst he
        have := h.additional j
        omega
      · exact hz j (by omega)

structure PreConsuming (view : Nat → W → A) (acct : A → Account) (index : Nat) (f : CompositeFunding W) :
    Prop where
  tracks : Tracks view acct f
  additional : ∀ j, f.additional j=0
  above : ∀ j, index≤j → f.consumed j=0

section
variable (h : PreConsuming view acct index f)
include h

theorem PreConsuming.world {w : W} (hw : ∀ j, view j w=view j f.world) :
    PreConsuming view acct index { f with world := w } := by
  refine ⟨⟨fun j => ?_,h.tracks.additional⟩,h.additional,h.above⟩
  rw [← h.tracks.book j,books,books,hw]

theorem PreConsuming.succ : PreConsuming view acct (index+1) f :=
  ⟨h.tracks,h.additional,fun j hj => h.above j (by omega)⟩

theorem PreConsuming.put {a : Int} (ha : 0<a) {w : W}
    (hout : Outcome view acct index f.world (w,none) fun c => { c with pre := c.pre+a }) :
    PreConsuming view acct (index+1) { f with world := w, consumed := put f.consumed index a } := by
  refine ⟨⟨fun j => ?_,fun j => ?_⟩,h.additional,fun j hj => ?_⟩
  · by_cases hj : j=index
    · subst hj
      have hself : books view acct w j=_ := hout.done rfl
      have hb := h.tracks.book j
      rw [books] at hb
      rw [hself]
      simp only [hb,Funding.put,update_self,h.above j (Nat.le_refl j),h.additional j]
      simp
    · have hsame : books view acct w j=books view acct f.world j := congrArg acct (hout.others j hj)
      simp only [hsame,h.tracks.book j,Funding.put,update_of_ne hj]
  · by_cases hj : j=index
    · subst hj
      simp only [Funding.put,update_self,h.additional j]
      omega
    · simp only [Funding.put,update_of_ne hj]
      exact h.tracks.additional j
  · have hne : j≠index := by omega
    simp only [Funding.put,update_of_ne hne]
    exact h.above j (by omega)

end

theorem attempt_le (src : FundingSource W) (remaining : Int) (w : W) : attempt src remaining w≤remaining := by
  unfold attempt
  split
  · split <;> omega
  · omega

theorem preConsumeLoop_spec (hs : AllSound view acct sources) (rest : List (FundingSource W)) :
    ∀ (index : Nat) (remaining : Int) (f : CompositeFunding W), rest=sources.drop index →
      index+rest.length=sources.length → 0≤remaining → PreConsuming view acct index f →
      ∀ r, preConsumeLoop sources rest index remaining f=r → (r.2.2≠[] → Fresh view acct r.1) ∧
        (r.2.2=[] → PreConsuming view acct sources.length r.1 ∧ 0≤r.2.1 ∧ ∑ j∈Finset.range sources.length, r.1.consumed j =
          ∑ j∈Finset.range sources.length,f.consumed j+remaining-r.2.1) := by
  induction rest with
  | nil =>
    rintro index remaining f _ hlen hrem h _ rfl
    simp only [length_nil,Nat.add_zero] at hlen
    subst hlen
    exact ⟨fun he => absurd rfl he,fun _ => ⟨h,hrem,by simp [preConsumeLoop]⟩⟩
  | cons src rest ih =>
    rintro index remaining f hrest hlen hrem h _ rfl
    have hdone : PreConsuming view acct sources.length f :=
      ⟨h.tracks,h.additional,fun j hj => h.above j (by omega)⟩
    obtain ⟨hsrc,hrest⟩ := head_of_drop hrest
    simp only [length_cons] at hlen
    by_cases h0 : remaining≤0
    · simp only [preConsumeLoop,if_pos h0]
      exact ⟨fun he => absurd rfl he,fun _ => ⟨hdone,hrem,by omega⟩⟩
    by_cases hatt : attempt src remaining f.world≤0
    · simp only [preConsumeLoop,if_neg h0,if_pos hatt]
      exact ih (index+1) remaining f hrest (by omega) hrem h.succ _ rfl
    have hle := attempt_le src remaining f.world
    simp only [preConsumeLoop,if_neg h0,if_neg hatt]
    set a := attempt src remaining f.world
    have hout := (hs _ _ hsrc).preConsume a f.world (by omega)
    have hmeasured := (hs _ _ hsrc).measured a f.world
    rcases hcall : src.preConsume a f.world with ⟨w,_ | err⟩
    · rw [hcall] at hout hmeasured
      have htaken : measured src a w=a := by
        unfold measured
        rcases hm : src.preConsumedAmount with _ | m
        · rfl
        · exact hmeasured m (by omega) rfl hm
      simp only [htaken]
      rw [if_neg (by omega)]
      have hstep := h.put (show 0<a by omega) hout
      obtain ⟨hfail,hok⟩ := ih (index+1) (remaining-a) _ hrest (by omega) (by omega) hstep _ rfl
      refine ⟨hfail,fun he => ?_⟩
      obtain ⟨hpre,hleft,hsum⟩ := hok he
      refine ⟨hpre,hleft,?_⟩
      have hmove := Keyed.sum_move (S := Finset.range sources.length) (i := index) (f := f.consumed)
        (g := put f.consumed index a) (by simp; omega) (fun j hj => by rw [put,update_of_ne hj])
      rw [hsum,hmove,h.above index (Nat.le_refl _)]
      simp only [put,update_self]
      omega
    · rw [hcall] at hout
      have hsame := h.world hout.view_eq
      simp only
      by_cases hskip : err.skippable=true
      · rw [if_pos hskip]
        exact ih (index+1) remaining _ hrest (by omega) hrem hsame.succ _ rfl
      · rw [if_neg hskip]
        have hback := refundConsumed_fresh hs index _ (by omega) hsame.tracks hsame.additional hsame.above
        exact ⟨fun _ => hback.2,fun he => by simp at he⟩

theorem Fresh.restored (h : Fresh view acct f) (h' : Fresh view acct f') : Restored view acct f f' :=
  ⟨fun j => by rw [h.book,h'.book],funext fun j => by rw [h.consumed,h'.consumed],
    funext fun j => by rw [h.additional,h'.additional]⟩

section
variable (hs : AllSound view acct sources)
include hs

theorem preConsume_atomic (hf : Fresh view acct f) (h : 0≤amount) :
    Atomic view acct sources.length f amount (preConsume sources amount f) ∧ Tracks view acct (preConsume sources amount f).1 ∧
      ∀ j, sources.length≤j → (preConsume sources amount f).1.consumed j=0 := by
  unfold preConsume
  by_cases h0 : amount≤0
  · rw [if_pos h0]
    have hz : amount=0 := by omega
    exact ⟨⟨fun _ => ⟨by simp [hz],fun j => by simp⟩,fun he => absurd rfl he⟩,hf.tracks, fun j _ => hf.consumed j⟩
  · rw [if_neg h0]
    obtain ⟨hfail,hok⟩ := preConsumeLoop_spec hs sources 0 amount f (by simp) (by simp) h
      ⟨hf.tracks,hf.additional,fun j _ => hf.consumed j⟩ _ rfl
    simp only
    by_cases he : (preConsumeLoop sources sources 0 amount f).2.2=[]
    · obtain ⟨hpre,hleft,hsum⟩ := hok he
      simp only [he,ne_eq,not_true_eq_false,if_false]
      by_cases hr : (preConsumeLoop sources sources 0 amount f).2.1>0
      · rw [if_pos hr]
        obtain ⟨-,hback⟩ := refundConsumed_fresh hs sources.length _ (Nat.le_refl _) hpre.tracks
          hpre.additional hpre.above
        exact ⟨⟨fun hn => by simp at hn,fun _ => hf.restored hback⟩,hback.tracks,fun j _ => hback.consumed j⟩
      · rw [if_neg hr]
        have hzero : (preConsumeLoop sources sources 0 amount f).2.1=0 := by omega
        refine ⟨⟨fun _ => ⟨by rw [hsum,hzero,Int.sub_zero],fun j => ?_⟩,fun hn => absurd rfl hn⟩,hpre.tracks, hpre.above⟩
        rw [hpre.tracks.book j,hf.book j,hf.consumed j]
        simp only [Account.total]
        omega
    · simp only [ne_eq,he,not_false_eq_true,if_true]
      have hback := hfail he
      exact ⟨⟨fun hn => absurd hn he,fun _ => hf.restored hback⟩,hback.tracks,fun j _ => hback.consumed j⟩

theorem releaseAdditional_spec (h : Tracks view acct f)
    {src : FundingSource W} (hsrc : sources[n]? = some src) :
    ∃ w, releaseAdditional src n f =
        ({ f with world := w, consumed := bump f.consumed n (-f.additional n), additional := put f.additional n 0 },[]) ∧
      acct (view n w)=⟨f.consumed n-f.additional n,0,0⟩ ∧ ∀ j, j≠n → view j w=view j f.world := by
  have hb : acct (view n f.world)=_ := h.book n
  unfold releaseAdditional
  by_cases hadd : f.additional n>0
  · rw [if_pos hadd]
    obtain ⟨refund,hrefund,hok,hout⟩ := (hs _ _ hsrc).refundAdditional (f.additional n) f.world hadd (by rw [hb])
    have hdone := hout.done hok
    rcases hcall : refund (f.additional n) f.world with ⟨w,err⟩
    rw [hcall] at hok hout hdone
    simp only at hok hdone
    subst hok
    refine ⟨w,by simp only [hrefund,hcall],?_,hout.others⟩
    rw [hdone,hb]
    simp
  · rw [if_neg hadd]
    have hzero : f.additional n=0 := by
      have := h.additional n
      omega
    have hsame : put f.additional n 0=f.additional := by
      rw [← hzero]
      exact update_eq_self _ _
    have hsame' : bump f.consumed n (-f.additional n)=f.consumed := by
      simp [bump,hzero]
    exact ⟨f.world,by rw [hsame,hsame'],by rw [hb,hzero],fun _ _ => rfl⟩

theorem refundLoop_fresh (m : Nat) :
    ∀ f : CompositeFunding W, m ≤ sources.length → Tracks view acct f → (∀ j, m≤j → f.consumed j=0) →
      (refundLoop sources m f).2=[] ∧ Fresh view acct (refundLoop sources m f).1 := by
  induction m with
  | zero =>
    intro f _ h hz
    exact ⟨rfl,h.fresh fun j => hz j (Nat.zero_le j)⟩
  | succ n ih =>
    intro f hm h hz
    obtain ⟨src,hsrc⟩ : ∃ src, sources[n]? = some src := ⟨_,getElem?_eq_getElem (by omega)⟩
    rw [refundLoop,hsrc]
    have hn := h.additional n
    by_cases hc : f.consumed n≤0
    · simp only [if_pos hc]
      refine ih f (by omega) h fun j hj => ?_
      by_cases he : j=n
      · subst he
        omega
      · exact hz j (by omega)
    · simp only [if_neg hc]
      obtain ⟨w,hreleased,hbook,hothers⟩ := releaseAdditional_spec hs h hsrc
      rw [hreleased]
      simp only
      obtain ⟨hok,hout⟩ := (hs _ _ hsrc).refund w (by rw [hbook]) (by rw [hbook])
      have hdone := hout.done hok
      rcases hcall : src.refund w with ⟨w',err⟩
      rw [hcall] at hok hout hdone
      simp only at hok hdone
      subst hok
      have hclear := h.cleared (n := n) (w := w') (put f.additional n 0)
        (by rw [books,hdone,hbook]) (fun j hj => (hout.others j hj).trans (hothers j hj)) (by simp [put])
        (fun j hj => by rw [put,update_of_ne hj])
      have hput : put (bump f.consumed n (-f.additional n)) n 0=put f.consumed n 0 := by
        simp [put,bump]
      simp only [hput]
      exact ih _ (by omega) hclear (cleared_above hz)

end

end NewApi.Funding

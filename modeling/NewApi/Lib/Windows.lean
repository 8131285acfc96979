import Mathlib.Tactic.Common

/-! Queues that keep the last times at which something happened, and bound how often it happens in a window of time. -/
namespace Windows
open List

/-- Whether a queue takes in one more time: it is not full, or the oldest of its times lies before the window. -/
def room (n d now : Int) (queue : List Int) : Bool := queue.length<n || queue.head?.any fun oldest => now-oldest≥d

def push (n now : Int) (queue : List Int) : List Int := (if queue.length<n then queue else queue.tail)++[now]

def count (log : List Int) (first last : Int) : Int := (log.filter fun e => first≤e ∧ e<last).length

/-- A queue remembers its log: what it has dropped lies before the window, as long as it takes in one more time. -/
structure Remembers (n d now : Int) (log queue : List Int) : Prop where
  ordered : log.Pairwise (·≤·)
  past : ∀ e∈log, e≤now
  fits : ∀ x, count log x (x+d)≤n
  bounded : queue.length≤n
  dropped : ∃ gone, log=gone++queue ∧ (room n d now queue=true → ∀ e∈gone, e+d≤now)

variable {n d now later : Int} {log queue : List Int}

theorem room_iff : room n d now queue=true ↔ queue.length<n ∨ ∃ oldest∈queue.head?, oldest+d≤now := by
  rw [room,Bool.or_eq_true,decide_eq_true_eq,Option.any_eq_true]
  refine or_congr_right (exists_congr fun oldest => and_congr_right fun _ => ?_)
  rw [decide_eq_true_eq]
  omega

theorem room_of_old (hn : 0<n) (hold : ∀ e∈queue, e+d≤now) : room n d now queue=true := by
  cases queue with
  | nil => exact room_iff.mpr (.inl hn)
  | cons oldest rest => exact room_iff.mpr (.inr ⟨oldest,rfl,hold oldest mem_cons_self⟩)

theorem room_later (hle : now≤later) (h : room n d now queue=true) : room n d later queue=true :=
  room_iff.mpr ((room_iff.mp h).imp_right fun ⟨oldest,hmem,hold⟩ => ⟨oldest,hmem,Int.le_trans hold hle⟩)

theorem Remembers.empty (hn : 0<n) : Remembers n d now [] [] :=
  ⟨Pairwise.nil,nofun,fun _ => Int.le_of_lt hn,Int.le_of_lt hn,[],rfl,fun _ => nofun⟩

theorem Remembers.wait (hle : now≤later) (h : Remembers n d now log queue) : Remembers n d later log queue := by
  obtain ⟨gone,rfl,hgone⟩ := h.dropped
  refine ⟨h.ordered,fun e he => Int.le_trans (h.past e he) hle,h.fits,h.bounded,gone,rfl,fun hroom e he => ?_⟩
  obtain hlt | ⟨oldest,hmem,hold⟩ := room_iff.mp hroom
  · exact Int.le_trans (hgone (room_iff.mpr (.inl hlt)) e he) hle
  · have hbefore := (pairwise_append.mp h.ordered).2.2 e he oldest (mem_of_mem_head? hmem)
    omega

theorem Remembers.forget (hn : 0<n) (h : Remembers n d now log queue) (hold : ∀ e∈queue, e+d≤now) :
    Remembers n d now log [] := by
  obtain ⟨gone,hlog,hgone⟩ := h.dropped
  refine ⟨h.ordered,h.past,h.fits,Int.le_of_lt hn,log,(append_nil log).symm,fun _ e he => ?_⟩
  rw [hlog] at he
  exact (mem_append.mp he).elim (hgone (room_of_old hn hold) e) (hold e)

/-- A queue drops only times before the window to take in one more. -/
theorem Remembers.kept (h : Remembers n d now log queue) (hroom : room n d now queue=true) : ∃ gone kept,
    log=gone++kept ∧ push n now queue=kept++[now] ∧ kept.length<n ∧ ∀ e∈gone, e+d≤now := by
  obtain ⟨gone,rfl,hgone⟩ := h.dropped
  by_cases hlt : queue.length<n
  · exact ⟨gone,queue,rfl,by rw [push,if_pos hlt],hlt,hgone hroom⟩
  obtain ⟨oldest,hmem,hold⟩ := (room_iff.mp hroom).resolve_left hlt
  obtain ⟨rest,rfl⟩ := head?_eq_some_iff.mp hmem
  have hbounded := h.bounded
  rw [length_cons] at hbounded
  refine ⟨gone++[oldest],rest,append_cons _ _ _,by rw [push,if_neg hlt,tail_cons],by omega,fun e he => ?_⟩
  obtain he | hlast := mem_append.mp he
  · exact hgone hroom e he
  · rwa [mem_singleton.mp hlast]

theorem Remembers.push (h : Remembers n d now log queue) (hroom : room n d now queue=true) :
    Remembers n d now (log++[now]) (push n now queue) := by
  obtain ⟨gone,kept,hlog,hpush,hlt,hgone⟩ := h.kept hroom
  rw [hpush]
  refine ⟨pairwise_append.mpr ⟨h.ordered,pairwise_singleton _ _,fun e he x hx => ?_⟩,fun e he => ?_,fun x => ?_,?_,
    gone,by rw [hlog,append_assoc],fun _ => hgone⟩
  · rw [mem_singleton.mp hx]
    exact h.past e he
  · obtain he | hlast := mem_append.mp he
    · exact h.past e he
    · exact Int.le_of_eq (mem_singleton.mp hlast)
  · have hfits := h.fits x
    rw [count] at hfits ⊢
    rw [filter_append,length_append]
    by_cases hin : x≤now ∧ now<x+d
    · have hnone : gone.filter (fun e => x≤e ∧ e<x+d)=[] := by
        refine filter_eq_nil_iff.mpr fun e he hwindow => ?_
        have hold := hgone e he
        have hfirst := (of_decide_eq_true hwindow).1
        omega
      have hkept := length_filter_le (fun e : Int => x≤e ∧ e<x+d) kept
      have hnow := length_filter_le (fun e : Int => x≤e ∧ e<x+d) [now]
      rw [hlog,filter_append,hnone,nil_append]
      rw [length_singleton] at hnow
      omega
    · rw [filter_cons_of_neg (by simpa using hin)]
      exact hfits
  · rw [length_append,length_singleton]
    omega

theorem push_eq (hn : 0<n) (hbounded : queue.length≤n) : ∃ kept, push n now queue=kept++[now] ∧ kept <:+ queue ∧ kept.length<n := by
  by_cases hlt : queue.length<n
  · exact ⟨queue,by rw [push,if_pos hlt],suffix_refl queue,hlt⟩
  · refine ⟨queue.tail,by rw [push,if_neg hlt],tail_suffix queue,?_⟩
    rw [length_tail]
    omega

/-- A queue that has lost times before the window, beside one that has not. -/
structure Trails (n d now : Int) (whole queue : List Int) : Prop where
  ordered : whole.Pairwise (·≤·)
  past : ∀ e∈whole, e≤now
  bounded : whole.length≤n
  lost : ∃ gone, whole=gone++queue ∧ ∀ e∈gone, e+d≤now

variable {whole : List Int}

theorem Trails.wait (hle : now≤later) (h : Trails n d now whole queue) : Trails n d later whole queue := by
  obtain ⟨gone,rfl,hgone⟩ := h.lost
  exact ⟨h.ordered,fun e he => Int.le_trans (h.past e he) hle,h.bounded,gone,rfl,fun e he => Int.le_trans (hgone e he) hle⟩

theorem Trails.lose (h : Trails n d now whole queue) (hold : ∀ e∈queue, e+d≤now) : Trails n d now whole [] := by
  obtain ⟨gone,rfl,hgone⟩ := h.lost
  exact ⟨h.ordered,h.past,h.bounded,gone++queue,(append_nil _).symm,forall_mem_append.mpr ⟨hgone,hold⟩⟩

theorem Trails.room_eq (h : Trails n d now whole queue) : room n d now queue=room n d now whole := by
  obtain ⟨gone,rfl,hgone⟩ := h.lost
  cases gone with
  | nil => rfl
  | cons oldest gone =>
    have hbounded := h.bounded
    rw [length_append,length_cons] at hbounded
    rw [room_iff.mpr (.inl (by omega)),room_iff.mpr (.inr ⟨oldest,rfl,hgone oldest mem_cons_self⟩)]

theorem Trails.push (h : Trails n d now whole queue) (hn : 0<n) : Trails n d now (push n now whole) (push n now queue) := by
  obtain ⟨kept,hkept,hsuffix,hlt⟩ := @push_eq n now whole hn h.bounded
  have hpast : ∀ e∈kept, e≤now := fun e he => h.past e (hsuffix.subset he)
  refine ⟨?_,?_,?_,?_⟩
  · rw [hkept]
    refine pairwise_append.mpr ⟨h.ordered.sublist hsuffix.sublist,pairwise_singleton _ _,fun e he x hx => ?_⟩
    rw [mem_singleton.mp hx]
    exact hpast e he
  · rw [hkept]
    exact forall_mem_append.mpr ⟨hpast,forall_mem_singleton.mpr (Int.le_refl _)⟩
  · rw [hkept,length_append,length_singleton]
    omega
  obtain ⟨gone,rfl,hgone⟩ := h.lost
  cases gone with
  | nil => exact ⟨[],rfl,forall_mem_nil _⟩
  | cons oldest gone =>
    have hbounded := h.bounded
    rw [length_append,length_cons] at hbounded
    rw [Windows.push,Windows.push,if_pos (show (queue.length : Int)<n by omega)]
    split
    · exact ⟨oldest::gone,append_assoc _ _ _,hgone⟩
    · exact ⟨gone,append_assoc _ _ _,fun e he => hgone e (mem_cons_of_mem _ he)⟩

theorem Remembers.full (h : Remembers n d now log queue) (hroom : ¬ room n d now queue=true) :
    n≤count log (now-d+1) (now+1) := by
  obtain ⟨gone,rfl,-⟩ := h.dropped
  rw [room_iff,not_or,Int.not_lt] at hroom
  have hall : queue.filter (fun e => now-d+1≤e ∧ e<now+1)=queue := by
    refine filter_eq_self.mpr fun e he => decide_eq_true ?_
    have hpast := h.past e (mem_append_right _ he)
    cases queue with
    | nil => cases he
    | cons oldest rest =>
      have hyoung : ¬ oldest+d≤now := fun hold => hroom.2 ⟨oldest,rfl,hold⟩
      obtain rfl | hrest := mem_cons.mp he
      · omega
      · have hle := rel_of_pairwise_cons (pairwise_append.mp h.ordered).2.1 hrest
        omega
  rw [count,filter_append,hall,length_append]
  omega

end Windows

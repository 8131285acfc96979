import Mathlib.Algebra.BigOperators.Group.List.Basic
import Mathlib.Algebra.Ring.Int.Defs
import NewApi.Lib.Runs

/-! Calls that run concurrently: a shared state and one local state for each call started so far.
A scheduler starts calls and lets any of them make its next step, in any order. -/
namespace Threads
open Option List Runs
variable {σ τ ο χ : Type*}

/-- How calls start and how one step of a call changes the shared and its local state. -/
structure System (σ τ ο χ : Type*) where
  init : ο → τ
  advance : σ → τ → χ → σ×τ

structure Pool (σ τ : Type*) where
  shared : σ
  threads : List τ

inductive Act (ο χ : Type*) where
  | start (o : ο)
  | step (i : Nat) (c : χ)

def System.act (m : System σ τ ο χ) (p : Pool σ τ) : Act ο χ → Pool σ τ
  | .start o => { p with threads := p.threads++[m.init o] }
  | .step i c =>
    match p.threads[i]? with
    | none => p
    | some t => { shared := (m.advance p.shared t c).1, threads := p.threads.set i (m.advance p.shared t c).2 }

variable {m : System σ τ ο χ} {p : Pool σ τ} {i : Nat}

theorem System.act_step {t : τ} (h : p.threads[i]? = some t) (c : χ) : m.act p (.step i c) =
      { shared := (m.advance p.shared t c).1, threads := p.threads.set i (m.advance p.shared t c).2 } := by
  simp only [System.act,h]

theorem System.act_idle (h : p.threads[i]? = none) (c : χ) : m.act p (.step i c)=p := by
  simp only [System.act,h]

structure Each (I : σ → Prop) (T : σ → τ → Prop) (p : Pool σ τ) : Prop where
  shared : I p.shared
  thread : ∀ t∈p.threads, T p.shared t

/-- A step keeps the facts of the shared state, those of the moving call, and those of the others. -/
structure Keeps (m : System σ τ ο χ) (I : σ → Prop) (T : σ → τ → Prop) : Prop where
  init : ∀ {s} o, I s → T s (m.init o)
  shared : ∀ {s t} c, I s → T s t → I (m.advance s t c).1
  moved : ∀ {s t} c, I s → T s t → T (m.advance s t c).1 (m.advance s t c).2
  other : ∀ {s t u} c, I s → T s t → T s u → T (m.advance s t c).1 u

/-- The decision lets a call make its next step only where `ok` holds. -/
def Meets (ok : σ → τ → χ → Prop) (p : Pool σ τ) : Act ο χ → Prop
  | .start _ => True
  | .step i c => ∀ t∈p.threads[i]?, ok p.shared t c

instance Meets.decidable (ok : σ → τ → χ → Prop) [∀ s t c,Decidable (ok s t c)] (p : Pool σ τ) :
    ∀ a : Act ο χ, Decidable (Meets ok p a)
  | .start _ => isTrue trivial
  | .step i c => inferInstanceAs (Decidable (∀ t∈p.threads[i]?, ok p.shared t c))

structure KeepsIf (m : System σ τ ο χ) (ok : σ → τ → χ → Prop) (I : σ → Prop) (T : σ → τ → Prop) : Prop where
  init : ∀ {s} o, I s → T s (m.init o)
  shared : ∀ {s t} c, ok s t c → I s → T s t → I (m.advance s t c).1
  moved : ∀ {s t} c, ok s t c → I s → T s t → T (m.advance s t c).1 (m.advance s t c).2
  other : ∀ {s t u} c, ok s t c → I s → T s t → T s u → T (m.advance s t c).1 u

variable {ok : σ → τ → χ → Prop} {I : σ → Prop} {T : σ → τ → Prop}

theorem KeepsIf.act (hm : KeepsIf m ok I T) (hp : Each I T p) {a : Act ο χ} (ha : Meets ok p a) : Each I T (m.act p a) := by
  cases a with
  | start o =>
    refine ⟨hp.shared,fun t ht => ?_⟩
    obtain ht | ht := mem_append.mp ht
    · exact hp.thread t ht
    rw [mem_singleton.mp ht]
    exact hm.init o hp.shared
  | step i c =>
    cases hi : p.threads[i]? with
    | none =>
      rw [System.act_idle hi]
      exact hp
    | some t =>
      have ht : T p.shared t := hp.thread t (mem_of_getElem? hi)
      have hok : ok p.shared t c := ha t hi
      rw [System.act_step hi]
      refine ⟨hm.shared c hok hp.shared ht,fun u hu => ?_⟩
      obtain hu | hu := mem_or_eq_of_mem_set hu
      · exact hm.other c hok hp.shared ht (hp.thread u hu)
      rw [hu]
      exact hm.moved c hok hp.shared ht

variable {acts : List (Act ο χ)}

theorem KeepsIf.run (hm : KeepsIf m ok I T) (hp : Each I T p) (h : Guarded m.act (Meets ok) acts p) :
    Each I T (Runs.run m.act acts p) :=
  @Guarded.invariant _ _ m.act (Meets ok) (Each I T) (fun _ _ hp ha => hm.act hp ha) acts p hp h

/-- Invariant rule for the calls that start from some state on: what they have at their start, their own steps keep, and the
steps of the others keep. -/
theorem KeepsIf.run_later {U : σ → τ → Prop} (hm : KeepsIf m ok I T) (hinit : ∀ {s} o, I s → U s (m.init o))
    (hmoved : ∀ {s t} c, ok s t c → I s → T s t → U s t → U (m.advance s t c).1 (m.advance s t c).2)
    (hother : ∀ {s t u} c, ok s t c → I s → T s t → U s u → U (m.advance s t c).1 u)
    {n : Nat} (hp : Each I T p) (hn : n≤p.threads.length)
    (hlater : ∀ (j : Nat) (t : τ), n≤j → p.threads[j]? = some t → U p.shared t) (h : Guarded m.act (Meets ok) acts p) :
    ∀ (j : Nat) (t : τ), n≤j → (Runs.run m.act acts p).threads[j]? = some t → U (Runs.run m.act acts p).shared t := by
  induction acts generalizing p with
  | nil => exact hlater
  | cons a acts ih =>
    obtain ⟨ha,hrest⟩ := h
    apply ih (hm.act hp ha) _ _ hrest
    · cases a with
      | start o =>
        rw [System.act,length_append]
        omega
      | step i c =>
        cases hi : p.threads[i]? with
        | none =>
          rw [System.act_idle hi]
          exact hn
        | some t =>
          rw [System.act_step hi,length_set]
          exact hn
    · intro j t hj ht
      cases a with
      | start o =>
        rw [System.act,getElem?_append] at ht
        split at ht
        · exact hlater j t hj ht
        · rw [mem_singleton.mp (mem_of_getElem? ht)]
          exact hinit o hp.shared
      | step i c =>
        cases hi : p.threads[i]? with
        | none =>
          rw [System.act_idle hi] at ht ⊢
          exact hlater j t hj ht
        | some u =>
          have hu : T p.shared u := hp.thread u (mem_of_getElem? hi)
          have hok : ok p.shared u c := ha u hi
          rw [System.act_step hi] at ht ⊢
          by_cases hij : i=j
          · subst hij
            rw [getElem?_set_self (List.getElem?_eq_some_iff.mp hi).1] at ht
            rw [← Option.some.inj ht]
            exact hmoved c hok hp.shared hu (hlater i u hj hi)
          · rw [getElem?_set_ne hij] at ht
            exact hother c hok hp.shared hu (hlater j t hj ht)

theorem Keeps.keepsIf (hm : Keeps m I T) : KeepsIf m (fun _ _ _ => True) I T :=
  ⟨hm.init,fun c _ => hm.shared c,fun c _ => hm.moved c,fun c _ => hm.other c⟩

theorem Keeps.act (hm : Keeps m I T) (hp : Each I T p) (a : Act ο χ) : Each I T (m.act p a) := by
  apply hm.keepsIf.act hp
  cases a with
  | start o => trivial
  | step i c => exact fun _ _ => trivial

theorem Keeps.run (hm : Keeps m I T) (acts : List (Act ο χ)) (hp : Each I T p) : Each I T (run m.act acts p) := by
  induction acts generalizing p with
  | nil => exact hp
  | cons a acts ih => exact ih (hm.act hp a)

/-- Rule for one call: what every step keeps of the shared state and of a call holds of the call at index
`j` after any run, whatever the others do. -/
theorem run_thread {T : τ → Prop} (hinit : ∀ o, T (m.init o)) (hshared : ∀ s t c, I s → I (m.advance s t c).1)
    (hmoved : ∀ s t c, I s → T t → T (m.advance s t c).2)
    (j : Nat) (acts : List (Act ο χ)) (hp : I p.shared) (hj : ∀ t∈p.threads[j]?, T t) :
    I (run m.act acts p).shared ∧ ∀ t∈(run m.act acts p).threads[j]?, T t := by
  induction acts generalizing p with
  | nil => exact ⟨hp,hj⟩
  | cons a acts ih =>
    cases a with
    | start o =>
      refine ih hp fun t ht => ?_
      rw [System.act,mem_def,getElem?_append] at ht
      split at ht
      · exact hj t ht
      have ho : t=m.init o := by
        simpa using mem_of_getElem? ht
      rw [ho]
      exact hinit o
    | step i c =>
      cases hi : p.threads[i]? with
      | none =>
        rw [run,System.act_idle hi]
        exact ih hp hj
      | some t =>
        rw [run,System.act_step hi]
        refine ih (hshared _ t c hp) fun u hu => ?_
        by_cases hij : i=j
        · subst hij
          have hlt : i<p.threads.length := (List.getElem?_eq_some_iff.mp hi).1
          rw [mem_def,getElem?_set_self hlt,Option.some.injEq] at hu
          rw [← hu]
          exact hmoved _ t c hp (hj t hi)
        · rw [mem_def,getElem?_set_ne hij] at hu
          exact hj u hu

variable {ts : List τ}

theorem eq_or_mem_set {t u : τ} (h : ts[i]? = some t) (hu : u∈ts) (t' : τ) : u=t ∨ u∈ts.set i t' := by
  obtain ⟨k,hk⟩ := mem_iff_getElem?.mp hu
  by_cases hik : i=k
  · subst hik
    exact .inl (Option.some.inj (hk.symm.trans h))
  · right
    apply mem_of_getElem? (i := k)
    rw [getElem?_set_ne hik,hk]

theorem mem_set_self {t : τ} (h : ts[i]? = some t) (t' : τ) : t'∈ts.set i t' := by
  apply mem_of_getElem? (i := i)
  exact getElem?_set_self (List.getElem?_eq_some_iff.mp h).1

theorem sum_map_set {f : τ → Int} {t : τ} (h : ts[i]? = some t) (u : τ) :
    ((ts.set i u).map f).sum=(ts.map f).sum+(f u-f t) := by
  induction ts generalizing i with
  | nil => simp at h
  | cons x ts ih =>
    cases i with
    | zero =>
      have hx : x=t := by simpa using h
      simp only [set_cons_zero,map_cons,sum_cons,hx]
      omega
    | succ i =>
      have hi := ih (i := i) (by simpa using h)
      simp only [set_cons_succ,map_cons,sum_cons,hi]
      omega

end Threads

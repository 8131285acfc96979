import Mathlib.Algebra.Order.BigOperators.Group.List
import Mathlib.Algebra.Order.Ring.Nat
import Mathlib.Tactic.Common

/-! Texts that arrive in pieces: what is said by a list of events, and when the pieces that are kept say everything. -/
namespace Pieces
open List
variable {α : Type*} (f : α → String)

def said (f : α → String) (events : List α) : String := String.join (events.map f)

@[simp] theorem said_nil : said f [] = "" := rfl

@[simp] theorem said_cons (e : α) (es : List α) : said f (e :: es) = f e ++ said f es := by
  rw [said,map_cons,String.join_cons,said]

@[simp] theorem said_append (es fs : List α) : said f (es ++ fs) = said f es ++ said f fs := by
  rw [said,map_append,String.join_append,said,said]

theorem said_map {β : Type*} (f : α → String) (g : β → α) (es : List β) : said f (es.map g)=said (fun e => f (g e)) es := by
  rw [said,map_map]
  rfl

variable {f g : α → String} {es : List α} (piece : α → String) (texts : List String) (kept : α → Bool) (s t : String)

theorem said_congr (h : ∀ e∈es, f e=g e) : said f es=said g es :=
  congrArg String.join (map_congr_left h)

theorem said_silent (h : ∀ e∈es, f e="") : said f es="" := by
  induction es with
  | nil => rfl
  | cons e es ih =>
    rw [said_cons,h e mem_cons_self,ih fun e' he' => h e' (mem_cons_of_mem e he')]
    rfl

def keep (piece : α → String) (kept : α → Bool) (e : α) : String := if kept e then piece e else ""

theorem length_said_keep_le (es : List α) :
    (said (keep piece kept) es).length≤(said piece es).length := by
  induction es with
  | nil => exact Nat.le_refl _
  | cons e es ih =>
    rw [said_cons,said_cons,String.length_append,String.length_append]
    have hone : (keep piece kept e).length≤(piece e).length := by
      unfold keep
      split
      · exact Nat.le_refl _
      · exact Nat.zero_le _
    exact Nat.add_le_add hone ih

theorem said_keep_eq_iff (es : List α) :
    said (keep piece kept) es=said piece es ↔ ∀ e∈es, kept e=false → piece e="" := by
  induction es with
  | nil => exact iff_of_true rfl fun e he => nomatch he
  | cons e es ih =>
    rw [said_cons,said_cons,forall_mem_cons]
    cases hkept : kept e with
    | true =>
      have hpiece : keep piece kept e=piece e := if_pos hkept
      rw [hpiece,← ih]
      refine ⟨fun h => ⟨nofun,?_⟩,fun h => by rw [h.2]⟩
      rw [← String.toList_inj,String.toList_append,String.toList_append] at h
      exact String.toList_inj.mp (append_cancel_left h)
    | false =>
      have hpiece : keep piece kept e="" := if_neg (by rw [hkept]; exact Bool.false_ne_true)
      rw [hpiece,← ih]
      constructor
      · intro h
        have hlength := congrArg String.length h
        have hle := length_said_keep_le piece kept es
        rw [String.length_append,String.length_append] at hlength
        have hempty : (piece e).length=0 := by
          have hzero : ("" : String).length=0 := rfl
          omega
        have hnil : piece e="" := String.length_eq_zero_iff.mp hempty
        rw [hnil,String.empty_append,String.empty_append] at h
        exact ⟨fun _ => hnil,h⟩
      · intro h
        rw [h.1 rfl,h.2]

theorem said_flagged_eq_iff (flagged : List (α×Bool)) :
    said (fun p => if p.2 then piece p.1 else "") flagged=said piece (flagged.map (·.1)) ↔
      ∀ p∈flagged, p.2=false → piece p.1="" := by
  rw [said_map]
  exact said_keep_eq_iff (fun p => piece p.1) (·.2) flagged

theorem append_eq_right_iff : s++t=t ↔ s="" := by
  rw [← String.toList_inj,← String.toList_inj,String.toList_append]
  exact append_left_eq_self

theorem append_eq_left_iff : s++t=s ↔ t="" := by
  rw [← String.toList_inj,← String.toList_inj,String.toList_append]
  exact append_right_eq_self

theorem said_eq_empty_iff (es : List α) : said piece es="" ↔ ∀ e∈es, piece e="" := by
  induction es with
  | nil => exact iff_of_true rfl fun e he => nomatch he
  | cons e es ih =>
    rw [said_cons,forall_mem_cons,← ih]
    constructor
    · intro h
      have hlength := congrArg String.length h
      rw [String.length_append] at hlength
      have hzero : ("" : String).length=0 := rfl
      exact ⟨String.length_eq_zero_iff.mp (by omega),String.length_eq_zero_iff.mp (by omega)⟩
    · rintro ⟨hhead,htail⟩
      rw [hhead,htail]
      rfl

theorem said_eq_last_iff : said id texts=texts.getLast?.getD "" ↔ ∀ t∈texts.dropLast, t="" := by
  obtain rfl | ⟨ts,t,rfl⟩ := eq_nil_or_concat texts
  · exact iff_of_true rfl fun t ht => nomatch ht
  rw [concat_eq_append,getLast?_concat,dropLast_concat,said_append,said_cons,said_nil, String.append_empty,Option.getD_some]
  exact (append_eq_right_iff _ _).trans (said_eq_empty_iff id ts)

def lines : List String → String
  | [] => ""
  | text::texts => text++said ("\n" ++ ·) texts

theorem lines_concat (text : String) :
    lines (texts++[text])=lines texts++(if texts.length>0 then "\n" else "")++text := by
  cases texts with
  | nil => rw [nil_append,lines,lines]; simp
  | cons first rest =>
    rw [cons_append,lines,lines,said_append,said_cons,said_nil,String.append_empty,length_cons,
      if_pos (Nat.succ_pos _),String.append_assoc,String.append_assoc]

theorem length_lines :
    (lines texts).length+(if texts=[] then 0 else 1)=(texts.map fun text => text.length+1).sum := by
  have hsaid : ∀ rest : List String, (said ("\n" ++ ·) rest).length=(rest.map fun text => text.length+1).sum := by
    intro rest
    induction rest with
    | nil => rfl
    | cons text rest ih =>
      have hbreak : "\n".length=1 := rfl
      rw [said_cons,String.length_append,String.length_append,map_cons,sum_cons,ih,hbreak,Nat.add_comm 1]
  cases texts with
  | nil => rfl
  | cons text rest =>
    rw [lines,String.length_append,hsaid,if_neg (cons_ne_nil _ _),map_cons,sum_cons]
    omega

theorem length_eq_of_said_eq (hle : ∀ e∈es, (g e).length≤(f e).length) (h : said f es=said g es) :
    ∀ e∈es, (f e).length=(g e).length := by
  have htotal : ∀ (k : α → String) (es : List α), (said k es).length=(es.map fun e => (k e).length).sum := by
    intro k es
    induction es with
    | nil => rfl
    | cons e es ih => rw [said_cons,String.length_append,ih,map_cons,sum_cons]
  have hlength := congrArg String.length h
  rw [htotal,htotal] at hlength
  clear h
  induction es with
  | nil => exact fun e he => nomatch he
  | cons e es ih =>
    have hsum : ∀ es : List α, (∀ e∈es, (g e).length≤(f e).length) →
        (es.map fun e => (g e).length).sum≤(es.map fun e => (f e).length).sum := fun es hes => sum_le_sum hes
    rw [forall_mem_cons] at hle
    rw [map_cons,map_cons,sum_cons,sum_cons] at hlength
    have := hsum es hle.2
    exact forall_mem_cons.mpr ⟨by omega,ih hle.2 (by omega)⟩

end Pieces

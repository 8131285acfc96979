import Mathlib.Data.List.DropRight
import Mathlib.Tactic.Common

/-! The part of Go's `strings` package that guards request ids, reasons and
group names: white space as `unicode.IsSpace` has it, and lower case as far as
a comparison with ASCII text can tell. -/
namespace GoStrings
open List

def isSpace (c : Char) : Bool :=
  let n := c.toNat
  (9≤n && n≤13) || n == 32 || n == 0x85 || n == 0xA0 || n == 0x1680 ||
    (0x2000≤n && n≤0x200a) || n == 0x2028 || n == 0x2029 || n == 0x202f ||
    n == 0x205f || n == 0x3000

def trimSpace (s : String) : String :=
  String.ofList ((s.toList.dropWhile isSpace).rdropWhile isSpace)

def isBlank (s : String) : Bool := trimSpace s == ""

def lowerAscii (c : Char) : Char :=
  if 'A' ≤ c ∧ c ≤ 'Z' then Char.ofNat (c.toNat+32) else c

/-- `unicode.ToLower`: two letters outside ASCII have a lower case letter within. -/
def toLowerChar (c : Char) : Char :=
  if c=Char.ofNat 0x130 then 'i' else if c=Char.ofNat 0x212a then 'k' else lowerAscii c

def toLower (s : String) : String := String.ofList (s.toList.map toLowerChar)

/-- `strings.ToUpper` by the table of `unicode.ToUpper`. -/
def toUpper (upper : Char → Char) (s : String) : String := String.ofList (s.toList.map upper)

/-- A character in `strconv.Quote`; beyond ASCII every character counts as printable. -/
def quotedChar (c : Char) : String :=
  if c = '"' ∨ c = '\\' then "\\" ++ c.toString
  else match c.toNat with
  | 7 => "\\a"
  | 8 => "\\b"
  | 9 => "\\t"
  | 10 => "\\n"
  | 11 => "\\v"
  | 12 => "\\f"
  | 13 => "\\r"
  | n => if n < 32 ∨ n=127 then "\\x" ++ String.ofList [Nat.digitChar (n / 16),Nat.digitChar (n%16)] else c.toString

def quoted (s : String) : String := "\"" ++ String.join (s.toList.map quotedChar)++"\""

def foldChar (c : Char) : Char :=
  if c=Char.ofNat 0x17f then 's' else if c=Char.ofNat 0x212a then 'k' else lowerAscii c

def equalFold (s ascii : String) : Bool := s.toList.map foldChar == ascii.toList.map foldChar

def hasPrefix (s start : String) : Bool := start.toList.isPrefixOf s.toList

def contains (s part : String) : Bool := s.toList.tails.any fun tail => part.toList.isPrefixOf tail

def cut (s : String) (sep : Char) : Option (String×String) :=
  match s.toList.dropWhile (· ≠ sep) with
  | [] => none
  | _::after => some (String.ofList (s.toList.takeWhile (· ≠ sep)),String.ofList after)

theorem trimSpace_trimSpace (s : String) : trimSpace (trimSpace s)=trimSpace s := by
  have hhead : ((s.toList.dropWhile isSpace).rdropWhile isSpace).dropWhile isSpace =
      (s.toList.dropWhile isSpace).rdropWhile isSpace := by
    obtain ⟨rest,hrest⟩ := rdropWhile_prefix isSpace (s.toList.dropWhile isSpace)
    rcases hl : (s.toList.dropWhile isSpace).rdropWhile isSpace with _ | ⟨c,cs⟩
    · rfl
    have hfirst := head?_dropWhile_not isSpace s.toList
    rw [← hrest,hl] at hfirst
    simp only [cons_append,head?_cons] at hfirst
    rw [dropWhile_cons_of_neg (by simp [hfirst])]
  rw [trimSpace,trimSpace,String.toList_ofList,hhead,rdropWhile_idempotent]

theorem trimSpace_empty : trimSpace "" = "" := rfl

theorem isSpace_of_isDigit {c : Char} (h : c.isDigit=true) : isSpace c=false := by
  simp only [Char.isDigit,Bool.and_eq_true,decide_eq_true_eq,ge_iff_le,UInt32.le_iff_toNat_le] at h
  have h1 : (48 : Nat)≤c.toNat := h.1
  have h2 : c.toNat≤57 := h.2
  simp only [isSpace,Bool.or_eq_false_iff,Bool.and_eq_false_iff,decide_eq_false_iff_not,beq_eq_false_iff_ne]
  omega

theorem trimSpace_eq_self {s : String} (h : ∀ c∈s.toList, isSpace c=false) : trimSpace s=s := by
  have hleft : s.toList.dropWhile isSpace=s.toList := by
    rw [dropWhile_eq_self_iff]
    intro hl
    rw [h _ (getElem_mem hl)]
    exact Bool.false_ne_true
  have hright : s.toList.rdropWhile isSpace=s.toList := by
    rw [rdropWhile_eq_self_iff]
    intro hl
    rw [h _ (getLast_mem hl)]
    exact Bool.false_ne_true
  rw [trimSpace,hleft,hright,String.ofList_toList]

theorem isBlank_iff {s : String} : isBlank s=true ↔ ∀ c∈s.toList, isSpace c=true := by
  have hempty : isBlank s=true ↔ (s.toList.dropWhile isSpace).rdropWhile isSpace=[] := by
    rw [isBlank,beq_iff_eq,trimSpace,← String.toList_inj,String.toList_ofList]
    rfl
  rw [hempty,rdropWhile_eq_nil_iff]
  constructor
  · intro h
    have hnil : s.toList.dropWhile isSpace=[] := by
      rcases hl : s.toList.dropWhile isSpace with _ | ⟨c,cs⟩
      · rfl
      have hfirst := head?_dropWhile_not isSpace s.toList
      rw [hl] at hfirst h
      simp [h c mem_cons_self] at hfirst
    exact dropWhile_eq_nil_iff.mp hnil
  · intro h c hc
    exact h c ((dropWhile_sublist _).subset hc)

end GoStrings

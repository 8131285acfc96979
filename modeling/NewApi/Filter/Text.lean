import NewApi.Lib.Borders
import NewApi.Lib.Spans

/-! The sensitive-text filter (`service/request_filter.go`): keywords with their word boundaries, the ranges to mask, and
the end of a text that may still become a keyword. Texts are lists of runes; `unicode.ToLower` is a parameter. -/
namespace NewApi.Filter

structure SensitiveKeyword where
  origin : String
  runes : List Char
  deriving DecidableEq

def SensitiveKeyword.prefixTable (k : SensitiveKeyword) : List Nat := Borders.prefixTable k.runes

inductive RuleAction where
  | block
  | mask
  deriving DecidableEq

structure SensitiveRule where
  id : String := ""
  name : String := ""
  enabled : Bool := true
  action : RuleAction
  replacement : String := ""
  keywords : List String

structure CompiledSensitiveRule where
  id : String
  name : String
  action : RuleAction
  replacement : List Char
  order : Nat
  keywords : List SensitiveKeyword
  deriving DecidableEq

structure SensitiveFilterMatch where
  ruleId : String
  ruleName : String
  action : RuleAction
  keyword : String

structure SensitiveTextFilter where
  blockRules : List CompiledSensitiveRule := []
  maskRules : List CompiledSensitiveRule := []

def CompiledSensitiveRule.toMatch (r : CompiledSensitiveRule) (k : SensitiveKeyword) : SensitiveFilterMatch :=
  { ruleId := r.id, ruleName := r.name, action := r.action, keyword := k.origin }

def isASCIISensitiveWordRune (c : Char) : Bool :=
  ('a' ≤ c && c ≤ 'z') || ('A' ≤ c && c ≤ 'Z') || ('0' ≤ c && c ≤ '9') || c = '_'

variable (lower : Char → Char)

def newSensitiveTextFilter (rules : List SensitiveRule) : SensitiveTextFilter :=
  let compiled := rules.zipIdx.filterMap fun (rule,order) =>
    if rule.enabled && !rule.keywords.isEmpty then
      some ({ id := rule.id, name := rule.name, action := rule.action, replacement := rule.replacement.toList,
              order := order, keywords := rule.keywords.map fun k => ⟨k,k.toList.map lower⟩ } : CompiledSensitiveRule)
    else none
  { blockRules := compiled.filter (·.action=.block), maskRules := compiled.filter (·.action=.mask) }

section Index
variable (text pattern : List Char)

def indexRunes : Option Nat :=
  if pattern.isEmpty || text.length<pattern.length then none
  else (List.range (text.length-pattern.length+1)).find? fun i => pattern.isPrefixOf (text.drop i)

def startBoundaryOK (absolute : Nat) : Bool :=
  !pattern.head?.any isASCIISensitiveWordRune || absolute=0 || !(text[absolute-1]?).any isASCIISensitiveWordRune

def endBoundaryOK (endKnown : Bool) (stop : Nat) : Bool :=
  !pattern.getLast?.any isASCIISensitiveWordRune || (stop<text.length && !(text[stop]?).any isASCIISensitiveWordRune) ||
    (stop=text.length && endKnown)

def indexKeywordFrom (endKnown : Bool) : Nat → Nat → Option Nat
  | 0, _ => none
  | fuel+1, start =>
    if text.length<start+pattern.length then none
    else match indexRunes (text.drop start) pattern with
      | none => none
      | some idx =>
        if startBoundaryOK text pattern (start+idx) && endBoundaryOK text pattern endKnown (start+idx+pattern.length)
        then some (start+idx)
        else indexKeywordFrom endKnown fuel (start+idx+1)

def indexSensitiveKeywordWithEnd (start : Nat) (endKnown : Bool) : Option Nat :=
  if pattern.isEmpty || text.length<start+pattern.length then none
  else indexKeywordFrom text pattern endKnown (text.length+1) start

def hit (endKnown : Bool) (i : Nat) : Bool :=
  !pattern.isEmpty && pattern.isPrefixOf (text.drop i) && startBoundaryOK text pattern i &&
    endBoundaryOK text pattern endKnown (i+pattern.length)

end Index

structure TextRangeMatch where
  start : Nat
  stop : Nat
  rule : CompiledSensitiveRule
  word : SensitiveKeyword
  deriving DecidableEq

def keywordRanges (text : List Char) (endKnown : Bool) (rule : CompiledSensitiveRule) (k : SensitiveKeyword) :
    Nat → Nat → List TextRangeMatch
  | 0, _ => []
  | fuel+1, start => match indexSensitiveKeywordWithEnd text k.runes start endKnown with
    | none => []
    | some absolute =>
      ⟨absolute,absolute+k.runes.length,rule,k⟩ ::
        keywordRanges text endKnown rule k fuel (absolute+k.runes.length)

/-- The order of `selectedMaskRanges`: by start, longer ones first, then by rule. -/
def TextRangeMatch.Before (a b : TextRangeMatch) : Prop :=
  a.start<b.start ∨ a.start=b.start ∧ (b.stop<a.stop ∨ a.stop=b.stop ∧ a.rule.order≤b.rule.order)

instance : DecidableRel TextRangeMatch.Before := fun a b =>
  inferInstanceAs (Decidable (a.start<b.start ∨
    a.start=b.start ∧ (b.stop<a.stop ∨ a.stop=b.stop ∧ a.rule.order≤b.rule.order)))

section Filter
variable (f : SensitiveTextFilter) (text : List Char) (endKnown : Bool)

def blockMatchesWithEnd : List SensitiveFilterMatch :=
  f.blockRules.filterMap fun rule =>
    (rule.keywords.find? fun k => (indexSensitiveKeywordWithEnd (text.map lower) k.runes 0 endKnown).isSome).map rule.toMatch

def blockMatches : List SensitiveFilterMatch := blockMatchesWithEnd lower f text true

def maskRangesWithEnd : List TextRangeMatch :=
  f.maskRules.flatMap fun rule => rule.keywords.flatMap fun k =>
    keywordRanges (text.map lower) endKnown rule k (text.length+1) 0

def selectedMaskRanges : List TextRangeMatch :=
  Spans.apart TextRangeMatch.start TextRangeMatch.stop 0
    ((maskRangesWithEnd lower f text endKnown).insertionSort TextRangeMatch.Before)

def maskTextWithEnd : List Char×List SensitiveFilterMatch×Bool :=
  let ranges := selectedMaskRanges lower f text endKnown
  if text.isEmpty || ranges.isEmpty then (text,[],false)
  else (Spans.fill TextRangeMatch.start TextRangeMatch.stop (·.rule.replacement) text 0 ranges,ranges.map fun r => r.rule.toMatch r.word, true)

def maskText : List Char×List SensitiveFilterMatch×Bool := maskTextWithEnd lower f text true

/-- The longest end of the text that opens a keyword and is not settled. -/
def pendingSensitiveKeywordSuffix (k : SensitiveKeyword) : Nat :=
  if text.isEmpty || k.runes.isEmpty then 0
  else
    let matched := Borders.scan k.prefixTable k.runes (text.drop (text.length-k.runes.length)) 0
    Borders.descend k.prefixTable (fun m => startBoundaryOK text k.runes (text.length-m) &&
      !(m=k.runes.length && !k.runes.getLast?.any isASCIISensitiveWordRune)) matched matched

def pendingSuffixRunes : Nat :=
  ((f.blockRules++f.maskRules).flatMap (·.keywords)).foldl
    (fun longest k => max longest (pendingSensitiveKeywordSuffix (text.map lower) k)) 0

end Filter

end NewApi.Filter

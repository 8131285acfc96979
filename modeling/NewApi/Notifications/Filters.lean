import Mathlib.Algebra.Group.Int.Defs
import Mathlib.Data.List.Sort
import NewApi.Lib.GoStrings

/-! The filters of notification tasks (`model/notification.go`, `setting/operation_setting/status_code_ranges.go`): which events a
task wants, and the prefix of the channel name under which it wants one event in a window. -/
namespace NewApi.Notifications
open GoStrings

def atoi (s : String) : Option Int :=
  let digits (cs : List Char) : Option Int :=
    if cs≠[] ∧ cs.all Char.isDigit then some (cs.foldl (fun n c => 10*n+(c.toNat - '0'.toNat : Nat)) 0) else none
  let value := match s.toList with
    | '-' :: cs => (digits cs).map fun n => -n
    | '+' :: cs => digits cs
    | cs => digits cs
  value.filter fun n => -(2 ^ 63)≤n && n<2 ^ 63

structure StatusCodeRange where
  start : Int
  stop : Int

def parseHTTPStatusCodeToken (token : String) : Option StatusCodeRange :=
  let token := String.ofList ((trimSpace token).toList.filter (· ≠ ' '))
  let range (start stop : Int) : Option StatusCodeRange :=
    if start>stop ∨ start<100 ∨ stop>599 then none else some ⟨start,stop⟩
  match (token.toList.splitOn '-').map String.ofList with
  | [code] => (atoi code).bind fun code => range code code
  | [first,last] => (atoi first).bind fun start => (atoi last).bind (range start)
  | _ => none

def mergeRanges (last : StatusCodeRange) : List StatusCodeRange → List StatusCodeRange
  | [] => [last]
  | r::rest =>
    if r.start≤last.stop+1 then mergeRanges { last with stop := if r.stop>last.stop then r.stop else last.stop } rest
    else last::mergeRanges r rest

def parseHTTPStatusCodeRanges (input : String) : Option (List StatusCodeRange) :=
  let commas := (trimSpace input).toList.map fun c => if c = '，' then ',' else c
  let segments := ((commas.splitOn ',').map fun segment => trimSpace (String.ofList segment)).filter (· ≠ "")
  let sorted (ranges : List StatusCodeRange) := ranges.insertionSort fun a b =>
    if a.start=b.start then a.stop≤b.stop else a.start<b.start
  (segments.mapM parseHTTPStatusCodeToken).map fun ranges =>
    match sorted ranges with
    | [] => []
    | first::rest => mergeRanges first rest

/-- A value of an event's payload; `printed` is what `fmt.Sprint` makes of it. -/
inductive PayloadValue where
  | int (n : Int)
  | float (whole : Int) (printed : String)
  | text (s : String)
  | other (printed : String)

abbrev Payload := String → Option PayloadValue

def sprint : Option PayloadValue → String
  | none => "<nil>"
  | some (.int n) => toString n
  | some (.float _ printed) => printed
  | some (.text s) => s
  | some (.other printed) => printed

/-- `fmt.Sscanf` with `%d`: the number at the start of a text, 0 where there is none. -/
def scanInt (s : String) : Int :=
  let (sign,cs) := match s.toList.dropWhile isSpace with
    | '-' :: cs => ("-",cs)
    | '+' :: cs => ("",cs)
    | cs => ("",cs)
  (atoi (sign++String.ofList (cs.takeWhile Char.isDigit))).getD 0

def notificationPayloadStatusCode (payload : Payload) : Int :=
  match payload "status_code" with
  | some (.int n) => n
  | some (.float whole _) => whole
  | some (.text s) => scanInt (trimSpace s)
  | _ => 0

def notificationStatusCodeInRanges (code : Int) (ranges : List StatusCodeRange) : Bool :=
  ranges.any fun item => item.start≤code && code ≤ item.stop

def channelPrefixDedupMaxSeconds : Int := 24*60*60

/-- `NotificationTaskFilterConfig` with the bound under which `validateNotificationTaskFilterConfig` lets one be stored. -/
structure NotificationTaskFilterConfig where
  statusCodes : String := ""
  errorKeywords : List String := []
  prefixDedupSeconds : Int := 0
  seconds_le : prefixDedupSeconds≤channelPrefixDedupMaxSeconds := by decide

inductive FilterText where
  | blank
  | malformed
  | config (config : NotificationTaskFilterConfig)

def channelNamePrefix (channelName : String) : String :=
  let name := trimSpace channelName
  if name="" then ""
  else match cut name '/' with
    | none => name
    | some (first,_) => if trimSpace first="" then name else trimSpace first

section Lower
variable (lower : String → String)

namespace NotificationTaskFilterConfig
variable (config : NotificationTaskFilterConfig)

def isEmpty : Bool := isBlank config.statusCodes && config.errorKeywords=[] && decide (config.prefixDedupSeconds≤0)

def isMatch (payload : Payload) : Bool :=
  if config.isEmpty then true
  else
    let statusOk := isBlank config.statusCodes || match parseHTTPStatusCodeRanges config.statusCodes with
      | none => false
      | some ranges => notificationStatusCodeInRanges (notificationPayloadStatusCode payload) ranges
    let message := lower (trimSpace (sprint (payload "error_message")))
    let reason := lower (trimSpace (sprint (payload "reason")))
    let keywordOk := config.errorKeywords=[] || config.errorKeywords.any fun keyword =>
      let keyword := lower (trimSpace keyword)
      keyword≠"" && (contains message keyword || contains reason keyword)
    statusOk && keywordOk

end NotificationTaskFilterConfig

def notificationTaskFilterMatches (raw : FilterText) (payload : Payload) : Bool :=
  match raw with
  | .blank => true
  | .malformed => false
  | .config config => config.isMatch lower payload

end Lower

variable {taskId : Int} {raw : FilterText}

/-- `NotificationChannelNamePrefix` of the channel that an event is about. -/
def payloadPrefix (payload : Payload) : String :=
  match payload "channel_name" with
  | some (.text channelName) => channelNamePrefix channelName
  | _ => ""

def taskWindow (taskId : Int) : FilterText → Option Int
  | .config config => if config.prefixDedupSeconds≤0 ∨ taskId≤0 then none else some config.prefixDedupSeconds
  | _ => none

def dedupWindow (taskId : Int) (raw : FilterText) (payload : Payload) : Option Int :=
  if payloadPrefix payload="" then none else taskWindow taskId raw

theorem taskWindow_bounds {window : Int} (h : taskWindow taskId raw=some window) :
    0<window ∧ window≤channelPrefixDedupMaxSeconds := by
  cases raw with
  | blank | malformed => cases h
  | config config =>
    simp only [taskWindow] at h
    split at h
    · cases h
    · cases h
      exact ⟨by omega,config.seconds_le⟩

theorem dedupWindow_some {payload : Payload} {window : Int}
    (h : dedupWindow taskId raw payload=some window) : payloadPrefix payload≠"" ∧ taskWindow taskId raw=some window := by
  rw [dedupWindow] at h
  split at h
  · cases h
  · exact ⟨‹_›,h⟩

end NewApi.Notifications

import Mathlib.Algebra.GroupWithZero.Nat
import NewApi.Filter.Text
import NewApi.Lib.GoStrings

/-! The delay buffer of a filtered stream (`service/request_filter.go`). JSON text is given by the value it denotes, a Go
map by its entries in the order of `sortedStringKeys`. -/
namespace NewApi.Filter

open GoStrings

inductive Json where
  | null
  | bool (value : Bool)
  | num (text : String)
  | str (text : String)
  | arr (items : List Json)
  | obj (fields : List (String×Json))

def looksLikeEncodedOrURL (value : String) : Bool :=
  let text := trimSpace value
  let lower := toLower text
  if text="" then false
  else if hasPrefix lower "http://" || hasPrefix lower "https://" || hasPrefix lower "data:" then true
  else if text.utf8ByteSize<128 then false
  else
    let base64Chars := (text.toList.filter fun r => ('a' ≤ r && r ≤ 'z') || ('A' ≤ r && r ≤ 'Z') || ('0' ≤ r && r ≤ '9') ||
      r = '+' || r = '/' || r = '=' || r = '-' || r = '_').length
    95*text.toList.length<100*base64Chars

def skippedResponseKeys : List String :=
  ["id", "object", "model", "created", "created_at", "updated_at", "system_fingerprint",
    "metadata", "usage", "prompt_tokens", "completion_tokens", "total_tokens", "input_tokens",
    "output_tokens", "cached_tokens", "finish_reason", "index", "role", "type", "status",
    "name", "function", "tool_calls", "tools", "tool_choice", "item_id", "response_id",
    "previous_response_id", "call_id", "tool_call_id"]

def skipsKey (key : String) : Bool :=
  let normalizedKey := toLower (trimSpace key)
  normalizedKey∈skippedResponseKeys ||
    ["url", "base64", "b64", "image", "audio", "file", "mime", "schema"].any (contains normalizedKey)

def skipsText (key text : String) : Bool :=
  toLower (trimSpace key)≠"" && (skipsKey key || looksLikeEncodedOrURL text)

def skipsValue (key : String) : Bool := toLower (trimSpace key)≠"" && skipsKey key

mutual

def collectResponseTextValue (key : String) : Json → List String
  | .obj fields => collectFields fields
  | .arr items => collectItems key items
  | _ => []

def collectFields : List (String×Json) → List String
  | [] => []
  | (childKey,.str text)::rest => (if skipsText childKey text then [] else [text])++collectFields rest
  | (childKey,child)::rest =>
    (if skipsValue childKey then [] else collectResponseTextValue childKey child)++collectFields rest

def collectItems (key : String) : List Json → List String
  | [] => []
  | .str text::rest => (if skipsText key text then [] else [text])++collectItems key rest
  | item::rest => collectResponseTextValue key item++collectItems key rest

end

def collectResponseTextFields (value : Json) : List String := collectResponseTextValue "" value

def rewriteSegmentFrom (source : List Char) (start : Nat) : Nat → List TextRangeMatch → List Char
  | cursor, [] => source.drop cursor
  | cursor, item::rest =>
    if item.stop ≤ start ∨ start+source.length ≤ item.start then rewriteSegmentFrom source start cursor rest
    else
      let localStart := item.start-start
      let localEnd := min (item.stop-start) source.length
      (source.drop cursor).take (localStart-cursor) ++ (if start ≤ item.start then item.rule.replacement else []) ++
        rewriteSegmentFrom source start (max cursor localEnd) rest

def rewriteSensitiveTextSegment (text : String) (start : Nat) (ranges : List TextRangeMatch) : String×Bool :=
  let source := text.toList
  if ranges.any fun item => start < item.stop && item.start<start+source.length then
    (String.ofList (rewriteSegmentFrom source start 0 ranges),true)
  else (text,false)

section Rewrite
variable (ranges : List TextRangeMatch)

mutual

def rewriteResponseTextRanges (key : String) (offset : Nat) : Json → Json×Nat×Bool
  | .obj fields =>
    let result := rewriteFields offset fields
    (.obj result.1,result.2)
  | .arr items =>
    let result := rewriteItems key offset items
    (.arr result.1,result.2)
  | value => (value,offset,false)

def rewriteFields (offset : Nat) : List (String×Json) → List (String×Json)×Nat×Bool
  | [] => ([],offset,false)
  | (childKey,.str text)::rest =>
    if skipsText childKey text then
      let result := rewriteFields offset rest
      ((childKey,.str text)::result.1,result.2)
    else
      let updated := rewriteSensitiveTextSegment text offset ranges
      let result := rewriteFields (offset+text.toList.length) rest
      ((childKey,.str updated.1)::result.1,result.2.1,updated.2 || result.2.2)
  | (childKey,child)::rest =>
    if skipsValue childKey then
      let result := rewriteFields offset rest
      ((childKey,child)::result.1,result.2)
    else
      let updated := rewriteResponseTextRanges childKey offset child
      let result := rewriteFields updated.2.1 rest
      ((childKey,updated.1)::result.1,result.2.1,updated.2.2 || result.2.2)

def rewriteItems (key : String) (offset : Nat) : List Json → List Json×Nat×Bool
  | [] => ([],offset,false)
  | .str text::rest =>
    if skipsText key text then
      let result := rewriteItems key offset rest
      (.str text::result.1,result.2)
    else
      let updated := rewriteSensitiveTextSegment text offset ranges
      let result := rewriteItems key (offset+text.toList.length) rest
      (.str updated.1::result.1,result.2.1,updated.2 || result.2.2)
  | item::rest =>
    let updated := rewriteResponseTextRanges key offset item
    let result := rewriteItems key updated.2.1 rest
    (updated.1::result.1,result.2.1,updated.2.2 || result.2.2)

end

end Rewrite

/-- The data of a stream item: a text that is no JSON, the value of a JSON text, or broken JSON. -/
inductive StreamData where
  | plain (text : String)
  | json (payload : Json)
  | malformed (text : String)

structure StreamItem where
  data : StreamData
  eventLine : String := ""

structure StreamChunk where
  item : StreamItem
  payload : Option Json := none
  text : List Char := []
  batchStart : Bool := false

def StreamChunk.runes (chunk : StreamChunk) : Nat := chunk.text.length

def responseText (payload : Json) : List Char := (collectResponseTextFields payload).flatMap String.toList

def newSensitiveStreamChunk (item : StreamItem) : Option StreamChunk :=
  match item.data with
  | .plain _ => some { item := item }
  | .json payload => some { item := item, payload := some payload, text := responseText payload }
  | .malformed _ => none

def queueText (queue : List StreamChunk) : List Char := queue.flatMap (·.text)

def queueOffset (queue : List StreamChunk) (start count : Nat) : Nat := start+((queue.take count).map (·.runes)).sum

def queueIndexAtOffset (target : Nat) : Nat → List StreamChunk → Nat
  | _, [] => 0
  | offset, chunk::rest =>
    if target<offset+chunk.runes then 0 else queueIndexAtOffset target (offset+chunk.runes) rest+1

def atomicIndexFrom (queue : List StreamChunk) : Nat → Nat
  | 0 => 0
  | index+1 =>
    if (queue[index+1]?).all (!·.batchStart) && (queue[index]?).all (·.runes=0) then atomicIndexFrom queue index
    else index+1

def atomicIndex (queue : List StreamChunk) (index : Nat) : Nat :=
  if queue.length ≤ index then queue.length else atomicIndexFrom queue index

def maskRangesWithin (ranges : List TextRangeMatch) (start stop : Nat) : List TextRangeMatch :=
  ranges.filter fun item => start ≤ item.start && item.stop ≤ stop

def rewriteStreamChunks (ranges : List TextRangeMatch) : Nat → List StreamChunk → List StreamItem×Bool
  | _, [] => ([],false)
  | offset, chunk::rest =>
    match chunk.payload with
    | some payload =>
      if ranges.isEmpty then
        let later := rewriteStreamChunks ranges (offset+chunk.runes) rest
        (chunk.item::later.1,later.2)
      else
        let updated := rewriteResponseTextRanges ranges "" offset payload
        let later := rewriteStreamChunks ranges updated.2.1 rest
        ((if updated.2.2 then { chunk.item with data := .json updated.1 } else chunk.item)::later.1, updated.2.2 || later.2)
    | none =>
      let later := rewriteStreamChunks ranges (offset+chunk.runes) rest
      (chunk.item::later.1,later.2)

structure StreamDelayBuffer where
  filter : SensitiveTextFilter
  queue : List StreamChunk := []
  historyTail : List Char := []

structure StreamResult where
  blocked : Bool := false
  mutated : Bool := false
  held : Bool := false
  found : List SensitiveFilterMatch := []
  items : List StreamItem := []

def lastRunes (text : List Char) (limit : Nat) : List Char := text.drop (text.length-limit)

section Buffer
variable (lower : Char → Char) (b : StreamDelayBuffer) (endKnown : Bool)

def StreamDelayBuffer.candidate : List Char := b.historyTail++queueText b.queue

/-- The chunks to send: those before an end that is still pending, moved back over ranges that reach across. -/
def StreamDelayBuffer.holdIndex : Nat :=
  let historyRunes := b.historyTail.length
  let pendingRunes := pendingSuffixRunes lower b.filter b.candidate
  let first :=
    if endKnown || pendingRunes=0 then b.queue.length
    else queueIndexAtOffset (b.candidate.length-pendingRunes) historyRunes b.queue
  let moved := (selectedMaskRanges lower b.filter b.candidate endKnown).foldl (fun holdIndex item =>
    let readyEnd := queueOffset b.queue historyRunes holdIndex
    if item.start<readyEnd && readyEnd < item.stop then queueIndexAtOffset item.start historyRunes b.queue
    else holdIndex) first
  if moved<b.queue.length then atomicIndex b.queue moved else moved

def StreamDelayBuffer.evaluate : StreamDelayBuffer×StreamResult :=
  if b.queue.isEmpty then (b,{})
  else
    let blocks := blockMatchesWithEnd lower b.filter b.candidate endKnown
    if !blocks.isEmpty then ({ b with queue := [] },{ blocked := true, found := blocks })
    else
      let historyRunes := b.historyTail.length
      let holdIndex := b.holdIndex lower endKnown
      let readyRanges := maskRangesWithin (selectedMaskRanges lower b.filter b.candidate endKnown) historyRunes
        (queueOffset b.queue historyRunes holdIndex)
      let ready := b.queue.take holdIndex
      let rewritten := rewriteStreamChunks readyRanges historyRunes ready
      ({ b with queue := b.queue.drop holdIndex, historyTail := lastRunes (b.historyTail++queueText ready) 1 },
        { mutated := rewritten.2, held := holdIndex<b.queue.length,
          found := readyRanges.map fun r => r.rule.toMatch r.word, items := rewritten.1 })

def batchChunks (items : List StreamItem) : Option (List StreamChunk) :=
  (items.mapM newSensitiveStreamChunk).map fun chunks =>
    chunks.zipIdx.map fun (chunk,i) => { chunk with batchStart := i=0 }

/-- A broken item is an error that leaves the buffer as it is. -/
def StreamDelayBuffer.pushBatch (items : List StreamItem) : Option (StreamDelayBuffer×StreamResult) :=
  (batchChunks items).map fun chunks => ({ b with queue := b.queue++chunks } : StreamDelayBuffer).evaluate lower false

def StreamDelayBuffer.flush : StreamDelayBuffer×StreamResult := b.evaluate lower true

end Buffer

inductive StreamEvent where
  | push (items : List StreamItem)
  | flush

def StreamItem.text (item : StreamItem) : List Char :=
  match item.data with
  | .json payload => responseText payload
  | _ => []

structure StreamState where
  buffer : StreamDelayBuffer
  pushed : List Char := []
  blocked : Bool := false

def streamStep (lower : Char → Char) (s : StreamState) : StreamEvent → StreamState×StreamResult
  | .push items => match s.buffer.pushBatch lower items with
    | none => (s,{})
    | some (b,r) =>
      ({ buffer := b, pushed := s.pushed++items.flatMap (·.text), blocked := s.blocked || r.blocked },r)
  | .flush =>
    let out := s.buffer.flush lower
    ({ s with buffer := out.1, blocked := s.blocked || out.2.blocked },out.2)

def streamResults (lower : Char → Char) (s : StreamState) (events : List StreamEvent) : List StreamResult :=
  match events with
  | [] => []
  | e::rest => (streamStep lower s e).2::streamResults lower (streamStep lower s e).1 rest

def streamEvents (batches : List (List StreamItem)) : List StreamEvent := batches.map .push++[.flush]

end NewApi.Filter

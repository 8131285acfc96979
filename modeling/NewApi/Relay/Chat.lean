import NewApi.Relay.Usage

/-! The chunks of an OpenAI chat completion stream (`relaykit/dto/openai_response.go`), and what makes a stream of them
well formed. -/
namespace NewApi.Relay

/-- The index is `none` when the body has none. -/
structure ToolCallResponse where
  index : Option Nat := none
  id : String := ""
  name : String := ""
  arguments : String := ""

structure ChunkDelta where
  content : Option String := none
  reasoningContent : Option String := none
  reasoning : Option String := none
  toolCalls : Option (List ToolCallResponse) := none
  role : String := ""

namespace ChunkDelta

def getContentString (d : ChunkDelta) : String := d.content.getD ""

def getReasoningContent (d : ChunkDelta) : String := d.reasoningContent.getD (d.reasoning.getD "")

def calls (d : ChunkDelta) : List ToolCallResponse := d.toolCalls.getD []

end ChunkDelta

structure ChunkChoice where
  delta : ChunkDelta := {}
  finishReason : Option String := none

def ChunkChoice.finished (c : ChunkChoice) : Bool := c.finishReason.getD "" != ""

structure Chunk where
  id : String := ""
  model : String := ""
  choices : List ChunkChoice := []
  usage : Option Usage := none

namespace Chunk

def delta (c : Chunk) : ChunkDelta := (c.choices.head?.map (·.delta)).getD {}

def finished (c : Chunk) : Bool := c.choices.head?.any (·.finished)

def calls (c : Chunk) : List ToolCallResponse := c.delta.calls

def content (c : Chunk) : String := c.delta.getContentString

def reasoning (c : Chunk) : String := c.delta.getReasoningContent

def silent (c : Chunk) : Prop := c.content="" ∧ c.reasoning="" ∧ c.calls=[]

def usageOnly (c : Chunk) : Prop := c.choices=[] ∧ c.usage.isSome=true

end Chunk

structure ChatMessage where
  content : String
  reasoningContent : Option String
  toolCalls : List ToolCallResponse
  finishReason : String

/-- The tool call deltas in order: each has an index, the first of an index is the next index and carries id and name,
and later ones carry neither. -/
def CallsInOrder : Nat → List ToolCallResponse → Prop
  | _, [] => True
  | seen, call::calls =>
    (call.index=some seen ∧ call.id≠"" ∧ call.name≠"" ∧ CallsInOrder (seen+1) calls) ∨
    ((∃ k, k<seen ∧ call.index=some k) ∧ call.id="" ∧ call.name="" ∧ CallsInOrder seen calls)

/-- One choice a chunk, and after the chunk with the finish reason at most a chunk with the usage. -/
def ChunksInOrder : List Chunk → Prop
  | [] => True
  | c::cs => c.choices.length=1 ∧
    if c.finished then cs=[] ∨ ∃ u, cs=[u] ∧ u.usageOnly else ChunksInOrder cs

structure WellFormed (chunks : List Chunk) : Prop where
  ordered : ChunksInOrder chunks
  calls : CallsInOrder 0 (chunks.flatMap (·.calls))

end NewApi.Relay

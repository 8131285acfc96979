import NewApi.Relay.Chat

/-! Responses and stream events of the Responses API (`relaykit/dto/openai_response.go`), as far as the conversions from
and to chat completions look at them. -/
namespace NewApi.Relay

/-- A `json.RawMessage` by the value it holds: nothing (or `null`), a string, or another value with its text. -/
inductive RawMessage where
  | absent
  | string (value : String)
  | other (text : String)

def RawMessage.toText : RawMessage → String
  | .absent => ""
  | .string value => value
  | .other text => text

inductive OutputType where
  | message | reasoning | functionCall | customToolCall
  | other (name : String)
  deriving DecidableEq

def OutputType.isTool (t : OutputType) : Bool := t == .functionCall || t == .customToolCall

structure ResponsesOutputContent where
  type : String := ""
  text : String := ""

structure ResponsesOutput where
  type : OutputType
  id : String := ""
  status : String := ""
  role : String := ""
  content : List ResponsesOutputContent := []
  callId : String := ""
  name : String := ""
  arguments : RawMessage := .absent

def ResponsesOutput.argumentsString (out : ResponsesOutput) : String := out.arguments.toText

structure OpenAIResponsesResponse where
  id : String := ""
  createdAt : Int := 0
  status : RawMessage := .absent
  incompleteDetails : Option String := none
  model : String := ""
  output : List ResponsesOutput := []
  usage : Option Usage := none

inductive ResponsesEventType where
  | created | completed | done | incomplete | failed | error
  | outputItemAdded | outputItemDone
  | outputTextDelta | outputTextDone
  | functionArgsDelta | functionArgsDone
  | customToolInputDelta | customToolInputDone
  | reasoningSummaryDelta | reasoningSummaryDone
  | reasoningTextDelta | reasoningTextDone
  | other (name : String)

structure ResponsesStreamResponse where
  type : ResponsesEventType
  response : Option OpenAIResponsesResponse := none
  delta : String := ""
  item : Option ResponsesOutput := none
  outputIndex : Option Nat := none
  itemID : String := ""
  part : Option String := none

end NewApi.Relay

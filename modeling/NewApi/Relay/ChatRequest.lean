import NewApi.Relay.RequestJson

/-! Chat completion requests and Responses requests (`relaykit/dto/openai_request.go`), as far as the conversions between the two look
at them. -/
namespace NewApi.Relay
open JsonValue

structure ToolCallRequest where
  id : String := ""
  type : String
  description : String := ""
  name : String := ""
  parameters : Option JsonValue := none
  arguments : String := ""
  custom : Option JsonValue := none

/-- The tool calls by what `ParseToolCalls` reads. -/
structure Message where
  role : String
  content : Option JsonValue := none
  toolCalls : List ToolCallRequest := []
  toolCallId : String := ""

structure ResponseFormat where
  type : String
  jsonSchema : Option JsonValue := none

structure GeneralOpenAIRequest where
  model : String
  messages : List Message
  n : Option Int := none
  maxTokens : Option Nat := none
  maxCompletionTokens : Option Nat := none
  temperature : Option Rat := none
  topP : Option Rat := none
  frequencyPenalty : Option Rat := none
  presencePenalty : Option Rat := none
  tools : Option (List ToolCallRequest) := none
  toolChoice : Option JsonValue := none
  responseFormat : Option ResponseFormat := none
  reasoningEffort : String := ""
  parallelToolCalls : Option Bool := none

structure OpenAIResponsesRequest where
  model : String
  input : Option JsonValue := none
  instructions : Option String := none
  conversation : Option JsonValue := none
  previousResponseID : String := ""
  prompt : Option JsonValue := none
  contextManagement : Option JsonValue := none
  maxOutputTokens : Option Nat := none
  temperature : Option Rat := none
  topP : Option Rat := none
  frequencyPenalty : Option Rat := none
  presencePenalty : Option Rat := none
  tools : Option (List (List (String×JsonValue))) := none
  toolChoice : Option JsonValue := none
  text : Option (List (String×JsonValue)) := none
  reasoning : Option String := none
  parallelToolCalls : Option Bool := none

inductive MediaContent where
  | text (text : String)
  | image (url detail : String)
  | audio (data format : String)
  | file (fileName fileData fileId : String)
  | video (url : String)

def parseImage (imageUrl : Option JsonValue) : MediaContent :=
  match imageUrl with
  | some (.str url) => .image url "high"
  | some (.obj fields) => .image ((asStr (field "url" fields)).getD "") ((asStr (field "detail" fields)).getD "high")
  | _ => .image "" "high"

def parseAudio (audioData : List (String×JsonValue)) : Option MediaContent := do
  let data ← asStr (field "data" audioData)
  let format ← asStr (field "format" audioData)
  pure (.audio data format)

def parseFile (fileData : List (String×JsonValue)) : Option MediaContent :=
  match asStr (field "file_id" fileData) with
  | some fileId => some (.file "" "" fileId)
  | none => do
    let fileName ← asStr (field "filename" fileData)
    let fileDataStr ← asStr (field "file_data" fileData)
    pure (.file fileName fileDataStr "")

def parsePart : JsonValue → Option MediaContent
  | .obj contentItem =>
    match asStr (field "type" contentItem) with
    | some "text" => (asStr (field "text" contentItem)).map .text
    | some "image_url" => some (parseImage (field "image_url" contentItem))
    | some "input_audio" => (asObj (field "input_audio" contentItem)).bind parseAudio
    | some "file" => (asObj (field "file" contentItem)).bind parseFile
    | some "video_url" => (asStr (field "video_url" contentItem)).map .video
    | _ => none
  | _ => none

def parseContent : Option JsonValue → List MediaContent
  | some (.str text) => [.text text]
  | some (.arr parts) => parts.filterMap parsePart
  | _ => []

end NewApi.Relay

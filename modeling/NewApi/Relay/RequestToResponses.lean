import NewApi.Relay.ChatRequest

/-! The conversion of a chat completion request to a Responses request
(`relaykit/relayconvert/internal/oai_chat/to_oai_responses_req.go`). -/
namespace NewApi.Relay
open GoStrings JsonValue

structure JsonPrinter where
  marshal : JsonValue → String

def omitEmpty (key value : String) : List (String×JsonValue) := if value="" then [] else [(key,.str value)]

/-- `normalizeChatImageURLToString` of an image that `ParseContent` read, as it is encoded. -/
def normalizeChatImageURLToString (url detail : String) : JsonValue :=
  if url≠"" then .str url else .obj (("url",.str url)::omitEmpty "detail" detail++[("MimeType",.str "")])

def toolOutput (printer : JsonPrinter) : Option JsonValue → String
  | none | some .null => ""
  | some (.str text) => text
  | some value => printer.marshal value

def systemText (parts : List MediaContent) : String :=
  "\n".intercalate (parts.filterMap fun
    | .text text => if isBlank text then none else some text
    | _ => none)

/-- What a system message adds to `instructionsParts`. -/
def instructionPart (msg : Message) : Option String :=
  let role := trimSpace msg.role
  if role="system" ∨ role="developer" then
    let s := match msg.content with
      | none | some .null => ""
      | some (.str text) => trimSpace text
      | content => trimSpace (systemText (parseContent content))
    if s="" then none else some s
  else none

def inputPart (role : String) : MediaContent → JsonValue
  | .text text => .obj [("type",.str (if role="assistant" then "output_text" else "input_text")),("text",.str text)]
  | .image url detail => .obj [("type",.str "input_image"),("image_url",normalizeChatImageURLToString url detail)]
  | .audio data format => .obj [("type",.str "input_audio"),("input_audio",.obj [("data",.str data),("format",.str format)])]
  | .file fileName fileData fileId =>
    .obj [("type",.str "input_file"),("file",.obj (omitEmpty "filename" fileName++omitEmpty "file_data" fileData ++
      omitEmpty "file_id" fileId))]
  | .video url => .obj [("type",.str "input_video"),("video_url",.obj [("url",.str url)])]

def functionCallItem (tc : ToolCallRequest) : Option (List (String×JsonValue)) :=
  if isBlank tc.id then none
  else if tc.type≠"" ∧ tc.type≠"function" then none
  else if isBlank tc.name then none
  else some [("type",.str "function_call"),("call_id",.str tc.id),("name",.str (trimSpace tc.name)),("arguments",.str tc.arguments)]

def inputContent (role : String) : Option JsonValue → JsonValue
  | none | some .null => .str ""
  | some (.str text) => .str text
  | content => .arr ((parseContent content).map (inputPart role))

def inputItems (printer : JsonPrinter) (msg : Message) : List (List (String×JsonValue)) :=
  let role := trimSpace msg.role
  if role="" then []
  else if role="tool" ∨ role="function" then
    let callID := trimSpace msg.toolCallId
    let output := toolOutput printer msg.content
    if callID="" then [[("role",.str "user"),("content",.str ("[tool_output_missing_call_id] " ++ output))]]
    else [[("type",.str "function_call_output"),("call_id",.str callID),("output",.str output)]]
  else if role="system" ∨ role="developer" then []
  else [("role",.str role),("content",inputContent role msg.content)] ::
      if role="assistant" then msg.toolCalls.filterMap functionCallItem else []

def encodeTool (tool : ToolCallRequest) : List (String×JsonValue) :=
  omitEmpty "id" tool.id++[("type",.str tool.type),
    ("function",.obj (omitEmpty "description" tool.description++[("name",.str tool.name)] ++
      (tool.parameters.map ("parameters",·)).toList++omitEmpty "arguments" tool.arguments))] ++
    (tool.custom.map ("custom",·)).toList

def toolToResponses (tool : ToolCallRequest) : List (String×JsonValue) :=
  if tool.type="function" then [("type",.str "function"),("name",.str tool.name),("description",.str tool.description),
      ("parameters",tool.parameters.getD .null)]
  else encodeTool tool

def toolChoiceToResponses : JsonValue → JsonValue
  | .obj m =>
    let functionChoice name : JsonValue := .obj [("type",.str "function"),("name",.str name)]
    if asStr (field "type" m)=some "function" then
      match asStr (field "name" m) with
      | some name => if name≠"" then functionChoice name else fromFunction m functionChoice
      | none => fromFunction m functionChoice
    else .obj m
  | choice => choice
where
  /-- The name of a nested function. -/
  fromFunction (m : List (String×JsonValue)) (functionChoice : String → JsonValue) : JsonValue :=
    match (asObj (field "function" m)).bind fun fn => asStr (field "name" fn) with
    | some name => if name≠"" then functionChoice name else .obj m
    | none => .obj m

/-- `format[key] = value` for every member that is not there yet. -/
def addMissing (format extra : List (String×JsonValue)) : List (String×JsonValue) :=
  format++extra.filter fun entry => (field entry.1 format).isNone

def convertChatResponseFormatToResponsesText (reqFormat : Option ResponseFormat) : Option (List (String×JsonValue)) :=
  match reqFormat with
  | none => none
  | some reqFormat =>
    if isBlank reqFormat.type then none
    else
      let schema : List (String×JsonValue) :=
        match reqFormat.type == "json_schema", reqFormat.jsonSchema with
        | true, some (.obj chatSchema) =>
          let format := chatSchema.filter fun entry => entry.1 != "type"
          match asObj (field "json_schema" format) with
          | some nested =>
            (addMissing (("type",.str reqFormat.type)::format) nested).filter fun entry => entry.1 != "type" && entry.1 != "json_schema"
          | none => format
        | true, some .null => []
        | true, some value => [("json_schema",value)]
        | _, _ => []
      some [("format",.obj (("type",.str reqFormat.type)::schema))]

def chatCompletionsRequestToResponsesRequest (printer : JsonPrinter) (req : GeneralOpenAIRequest) :
    Except String OpenAIResponsesRequest :=
  if req.model="" then .error "model is required"
  else if 1<req.n.getD 1 then .error "n>1 is not supported in responses compatibility mode"
  else
    let instructionsParts := req.messages.filterMap instructionPart
    .ok {
      model := req.model
      input := some (.arr ((req.messages.flatMap (inputItems printer)).map .obj))
      instructions := if instructionsParts=[] then none else some ("\n\n".intercalate instructionsParts)
      temperature := req.temperature
      topP := req.topP
      text := convertChatResponseFormatToResponsesText req.responseFormat
      toolChoice := req.toolChoice.map toolChoiceToResponses
      tools := req.tools.map (List.map toolToResponses)
      frequencyPenalty := req.frequencyPenalty
      presencePenalty := req.presencePenalty
      parallelToolCalls := req.parallelToolCalls
      maxOutputTokens := if req.maxTokens.isSome ∨ req.maxCompletionTokens.isSome
        then some (max (req.maxTokens.getD 0) (req.maxCompletionTokens.getD 0)) else none
      reasoning := if req.reasoningEffort="" then none else some req.reasoningEffort }

end NewApi.Relay

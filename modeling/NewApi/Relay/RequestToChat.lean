import NewApi.Relay.RequestToResponses

/-! The conversion of a Responses request to a chat completion request
(`relaykit/relayconvert/internal/oai_responses/to_oai_chat_req.go`). -/
namespace NewApi.Relay
open GoStrings JsonValue

/-- `fmt.Sprintf` and `encoding/json` of values that are no strings. -/
structure ValuePrinter extends JsonPrinter where
  sprint : JsonValue → String

def requestToolChoiceToChat (sprint : JsonValue → String) (toolChoice : Option JsonValue) : Except String (Option JsonValue) :=
  match toolChoice with
  | none | some .null => .ok none
  | some (.str choice) => .ok (some (.str choice))
  | some (.obj choice) =>
    let name := trimSpace (toText sprint (field "name" choice))
    if toText sprint (field "type" choice)="function" ∧ name≠"" then
      .ok (some (.obj [("type",.str "function"),("function",.obj [("name",.str name)])]))
    else .ok (some (.obj choice))
  | _ => .error "invalid tool_choice"

section Items
variable (printer : ValuePrinter) (part : List (String×JsonValue)) (messages : List Message) (item : List (String×JsonValue))

def partPayload (key : String) : JsonValue :=
  (field key part).getD (.obj (part.filter fun entry => entry.1 != "type"))

def pickedOr (keys : List String) : JsonValue :=
  let picked := keys.filterMap fun key => (field key part).map (key,·)
  if picked=[] then .obj part else .obj picked

def imagePartToChatImageURL : JsonValue :=
  (field "image_url" part).getD (pickedOr part ["url", "file_id", "detail"])

def filePartToChatFile : JsonValue :=
  (field "file" part).getD (pickedOr part ["file_id", "file_data", "filename", "file_url"])

def videoPartToChatVideoURL : JsonValue :=
  match field "video_url" part with
  | some videoURL =>
    match videoURL with
    | .obj videoURLMap =>
      let url := toText printer.sprint (field "url" videoURLMap)
      if url≠"" then .str url else videoURL
    | _ => videoURL
  | none =>
    let url := toText printer.sprint (field "url" part)
    if url≠"" then .str url else partPayload part "video_url"

def partText (part : JsonValue) : Option String :=
  match part with
  | .obj fields =>
    if trimSpace (toText printer.sprint (field "type" fields))∈["input_text", "output_text", "text"]
    then some (toText printer.sprint (field "text" fields)) else none
  | _ => none

def partToChat (rawPart : JsonValue) : JsonValue :=
  match rawPart with
  | .obj part =>
    match trimSpace (toText printer.sprint (field "type" part)) with
    | "input_text" | "output_text" | "text" => .obj [("type",.str "text"),("text",.str (toText printer.sprint (field "text" part)))]
    | "input_image" => .obj [("type",.str "image_url"),("image_url",imagePartToChatImageURL part)]
    | "input_file" => .obj [("type",.str "file"),("file",filePartToChatFile part)]
    | "input_audio" => .obj [("type",.str "input_audio"),("input_audio",partPayload part "input_audio")]
    | "input_video" => .obj [("type",.str "video_url"),("video_url",videoPartToChatVideoURL printer part)]
    | _ => rawPart
  | _ => rawPart

/-- `responsesContentPartsToChatContent`: text parts alone become one text. -/
def contentPartsToChatContent (parts : List JsonValue) : JsonValue :=
  if parts.all fun part => (partText printer part).isSome then .str (String.join (parts.filterMap (partText printer)))
  else .arr (parts.map (partToChat printer))

def inputContentToChatContent (content : Option JsonValue) : JsonValue :=
  match content with
  | none | some .null => .str ""
  | some (.arr parts) => contentPartsToChatContent printer parts
  | some value => value

def callID (item : List (String×JsonValue)) : String :=
  let callID := trimSpace (toText printer.sprint (field "call_id" item))
  if callID≠"" then callID else trimSpace (toText printer.sprint (field "id" item))

def valueString : Option JsonValue → String
  | none | some .null => ""
  | some (.str text) => text
  | some value => printer.marshal value

def functionCallItemToChatToolCall : Except String ToolCallRequest :=
  let name := trimSpace (toText printer.sprint (field "name" item))
  if name="" then .error "function_call item is missing name"
  else .ok { id := callID printer item, type := "function", name, arguments := valueString printer (field "arguments" item) }

def customToolCallItemToChatToolCall : ToolCallRequest :=
  { id := callID printer item
    type := "custom"
    custom := some (.obj item)
    name := trimSpace (toText printer.sprint (field "name" item))
    arguments := valueString printer (field "input" item) }

def appendToolCallToLastAssistant (messages : List Message) (toolCall : ToolCallRequest) : List Message :=
  match messages.getLast? with
  | some last =>
    if last.role="assistant" then messages.dropLast++[{ last with toolCalls := last.toolCalls++[toolCall] }]
    else messages++[{ role := "assistant", toolCalls := [toolCall] }]
  | none => [{ role := "assistant", toolCalls := [toolCall] }]

def inputItemToChatMessages (messages : List Message) (item : List (String×JsonValue)) : Except String (List Message) :=
  match trimSpace (toText printer.sprint (field "type" item)) with
  | "function_call" => do
    let toolCall ← functionCallItemToChatToolCall printer item
    pure (appendToolCallToLastAssistant messages toolCall)
  | "custom_tool_call" => .ok (appendToolCallToLastAssistant messages (customToolCallItemToChatToolCall printer item))
  | "function_call_output" =>
    .ok (messages++[{
      role := "tool"
      toolCallId := trimSpace (toText printer.sprint (field "call_id" item))
      content := some (.str (valueString printer (field "output" item))) }])
  | _ =>
    let role := trimSpace (toText printer.sprint (field "role" item))
    .ok (messages++[{
      role := if role="" then "user" else role
      content := some (inputContentToChatContent printer (field "content" item)) }])

def instructionMessages (instructions : Option String) : List Message :=
  match instructions with
  | some instructions => if isBlank instructions then [] else [{ role := "system", content := some (.str instructions) }]
  | none => []

/-- An item as `encoding/json` decodes it into a map: a null item is an empty one. -/
def inputItem : JsonValue → Except String (List (String×JsonValue))
  | .obj item => .ok item
  | .null => .ok []
  | _ => .error "invalid input array"

def requestMessagesToChat (req : OpenAIResponsesRequest) : Except String (List Message) :=
  let messages := instructionMessages req.instructions
  match req.input with
  | none | some .null => .ok messages
  | some (.str input) => .ok (messages++[{ role := "user", content := some (.str input) }])
  | some (.arr items) => do
    let items ← items.mapM inputItem
    items.foldlM (inputItemToChatMessages printer) messages
  | _ => .error "unsupported responses input type"

def toolToChat (tool : List (String×JsonValue)) : ToolCallRequest :=
  let toolType := trimSpace (toText printer.sprint (field "type" tool))
  if toolType="function" then
    { type := "function"
      name := trimSpace (toText printer.sprint (field "name" tool))
      description := toText printer.sprint (field "description" tool)
      parameters := (field "parameters" tool).filter fun value => present (some value) }
  else { type := toolType, custom := some (.obj tool) }

def requestTextToChatResponseFormat (text : Option (List (String×JsonValue))) : Option ResponseFormat := do
  let textConfig ← text
  let format ← asObj (field "format" textConfig)
  let formatType := trimSpace (toText printer.sprint (field "type" format))
  if formatType="" then none
  else some { type := formatType, jsonSchema := if formatType="json_schema" then some (.obj format) else none }

def validateChatUnsupportedFields (req : OpenAIResponsesRequest) : Except String Unit :=
  let unsupported :=
    (if present req.conversation then ["conversation"] else []) ++
    (if trimSpace req.previousResponseID≠"" then ["previous_response_id"] else []) ++
    (if present req.prompt then ["prompt"] else []) ++
    (if present req.contextManagement then ["context_management"] else [])
  if unsupported=[] then .ok ()
  else .error ("responses to chat conversion does not support stateful fields: " ++ ", ".intercalate unsupported)

def responsesToChatCompletionsRequest (req : OpenAIResponsesRequest) : Except String GeneralOpenAIRequest := do
  if req.model="" then .error "model is required" else pure ()
  validateChatUnsupportedFields req
  let messages ← requestMessagesToChat printer req
  let toolChoice ← requestToolChoiceToChat printer.sprint req.toolChoice
  pure {
    model := req.model
    messages
    maxCompletionTokens := req.maxOutputTokens
    temperature := req.temperature
    topP := req.topP
    responseFormat := requestTextToChatResponseFormat printer req.text
    tools := req.tools.map (List.map (toolToChat printer))
    toolChoice
    frequencyPenalty := req.frequencyPenalty
    presencePenalty := req.presencePenalty
    reasoningEffort := req.reasoning.getD ""
    parallelToolCalls := req.parallelToolCalls }

def Message.said (message : Message) : List (Message⊕ToolCallRequest) :=
  (if message.content.isSome then [.inl { message with toolCalls := [] }] else [])++message.toolCalls.map .inr

def itemSaid : Except String (Message⊕ToolCallRequest) :=
  match trimSpace (toText printer.sprint (field "type" item)) with
  | "function_call" => (functionCallItemToChatToolCall printer item).map .inr
  | "custom_tool_call" => .ok (.inr (customToolCallItemToChatToolCall printer item))
  | "function_call_output" => .ok (.inl {
      role := "tool"
      toolCallId := trimSpace (toText printer.sprint (field "call_id" item))
      content := some (.str (valueString printer (field "output" item))) })
  | _ =>
    let role := trimSpace (toText printer.sprint (field "role" item))
    .ok (.inl {
      role := if role="" then "user" else role
      content := some (inputContentToChatContent printer (field "content" item)) })

theorem append_said (toolCall : ToolCallRequest) :
    (appendToolCallToLastAssistant messages toolCall).flatMap (·.said)=messages.flatMap (·.said)++[.inr toolCall] := by
  unfold appendToolCallToLastAssistant
  obtain rfl | ⟨before,last,rfl⟩ := messages.eq_nil_or_concat
  · simp [Message.said]
  · by_cases hrole : last.role="assistant" <;> simp [Message.said,hrole]

theorem item_said :
    (inputItemToChatMessages printer messages item).map (·.flatMap (·.said)) =
      (itemSaid printer item).map fun said => messages.flatMap (·.said)++[said] := by
  unfold inputItemToChatMessages itemSaid
  split
  · cases functionCallItemToChatToolCall printer item with
    | error e => rfl
    | ok toolCall => exact congrArg Except.ok (append_said messages toolCall)
  · exact congrArg Except.ok (append_said messages _)
  all_goals simp [Except.map,Message.said]

theorem items_said (items : List (List (String×JsonValue))) : ∀ messages : List Message,
    (items.foldlM (inputItemToChatMessages printer) messages).map (·.flatMap (·.said)) =
      (items.mapM (itemSaid printer)).map fun said => messages.flatMap (·.said)++said := by
  induction items with
  | nil => simp [Except.map,pure,Except.pure]
  | cons item rest ih =>
    intro messages
    have hitem := item_said printer messages item
    rw [List.foldlM_cons,List.mapM_cons]
    cases hsaid : itemSaid printer item with
    | error e =>
      rw [hsaid] at hitem
      cases hnext : inputItemToChatMessages printer messages item <;> rw [hnext] at hitem <;> cases hitem
      rfl
    | ok said =>
      rw [hsaid] at hitem
      cases hnext : inputItemToChatMessages printer messages item with
      | error e => rw [hnext] at hitem; cases hitem
      | ok next =>
        rw [hnext] at hitem
        refine (ih next).trans ?_
        rw [show next.flatMap (·.said)=messages.flatMap (·.said)++[said] from Except.ok.inj hitem]
        cases rest.mapM (itemSaid printer) <;> simp [Except.map,bind,Except.bind,pure,Except.pure]

end Items
end NewApi.Relay

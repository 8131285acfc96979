import NewApi.Lib.Runs
import NewApi.Relay.RequestToChat

/-! A chat completion request that is converted to a Responses request and back is the request in a normal form. -/
namespace NewApi.Relay
open List GoStrings JsonValue Runs

def MediaContent.asText : MediaContent → Option String
  | .text value => some value
  | _ => none

open MediaContent (asText)

section Normal
variable (printer : JsonPrinter)

/-- A part as the way back writes it: an image by its URL, a file by its id or by its name and data. -/
def normalPart : MediaContent → JsonValue
  | .text text => .obj [("type",.str "text"),("text",.str text)]
  | .image url detail => .obj [("type",.str "image_url"),("image_url",normalizeChatImageURLToString url detail)]
  | .audio data format => .obj [("type",.str "input_audio"),("input_audio",.obj [("data",.str data),("format",.str format)])]
  | .file fileName fileData fileId =>
    .obj [("type",.str "file"),("file",.obj (omitEmpty "filename" fileName++omitEmpty "file_data" fileData ++
      omitEmpty "file_id" fileId))]
  | .video url => .obj [("type",.str "video_url"),("video_url",if url≠"" then .str url else .obj [("url",.str url)])]

def normalContent : Option JsonValue → JsonValue
  | none | some .null => .str ""
  | some (.str text) => .str text
  | content =>
    if (parseContent content).all fun part => part.asText.isSome then .str (String.join ((parseContent content).filterMap asText))
    else .arr ((parseContent content).map normalPart)

def normalToolCall (tc : ToolCallRequest) : ToolCallRequest :=
  { id := trimSpace tc.id, type := "function", name := trimSpace tc.name, arguments := tc.arguments }

def normalMessage (msg : Message) : Message :=
  if msg.role="tool" then
    { role := "tool", toolCallId := trimSpace msg.toolCallId, content := some (.str (toolOutput printer msg.content)) }
  else
    { role := msg.role
      content := some (normalContent msg.content)
      toolCalls := if msg.role="assistant" then msg.toolCalls.map normalToolCall else [] }

def normalMessages (messages : List Message) : List Message :=
  let instructionsParts := messages.filterMap instructionPart
  (if instructionsParts=[] then [] else [{ role := "system", content := some (.str ("\n\n".intercalate instructionsParts)) }]) ++
    (messages.filter fun msg => msg.role != "system").map (normalMessage printer)

def normalTool (tool : ToolCallRequest) : ToolCallRequest :=
  { type := "function"
    name := trimSpace tool.name
    description := tool.description
    parameters := tool.parameters.filter fun value => present (some value) }

def normalToolChoice : JsonValue → JsonValue
  | .obj m =>
    match asStr (field "type" m), (asObj (field "function" m)).bind fun fn => asStr (field "name" fn) with
    | some "function", some name => .obj [("type",.str "function"),("function",.obj [("name",.str (trimSpace name))])]
    | _, _ => .obj m
  | choice => choice

/-- A `json_schema` format names its type among the members of the schema. -/
def normalFormat (format : ResponseFormat) : ResponseFormat :=
  match format.jsonSchema with
  | some (.obj schema) =>
    { type := format.type, jsonSchema := some (.obj (("type",.str format.type)::schema.filter fun entry => entry.1 != "type")) }
  | _ => format

def normalRequest (req : GeneralOpenAIRequest) : GeneralOpenAIRequest where
  model := req.model
  messages := normalMessages printer req.messages
  maxCompletionTokens := if req.maxTokens.isSome ∨ req.maxCompletionTokens.isSome
    then some (max (req.maxTokens.getD 0) (req.maxCompletionTokens.getD 0)) else none
  temperature := req.temperature
  topP := req.topP
  frequencyPenalty := req.frequencyPenalty
  presencePenalty := req.presencePenalty
  tools := req.tools.map (List.map normalTool)
  toolChoice := req.toolChoice.map normalToolChoice
  responseFormat := req.responseFormat.map normalFormat
  reasoningEffort := req.reasoningEffort
  parallelToolCalls := req.parallelToolCalls

end Normal

structure Message.WellFormed (msg : Message) : Prop where
  role : msg.role∈["system", "user", "assistant", "tool"]
  content : msg.role="tool" ∨ msg.content=none ∨ (∃ text, msg.content=some (.str text)) ∨
    ∃ parts, msg.content=some (.arr parts) ∧ ∀ part∈parts, (parsePart part).isSome=true
  calls : msg.role="assistant" → ∀ tc∈msg.toolCalls, isBlank tc.id=false ∧ isBlank tc.name=false ∧ tc.type="function"
  callID : msg.role="tool" → isBlank msg.toolCallId=false

def WellFormedChoice : JsonValue → Prop
  | .str _ => True
  | .obj m =>
    (field "type" m=some (.str "function") ∧ field "name" m=none ∧
      ∃ fn name, field "function" m=some (.obj fn) ∧ field "name" fn=some (.str name) ∧ isBlank name=false) ∨
    ∃ type, field "type" m=some (.str type) ∧ type≠"function"
  | _ => False

structure ResponseFormat.WellFormed (format : ResponseFormat) : Prop where
  type : trimSpace format.type=format.type ∧ format.type≠""
  schema : if format.type="json_schema" then ∃ schema, format.jsonSchema=some (.obj schema) ∧ field "json_schema" schema=none
    else format.jsonSchema=none

structure GeneralOpenAIRequest.WellFormed (req : GeneralOpenAIRequest) : Prop where
  model : req.model≠""
  n : req.n.getD 1≤1
  messages : ∀ msg∈req.messages, msg.WellFormed
  tools : ∀ tools∈req.tools, ∀ tool∈tools, tool.type="function"
  toolChoice : ∀ choice∈req.toolChoice, WellFormedChoice choice
  format : ∀ format∈req.responseFormat, format.WellFormed

section Words

theorem field_cons (key key' : String) (value : JsonValue) (rest : List (String×JsonValue)) :
    field key ((key',value)::rest) = if key'=key then some value else field key rest := by
  rw [field,find?_cons]
  split
  next h =>
    rw [if_pos (by simpa using h)]
    rfl
  next h =>
    rw [if_neg (by simpa using h)]
    rfl

/-- The words that name roles and types have no white space around them. -/
def words : List String :=
  ["system", "user", "assistant", "tool", "function", "function_call", "function_call_output", "input_text", "output_text", "input_image",
    "input_file", "input_audio", "input_video", "json_schema"]

theorem trimSpace_word : ∀ word∈words, trimSpace word=word := by decide +kernel

end Words

section Parts
variable (printer : ValuePrinter) (role : String) (part : MediaContent)

theorem partText_inputPart : partText printer (inputPart role part)=part.asText := by
  cases part with
  | text text =>
    by_cases hrole : role="assistant"
    · simp [inputPart,partText,if_pos hrole,field_cons,toText,trimSpace_word "output_text" (by decide),asText]
    · simp [inputPart,partText,if_neg hrole,field_cons,toText,trimSpace_word "input_text" (by decide),asText]
  | image url detail => simp [inputPart,partText,field_cons,toText,trimSpace_word "input_image" (by decide),asText]
  | audio data format => simp [inputPart,partText,field_cons,toText,trimSpace_word "input_audio" (by decide),asText]
  | file fileName fileData fileId => simp [inputPart,partText,field_cons,toText,trimSpace_word "input_file" (by decide),asText]
  | video url => simp [inputPart,partText,field_cons,toText,trimSpace_word "input_video" (by decide),asText]

theorem partToChat_inputPart : partToChat printer (inputPart role part)=normalPart part := by
  cases part with
  | text text =>
    by_cases hrole : role="assistant"
    · simp [inputPart,partToChat,if_pos hrole,field_cons,toText,trimSpace_word "output_text" (by decide),normalPart]
    · simp [inputPart,partToChat,if_neg hrole,field_cons,toText,trimSpace_word "input_text" (by decide),normalPart]
  | image url detail =>
    simp [inputPart,partToChat,field_cons,toText,trimSpace_word "input_image" (by decide),normalPart,imagePartToChatImageURL]
  | audio data format =>
    simp [inputPart,partToChat,field_cons,toText,trimSpace_word "input_audio" (by decide),normalPart,partPayload]
  | file fileName fileData fileId =>
    simp [inputPart,partToChat,field_cons,toText,trimSpace_word "input_file" (by decide),normalPart,filePartToChatFile]
  | video url =>
    simp [inputPart,partToChat,field_cons,toText,trimSpace_word "input_video" (by decide),normalPart,videoPartToChatVideoURL]

theorem inputContentToChatContent_inputContent (role : String) (content : Option JsonValue) :
    inputContentToChatContent printer (some (inputContent role content))=normalContent content := by
  have hparts : ∀ parts : List MediaContent, contentPartsToChatContent printer (parts.map (inputPart role)) =
      if parts.all fun part => part.asText.isSome then .str (String.join (parts.filterMap asText))
      else .arr (parts.map normalPart) := by
    intro parts
    rw [contentPartsToChatContent,all_map,filterMap_map,map_map]
    simp only [Function.comp_def,partText_inputPart,partToChat_inputPart]
  match content with
  | none | some .null | some (.str _) => rfl
  | some (.bool _) | some (.num _) | some (.arr _) | some (.obj _) => exact hparts _

end Parts

section Messages
variable (printer : ValuePrinter) (messages : List Message)

theorem messageItem {role : String} (hrole : role∈words) (content : Option JsonValue) :
    inputItemToChatMessages printer messages [("role",.str role),("content",inputContent role content)] =
      .ok (messages++[{ role, content := some (normalContent content) }]) := by
  have hword := trimSpace_word role hrole
  have hne : role≠"" := by rintro rfl; exact absurd hrole (by decide)
  have htype : toText printer.sprint (field "type" [("role",.str role),("content",inputContent role content)])="" := by
    simp [field,toText]
  have hcontent := inputContentToChatContent_inputContent printer role content
  rw [inputItemToChatMessages,htype]
  simp [field_cons,toText,hword,hne,hcontent,trimSpace_empty]

theorem outputItem (callId output : String) :
    inputItemToChatMessages printer messages
      [("type",.str "function_call_output"),("call_id",.str callId),("output",.str output)] =
      .ok (messages++[{ role := "tool", toolCallId := trimSpace callId, content := some (.str output) }]) := by
  simp [inputItemToChatMessages,field_cons,toText,trimSpace_word "function_call_output" (by decide),valueString]

variable {tc : ToolCallRequest}

theorem functionCallItem_of_wellFormed (hid : isBlank tc.id=false) (hname : isBlank tc.name=false)
    (htype : tc.type="function") :
    functionCallItem tc=some [("type",.str "function_call"),("call_id",.str tc.id),("name",.str (trimSpace tc.name)),
      ("arguments",.str tc.arguments)] := by
  rw [functionCallItem,hid,hname,htype]
  simp

variable {last msg : Message} (messages : List Message)

theorem callItem (hlast : last.role="assistant") (hid : isBlank tc.id=false)
    (hname : isBlank tc.name=false) :
    inputItemToChatMessages printer (messages++[last])
      [("type",.str "function_call"),("call_id",.str tc.id),("name",.str (trimSpace tc.name)),("arguments",.str tc.arguments)] =
      .ok (messages++[{ last with toolCalls := last.toolCalls++[normalToolCall tc] }]) := by
  have hid' : trimSpace tc.id≠"" := by simpa [isBlank] using hid
  have hname' : trimSpace tc.name≠"" := by simpa [isBlank] using hname
  simp [inputItemToChatMessages,field_cons,toText,trimSpace_word "function_call" (by decide),functionCallItemToChatToolCall,
    trimSpace_trimSpace,hname',hid',callID,valueString,appendToolCallToLastAssistant,hlast,normalToolCall,bind,Except.bind,pure,
    Except.pure]

theorem callItems (hlast : last.role="assistant") (calls : List ToolCallRequest)
    (hcalls : ∀ tc∈calls, isBlank tc.id=false ∧ isBlank tc.name=false ∧ tc.type="function") :
    (calls.filterMap functionCallItem).foldlM (inputItemToChatMessages printer) (messages++[last]) =
      .ok (messages++[{ last with toolCalls := last.toolCalls++calls.map normalToolCall }]) := by
  induction calls generalizing last with
  | nil => simp [pure,Except.pure]
  | cons tc rest ih =>
    obtain ⟨⟨hid,hname,htype⟩,hrest⟩ := forall_mem_cons.mp hcalls
    rw [filterMap_cons,functionCallItem_of_wellFormed hid hname htype,foldlM_cons,callItem printer messages hlast hid hname]
    refine (@ih { last with toolCalls := last.toolCalls++[normalToolCall tc] } hlast hrest).trans ?_
    rw [map_cons,append_assoc]
    rfl

theorem messageItems (hmsg : msg.WellFormed) (hsystem : msg.role≠"system") :
    (inputItems printer.toJsonPrinter msg).foldlM (inputItemToChatMessages printer) messages =
      .ok (messages++[normalMessage printer.toJsonPrinter msg]) := by
  have hrole : msg.role="user" ∨ msg.role="assistant" ∨ msg.role="tool" := by simpa [hsystem] using hmsg.role
  rcases hrole with hrole | hrole | hrole
  · rw [inputItems,normalMessage,hrole,trimSpace_word "user" (by decide)]
    simp [messageItem printer messages (show "user" ∈ words by decide),pure,Except.pure]
    rfl
  · rw [inputItems,normalMessage,hrole,trimSpace_word "assistant" (by decide)]
    simp only [String.reduceEq,if_false,if_true,or_self,foldlM_cons,
      messageItem printer messages (show "assistant" ∈ words by decide) msg.content]
    exact callItems printer messages rfl msg.toolCalls (hmsg.calls hrole)
  · have hid : trimSpace msg.toolCallId≠"" := by simpa [isBlank] using hmsg.callID hrole
    rw [inputItems,normalMessage,hrole,trimSpace_word "tool" (by decide)]
    simp [hid,outputItem,trimSpace_trimSpace,pure,Except.pure]
    rfl

theorem inputItems_system (h : msg.role="system") : inputItems printer.toJsonPrinter msg=[] := by
  rw [inputItems,h,trimSpace_word "system" (by decide)]
  simp

theorem foldlM_append_ok {ι σ : Type} {step : σ → ι → Except String σ} {l1 l2 : List ι} {s s' : σ} (h : l1.foldlM step s=.ok s') :
    (l1++l2).foldlM step s=l2.foldlM step s' := by
  rw [foldlM_append,h]
  rfl

theorem conversationItems (before : List Message) (messages : List Message) (h : ∀ msg∈messages, msg.WellFormed) :
    (messages.flatMap (inputItems printer.toJsonPrinter)).foldlM (inputItemToChatMessages printer) before =
      .ok (before++(messages.filter fun msg => msg.role != "system").map (normalMessage printer.toJsonPrinter)) := by
  induction messages generalizing before with
  | nil => simp [pure,Except.pure]
  | cons msg rest ih =>
    obtain ⟨hmsg,hrest⟩ := forall_mem_cons.mp h
    rw [flatMap_cons]
    by_cases hsystem : msg.role="system"
    · rw [inputItems_system printer hsystem,nil_append,ih before hrest,filter_cons_of_neg (by simp [hsystem])]
    rw [foldlM_append_ok (messageItems printer before hmsg hsystem),ih _ hrest,filter_cons_of_pos (by simp [hsystem]),
      map_cons,append_assoc]
    rfl

theorem instructionPart_nonblank {part : String} (h : instructionPart msg=some part) : isBlank part=false := by
  have htrim : ∃ text, part=trimSpace text ∧ trimSpace text≠"" := by
    unfold instructionPart at h
    dsimp only at h
    split at h
    · split at h
      · split at h
        · cases h
        next hne =>
          simp at hne
      · split at h
        · cases h
        next hne =>
          simp at hne
      all_goals
        split at h
        · cases h
        rename_i hne
        cases h
        exact ⟨_,rfl,hne⟩
    · cases h
  obtain ⟨text,rfl,hne⟩ := htrim
  simpa [isBlank,trimSpace_trimSpace] using hne

theorem intercalate_nonblank {sep part : String} {parts : List String} (h : isBlank part=false) :
    isBlank (sep.intercalate (part::parts))=false := by
  rw [Bool.eq_false_iff,ne_eq,isBlank_iff] at h ⊢
  intro hall
  refine h fun c hc => hall c ?_
  cases parts with
  | nil => rwa [String.intercalate_singleton]
  | cons next rest =>
    rw [String.intercalate_cons_cons,String.toList_append,String.toList_append]
    exact mem_append_left _ (mem_append_left _ hc)

theorem requestMessages_normal {messages : List Message} (h : ∀ msg∈messages, msg.WellFormed) {req : OpenAIResponsesRequest}
    (hinput : req.input=some (.arr ((messages.flatMap (inputItems printer.toJsonPrinter)).map .obj)))
    (hinstructions : req.instructions = if messages.filterMap instructionPart=[] then none
      else some ("\n\n".intercalate (messages.filterMap instructionPart))) :
    requestMessagesToChat printer req=.ok (normalMessages printer.toJsonPrinter messages) := by
  have hobjects : ∀ items : List (List (String×JsonValue)), (items.map JsonValue.obj).mapM inputItem=.ok items := by
    intro items
    induction items with
    | nil => rfl
    | cons item rest ih =>
      rw [map_cons,mapM_cons,ih]
      rfl
  have hsystem : instructionMessages req.instructions = if messages.filterMap instructionPart=[] then []
      else [{ role := "system", content := some (.str ("\n\n".intercalate (messages.filterMap instructionPart))) }] := by
    rw [hinstructions]
    cases hparts : messages.filterMap instructionPart with
    | nil => rfl
    | cons part rest =>
      have hpart : part∈messages.filterMap instructionPart := hparts ▸ mem_cons_self
      obtain ⟨msg,-,hmsg⟩ := mem_filterMap.mp hpart
      rw [if_neg (cons_ne_nil _ _),if_neg (cons_ne_nil _ _),instructionMessages,
        intercalate_nonblank (instructionPart_nonblank hmsg)]
      rfl
  rw [requestMessagesToChat,hsystem,hinput]
  dsimp only
  rw [hobjects]
  exact conversationItems printer _ messages h

end Messages

section Fields
variable (printer : ValuePrinter)

theorem toolToChat_toolToResponses {tool : ToolCallRequest} (h : tool.type="function") :
    toolToChat printer (toolToResponses tool)=normalTool tool := by
  have hparameters : (field "parameters" (toolToResponses tool)).filter (fun value => present (some value)) =
      tool.parameters.filter fun value => present (some value) := by
    simp only [toolToResponses,if_pos h,field_cons,String.reduceEq,if_false,if_true]
    cases tool.parameters <;> rfl
  rw [toolToChat,hparameters]
  simp [toolToResponses,h,field_cons,toText,trimSpace_word "function" (by decide),normalTool]

theorem field_filter_none {key : String} {fields : List (String×JsonValue)} (h : field key fields=none) (p : String×JsonValue → Bool) :
    field key (fields.filter p)=none := by
  rw [field,Option.map_eq_none_iff,find?_eq_none] at h ⊢
  exact fun entry hentry => h entry (mem_of_mem_filter hentry)

theorem toolChoice_normal {choice : JsonValue} (h : WellFormedChoice choice) :
    requestToolChoiceToChat printer.sprint (some (toolChoiceToResponses choice))=.ok (some (normalToolChoice choice)) := by
  match choice, h with
  | .str _, _ => rfl
  | .obj m, h =>
    rcases h with ⟨htype,hname,fn,name,hfn,hfnName,hblank⟩ | ⟨type,htype,hne⟩
    · have hnameNe : name≠"" := by rintro rfl; exact absurd hblank (by decide)
      have htrimNe : trimSpace name≠"" := by simpa [isBlank] using hblank
      simp [toolChoiceToResponses,toolChoiceToResponses.fromFunction,htype,hname,hfn,hfnName,asObj,asStr,hnameNe,
        requestToolChoiceToChat,field_cons,toText,htrimNe,normalToolChoice]
    · simp [toolChoiceToResponses,htype,asStr,hne,requestToolChoiceToChat,toText,normalToolChoice]

theorem format_normal {format : ResponseFormat} (h : format.WellFormed) :
    requestTextToChatResponseFormat printer (convertChatResponseFormatToResponsesText (some format))=some (normalFormat format) := by
  obtain ⟨⟨htrim,hne⟩,hschema⟩ := h
  obtain ⟨type,jsonSchema⟩ := format
  dsimp only at htrim hne hschema
  have hblank : isBlank type=false := by simpa [isBlank,htrim] using hne
  by_cases hjson : type="json_schema"
  · rw [if_pos hjson] at hschema
    obtain ⟨schema,rfl,hnested⟩ := hschema
    subst hjson
    have hfiltered : field "json_schema" (schema.filter fun entry => entry.1 != "type")=none := field_filter_none hnested _
    have hconvert : convertChatResponseFormatToResponsesText (some { type := "json_schema", jsonSchema := some (.obj schema) }) =
        some [("format",.obj (("type",.str "json_schema")::schema.filter fun entry => entry.1 != "type"))] := by
      simp only [convertChatResponseFormatToResponsesText,hblank,beq_self_eq_true,hfiltered,asObj]
      rfl
    rw [hconvert]
    simp [requestTextToChatResponseFormat,asObj,field_cons,toText,htrim,normalFormat]
  · rw [if_neg hjson] at hschema
    subst hschema
    have hconvert : convertChatResponseFormatToResponsesText (some { type, jsonSchema := none }) =
        some [("format",.obj [("type",.str type)])] := by
      simp [convertChatResponseFormatToResponsesText,hblank]
    rw [hconvert]
    simp [requestTextToChatResponseFormat,asObj,field_cons,toText,htrim,hne,hjson,normalFormat]

theorem tools_normal {tools : Option (List ToolCallRequest)} (h : ∀ list∈tools, ∀ tool∈list, tool.type="function") :
    (tools.map (List.map toolToResponses)).map (List.map (toolToChat printer))=tools.map (List.map normalTool) := by
  cases tools with
  | none => rfl
  | some list =>
    rw [Option.map_some,Option.map_some,Option.map_some,map_map]
    have hlist : list.map (toolToChat printer ∘ toolToResponses)=list.map normalTool := by
      refine map_congr_left fun tool htool => ?_
      have htype : tool.type="function" := h list rfl tool htool
      rw [Function.comp_apply,toolToChat_toolToResponses printer htype]
    rw [hlist]

theorem parts_read {msg : Message} (h : msg.WellFormed) (hrole : msg.role≠"tool") {parts : List JsonValue}
    (hparts : msg.content=some (.arr parts)) : (parseContent msg.content).map some=parts.map parsePart := by
  have hread : ∀ part∈parts, (parsePart part).isSome=true := by
    rcases h.content with htool | hnone | ⟨text,htext⟩ | ⟨parts',hparts',hread⟩
    · exact absurd htool hrole
    · cases hnone.symm.trans hparts
    · cases htext.symm.trans hparts
    cases hparts'.symm.trans hparts
    exact hread
  rw [hparts,parseContent]
  clear hparts
  induction parts with
  | nil => rfl
  | cons part rest ih =>
    obtain ⟨hpart,hrest⟩ := forall_mem_cons.mp hread
    obtain ⟨item,hitem⟩ := Option.isSome_iff_exists.mp hpart
    rw [filterMap_cons,hitem,map_cons,map_cons,ih hrest,hitem]

/-- Converting a chat completion request to a Responses request and back yields its normal form, which has every part of its messages. -/
theorem chat_responses_chat (printer : ValuePrinter) {req : GeneralOpenAIRequest} (h : req.WellFormed) :
    (chatCompletionsRequestToResponsesRequest printer.toJsonPrinter req).bind (responsesToChatCompletionsRequest printer) =
        .ok (normalRequest printer.toJsonPrinter req) ∧
      ∀ msg∈req.messages, msg.role≠"tool" → ∀ parts, msg.content=some (.arr parts) →
        (parseContent msg.content).map some=parts.map parsePart := by
  refine ⟨?_,fun msg hmsg hrole parts hparts => parts_read (h.messages msg hmsg) hrole hparts⟩
  have hchoice : requestToolChoiceToChat printer.sprint (req.toolChoice.map toolChoiceToResponses) =
      .ok (req.toolChoice.map normalToolChoice) := by
    cases hchoice : req.toolChoice with
    | none => rfl
    | some choice => exact toolChoice_normal printer (h.toolChoice choice hchoice)
  have hformat : requestTextToChatResponseFormat printer (convertChatResponseFormatToResponsesText req.responseFormat) =
      req.responseFormat.map normalFormat := by
    cases hformat : req.responseFormat with
    | none => rfl
    | some format => exact format_normal printer (h.format format hformat)
  have heffort : (if req.reasoningEffort="" then none else some req.reasoningEffort).getD "" = req.reasoningEffort := by
    split
    next hempty =>
      rw [hempty]
      rfl
    · rfl
  rw [chatCompletionsRequestToResponsesRequest,if_neg h.model,if_neg (Int.not_lt.mpr h.n),Except.bind]
  rw [responsesToChatCompletionsRequest,if_neg h.model,requestMessages_normal printer h.messages rfl rfl,hchoice]
  conv_rhs => rw [normalRequest,← hformat,← heffort,← tools_normal printer h.tools]
  rfl

end Fields

def silentPrinter : ValuePrinter where
  marshal _ := ""
  sprint _ := ""

def toolConversation : GeneralOpenAIRequest where
  model := "gpt"
  messages :=
    [{ role := "system", content := some (.str " be brief ") },
      { role := "user", content := some (.arr [.obj [("type",.str "text"),("text",.str "hi")],
          .obj [("type",.str "image_url"),("image_url",.str "http://a")]]) },
      { role := "assistant", content := some (.str "calling"),
        toolCalls := [{ id := "c1", type := "function", name := "f", arguments := "" }] },
      { role := "tool", content := some (.str "42"), toolCallId := "c1" }]
  maxTokens := some 16

theorem toolConversation_wellFormed : toolConversation.WellFormed where
  model := by decide
  n := by decide
  messages := by
    intro msg hmsg
    simp only [toolConversation,mem_cons,not_mem_nil,or_false] at hmsg
    rcases hmsg with rfl | rfl | rfl | rfl
    · exact ⟨by decide,.inr (.inr (.inl ⟨_,rfl⟩)),by decide,by decide⟩
    · refine ⟨by decide,.inr (.inr (.inr ⟨_,rfl,?_⟩)),by decide,by decide⟩
      simp [parsePart,field_cons,asStr,parseImage]
    · exact ⟨by decide,.inr (.inr (.inl ⟨_,rfl⟩)),fun _ => by simp [isBlank]; decide +kernel,by decide⟩
    · exact ⟨by decide,.inl rfl,by decide,fun _ => by decide +kernel⟩
  tools _ h := nomatch h
  toolChoice _ h := nomatch h
  format _ h := nomatch h

theorem chat_responses_chat_tools :
    (chatCompletionsRequestToResponsesRequest silentPrinter.toJsonPrinter toolConversation).bind
        (responsesToChatCompletionsRequest silentPrinter) =
      .ok { model := "gpt"
            messages :=
              [{ role := "system", content := some (.str "be brief") },
                { role := "user", content := some (.arr [.obj [("type",.str "text"),("text",.str "hi")],
                    .obj [("type",.str "image_url"),("image_url",.str "http://a")]]) },
                { role := "assistant", content := some (.str "calling"),
                  toolCalls := [{ id := "c1", type := "function", name := "f", arguments := "" }] },
                { role := "tool", content := some (.str "42"), toolCallId := "c1" }]
            maxCompletionTokens := some 16 } := by
  refine (chat_responses_chat silentPrinter toolConversation_wellFormed).1.trans ?_
  rfl

def lowDetailRequest : GeneralOpenAIRequest where
  model := "gpt"
  messages := [{ role := "user", content := some (.arr [.obj [("type",.str "image_url"),
    ("image_url",.obj [("url",.str "http://a"),("detail",.str "low")])]]) }]

theorem image_detail_lost :
    (chatCompletionsRequestToResponsesRequest silentPrinter.toJsonPrinter lowDetailRequest).bind
        (responsesToChatCompletionsRequest silentPrinter) =
      .ok { model := "gpt"
            messages := [{ role := "user", content := some (.arr [.obj [("type",.str "image_url"),("image_url",.str "http://a")]]) }] } ∧
    (lowDetailRequest.messages.map fun msg => msg.content) ≠
      [some (.arr [.obj [("type",.str "image_url"),("image_url",.str "http://a")]])] := by
  refine ⟨by rfl,fun h => ?_⟩
  simp [lowDetailRequest] at h

end NewApi.Relay

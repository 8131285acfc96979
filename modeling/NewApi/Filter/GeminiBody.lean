import NewApi.Filter.Hits
import NewApi.Filter.Stream

/-! A request body in the Gemini format, read twice: by the decoder of the typed request (`relaykit/dto/gemini.go`), whose
keys match in any letter case, and by the request filter (`service/request_filter.go`), whose keys match exactly. The body
is given as its JSON document, with the keys of an object in their order and with repeated keys. -/
namespace NewApi.Filter

open List GoStrings

structure GeminiPart where
  text : String := ""

structure GeminiChatContent where
  role : String := ""
  parts : List GeminiPart := []

inductive GeminiChatRequest where
  | mk (requests : List GeminiChatRequest) (contents : List GeminiChatContent) (systemInstructions : Option GeminiChatContent)

section Decode

/-- A string field of `encoding/json`: a null leaves it as it is. -/
def decodeString (old : String) : Json → Option String
  | .str text => some text
  | .null => some old
  | _ => none

def decodeSlice {α : Type} (decode : Json → Option α) : Json → Option (List α)
  | .arr items => items.mapM decode
  | .null => some []
  | _ => none

/-- The keys of an object, one after the other, with the fields they match by `equalFold`; the last one wins. -/
def decodePartFields : List (String×Json) → GeminiPart → Option GeminiPart
  | [], part => some part
  | (key,value)::rest, part =>
    if equalFold key "text" then
      (decodeString part.text value).bind fun text => decodePartFields rest { part with text := text }
    else decodePartFields rest part

def decodePart : Json → Option GeminiPart
  | .obj fields => decodePartFields fields {}
  | .null => some {}
  | _ => none

def decodeContentFields : List (String×Json) → GeminiChatContent → Option GeminiChatContent
  | [], content => some content
  | (key,value)::rest, content =>
    if equalFold key "parts" then
      (decodeSlice decodePart value).bind fun parts => decodeContentFields rest { content with parts := parts }
    else if equalFold key "role" then
      (decodeString content.role value).bind fun role => decodeContentFields rest { content with role := role }
    else decodeContentFields rest content

def decodeContent : Json → Option GeminiChatContent
  | .obj fields => decodeContentFields fields {}
  | .null => some {}
  | _ => none

def decodeContentPointer : Json → Option (Option GeminiChatContent)
  | .null => some none
  | value => (decodeContent value).map some

structure RequestAux where
  requests : List GeminiChatRequest := []
  contents : List GeminiChatContent := []
  systemInstruction : Option GeminiChatContent := none
  systemInstructionSnake : Option GeminiChatContent := none

def RequestAux.toRequest (aux : RequestAux) : GeminiChatRequest :=
  .mk aux.requests aux.contents (aux.systemInstructionSnake.orElse fun _ => aux.systemInstruction)

mutual

def decodeRequest : Json → Option GeminiChatRequest
  | .obj fields => (decodeRequestFields fields {}).map RequestAux.toRequest
  | .null => some ({} : RequestAux).toRequest
  | _ => none

def decodeRequestFields : List (String×Json) → RequestAux → Option RequestAux
  | [], aux => some aux
  | (key,value)::rest, aux =>
    if equalFold key "requests" then
      (decodeRequests value).bind fun requests => decodeRequestFields rest { aux with requests := requests }
    else if equalFold key "contents" then
      (decodeSlice decodeContent value).bind fun contents => decodeRequestFields rest { aux with contents := contents }
    else if equalFold key "systemInstruction" then
      (decodeContentPointer value).bind fun content => decodeRequestFields rest { aux with systemInstruction := content }
    else if equalFold key "system_instruction" then (decodeContentPointer value).bind fun content =>
        decodeRequestFields rest { aux with systemInstructionSnake := content }
    else decodeRequestFields rest aux

def decodeRequests : Json → Option (List GeminiChatRequest)
  | .arr items => decodeRequestItems items
  | .null => some []
  | _ => none

def decodeRequestItems : List Json → Option (List GeminiChatRequest)
  | [] => some []
  | item::rest =>
    (decodeRequest item).bind fun request => (decodeRequestItems rest).map fun requests => request::requests

end

def GeminiPart.texts (part : GeminiPart) : List String := if part.text="" then [] else [part.text]

def GeminiChatContent.texts (content : GeminiChatContent) : List String := content.parts.flatMap (·.texts)

def pointerTexts (content : Option GeminiChatContent) : List String := (content.map (·.texts)).getD []

mutual

def GeminiChatRequest.texts : GeminiChatRequest → List String
  | .mk requests contents systemInstructions =>
    pointerTexts systemInstructions++contents.flatMap (·.texts)++requestTexts requests

def requestTexts : List GeminiChatRequest → List String
  | [] => []
  | request::rest => request.texts++requestTexts rest

end

end Decode

section Walk

def mapField (key : String) (fields : List (String×Json)) (found : Option Json) : Option Json :=
  fields.foldl (fun found field => if field.1=key then some field.2 else found) found

def passedText (key : String) (fields : List (String×Json)) : List String :=
  match mapField key fields none with
  | some (.str text) => [text]
  | _ => []

def passedPart : Json → List String
  | .obj fields => passedText "text" fields
  | _ => []

def passedParts : Option Json → List String
  | some (.arr parts) => parts.flatMap passedPart
  | _ => []

def processGeminiContent : Json → List String
  | .obj fields => passedParts (mapField "parts" fields none)
  | _ => []

def processGeminiContents : Json → List String
  | .arr contents => contents.flatMap processGeminiContent
  | _ => []

structure Passed where
  system : List String := []
  contents : List String := []
  requests : List String := []

def Passed.texts (passed : Passed) : List String := passed.system++passed.contents++passed.requests

mutual

def processGeminiPayload : Json → List String
  | .obj fields => (processPayloadFields fields {}).texts
  | _ => []

def processPayloadFields : List (String×Json) → Passed → Passed
  | [], passed => passed
  | (key,value)::rest, passed =>
    if key="systemInstruction" then processPayloadFields rest { passed with system := processGeminiContent value }
    else if key="contents" then processPayloadFields rest { passed with contents := processGeminiContents value }
    else if key="requests" then processPayloadFields rest { passed with requests := processGeminiRequests value }
    else processPayloadFields rest passed

def processGeminiRequests : Json → List String
  | .arr items => processRequestItems items
  | _ => []

def processRequestItems : List Json → List String
  | [] => []
  | item::rest => processGeminiPayload item++processRequestItems rest

end

def bodyBlocked (lower : Char → Char) (f : SensitiveTextFilter) (body : Json) : Bool :=
  (processGeminiPayload body).any fun text => !(blockMatches lower f text.toList).isEmpty

end Walk

section Exact

variable {text : String}

/-- The entry that the map of an object keeps for the key `text` is the text. -/
def ExactPart (text : String) : Json → Prop
  | .obj fields => mapField "text" fields none=some (.str text)
  | _ => False

def ExactContent (text : String) : Json → Prop
  | .obj fields => ∃ parts, mapField "parts" fields none=some (.arr parts) ∧ ∃ part∈parts, ExactPart text part
  | _ => False

/-- A text stands in a body under the keys as the filter spells them. -/
inductive ExactRequest (text : String) : Json → Prop
  | system {fields : List (String×Json)} {content : Json} (hentry : mapField "systemInstruction" fields none=some content)
      (hcontent : ExactContent text content) : ExactRequest text (.obj fields)
  | contents {fields : List (String×Json)} {contents : List Json} {content : Json}
      (hentry : mapField "contents" fields none=some (.arr contents)) (hmem : content∈contents)
      (hcontent : ExactContent text content) : ExactRequest text (.obj fields)
  | batch {fields : List (String×Json)} {requests : List Json} {request : Json}
      (hentry : mapField "requests" fields none=some (.arr requests)) (hmem : request∈requests)
      (hrequest : ExactRequest text request) : ExactRequest text (.obj fields)

theorem mapField_cons (name key : String) (value : Json) (rest : List (String×Json)) (found : Option Json) :
    mapField name ((key,value)::rest) found=mapField name rest (if key=name then some value else found) := rfl

variable {fields : List (String×Json)}

theorem mapField_mem {name : String} {found : Option Json} {value : Json}
    (h : mapField name fields found=some value) : (∃ field∈fields, field.2=value) ∨ found=some value := by
  induction fields generalizing found with
  | nil => exact .inr h
  | cons field rest ih =>
    obtain ⟨key,entry⟩ := field
    rw [mapField_cons] at h
    obtain ⟨field,hfield,hvalue⟩ | hfound := ih h
    · exact .inl ⟨field,mem_cons_of_mem _ hfield,hvalue⟩
    split at hfound
    · exact .inl ⟨(key,entry),mem_cons_self,Option.some.inj hfound⟩
    · exact .inr hfound

theorem mem_passedPart {part : Json} : text∈passedPart part ↔ ExactPart text part := by
  cases part with
  | obj fields =>
    rw [passedPart,passedText,ExactPart]
    cases hentry : mapField "text" fields none with
    | none => simp
    | some value => cases value <;> simp [eq_comm]
  | _ => simp [passedPart,ExactPart]

theorem mem_processGeminiContent {content : Json} : text∈processGeminiContent content ↔ ExactContent text content := by
  cases content with
  | obj fields =>
    rw [processGeminiContent,ExactContent]
    cases hentry : mapField "parts" fields none with
    | none => simp [passedParts]
    | some value => cases value <;> simp [passedParts,mem_passedPart]
  | _ => simp [processGeminiContent,ExactContent]

def passedEntry (process : Json → List String) (entry : Option Json) : List String := (entry.map process).getD []

theorem mem_passedEntry {process : Json → List String} {entry : Option Json} :
    text∈passedEntry process entry ↔ ∃ value, entry=some value ∧ text∈process value := by
  cases entry <;> simp [passedEntry]

theorem processPayloadFields_eq (fields : List (String×Json)) (system contents requests : Option Json) :
    processPayloadFields fields ⟨passedEntry processGeminiContent system,passedEntry processGeminiContents contents,
      passedEntry processGeminiRequests requests⟩ =
    ⟨passedEntry processGeminiContent (mapField "systemInstruction" fields system),
      passedEntry processGeminiContents (mapField "contents" fields contents),
      passedEntry processGeminiRequests (mapField "requests" fields requests)⟩ := by
  induction fields generalizing system contents requests with
  | nil =>
    rw [processPayloadFields]
    rfl
  | cons field rest ih =>
    obtain ⟨key,value⟩ := field
    rw [processPayloadFields,mapField_cons,mapField_cons,mapField_cons]
    by_cases hsystem : key="systemInstruction"
    · subst hsystem
      exact ih (some value) contents requests
    by_cases hcontents : key="contents"
    · subst hcontents
      exact ih system (some value) requests
    by_cases hrequests : key="requests"
    · subst hrequests
      exact ih system contents (some value)
    rw [if_neg hsystem,if_neg hcontents,if_neg hrequests,if_neg hsystem,if_neg hcontents,if_neg hrequests]
    exact ih system contents requests

theorem mem_processGeminiPayload : text∈processGeminiPayload (.obj fields) ↔
    (∃ value, mapField "systemInstruction" fields none=some value ∧ text∈processGeminiContent value) ∨
      (∃ value, mapField "contents" fields none=some value ∧ text∈processGeminiContents value) ∨
        ∃ value, mapField "requests" fields none=some value ∧ text∈processGeminiRequests value := by
  have heq := processPayloadFields_eq fields none none none
  rw [processGeminiPayload,Passed.texts]
  simp only [passedEntry,Option.map_none,Option.getD_none] at heq
  rw [heq,mem_append,mem_append,or_assoc]
  exact or_congr mem_passedEntry (or_congr mem_passedEntry mem_passedEntry)

theorem mem_processRequestItems {items : List Json} :
    text∈processRequestItems items ↔ ∃ item∈items, text∈processGeminiPayload item := by
  induction items with
  | nil => simp [processRequestItems]
  | cons item rest ih => simp [processRequestItems,ih]

theorem ExactRequest.passed {body : Json} (h : ExactRequest text body) : text∈processGeminiPayload body := by
  induction h with
  | system hentry hcontent =>
    exact mem_processGeminiPayload.mpr (.inl ⟨_,hentry,mem_processGeminiContent.mpr hcontent⟩)
  | contents hentry hmem hcontent =>
    apply mem_processGeminiPayload.mpr (.inr (.inl ⟨_,hentry,_⟩))
    exact mem_flatMap.mpr ⟨_,hmem,mem_processGeminiContent.mpr hcontent⟩
  | batch hentry hmem _ ih =>
    apply mem_processGeminiPayload.mpr (.inr (.inr ⟨_,hentry,_⟩))
    rw [processGeminiRequests]
    exact mem_processRequestItems.mpr ⟨_,hmem,ih⟩

mutual

theorem exactRequest_of_passed : ∀ body : Json, text∈processGeminiPayload body → ExactRequest text body
  | .obj fields, h => by
    obtain ⟨value,hentry,hvalue⟩ | ⟨value,hentry,hvalue⟩ | ⟨value,hentry,hvalue⟩ := mem_processGeminiPayload.mp h
    · exact .system hentry (mem_processGeminiContent.mp hvalue)
    · cases value with
      | arr contents =>
        obtain ⟨content,hmem,hcontent⟩ := mem_flatMap.mp hvalue
        exact .contents hentry hmem (mem_processGeminiContent.mp hcontent)
      | _ => exact absurd hvalue not_mem_nil
    · obtain ⟨field,hfield,rfl⟩ := (mapField_mem hentry).resolve_right (by simp)
      obtain ⟨items,heq,item,hmem,hitem⟩ := exactFields_of_passed fields field hfield hvalue
      rw [heq] at hentry
      exact .batch hentry hmem hitem
  | .null, h | .bool _, h | .num _, h | .str _, h | .arr _, h => by
    rw [processGeminiPayload] at h
    · exact absurd h not_mem_nil
    · simp

theorem exactFields_of_passed : ∀ (fields : List (String×Json)) (field : String×Json), field∈fields →
    text∈processGeminiRequests field.2 → ∃ items, field.2=.arr items ∧ ∃ item∈items, ExactRequest text item
  | [], _, hmem, _ => absurd hmem not_mem_nil
  | (key,value)::rest, field, hmem, h => by
    obtain rfl | hmem := mem_cons.mp hmem
    · exact exactRequests_of_passed value h
    · exact exactFields_of_passed rest field hmem h

theorem exactRequests_of_passed : ∀ value : Json, text∈processGeminiRequests value →
    ∃ items, value=.arr items ∧ ∃ item∈items, ExactRequest text item
  | .arr items, h => by
    rw [processGeminiRequests] at h
    exact ⟨items,rfl,exactItems_of_passed items h⟩
  | .null, h | .bool _, h | .num _, h | .str _, h | .obj _, h => by
    rw [processGeminiRequests] at h
    · exact absurd h not_mem_nil
    · simp

theorem exactItems_of_passed : ∀ items : List Json, text∈processRequestItems items →
    ∃ item∈items, ExactRequest text item
  | [], h => by
    rw [processRequestItems] at h
    exact absurd h not_mem_nil
  | item::rest, h => by
    rw [processRequestItems] at h
    obtain h | h := mem_append.mp h
    · exact ⟨item,mem_cons_self,exactRequest_of_passed item h⟩
    obtain ⟨later,hmem,hlater⟩ := exactItems_of_passed rest h
    exact ⟨later,mem_cons_of_mem _ hmem,hlater⟩

end

theorem passed_iff_exactRequest {body : Json} : text∈processGeminiPayload body ↔ ExactRequest text body :=
  ⟨exactRequest_of_passed body,ExactRequest.passed⟩

end Exact

section Stray

def Json.isString : Json → Bool
  | .str _ => true
  | _ => false

def Json.isNull : Json → Bool
  | .null => true
  | _ => false

/-- The text of a part comes from another entry than the one in the map: its key is spelled otherwise, or a null stands in
the map. -/
def strayTextFields : List (String×Json) → Bool → Bool
  | [], stray => stray
  | (key,value)::rest, stray =>
    if equalFold key "text" then
      strayTextFields rest (if value.isString then !decide (key="text") else stray || decide (key="text"))
    else strayTextFields rest stray

def decodedTexts {α : Type} (decode : Json → Option α) (texts : α → List String) (value : Json) : List String :=
  ((decode value).map texts).getD []

def strayPart : Json → List String
  | .obj fields => if strayTextFields fields false then decodedTexts decodePart (·.texts) (.obj fields) else []
  | _ => []

def strayItems (stray : Json → List String) : Json → List String
  | .arr items => items.flatMap stray
  | _ => []

def strayContentFields : List (String×Json) → List String → List String
  | [], stray => stray
  | (key,value)::rest, stray =>
    if equalFold key "parts" then
      strayContentFields rest (if key="parts" then strayItems strayPart value
        else decodedTexts (decodeSlice decodePart) (·.flatMap (·.texts)) value)
    else strayContentFields rest stray

def strayContent : Json → List String
  | .obj fields => strayContentFields fields []
  | _ => []

structure Stray where
  requests : List String := []
  contents : List String := []
  system : List String := []
  snake : Option (List String) := none

def Stray.texts (stray : Stray) : List String := stray.snake.getD stray.system++stray.contents++stray.requests

mutual

/-- The texts that the decoder reads through a key spelled otherwise than the filter's. -/
def strayRequest : Json → List String
  | .obj fields => (strayRequestFields fields {}).texts
  | _ => []

def strayRequestFields : List (String×Json) → Stray → Stray
  | [], stray => stray
  | (key, value)::rest, stray =>
    if equalFold key "requests" then
      strayRequestFields rest { stray with
        requests := if key="requests" then strayRequests value else decodedTexts decodeRequests requestTexts value }
    else if equalFold key "contents" then
      strayRequestFields rest { stray with
        contents := if key="contents" then strayItems strayContent value
          else decodedTexts (decodeSlice decodeContent) (·.flatMap (·.texts)) value }
    else if equalFold key "systemInstruction" then
      strayRequestFields rest { stray with
        system := if key="systemInstruction" then strayContent value
          else decodedTexts decodeContentPointer pointerTexts value }
    else if equalFold key "system_instruction" then
      strayRequestFields rest { stray with
        snake := (decodeContentPointer value).bind fun content => content.map (·.texts) }
    else strayRequestFields rest stray

def strayRequests : Json → List String
  | .arr items => strayRequestItems items
  | _ => []

def strayRequestItems : List Json → List String
  | [] => []
  | item::rest => strayRequest item++strayRequestItems rest

end

def textsGiven (given : Json → Bool) (fields : List (String×Json)) : Bool :=
  fields.all fun field => !equalFold field.1 "text" || (decide (field.1="text") && given field.2)

/-- The text of a part is given by a key spelled as the filter spells it, and by strings or by nulls alone. -/
def plainTextFields (fields : List (String×Json)) : Bool :=
  textsGiven Json.isString fields || textsGiven Json.isNull fields

def plainPart : Json → Bool
  | .obj fields => plainTextFields fields
  | _ => true

def plainItems (plain : Json → Bool) : Json → Bool
  | .arr items => items.all plain
  | _ => true

def plainContentFields (fields : List (String×Json)) : Bool :=
  fields.all fun field => !equalFold field.1 "parts" || (decide (field.1="parts") && plainItems plainPart field.2)

def plainContent : Json → Bool
  | .obj fields => plainContentFields fields
  | _ => true

mutual

/-- The keys that the decoder reads are spelled as the filter spells them, the alias apart: it does not occur but as a null. -/
def plainRequest : Json → Bool
  | .obj fields => plainRequestFields fields
  | _ => true

def plainRequestFields : List (String×Json) → Bool
  | [] => true
  | (key,value)::rest =>
    (if equalFold key "requests" then decide (key="requests") && plainRequests value
      else if equalFold key "contents" then decide (key="contents") && plainItems plainContent value
      else if equalFold key "systemInstruction" then decide (key="systemInstruction") && plainContent value
      else !equalFold key "system_instruction" || value.isNull) && plainRequestFields rest

def plainRequests : Json → Bool
  | .arr items => plainRequestItems items
  | _ => true

def plainRequestItems : List Json → Bool
  | [] => true
  | item::rest => plainRequest item && plainRequestItems rest

end

/-- The decoded texts are passed to the processor or stray, and the stray ones are decoded. Where the keys are plain no text
is stray, and what is passed is decoded. -/
structure Covered (plain : Bool) (texts stray passed : List String) : Prop where
  decoded : ∀ text∈texts, text∈stray ∨ text∈passed
  strayDecoded : ∀ text∈stray, text∈texts
  plainPassed : plain=true → stray=[] ∧ ∀ text∈passed, text="" ∨ text∈texts

theorem Covered.nil (plain : Bool) : Covered plain [] [] [] :=
  ⟨fun _ h => absurd h not_mem_nil,fun _ h => absurd h not_mem_nil, fun _ => ⟨rfl,fun _ h => absurd h not_mem_nil⟩⟩

theorem Covered.all (texts passed : List String) : Covered false texts texts passed :=
  ⟨fun _ h => .inl h,fun _ h => h,fun h => absurd h Bool.false_ne_true⟩

variable {plain plain' : Bool}

theorem Covered.weaken {texts stray passed : List String} (h : Covered plain texts stray passed)
    (hplain : plain'=true → plain=true) : Covered plain' texts stray passed :=
  ⟨h.decoded,h.strayDecoded,fun hp => h.plainPassed (hplain hp)⟩

theorem Covered.append {plain1 plain2 : Bool} {texts1 texts2 stray1 stray2 passed1 passed2 : List String}
    (h1 : Covered plain1 texts1 stray1 passed1) (h2 : Covered plain2 texts2 stray2 passed2) :
    Covered (plain1 && plain2) (texts1++texts2) (stray1++stray2) (passed1++passed2) := by
  constructor
  · intro text htext
    obtain htext | htext := mem_append.mp htext
    · exact (h1.decoded text htext).imp (mem_append_left _) (mem_append_left _)
    · exact (h2.decoded text htext).imp (mem_append_right _) (mem_append_right _)
  · intro text htext
    obtain htext | htext := mem_append.mp htext
    · exact mem_append_left _ (h1.strayDecoded text htext)
    · exact mem_append_right _ (h2.strayDecoded text htext)
  · intro hplain
    obtain ⟨hplain1,hplain2⟩ := Bool.and_eq_true_iff.mp hplain
    obtain ⟨hnil1,hpassed1⟩ := h1.plainPassed hplain1
    obtain ⟨hnil2,hpassed2⟩ := h2.plainPassed hplain2
    refine ⟨by rw [hnil1,hnil2,append_nil],fun text htext => ?_⟩
    obtain htext | htext := mem_append.mp htext
    · exact (hpassed1 text htext).imp_right (mem_append_left _)
    · exact (hpassed2 text htext).imp_right (mem_append_right _)

theorem Covered.items {α : Type} {decode : Json → Option α} {texts : α → List String} {plain : Json → Bool}
    {stray passed : Json → List String}
    (h : ∀ value a, decode value=some a → Covered (plain value) (texts a) (stray value) (passed value))
    {items : List Json} {l : List α} (hl : items.mapM decode=some l) :
    Covered (items.all plain) (l.flatMap texts) (items.flatMap stray) (items.flatMap passed) := by
  induction items generalizing l with
  | nil =>
    obtain rfl := Option.some.inj hl
    exact Covered.nil _
  | cons item items ih =>
    simp only [mapM_cons,Option.bind_eq_bind,Option.bind_eq_some_iff] at hl
    obtain ⟨a,ha,rest,hrest,hcons⟩ := hl
    obtain rfl := Option.some.inj hcons
    exact (h item a ha).append (ih hrest)

variable {value : Json}

theorem decodedTexts_eq {α : Type} {decode : Json → Option α} {texts : α → List String} {a : α}
    (h : decode value=some a) : decodedTexts decode texts value=texts a := by
  rw [decodedTexts,h]
  rfl

theorem equalFold_self (name : String) : equalFold name name=true := beq_self_eq_true _

variable {key name : String} {aux : RequestAux} {stray : Stray} {passed : Passed}

theorem not_equalFold_ne (h : ¬ equalFold key name=true) : key≠name :=
  fun heq => h (heq ▸ equalFold_self name)

theorem partFields_covered {fields : List (String×Json)} {part part' : GeminiPart} {stray : Bool} {found : Option Json}
    (h : part.text="" ∨ stray=true ∨ found=some (.str part.text)) (hdecode : decodePartFields fields part=some part') :
    part'.text="" ∨ strayTextFields fields stray=true ∨ mapField "text" fields found=some (.str part'.text) := by
  induction fields generalizing part stray found with
  | nil =>
    obtain rfl := Option.some.inj hdecode
    exact h
  | cons field rest ih =>
    obtain ⟨key,value⟩ := field
    rw [decodePartFields] at hdecode
    rw [strayTextFields,mapField_cons]
    by_cases hkey : equalFold key "text" = true
    · rw [if_pos hkey] at hdecode ⊢
      obtain ⟨text,htext,hrest⟩ := Option.bind_eq_some_iff.mp hdecode
      cases value with
      | str new =>
        obtain rfl := Option.some.inj htext
        apply ih _ hrest
        by_cases hexact : key="text"
        · rw [if_pos hexact]
          exact .inr (.inr rfl)
        · rw [decide_eq_false hexact]
          exact .inr (.inl rfl)
      | null =>
        obtain rfl := Option.some.inj htext
        apply ih _ hrest
        by_cases hexact : key="text"
        · rw [decide_eq_true hexact]
          exact .inr (.inl (Bool.or_true _))
        · rw [if_neg hexact,decide_eq_false hexact,Bool.or_false]
          exact h
      | bool _ | num _ | arr _ | obj _ => cases htext
    · rw [if_neg hkey] at hdecode ⊢
      rw [if_neg (not_equalFold_ne hkey)]
      exact ih h hdecode

theorem partFields_plain {fields : List (String×Json)} {part part' : GeminiPart} {found : Option Json}
    (h : ∀ text, found=some (.str text) → text=part.text) (hplain : textsGiven Json.isString fields=true)
    (hdecode : decodePartFields fields part=some part') : strayTextFields fields false=false ∧
      ∀ text, mapField "text" fields found=some (.str text) → text=part'.text := by
  induction fields generalizing part found with
  | nil =>
    obtain rfl := Option.some.inj hdecode
    exact ⟨rfl,h⟩
  | cons field rest ih =>
    obtain ⟨key,value⟩ := field
    rw [textsGiven,all_cons,Bool.and_eq_true] at hplain
    rw [decodePartFields] at hdecode
    rw [strayTextFields,mapField_cons]
    by_cases hkey : equalFold key "text" = true
    · simp only [hkey,Bool.not_true,Bool.false_or,Bool.and_eq_true,decide_eq_true_eq] at hplain
      obtain ⟨⟨rfl,hstring⟩,hrest⟩ := hplain
      rw [if_pos hkey] at hdecode ⊢
      obtain ⟨text,htext,hdecode⟩ := Option.bind_eq_some_iff.mp hdecode
      cases value with
      | str new =>
        obtain rfl := Option.some.inj htext
        apply ih _ hrest hdecode
        intro text htext
        exact (Json.str.inj (Option.some.inj htext)).symm
      | _ => cases hstring
    · rw [if_neg hkey] at hdecode ⊢
      rw [if_neg (not_equalFold_ne hkey)]
      exact ih h hplain.2 hdecode

theorem partFields_null {fields : List (String×Json)} {part part' : GeminiPart} {found : Option Json}
    (h : ∀ text, found≠some (.str text)) (hnull : textsGiven Json.isNull fields=true)
    (hdecode : decodePartFields fields part=some part') : part'.text=part.text ∧
      ∀ text, mapField "text" fields found≠some (.str text) := by
  induction fields generalizing part found with
  | nil =>
    obtain rfl := Option.some.inj hdecode
    exact ⟨rfl,h⟩
  | cons field rest ih =>
    obtain ⟨key,value⟩ := field
    rw [textsGiven,all_cons,Bool.and_eq_true] at hnull
    rw [decodePartFields] at hdecode
    rw [mapField_cons]
    by_cases hkey : equalFold key "text" = true
    · simp only [hkey,Bool.not_true,Bool.false_or,Bool.and_eq_true,decide_eq_true_eq] at hnull
      obtain ⟨⟨rfl,hvalue⟩,hrest⟩ := hnull
      cases value with
      | null =>
        rw [if_pos hkey] at hdecode
        exact ih (by simp) hrest hdecode
      | _ => cases hvalue
    · rw [if_neg hkey] at hdecode
      rw [if_neg (not_equalFold_ne hkey)]
      exact ih h hnull.2 hdecode

theorem part_covered {part : GeminiPart} (h : decodePart value=some part) :
    Covered (plainPart value) part.texts (strayPart value) (passedPart value) := by
  cases value with
  | obj fields =>
    have hfields := @partFields_covered fields {} part false none (.inl rfl) h
    rw [strayPart,decodedTexts_eq h,passedPart,plainPart]
    constructor
    · intro text htext
      have hempty : ¬ part.text="" := by
        intro hempty
        rw [GeminiPart.texts,if_pos hempty] at htext
        cases htext
      obtain hstray | hentry := hfields.resolve_left hempty
      · rw [if_pos hstray]
        exact .inl htext
      · rw [GeminiPart.texts,if_neg hempty] at htext
        rw [passedText,hentry]
        exact .inr htext
    · intro text htext
      split at htext
      · exact htext
      · exact absurd htext not_mem_nil
    · intro hplain
      obtain hplain | hnull := (Bool.or_eq_true _ _).mp hplain
      swap
      · obtain ⟨hempty,hnone⟩ := @partFields_null fields {} part none (by simp) hnull h
        have hsilent : part.texts=[] := if_pos hempty
        rw [hsilent,ite_self]
        refine ⟨rfl,fun text htext => ?_⟩
        have hexact : ExactPart text (.obj fields) := mem_passedPart.mp htext
        exact absurd hexact (hnone text)
      obtain ⟨hstray,hentry⟩ := @partFields_plain fields {} part none (fun text htext => absurd htext (by simp)) hplain h
      rw [hstray]
      refine ⟨rfl,fun text htext => ?_⟩
      have hexact : ExactPart text (.obj fields) := mem_passedPart.mp htext
      obtain rfl := hentry text hexact
      unfold GeminiPart.texts
      split
      · exact .inl ‹_›
      · exact .inr (mem_singleton_self _)
  | null =>
    obtain rfl := Option.some.inj h
    exact Covered.nil _
  | bool _ | num _ | str _ | arr _ => cases h

theorem parts_covered {parts : List GeminiPart} (h : decodeSlice decodePart value=some parts) :
    Covered (plainItems plainPart value) (parts.flatMap (·.texts)) (strayItems strayPart value) (passedParts (some value)) := by
  cases value with
  | arr items => exact Covered.items (fun _ _ => part_covered) h
  | null =>
    obtain rfl := Option.some.inj h
    exact Covered.nil _
  | bool _ | num _ | str _ | obj _ => cases h

theorem contentFields_covered {fields : List (String×Json)} {content content' : GeminiChatContent} {plain : Bool}
    {stray : List String} {found : Option Json} (h : Covered plain content.texts stray (passedParts found))
    (hdecode : decodeContentFields fields content=some content') :
    Covered (plain && plainContentFields fields) content'.texts (strayContentFields fields stray)
      (passedParts (mapField "parts" fields found)) := by
  induction fields generalizing content plain stray found with
  | nil =>
    obtain rfl := Option.some.inj hdecode
    rw [plainContentFields,all_nil,Bool.and_true]
    exact h
  | cons field rest ih =>
    obtain ⟨key,value⟩ := field
    rw [decodeContentFields] at hdecode
    rw [strayContentFields,mapField_cons,plainContentFields,all_cons,← Bool.and_assoc]
    by_cases hkey : equalFold key "parts" = true
    · rw [if_pos hkey] at hdecode ⊢
      obtain ⟨parts,hparts,hrest⟩ := Option.bind_eq_some_iff.mp hdecode
      apply ih _ hrest
      by_cases hexact : key="parts"
      · rw [if_pos hexact,if_pos hexact]
        apply (parts_covered hparts).weaken
        intro hplain
        simp only [hkey,Bool.not_true,Bool.false_or,Bool.and_eq_true] at hplain
        exact hplain.2.2
      · rw [if_neg hexact,decodedTexts_eq hparts]
        apply (Covered.all _ _).weaken
        intro hplain
        simp only [hkey,Bool.not_true,Bool.false_or,decide_eq_false hexact,Bool.false_and,Bool.and_false] at hplain
        exact hplain
    · rw [if_neg hkey] at hdecode ⊢
      rw [if_neg (not_equalFold_ne hkey)]
      split at hdecode
      · obtain ⟨role,-,hrest⟩ := Option.bind_eq_some_iff.mp hdecode
        exact @ih { content with role := role } _ stray found (h.weaken Bool.and_elim_left) hrest
      · exact ih (h.weaken Bool.and_elim_left) hdecode

theorem content_covered {content : GeminiChatContent} (h : decodeContent value=some content) :
    Covered (plainContent value) content.texts (strayContent value) (processGeminiContent value) := by
  cases value with
  | obj fields => exact @contentFields_covered fields {} content true [] none (Covered.nil true) h
  | null =>
    obtain rfl := Option.some.inj h
    exact Covered.nil _
  | bool _ | num _ | str _ | arr _ => cases h

theorem contents_covered {contents : List GeminiChatContent} (h : decodeSlice decodeContent value=some contents) :
    Covered (plainItems plainContent value) (contents.flatMap (·.texts)) (strayItems strayContent value)
      (processGeminiContents value) := by
  cases value with
  | arr items => exact Covered.items (fun _ _ => content_covered) h
  | null =>
    obtain rfl := Option.some.inj h
    exact Covered.nil _
  | bool _ | num _ | str _ | obj _ => cases h

theorem pointer_covered {content : Option GeminiChatContent} (h : decodeContentPointer value=some content) :
    Covered (plainContent value) (pointerTexts content) (strayContent value) (processGeminiContent value) := by
  unfold decodeContentPointer at h
  split at h
  · obtain rfl := Option.some.inj h
    exact Covered.nil _
  · obtain ⟨content,hcontent,rfl⟩ := Option.map_eq_some_iff.mp h
    exact content_covered hcontent

structure AuxCovered (plain : Bool) (aux : RequestAux) (stray : Stray) (passed : Passed) : Prop where
  requests : Covered plain (requestTexts aux.requests) stray.requests passed.requests
  contents : Covered plain (aux.contents.flatMap (·.texts)) stray.contents passed.contents
  system : Covered plain (pointerTexts aux.systemInstruction) stray.system passed.system
  snake : stray.snake=aux.systemInstructionSnake.map (·.texts)
  noSnake : plain=true → aux.systemInstructionSnake=none

theorem AuxCovered.start : AuxCovered true {} {} {} :=
  ⟨Covered.nil _,Covered.nil _,Covered.nil _,rfl,fun _ => rfl⟩

theorem AuxCovered.weaken
    (h : AuxCovered plain aux stray passed) (hplain : plain'=true → plain=true) : AuxCovered plain' aux stray passed :=
  ⟨h.requests.weaken hplain,h.contents.weaken hplain,h.system.weaken hplain,h.snake,fun hp => h.noSnake (hplain hp)⟩

theorem AuxCovered.request
    (h : AuxCovered plain aux stray passed) : Covered plain aux.toRequest.texts stray.texts passed.texts := by
  unfold RequestAux.toRequest Stray.texts Passed.texts GeminiChatRequest.texts
  have hsystem : Covered plain (pointerTexts (aux.systemInstructionSnake.orElse fun _ => aux.systemInstruction))
      (stray.snake.getD stray.system) passed.system := by
    rw [h.snake]
    cases hsnake : aux.systemInstructionSnake with
    | none => exact h.system
    | some content =>
      apply (Covered.all _ _).weaken
      intro hplain
      have hnone := h.noSnake hplain
      rw [hsnake] at hnone
      cases hnone
  apply ((hsystem.append h.contents).append h.requests).weaken
  rw [Bool.and_self,Bool.and_self]
  exact id

theorem ne_of_equalFold {other : String} (h : equalFold key name=true) (hother : equalFold other name=false) : key≠other := by
  rintro rfl
  rw [h] at hother
  cases hother

theorem and_and_elim {exact value : Bool} (h : (plain && (exact && value))=true) : value=true :=
  Bool.and_elim_right (Bool.and_elim_right h)

theorem and_decide_elim {value : Bool} (hexact : ¬ key=name)
    (h : (plain && (decide (key=name) && value))=true) : false=true := by
  rw [decide_eq_false hexact,Bool.false_and,Bool.and_false] at h
  exact h

theorem processPayloadFields_other (value : Json) (rest : List (String×Json)) (passed : Passed)
    (hsystem : key≠"systemInstruction") (hcontents : key≠"contents") (hrequests : key≠"requests") :
    processPayloadFields ((key,value)::rest) passed=processPayloadFields rest passed := by
  rw [processPayloadFields,if_neg hsystem,if_neg hcontents,if_neg hrequests]

mutual

theorem request_covered : ∀ (body : Json) (request : GeminiChatRequest), decodeRequest body=some request →
    Covered (plainRequest body) request.texts (strayRequest body) (processGeminiPayload body)
  | .obj fields, request, h => by
    rw [decodeRequest] at h
    obtain ⟨aux,haux,rfl⟩ := Option.map_eq_some_iff.mp h
    rw [strayRequest,processGeminiPayload,plainRequest,← Bool.true_and (plainRequestFields fields)]
    exact (requestFields_covered fields _ _ _ _ aux AuxCovered.start haux).request
  | .null, request, h => by
    rw [decodeRequest] at h
    obtain rfl := Option.some.inj h
    exact Covered.nil _
  | .bool _, _, h | .num _, _, h | .str _, _, h | .arr _, _, h => by simp only [decodeRequest,reduceCtorEq] at h

theorem requestFields_covered : ∀ (fields : List (String×Json)) (plain : Bool) (aux : RequestAux) (stray : Stray)
    (passed : Passed) (aux' : RequestAux), AuxCovered plain aux stray passed →
    decodeRequestFields fields aux=some aux' → AuxCovered (plain && plainRequestFields fields) aux'
      (strayRequestFields fields stray) (processPayloadFields fields passed)
  | [], plain, aux, stray, passed, aux', h, hdecode => by
    rw [decodeRequestFields] at hdecode
    obtain rfl := Option.some.inj hdecode
    rw [strayRequestFields,processPayloadFields,plainRequestFields,Bool.and_true]
    exact h
  | (key, value)::rest, plain, aux, stray, passed, aux', h, hdecode => by
    rw [decodeRequestFields] at hdecode
    rw [strayRequestFields,plainRequestFields,← Bool.and_assoc]
    by_cases hrequests : equalFold key "requests" = true
    · simp only [if_pos hrequests] at hdecode ⊢
      obtain ⟨requests,hvalue,hrest⟩ := Option.bind_eq_some_iff.mp hdecode
      have hsystem := ne_of_equalFold hrequests (show equalFold "systemInstruction" "requests" = false by decide)
      have hcontents := ne_of_equalFold hrequests (show equalFold "contents" "requests" = false by decide)
      have h' := h.weaken (@Bool.and_elim_left plain (decide (key="requests") && plainRequests value))
      by_cases hexact : key="requests"
      · rw [processPayloadFields,if_neg hsystem,if_neg hcontents,if_pos hexact,if_pos hexact]
        apply requestFields_covered rest _ _ _ _ aux' _ hrest
        exact ⟨(requests_covered value requests hvalue).weaken and_and_elim,h'.contents,h'.system,h'.snake, h'.noSnake⟩
      · rw [processPayloadFields_other value rest passed hsystem hcontents hexact,if_neg hexact,decodedTexts_eq hvalue]
        apply requestFields_covered rest _ _ _ _ aux' _ hrest
        exact ⟨(Covered.all _ _).weaken (and_decide_elim hexact),h'.contents,h'.system,h'.snake,h'.noSnake⟩
    simp only [if_neg hrequests] at hdecode ⊢
    by_cases hcontents : equalFold key "contents" = true
    · simp only [if_pos hcontents] at hdecode ⊢
      obtain ⟨contents,hvalue,hrest⟩ := Option.bind_eq_some_iff.mp hdecode
      have hsystem := ne_of_equalFold hcontents (show equalFold "systemInstruction" "contents" = false by decide)
      have h' := h.weaken (@Bool.and_elim_left plain (decide (key="contents") && plainItems plainContent value))
      by_cases hexact : key="contents"
      · rw [processPayloadFields,if_neg hsystem,if_pos hexact,if_pos hexact]
        apply requestFields_covered rest _ _ _ _ aux' _ hrest
        exact ⟨h'.requests,(contents_covered hvalue).weaken and_and_elim,h'.system,h'.snake,h'.noSnake⟩
      · rw [processPayloadFields_other value rest passed hsystem hexact (not_equalFold_ne hrequests),if_neg hexact,
          decodedTexts_eq hvalue]
        apply requestFields_covered rest _ _ _ _ aux' _ hrest
        exact ⟨h'.requests,(Covered.all _ _).weaken (and_decide_elim hexact),h'.system,h'.snake,h'.noSnake⟩
    simp only [if_neg hcontents] at hdecode ⊢
    by_cases hsystem : equalFold key "systemInstruction" = true
    · simp only [if_pos hsystem] at hdecode ⊢
      obtain ⟨content,hvalue,hrest⟩ := Option.bind_eq_some_iff.mp hdecode
      have h' := h.weaken (@Bool.and_elim_left plain (decide (key="systemInstruction") && plainContent value))
      by_cases hexact : key="systemInstruction"
      · rw [processPayloadFields,if_pos hexact,if_pos hexact]
        apply requestFields_covered rest _ _ _ _ aux' _ hrest
        exact ⟨h'.requests,h'.contents,(pointer_covered hvalue).weaken and_and_elim,h'.snake,h'.noSnake⟩
      · rw [processPayloadFields_other value rest passed hexact (not_equalFold_ne hcontents)
          (not_equalFold_ne hrequests),if_neg hexact,decodedTexts_eq hvalue]
        apply requestFields_covered rest _ _ _ _ aux' _ hrest
        exact ⟨h'.requests,h'.contents,(Covered.all _ _).weaken (and_decide_elim hexact),h'.snake,h'.noSnake⟩
    simp only [if_neg hsystem] at hdecode ⊢
    rw [processPayloadFields_other value rest passed (not_equalFold_ne hsystem) (not_equalFold_ne hcontents)
      (not_equalFold_ne hrequests)]
    have h' := h.weaken (@Bool.and_elim_left plain (!equalFold key "system_instruction" || value.isNull))
    by_cases hsnake : equalFold key "system_instruction" = true
    · rw [if_pos hsnake] at hdecode ⊢
      obtain ⟨content,hvalue,hrest⟩ := Option.bind_eq_some_iff.mp hdecode
      rw [hvalue,Option.bind_some]
      apply requestFields_covered rest _ _ _ _ aux' _ hrest
      refine ⟨h'.requests,h'.contents,h'.system,rfl,fun hplain => ?_⟩
      rw [hsnake,Bool.not_true,Bool.false_or,Bool.and_eq_true] at hplain
      cases value with
      | null => exact (Option.some.inj hvalue).symm
      | _ => cases hplain.2
    · rw [if_neg hsnake] at hdecode ⊢
      exact requestFields_covered rest _ _ _ _ aux' h' hdecode

theorem requests_covered : ∀ (value : Json) (requests : List GeminiChatRequest), decodeRequests value=some requests →
    Covered (plainRequests value) (requestTexts requests) (strayRequests value) (processGeminiRequests value)
  | .arr items, requests, h => by
    rw [decodeRequests] at h
    rw [strayRequests,processGeminiRequests,plainRequests]
    exact requestItems_covered items requests h
  | .null, requests, h => by
    rw [decodeRequests] at h
    obtain rfl := Option.some.inj h
    exact Covered.nil _
  | .bool _, _, h | .num _, _, h | .str _, _, h | .obj _, _, h => by simp only [decodeRequests,reduceCtorEq] at h

theorem requestItems_covered : ∀ (items : List Json) (requests : List GeminiChatRequest),
    decodeRequestItems items=some requests →
    Covered (plainRequestItems items) (requestTexts requests) (strayRequestItems items) (processRequestItems items)
  | [], requests, h => by
    rw [decodeRequestItems] at h
    obtain rfl := Option.some.inj h
    exact Covered.nil _
  | item::rest, requests, h => by
    rw [decodeRequestItems] at h
    obtain ⟨request,hrequest,h⟩ := Option.bind_eq_some_iff.mp h
    obtain ⟨later,hlater,rfl⟩ := Option.map_eq_some_iff.mp h
    rw [requestTexts,strayRequestItems,processRequestItems,plainRequestItems]
    exact (request_covered item request hrequest).append (requestItems_covered rest later hlater)

end

end Stray

section Agreement

variable {lower : Char → Char} {f : SensitiveTextFilter} {body other : Json} {request : GeminiChatRequest}

theorem blockMatches_empty : blockMatches lower f "".toList=[] := by
  by_contra hne
  obtain ⟨rule,-,k,-,i,hi⟩ := blockMatches_ne_nil_iff.mp hne
  have hlength := hit_length hi
  simp only [String.toList_empty,map_nil,length_nil] at hlength
  omega

theorem bodyBlocked_iff : bodyBlocked lower f body=true ↔
    ∃ text∈processGeminiPayload body, blockMatches lower f text.toList≠[] := by
  simp [bodyBlocked]

theorem bodyBlocked_plain (hplain : plainRequest body=true) (h : decodeRequest body=some request) :
    bodyBlocked lower f body=true ↔ ∃ text∈request.texts, blockMatches lower f text.toList≠[] := by
  have hcovered := request_covered body request h
  obtain ⟨hstray,hpassed⟩ := hcovered.plainPassed hplain
  rw [bodyBlocked_iff]
  constructor
  · rintro ⟨text,htext,hblock⟩
    refine ⟨text,(hpassed text htext).resolve_left ?_,hblock⟩
    rintro rfl
    exact hblock blockMatches_empty
  · rintro ⟨text,htext,hblock⟩
    refine ⟨text,(hcovered.decoded text htext).resolve_left ?_,hblock⟩
    rw [hstray]
    exact not_mem_nil

/-- The filter sees the texts of the typed request just when those that are read through another spelling of a key stand
under the filter's keys as well. Bodies with plain keys that decode to the same request are blocked together. -/
theorem decoded_texts_passed (body : Json) (request : GeminiChatRequest) (h : decodeRequest body=some request) :
    ((∀ text∈request.texts, text∈processGeminiPayload body) ↔ ∀ text∈strayRequest body, ExactRequest text body) ∧
    ∀ (lower : Char → Char) (f : SensitiveTextFilter) (other : Json), decodeRequest other=some request →
      plainRequest body=true → plainRequest other=true → bodyBlocked lower f body=bodyBlocked lower f other := by
  constructor
  · have hcovered := request_covered body request h
    constructor
    · intro hall text htext
      exact passed_iff_exactRequest.mp (hall text (hcovered.strayDecoded text htext))
    · intro hall text htext
      obtain hstray | hpassed := hcovered.decoded text htext
      · exact passed_iff_exactRequest.mpr (hall text hstray)
      · exact hpassed
  · intro lower f other hother hplain hplain'
    rw [Bool.eq_iff_iff,bodyBlocked_plain hplain h,bodyBlocked_plain hplain' hother]

def textContent (text : String) : Json := .obj [("parts",.arr [.obj [("text",.str text)]])]

def instructedBody (key text : String) : Json :=
  .obj [("contents",.arr [textContent "hello"]),(key,textContent text)]

def catRequest : GeminiChatRequest := .mk [] [⟨"",[⟨"hello"⟩]⟩] (some ⟨"",[⟨"cat"⟩]⟩)

def catBlockFilter : SensitiveTextFilter :=
  newSensitiveTextFilter toLowerChar [{ action := .block, keywords := ["cat"] }]

theorem decodeRequest_camel : decodeRequest (instructedBody "systemInstruction" "cat")=some catRequest := by
  rfl

theorem camel_instruction_passed : "cat" ∈ processGeminiPayload (instructedBody "systemInstruction" "cat") ∧
    bodyBlocked toLowerChar catBlockFilter (instructedBody "systemInstruction" "cat") =
      bodyBlocked toLowerChar catBlockFilter (.obj [("systemInstruction",textContent "cat"),("cachedContent",.str ""),
        ("contents",.arr [textContent "hello"])]) := by
  constructor
  · apply (decoded_texts_passed _ _ decodeRequest_camel).1.mpr
    · intro text htext
      exact absurd htext not_mem_nil
    · decide +kernel
  · apply (decoded_texts_passed _ catRequest decodeRequest_camel).2
    · rfl
    · decide +kernel
    · decide +kernel

theorem snake_instruction_unseen : decodeRequest (instructedBody "system_instruction" "cat")=some catRequest ∧
    decodeRequest (instructedBody "systemInstruction" "cat")=some catRequest ∧
    "cat" ∈ catRequest.texts ∧ "cat" ∉ processGeminiPayload (instructedBody "system_instruction" "cat") ∧
    bodyBlocked toLowerChar catBlockFilter (instructedBody "system_instruction" "cat")=false ∧
    bodyBlocked toLowerChar catBlockFilter (instructedBody "systemInstruction" "cat")=true := by
  refine ⟨rfl,decodeRequest_camel,?_,?_,?_,?_⟩ <;> decide +kernel

end Agreement

end NewApi.Filter

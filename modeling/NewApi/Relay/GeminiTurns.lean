import Std.Data.String.ToNat
import NewApi.Relay.ChatRequest

/-! Gemini requests as chat requests (`relayconvert/internal/gemini_chat/to_oai_chat_req.go`). The parts carry no ids: a call
is numbered within its turn, and a response takes the number of the calls before it in its own turn. -/
namespace NewApi.Relay
open List

/-- A part of a request with the fields that are read; data and files are a MIME type and the data or the uri. -/
structure GeminiRequestPart where
  text : String := ""
  inlineData : Option (String×String) := none
  fileData : Option (String×String) := none
  functionCall : Option (String×JsonValue) := none
  functionResponse : Option (String×JsonValue) := none

structure GeminiChatContent where
  role : String := ""
  parts : List GeminiRequestPart := []

inductive PartKind where
  | text (text : String)
  | image (url mimeType : String)
  | call (name : String) (arguments : JsonValue)
  | response (name : String) (response : JsonValue)
  | empty

namespace GeminiRequestPart

def kind (part : GeminiRequestPart) : PartKind :=
  if part.text≠"" then .text part.text
  else match part.inlineData, part.fileData, part.functionCall, part.functionResponse with
    | some (mimeType,data), _, _, _ => .image ("data:"++mimeType++";base64,"++data) mimeType
    | none, some (mimeType,fileUri), _, _ => .image fileUri mimeType
    | none, none, some (name,arguments), _ => .call name arguments
    | none, none, none, some (name,response) => .response name response
    | none, none, none, none => .empty

def callName (part : GeminiRequestPart) : Option String :=
  match part.kind with
  | .call name _ => some name
  | _ => none

def responseName (part : GeminiRequestPart) : Option String :=
  match part.kind with
  | .response name _ => some name
  | _ => none

end GeminiRequestPart

namespace GeminiChatContent
variable (content : GeminiChatContent)

def calls : List String := content.parts.filterMap (·.callName)

def responses : List String := content.parts.filterMap (·.responseName)

end GeminiChatContent

def convertGeminiRoleToOpenAI (geminiRole : String) : String :=
  if geminiRole="model" then "assistant" else if geminiRole="function" then "function" else "user"

def extractTextFromGeminiParts (parts : List GeminiRequestPart) : String :=
  "\n".intercalate ((parts.map (·.text)).filter (·≠""))

def textMedia (text : String) : JsonValue := .obj [("type",.str "text"),("text",.str text)]

def imageMedia (url mimeType : String) : JsonValue :=
  .obj [("type",.str "image_url"),("image_url",.obj [("url",.str url),("detail",.str "auto"),("MimeType",.str mimeType)])]

def callId (n : Nat) : String := "call_"++toString n

structure PartsLoop where
  mediaContents : List JsonValue := []
  toolCalls : List ToolCallRequest := []
  toolMessages : List Message := []

section Convert
variable (toJSONString : JsonValue → String)

def PartsLoop.add (s : PartsLoop) (part : GeminiRequestPart) : PartsLoop :=
  match part.kind with
  | .text text => { s with mediaContents := s.mediaContents++[textMedia text] }
  | .image url mimeType => { s with mediaContents := s.mediaContents++[imageMedia url mimeType] }
  | .call name arguments => { s with toolCalls := s.toolCalls++
      [{ id := callId (s.toolCalls.length+1), type := "function", name := name, arguments := toJSONString arguments }] }
  | .response _ response => { s with toolMessages := s.toolMessages++
      [{ role := "tool", toolCallId := callId s.toolCalls.length, content := some (.str (toJSONString response)) }] }
  | .empty => s

def mediaContent (parts : List JsonValue) : Option JsonValue :=
  match parts with
  | [] => none
  | [.obj [("type",.str "text"),("text",.str text)]] => some (.str text)
  | _ => some (.arr parts)

def contentMessages (content : GeminiChatContent) : List Message :=
  let s := content.parts.foldl (PartsLoop.add toJSONString) {}
  let role := convertGeminiRoleToOpenAI content.role
  if s.toolCalls≠[] then s.toolMessages++[{ role := role, toolCalls := s.toolCalls }]
  else if s.mediaContents≠[] then s.toolMessages++[{ role := role, content := mediaContent s.mediaContents }]
  else s.toolMessages

def geminiMessages (systemInstructions : Option (List GeminiRequestPart)) (contents : List GeminiChatContent) : List Message :=
  (systemInstructions.map fun parts =>
    { role := "system", content := some (.str (extractTextFromGeminiParts parts)) }).toList++
  contents.flatMap (contentMessages toJSONString)

end Convert

/-- Calls stand in model turns, and the responses to the calls that wait come next, in order. -/
def Paired : List String → List GeminiChatContent → Prop
  | waiting, [] => waiting=[]
  | waiting, content::contents =>
    (waiting=[] ∧ content.responses=[] ∧ (content.calls=[] ∨ content.role="model") ∧ Paired content.calls contents) ∨
    (content.calls=[] ∧ content.role≠"model" ∧ content.responses≠[] ∧ content.responses<+:waiting ∧
      Paired (waiting.drop content.responses.length) contents)

def Message.carries (m : Message) (text : String) : Prop :=
  m.content=some (.str text) ∨ ∃ parts, m.content=some (.arr parts) ∧ textMedia text∈parts

/-- The calls have ids of their own, each tool message names an earlier call with the name of its response, and the texts
beside calls are kept. -/
structure PairsCalls (contents : List GeminiChatContent) (messages : List Message) : Prop where
  ids : (messages.flatMap fun m => m.toolCalls.map (·.id)).Nodup
  answers : ∀ before m after, messages=before++m::after → m.role="tool" →
    ∃ a∈before, a.role="assistant" ∧ ∃ call∈a.toolCalls, call.id=m.toolCallId ∧
      some call.name=(contents.flatMap (·.responses))[(before.filter (·.role="tool")).length]?
  apart : ((messages.filter (·.role="tool")).map (·.toolCallId)).Nodup
  texts : ∀ content∈contents, content.calls≠[] → ∀ text, (∃ part∈content.parts, part.kind=.text text) →
    ∃ m∈messages, m.carries text

section Numbering
variable {toJSONString : JsonValue → String} {contents : List GeminiChatContent}

theorem callId_ne {n : Nat} : callId (n+1)≠callId 0 := by
  intro h
  have hrepr := String.append_right_inj _ |>.mp h
  exact absurd (Nat.repr_injective hrepr) (Nat.succ_ne_zero n)

/-- What the loop keeps: calls are numbered from one on, and before any of them a response is numbered zero. -/
structure PartsLoop.Numbered (s : PartsLoop) (calls responses : List String) : Prop where
  ids : ∀ call∈s.toolCalls, ∃ n, call.id=callId (n+1)
  none : s.toolCalls=[] ↔ calls=[]
  tools : ∀ m∈s.toolMessages, m.role="tool" ∧ m.toolCalls=[] ∧ (calls=[] → m.toolCallId=callId 0)
  answered : s.toolMessages=[] ↔ responses=[]

theorem loop_numbered (parts : List GeminiRequestPart) : (parts.foldl (PartsLoop.add toJSONString) {}).Numbered
    (parts.filterMap (·.callName)) (parts.filterMap (·.responseName)) := by
  induction parts using List.reverseRecOn with
  | nil => exact ⟨nofun,by simp,nofun,by simp⟩
  | append_singleton parts part ih =>
    obtain ⟨hids,hnone,htools,hanswered⟩ := ih
    rw [foldl_append,foldl_cons,foldl_nil,filterMap_append,filterMap_append,PartsLoop.add]
    cases hkind : part.kind with
    | call name arguments =>
      refine ⟨fun call hcall => ?_,by simp [GeminiRequestPart.callName,hkind],fun m hm => ?_,
        by simpa [GeminiRequestPart.responseName,hkind] using hanswered⟩
      · obtain hcall | hcall := mem_append.mp hcall
        · exact hids call hcall
        rw [mem_singleton.mp hcall]
        exact ⟨_,rfl⟩
      · obtain ⟨hrole,hcalls,-⟩ := htools m hm
        exact ⟨hrole,hcalls,by simp [GeminiRequestPart.callName,hkind]⟩
    | response name response =>
      refine ⟨hids,by simpa [GeminiRequestPart.callName,hkind] using hnone,fun m hm => ?_,
        by simp [GeminiRequestPart.responseName,hkind]⟩
      obtain hm | hm := mem_append.mp hm
      · simpa [GeminiRequestPart.callName,hkind] using htools m hm
      rw [mem_singleton.mp hm]
      refine ⟨rfl,rfl,fun hcalls => ?_⟩
      rw [hnone.mpr (by simpa [GeminiRequestPart.callName,hkind] using hcalls)]
      rfl
    | text _ | image _ _ | empty =>
      refine ⟨hids,by simpa [GeminiRequestPart.callName,hkind] using hnone,fun m hm => ?_,
        by simpa [GeminiRequestPart.responseName,hkind] using hanswered⟩
      simpa [GeminiRequestPart.callName,hkind] using htools m hm

theorem role_not_tool (role : String) : convertGeminiRoleToOpenAI role≠"tool" := by
  unfold convertGeminiRoleToOpenAI
  split
  · decide
  · split <;> decide

/-- The messages of a turn: only a tool message answers, and only the last has calls. -/
theorem contentMessages_spec (content : GeminiChatContent) : (∀ m∈contentMessages toJSONString content,
      (m.role="tool" → content.responses≠[] ∧ (content.calls=[] → m.toolCallId=callId 0)) ∧
      (m.toolCalls≠[] → content.calls≠[]) ∧ ∀ call∈m.toolCalls, ∃ n, call.id=callId (n+1)) ∧
    (content.responses≠[] → ∃ m∈contentMessages toJSONString content, m.role="tool") := by
  obtain ⟨hids,hnone,htools,hanswered⟩ := @loop_numbered toJSONString content.parts
  have htool : ∀ m∈(content.parts.foldl (PartsLoop.add toJSONString) {}).toolMessages,
      (m.role="tool" → content.responses≠[] ∧ (content.calls=[] → m.toolCallId=callId 0)) ∧
      (m.toolCalls≠[] → content.calls≠[]) ∧ ∀ call∈m.toolCalls, ∃ n, call.id=callId (n+1) := by
    intro m hm
    obtain ⟨hrole,hcalls,hid⟩ := htools m hm
    refine ⟨fun _ => ⟨fun hnil => ?_,hid⟩,fun h => absurd hcalls h,fun call hcall => ?_⟩
    · rw [hanswered.mpr hnil] at hm
      cases hm
    · rw [hcalls] at hcall
      cases hcall
  have hfirst : content.responses≠[] → ∃ m∈(content.parts.foldl (PartsLoop.add toJSONString) {}).toolMessages, m.role="tool" := by
    intro h
    obtain ⟨m,hm⟩ := exists_mem_of_ne_nil _ fun hnil => h (hanswered.mp hnil)
    exact ⟨m,hm,(htools m hm).1⟩
  unfold contentMessages
  dsimp only
  split
  next hcalls =>
    refine ⟨fun m hm => ?_,fun h => (hfirst h).imp fun m hm => ⟨mem_append_left _ hm.1,hm.2⟩⟩
    obtain hm | hm := mem_append.mp hm
    · exact htool m hm
    rw [mem_singleton.mp hm]
    exact ⟨fun h => absurd h (role_not_tool _),fun _ hnil => hcalls (hnone.mpr hnil),hids⟩
  · split
    · refine ⟨fun m hm => ?_,fun h => (hfirst h).imp fun m hm => ⟨mem_append_left _ hm.1,hm.2⟩⟩
      obtain hm | hm := mem_append.mp hm
      · exact htool m hm
      rw [mem_singleton.mp hm]
      exact ⟨fun h => absurd h (role_not_tool _),fun h => absurd rfl h,nofun⟩
    · exact ⟨htool,hfirst⟩

theorem paired_answers {waiting : List String} (h : Paired waiting contents)
    (hcalls : waiting≠[] ∨ ∃ content∈contents, content.calls≠[]) :
    ∃ content∈contents, content.responses≠[] ∧ content.calls=[] := by
  induction contents generalizing waiting with
  | nil => simp [Paired] at h; simp [h] at hcalls
  | cons content contents ih =>
    obtain ⟨hnone,-,-,hrest⟩ | ⟨hnone,-,hanswers,-⟩ := h
    · obtain ⟨later,hlater,hspec⟩ := ih hrest (by
        obtain hwaiting | ⟨c,hc,hcalled⟩ := hcalls
        · exact absurd hnone hwaiting
        obtain rfl | hc := mem_cons.mp hc
        · exact .inl hcalled
        · exact .inr ⟨c,hc,hcalled⟩)
      exact ⟨later,mem_cons_of_mem _ hlater,hspec⟩
    · exact ⟨content,mem_cons_self,hanswers,hnone⟩

theorem paired_silent (h : Paired [] contents) (hcalls : ∀ content∈contents, content.calls=[]) :
    ∀ content∈contents, content.responses=[] := by
  induction contents with
  | nil => exact nofun
  | cons content contents ih =>
    obtain ⟨-,hnone,-,hrest⟩ | ⟨-,-,hanswers,hwaiting,-⟩ := h
    · rw [hcalls content mem_cons_self] at hrest
      exact forall_mem_cons.mpr ⟨hnone,ih hrest fun c hc => hcalls c (mem_cons_of_mem _ hc)⟩
    · exact absurd ( prefix_nil.mp hwaiting) hanswers

end Numbering

/-- Calls and responses are paired exactly in a conversation without a call. -/
theorem gemini_pairs_iff (toJSONString : JsonValue → String) (systemInstructions : Option (List GeminiRequestPart))
    (contents : List GeminiChatContent) (h : Paired [] contents) :
    PairsCalls contents (geminiMessages toJSONString systemInstructions contents) ↔ ∀ content∈contents, content.calls=[] := by
  have hmessage : ∀ m∈geminiMessages toJSONString systemInstructions contents,
      (m.role≠"tool" ∧ m.toolCalls=[]) ∨ ∃ content∈contents, m∈contentMessages toJSONString content := by
    intro m hm
    obtain hm | hm := mem_append.mp hm
    · obtain ⟨parts,-,rfl⟩ := Option.map_eq_some_iff.mp (Option.mem_toList.mp hm)
      exact .inl ⟨(by decide : "system"≠"tool"),rfl⟩
    · exact .inr (mem_flatMap.mp hm)
  constructor
  · intro hpairs
    by_contra hcalled
    obtain ⟨content,hcontent,hanswers,hnone⟩ := paired_answers h (.inr (by simpa using hcalled))
    obtain ⟨m,hm,hrole⟩ := (@contentMessages_spec toJSONString content).2 hanswers
    have hid := (((contentMessages_spec content).1 m hm).1 hrole).2 hnone
    have hmem : m∈geminiMessages toJSONString systemInstructions contents :=
      mem_append_right _ (mem_flatMap.mpr ⟨content,hcontent,hm⟩)
    obtain ⟨before,after,hsplit⟩ := append_of_mem hmem
    obtain ⟨a,ha,-,call,hcall,hsame,-⟩ := hpairs.answers before m after hsplit hrole
    obtain ⟨-,hnil⟩ | ⟨c,-,hc⟩ := hmessage a (hsplit ▸ mem_append_left _ ha)
    · rw [hnil] at hcall
      cases hcall
    · obtain ⟨n,hn⟩ := ((contentMessages_spec c).1 a hc).2.2 call hcall
      exact callId_ne (hn.symm.trans (hsame.trans hid))
  · intro hcalls
    have hsilent := paired_silent h hcalls
    have hplain : ∀ m∈geminiMessages toJSONString systemInstructions contents, m.role≠"tool" ∧ m.toolCalls=[] := by
      intro m hm
      obtain hm | ⟨content,hcontent,hm⟩ := hmessage m hm
      · exact hm
      obtain ⟨htool,hlast,-⟩ := (contentMessages_spec content).1 m hm
      exact ⟨fun hrole => (htool hrole).1 (hsilent content hcontent),by
        by_contra hsome
        exact hlast hsome (hcalls content hcontent)⟩
    refine ⟨?_,fun before m after hsplit hrole => ?_,?_,fun content hcontent hcalled => absurd (hcalls content hcontent) hcalled⟩
    · rw [flatMap_eq_nil_iff.mpr fun m hm => by rw [(hplain m hm).2,map_nil]]
      exact nodup_nil
    · exact absurd hrole (hplain m (hsplit ▸ mem_append_right _ mem_cons_self)).1
    · rw [filter_eq_nil_iff.mpr fun m hm => by simpa using (hplain m hm).1]
      exact nodup_nil

def question : GeminiChatContent := { role := "user", parts := [{ text := "Is it raining?" }] }

def weatherTurns : List GeminiChatContent :=
  [question,{ role := "model", parts := [{ text := "Let me see." },{ functionCall := some ("weather",.obj []) }] },
    { role := "user", parts := [{ functionResponse := some ("weather",.obj [("rain",.bool true)]) }] }]

theorem question_paired : PairsCalls [question] (geminiMessages (fun _ => "{}") none [question]) :=
  (gemini_pairs_iff (fun _ => "{}") none [question] (.inl ⟨rfl,rfl,.inl rfl,rfl⟩)).mpr
    (by simp [question,GeminiChatContent.calls,GeminiRequestPart.callName,GeminiRequestPart.kind])

theorem weather_not_paired : Paired [] weatherTurns ∧
    ((geminiMessages (fun _ => "{}") none weatherTurns).map fun m => (m.role,m.toolCalls.map (·.id),m.toolCallId)) =
      [("user",[],""),("assistant",["call_1"],""),("tool",[],"call_0")] ∧
    ¬PairsCalls weatherTurns (geminiMessages (fun _ => "{}") none weatherTurns) := by
  have hmessages : geminiMessages (fun _ => "{}") none weatherTurns =
      [{ role := "user", content := some (.str "Is it raining?") },
        { role := "assistant", toolCalls := [{ id := "call_1", type := "function", name := "weather", arguments := "{}" }] },
        { role := "tool", content := some (.str "{}"), toolCallId := "call_0" }] := by
    rfl
  refine ⟨?_,by rw [hmessages]; rfl,fun hpairs => ?_⟩
  · simp [Paired,weatherTurns,question,GeminiChatContent.calls,GeminiChatContent.responses,GeminiRequestPart.callName,
      GeminiRequestPart.responseName,GeminiRequestPart.kind]
  · rw [hmessages] at hpairs
    obtain ⟨a,ha,-,call,hcall,hid,-⟩ := hpairs.answers [_,_] _ [] rfl rfl
    simp at ha
    obtain rfl | rfl := ha
    · cases hcall
    rw [mem_singleton.mp hcall] at hid
    exact absurd hid (by decide)

end NewApi.Relay

import Mathlib.Tactic.Common

/-! The Gemini bodies (`relaykit/dto/gemini.go`). The arguments of a function call are any type of values. -/
namespace NewApi.Relay

structure GeminiFunctionCall (Args : Type) where
  functionName : String
  arguments : Args

structure GeminiPart (Args : Type) where
  text : String := ""
  thought : Bool := false
  inlineData : Option (String×String) := none
  functionCall : Option (GeminiFunctionCall Args) := none
  executableCode : Option (String×String) := none
  codeExecutionResult : Option String := none

structure GeminiChatCandidate (Args : Type) where
  parts : List (GeminiPart Args) := []
  finishReason : Option String := none

structure GeminiChatResponse (Args : Type) where
  candidates : List (GeminiChatCandidate Args)

end NewApi.Relay

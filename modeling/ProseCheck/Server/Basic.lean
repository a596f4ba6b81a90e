import ProseCheck.Request
import ProseCheck.Suggestion

/-!
# Servers

A server answers a request with suggestions, or fails.  It may change with every request, so
equal requests need not have equal answers.
-/

namespace ProseCheck

/-- Why a server has no answer. -/
inductive ServerError where
  /-- The server is out of order, for a reason of its own. -/
  | outOfOrder (reason : String)
  /-- The server was not reached or refused the request. -/
  | requestFailed
  /-- The reply is no JSON. -/
  | brokenReply
  /-- The reply is no object. -/
  | notObject
  /-- A match has no offset and length that can be read as numbers. -/
  | malformedMatch
  /-- What should list matches or replacements is nothing that lists. -/
  | notListed
  /-- What should have members has none. -/
  | memberless
  /-- An offset or length is infinite. -/
  | unbounded
  /-- A match does not make a suggestion. -/
  | invalidSuggestion (faults : List Fault)
  /-- Lists and objects of the reply stand too deep in each other. -/
  | tooDeep
  /-- The address of the server is no URL. -/
  | noAddress
deriving DecidableEq, Repr

namespace ServerError

/-- Whether an error is reported as one of the server; the others show a fault in reading what
it sent. -/
def isReported : ServerError → Bool
  | .outOfOrder _ | .requestFailed | .brokenReply | .notObject | .malformedMatch => true
  | .notListed | .memberless | .unbounded | .invalidSuggestion _ | .tooDeep | .noAddress => false

/-- Text of an error. -/
def message : ServerError → String
  | .outOfOrder reason => reason
  | .requestFailed => "LanguageTool request failed"
  | .brokenReply => "LanguageTool returned invalid JSON"
  | .notObject => "LanguageTool response is not an object"
  | .malformedMatch => "Malformed LanguageTool match"
  | .notListed => "Not a list"
  | .memberless => "Not an object"
  | .unbounded => "Not a finite number"
  | .invalidSuggestion _ => "Not a suggestion"
  | .tooDeep => "Too deep"
  | .noAddress => "Not an address"

end ServerError

/-- What comes of a request. -/
abbrev Outcome := Except ServerError Answer

/-- A server by what it answers in a state to a request, and its state after that. -/
abbrev Server (State : Type) := State → Request → Outcome × State

namespace Server

/-- The server that answers by the request alone. -/
def ofFunction (answer : Request → Outcome) : Server Unit := fun _ request => (answer request, ())

/-- A server that keeps the requests it got. -/
def logged {State : Type} (server : Server State) : Server (State × List Request) :=
  fun state request =>
    ((server state.1 request).1, (server state.1 request).2, state.2 ++ [request])

end Server
end ProseCheck

import ProseCheck.Cache.Key
import ProseCheck.Check.Run
import ProseCheck.Document
import ProseCheck.Json.Encoding
import ProseCheck.Json.Reader
import ProseCheck.Report.Listing
import ProseCheck.Service.Resource
import ProseCheck.Settings

/-!
# Service

The service checks texts that are posted to it as JSON.  Faults of what is posted are listed
with paths that start at the body, and a check that is aborted is a fault of the server behind.
-/

namespace ProseCheck
namespace Service

/-- What is sent to the service. -/
structure Message where
  /-- Method, in capitals. -/
  method : String
  /-- Where it is sent. -/
  target : Text
  /-- Octets of the body; empty if there is none. -/
  body : List Nat

/-- What the service sends back. -/
structure Response where
  /-- Number that tells how it went. -/
  status : Nat
  /-- The body. -/
  body : Json

/-- What the service did. -/
structure Result (State : Type) where
  /-- What it sends back. -/
  response : Response
  /-- State in which a check left the server behind. -/
  visit : Option State

variable {State : Type}

/-- A result without a check. -/
def Result.plain (status : Nat) (body : Json) : Result State := ⟨⟨status, body⟩, none⟩

/-- A body that says what went wrong. -/
def detail (text : String) : Json := .obj [("detail", .str text)]

/-- A fault of a body, which may be any object, with its path from the body on. -/
def bodyFault (fault : Fault) : Fault :=
  let refusal := if fault.refusal = .notRecord then .notObject else fault.refusal
  Fault.below (.field "body") ⟨refusal, fault.path⟩

/-- What a body turns out to be. -/
inductive Body where
  | input (input : CheckInput)
  /-- It is not what is asked for. -/
  | faulty (faults : List Fault)
  /-- The text to check holds half a pair of units, of which no source is made. -/
  | halved
  /-- It cannot be taken apart at all. -/
  | unreadable

/-- The body that has faults. -/
def Body.ofFaults (faults : List Fault) : Body := .faulty (faults.map bodyFault)

/-- The body that a value sent to the service is. -/
def Body.ofJson (value : Json) : Body :=
  match CheckInput.read value with
  | .valid posted =>
    let spelled := (value.member? "text").bind Json.codes?
    if spelled.any (·.any Json.isHalf) then .halved else .input posted
  | .invalid faults => .ofFaults faults

/-- Reads a body. -/
def readBody (octets : List Nat) : Body :=
  if octets.isEmpty then .ofFaults [.here .missing]
  else
    match Json.decode? octets with
    | none => .unreadable
    | some text =>
      match Json.read text with
      | .ok value => .ofJson value
      | .error .malformed => .ofFaults [.here .unreadableJson]
      | .error .oversized | .error .tooDeep => .unreadable

/-- A response to a body with faults. -/
def refused (faults : List Fault) : Result State := .plain 422 (.arr (faults.map Fault.toJson))

/-- Checks the text of an input. -/
def check (serverOf : Options → Server State) (state : State) (input : CheckInput) :
    Result State :=
  let options := input.options.options
  let assignment : Assignment := ⟨.ofProse input.file input.text, options, false⟩
  match Check.run Paragraph.key (serverOf options) state assignment .empty with
  | (.ok (report, _), state) => ⟨⟨200, report.toJson⟩, some state⟩
  | (.error abortion, state) =>
    ⟨⟨502, detail s!"Check aborted: {abortion.cause.message}"⟩, some state⟩

/-- Shows the chunks of an input. -/
def convert (input : CheckInput) : Result State :=
  let world := World.ofProse input.file input.text
  .plain 200 (Listing.chunksJson (world.chunks input.options.options false))

/-- Why a message has no response. -/
inductive ServiceError where
  | target (error : TargetError)
  | settings (error : SettingsError)
  /-- The text to check holds half a pair of units. -/
  | halvedText

/-- Answers with an input that was read, or with its faults. -/
def withInput (answer : CheckInput → Result State) (body : List Nat) :
    Except ServiceError (Result State) :=
  match readBody body with
  | .input input => .ok (answer input)
  | .faulty faults => .ok (refused faults)
  | .halved => .error .halvedText
  | .unreadable => .ok (.plain 400 (detail "There was an error parsing the body"))

/-- What the service does with a message. -/
def answer (settings : Except SettingsError Settings) (serverOf : Options → Server State)
    (state : State) (message : Message) : Except ServiceError (Result State) := do
  match Resource.ofPath? (← (pathOf message.target).mapError .target) with
  | none => pure (.plain 404 (detail "Not Found"))
  | some resource =>
    if message.method ≠ resource.method then pure (.plain 405 (detail "Method Not Allowed"))
    else
      match resource with
      | .health => pure (.plain 200 (.obj [("status", .str "ok"), ("version", .str version)]))
      | .settings => pure (.plain 200 (← settings.mapError .settings).toJson.finite)
      | .check => withInput (check serverOf state) message.body
      | .convert => withInput convert message.body

end Service
end ProseCheck

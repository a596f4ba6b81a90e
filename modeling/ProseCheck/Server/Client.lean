import ProseCheck.Json.Encoding
import ProseCheck.Json.Reader
import ProseCheck.Options.Basic
import ProseCheck.Server.Reply
import ProseCheck.Settings
import ProseCheck.Url.Basic

/-!
# Clients

A client sends requests to a server over the network.  Rules that it turns off and words that it
allows count for every request, and those of a request are added to them.
-/

namespace ProseCheck

/-- A client of one server. -/
structure Client where
  /-- Address that paths are added to. -/
  base : String
  /-- Words that are not reported. -/
  allowedWords : List String
  /-- Rules that are turned off, each once. -/
  disabledRules : List String
deriving DecidableEq, Repr

/-- What comes back over the network. -/
inductive Transmission where
  | reply (status : Int) (body : List Nat)
  | refused

namespace Client

/-- Address of a host and port; a host that names no protocol has the usual one. -/
def address (host port : String) : String :=
  let host := Text.dropRight '/' host.toList
  let host := if Text.includes "://".toList host then host else "http://".toList ++ host
  String.ofList (if port.isEmpty then host else host ++ ':' :: port.toList)

/-- A client of a host and port. -/
def ofHost (host port : String) : Client := ⟨address host port, [], []⟩

/-- The text that is not empty: the first one, else the second. -/
def orElse (first : Option String) (second : String) : String :=
  match first with
  | some text => if text.isEmpty then second else text
  | none => second

/-- The client that options ask for, where they say nothing that of the settings. -/
def ofOptions (settings : Settings) (options : Options) : Client :=
  ofHost (orElse options.host settings.host) (orElse options.port settings.port)

/-- Names with one more, unless it is there. -/
def addName (names : List String) (name : String) : List String :=
  if names.contains name then names else names ++ [name]

/-- Allows words. -/
def allow (client : Client) (words : List String) : Client :=
  { client with allowedWords := words.foldl addName client.allowedWords }

/-- Turns rules off. -/
def disable (client : Client) (rules : List String) : Client :=
  { client with disabledRules := rules.foldl addName client.disabledRules }

/-- Where requests are sent; none if the address is no URL.  An address without a host leaves
its path. -/
def url? (client : Client) : Option Url :=
  (Url.read? (client.base ++ "/v2/check").toList).map Url.empty.under

/-- Fields of the form that is sent for a request. -/
def form (client : Client) (request : Request) : List (String × String) :=
  let disabled := (request.disabledRules.getD []).foldl addName client.disabledRules
  [("text", String.ofList request.text), ("language", request.language)]
    ++ (if disabled.isEmpty then [] else [("disabledRules", ",".intercalate disabled)])

/-- Reads the body of a reply. -/
def readBody (octets : List Nat) : Except ServerError Json :=
  match Json.decode? octets with
  | none => .error .brokenReply
  | some text =>
    match Json.read text with
    | .ok value => .ok value
    | .error .tooDeep => .error .tooDeep
    | .error .malformed | .error .oversized => .error .brokenReply

/-- What comes of a request with what came back. -/
def outcome (client : Client) (request : Request) : Transmission → Outcome
  | .refused => .error .requestFailed
  | .reply status body =>
    if status < 200 ∨ 300 ≤ status then .error .requestFailed
    else do
      Reply.suggestions ((request.allowedWords.getD []).foldl addName client.allowedWords)
        request.text (← readBody body)

/-- What comes of a request that is sent where the client says. -/
def send (client : Client) (request : Request) (transmission : Transmission) : Outcome :=
  match client.url? with
  | none => .error .noAddress
  | some _ => client.outcome request transmission

end Client
end ProseCheck

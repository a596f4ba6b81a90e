import ProseCheck.Text.Basic
import ProseCheck.Url.Basic

/-!
# Resources of the service

The service has four resources, each with one method.  A path may end in slashes, or in a line
break before them.
-/

namespace ProseCheck

/-- What the service offers. -/
inductive Resource where
  /-- Whether the service is up. -/
  | health
  /-- The settings. -/
  | settings
  /-- The check of a text. -/
  | check
  /-- The chunks of a text. -/
  | convert
deriving DecidableEq, Repr

namespace Resource

/-- Path of a resource. -/
def path : Resource → Text
  | .health => "/health".toList
  | .settings => "/config".toList
  | .check => "/check".toList
  | .convert => "/convert".toList

/-- Method of a resource. -/
def method : Resource → String
  | .health | .settings => "GET"
  | .check | .convert => "POST"

/-- All resources. -/
def all : List Resource := [.health, .settings, .check, .convert]

/-- A path without slashes at its end, and then without a line break there. -/
def trimmed (path : Text) : Text :=
  let path := Text.dropRight '/' path
  if path.getLast? = some '\n' then path.dropLast else path

/-- Resource at a path. -/
def ofPath? (path : Text) : Option Resource :=
  all.find? fun resource => resource.path == trimmed path

end Resource
end ProseCheck

/-!
## Targets

What a message is sent to is a URL, absolute or under the root of the service.  The path of a
resource is encoded twice over in it, so it is decoded twice.
-/

namespace ProseCheck
namespace Service

/-- Why a target has no path. -/
inductive TargetError where
  /-- The URL is out of order. -/
  | invalid
  /-- The service does not speak the protocol. -/
  | unspoken (scheme : String)
deriving DecidableEq, Repr

/-- The root of the service. -/
def root : Url := .ofHost "http" "localhost"

/-- Protocols that the service speaks. -/
def spoken : List String := ["http", "https"]

/-- Path that a target names. -/
def pathOf (target : Text) : Except TargetError Text :=
  match Url.read? target with
  | none => .error .invalid
  | some url =>
    let url := root.under url
    let scheme := String.ofList url.scheme
    if spoken.contains scheme then .ok (Percent.decode (Percent.decode url.path))
    else .error (.unspoken scheme)

end Service
end ProseCheck

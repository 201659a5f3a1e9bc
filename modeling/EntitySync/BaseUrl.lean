import EntitySync.Json.Shape
import EntitySync.Text.Blank
import EntitySync.Text.Percent

/-!
# Base URLs

The base URL is the root under which the endpoints of the server stand. It is given as a text, or
derived from the location of the page that the client works for.
-/

namespace EntitySync

/-! ### Page locations -/

/-- Where a page is: scheme, host, and the port if it is written. -/
structure PageLocation where
  /-- The scheme, with or without a colon at its end. -/
  protocol : String := "http:"
  hostname : String := "localhost"
  port : Option UInt16 := none
deriving DecidableEq

namespace PageLocation

def portJson (port : UInt16) : Json :=
  .number (.integer port.toNat (by have := port.toNat_lt; omega))

def toJson (l : PageLocation) : Json :=
  .object [("protocol", .string l.protocol), ("hostname", .string l.hostname),
    ("port", (l.port.map portJson).getD .null)]

/-- Decode an object or a list of at most three; absent parts take their defaults. -/
def ofJson : Json → Decoded PageLocation
  | .object members => do
    let hostname ← Decode.member? members "hostname" Decode.text
    let port ← Decode.member? members "port" (Decode.optional Decode.word16)
    let protocol ← Decode.member? members "protocol" Decode.text
    let default : PageLocation := {}
    return ⟨protocol.getD default.protocol, hostname.getD default.hostname, port.getD none⟩
  | .array [] => return {}
  | .array (protocol :: rest) => do
    let protocol ← Decode.text protocol
    match rest with
    | [] => return { protocol }
    | hostname :: rest =>
      let hostname ← Decode.text hostname
      match rest with
      | [] => return { protocol, hostname }
      | port :: rest =>
        let port ← Decode.optional Decode.word16 port
        if rest.isEmpty then return { protocol, hostname, port }
        else .error (.tooLong (rest.length + 3))
  | other => .error (.wrongKind other (.structure "PageLocation"))

end PageLocation

/-! ### Base URLs -/

/-- A text that is no base URL. -/
structure InvalidBaseUrl where
  text : String
deriving DecidableEq

def InvalidBaseUrl.message (e : InvalidBaseUrl) : String :=
  s!"invalid base URL '{e.text}'"

/-- Root of the endpoints, without a slash at its end. -/
structure BaseUrl where
  text : String
deriving DecidableEq

namespace BaseUrl

/-- The port of the API when the page has an explicit port of its own. -/
def defaultApiPort : UInt16 := 8000

/-- A text without surrounding white space and without slashes at its end. -/
def trimmed (text : String) : List Char :=
  Text.trimEnd (· = '/') (Text.trim Text.isBlank text.toList)

/-- What follows the scheme. -/
def afterScheme? (cs : List Char) : Option (List Char) :=
  if "http://".toList.isPrefixOf cs then some (cs.drop 7)
  else if "https://".toList.isPrefixOf cs then some (cs.drop 8)
  else none

/-- Read an explicit base URL: `http://` or `https://` and something behind it. -/
def parse (text : String) : Except InvalidBaseUrl BaseUrl :=
  let cs := trimmed text
  match afterScheme? cs with
  | none | some [] => .error ⟨text⟩
  | some (_ :: _) => .ok ⟨String.ofList cs⟩

/--
The API on the host of a page.

The port of the API is only written when the page has a port of its own.
-/
def ofLocation (location : PageLocation) (apiPort : UInt16) : BaseUrl :=
  let scheme := String.ofList (Text.trimEnd (· = ':') location.protocol.toList)
  let port := if location.port.isSome then s!":{apiPort.toNat}" else ""
  ⟨s!"{scheme}://{location.hostname}{port}/api"⟩

/-- URL of an endpoint, whose name is one path segment. -/
def endpointUrl (base : BaseUrl) (endpoint : String) : String :=
  s!"{base.text}/{Percent.encode endpoint}/"

end BaseUrl

end EntitySync

import EntitySync.BaseUrl
import EntitySync.Text.Digits
import EntitySync.Yaml.Node

/-!
# Configuration files

A configuration file is a mapping with some of four fields. Fields with other names are ignored,
whatever their value, and an empty document sets nothing.
-/

namespace EntitySync

open Yaml (Node Scalar)

/-- What a configuration file sets. -/
structure FileSettings where
  baseUrl : Option String := none
  location : Option PageLocation := none
  apiPort : Option UInt16 := none
  authToken : Option String := none

/-- Why a text is no configuration file. -/
inductive SettingsFault where
  | notYaml (fault : Yaml.Fault)
  | notMapping
  | keyNotScalar
  | repeated (field : String)
  | notText (field : String)
  | notPort (field : String)
deriving DecidableEq

namespace SettingsFault

def message : SettingsFault → String
  | .notYaml fault => fault.message
  | .notMapping => "expected a mapping"
  | .keyNotScalar => "expected a scalar as key"
  | .repeated field => s!"duplicate field {field}"
  | .notText field => s!"{field}: expected a text"
  | .notPort field => s!"{field}: expected a port number"

end SettingsFault

namespace FileSettings

/-- What is read, or why it cannot be. -/
abbrev Reading (α : Type) := Except SettingsFault α

/-! ### Values of fields -/

/-- The text of a scalar, whatever it looks like. -/
def text (field : String) : Node → Reading String
  | .scalar s => .ok s.text
  | _ => .error (.notText field)

/-- A decimal number starts with a zero only if it is zero. -/
def decimal? : List Char → Option Nat
  | '0' :: _ :: _ => none
  | cs => Text.natural? 10 cs

/-- The number that a plain scalar writes: decimal, hexadecimal, octal or binary. -/
def integer? (cs : List Char) : Option Nat :=
  match Text.dropPlus cs with
  | '0' :: 'x' :: digits => Text.natural? 16 digits
  | '0' :: 'o' :: digits => Text.natural? 8 digits
  | '0' :: 'b' :: digits => Text.natural? 2 digits
  | digits => decimal? digits

/-- A port is a number that is not quoted. -/
def port (field : String) (node : Node) : Reading UInt16 :=
  let number? : Option UInt16 :=
    match node with
    | .scalar s => if s.isPlain then (integer? s.text.toList).bind Text.word16? else none
    | _ => none
  match number? with
  | some n => .ok n
  | none => .error (.notPort field)

/-- A value that may be left out or null. -/
def optional {α : Type} (read : Node → Reading α) (node : Node) : Reading (Option α) :=
  match node with
  | .scalar s => if s.isNull then .ok none else (read node).map some
  | _ => (read node).map some

/-! ### Mappings -/

/-- The entries of a mapping under the texts of their keys. -/
def namedEntries (entries : List (Node × Node)) : Reading (List (String × Node)) :=
  entries.mapM fun (key, value) =>
    match key with
    | .scalar s => .ok (s.text, value)
    | _ => .error .keyNotScalar

/-- The value of a field, which is written at most once. -/
def field? (entries : List (String × Node)) (name : String) : Reading (Option Node) :=
  match entries.filter fun entry => entry.1 = name with
  | [] => .ok none
  | [entry] => .ok (some entry.2)
  | _ => .error (.repeated name)

/-- Read a field if it is there. -/
def readField {α : Type} (entries : List (String × Node)) (name : String)
    (read : Node → Reading α) : Reading (Option α) := do
  match ← field? entries name with
  | some node => return some (← read node)
  | none => return none

/-- A page location; parts that are not set take their defaults. -/
def pageLocation : Node → Reading PageLocation
  | .mapping entries => do
    let entries ← namedEntries entries
    let protocol ← readField entries "protocol" (text "location.protocol")
    let hostname ← readField entries "hostname" (text "location.hostname")
    let port ← readField entries "port" (optional (port "location.port"))
    let default : PageLocation := {}
    return ⟨protocol.getD default.protocol, hostname.getD default.hostname, port.join⟩
  | _ => .error .notMapping

/-- The settings in a document, of which an empty scalar is an empty mapping. -/
def ofNode : Node → Reading FileSettings
  | .mapping entries => do
    let entries ← namedEntries entries
    let baseUrl ← readField entries "base_url" (optional (text "base_url"))
    let location ← readField entries "location" (optional pageLocation)
    let apiPort ← readField entries "api_port" (optional (port "api_port"))
    let authToken ← readField entries "auth_token" (optional (text "auth_token"))
    return ⟨baseUrl.join, location.join, apiPort.join, authToken.join⟩
  | .scalar s => if s = .empty then .ok {} else .error .notMapping
  | .sequence _ => .error .notMapping

/-- The settings that a file writes. -/
def parse (contents : String) : Reading FileSettings :=
  match Yaml.parse contents with
  | .error fault => .error (.notYaml fault)
  | .ok none => .ok {}
  | .ok (some root) => ofNode root

end FileSettings

end EntitySync

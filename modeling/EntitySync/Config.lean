import EntitySync.Config.File
import EntitySync.Credential
import EntitySync.Files

/-!
# Configuration

Every value comes from the highest of three layers that sets it: the environment, the configuration
file, and the defaults. The layer is kept beside the value.
-/

namespace EntitySync

/-! ### Layers -/

/-- The layer that a value comes from. -/
inductive Source where
  | default
  | file
  | environment
deriving DecidableEq

def Source.word : Source → String
  | .default => "default"
  | .file => "file"
  | .environment => "environment"

/-- A value and where it comes from. -/
structure Sourced (α : Type) where
  value : α
  source : Source
deriving DecidableEq

namespace Sourced

variable {α : Type}

/-- The value of the highest layer that sets one. -/
def ofLayers (default : α) (file environment : Option α) : Sourced α :=
  match environment, file with
  | some value, _ => ⟨value, .environment⟩
  | none, some value => ⟨value, .file⟩
  | none, none => ⟨default, .default⟩

/-- The value of the highest layer that sets one, if any does. -/
def ofOptionalLayers (file environment : Option α) : Sourced (Option α) :=
  ofLayers none (file.map some) (environment.map some)

def toJson (encode : α → Json) (v : Sourced α) : Json :=
  .object [("value", encode v.value), ("source", .string v.source.word)]

end Sourced

/-! ### Environment -/

/-- The environment variables that set a value. -/
structure Environment where
  baseUrl : Option String := none
  apiPort : Option String := none
  authToken : Option String := none

namespace Environment

def baseUrlName : String := "SLOTO_BASE_URL"
def apiPortName : String := "SLOTO_API_PORT"
def authTokenName : String := "SLOTO_AUTH_TOKEN"

/-- A port: digits, perhaps behind a plus sign. -/
def port? (text : String) : Option UInt16 :=
  (Text.natural? 10 (Text.dropPlus text.toList)).bind Text.word16?

end Environment

/-! ### Configuration -/

/-- Why there is no configuration. -/
inductive ConfigError where
  | notReadable (path : String) (fault : ReadFault)
  | notSettings (path : String) (fault : SettingsFault)
  | invalidValue (name value : String)
deriving DecidableEq

namespace ConfigError

def message : ConfigError → String
  | .notReadable path fault => s!"Failed to read config file '{path}': {fault.message}"
  | .notSettings path fault => s!"Failed to parse config file '{path}': {fault.message}"
  | .invalidValue name value => s!"Invalid value '{value}' for {name}"

end ConfigError

/-- The values that the client works with. -/
structure Config where
  /-- Bypasses the derivation from the location. -/
  baseUrl : Sourced (Option String)
  location : Sourced PageLocation
  apiPort : Sourced UInt16
  authToken : Sourced (Option String)
  /-- Path of the configuration file, if there is one. -/
  file : Option String

namespace Config

/-- The settings of a file, or none if there is no file. -/
def settings? (path : String) : FileText → Except ConfigError (Option FileSettings)
  | .ok contents =>
    match FileSettings.parse contents with
    | .ok settings => .ok (some settings)
    | .error fault => .error (.notSettings path fault)
  | .error fault => if fault.isMissing then .ok none else .error (.notReadable path fault)

/-- The port that the environment sets. -/
def environmentPort (env : Environment) : Except ConfigError (Option UInt16) :=
  match env.apiPort with
  | none => .ok none
  | some text =>
    match Environment.port? text with
    | some port => .ok (some port)
    | none => .error (.invalidValue Environment.apiPortName text)

/-- Resolve the layers. The file is read before the environment. -/
def load (path : String) (file : FileText) (env : Environment) : Except ConfigError Config := do
  let found ← settings? path file
  let apiPort ← environmentPort env
  let settings := found.getD {}
  return {
    baseUrl := .ofOptionalLayers settings.baseUrl env.baseUrl
    location := .ofLayers {} settings.location none
    apiPort := .ofLayers BaseUrl.defaultApiPort settings.apiPort apiPort
    authToken := .ofOptionalLayers settings.authToken env.authToken
    file := found.map fun _ => path }

/-- The explicit base URL, or the one derived from the location. -/
def effectiveBaseUrl (c : Config) : Except InvalidBaseUrl BaseUrl :=
  match c.baseUrl.value with
  | some text => BaseUrl.parse text
  | none => .ok (.ofLocation c.location.value c.apiPort.value)

def credential? (c : Config) : Option Credential :=
  c.authToken.value.bind Credential.ofToken?

/-! ### As JSON -/

def textJson (text : Option String) : Json := (text.map Json.string).getD .null

/-- The configuration without its token. -/
def toJson (c : Config) : Json :=
  .object ([("base_url", c.baseUrl.toJson textJson),
    ("location", c.location.toJson PageLocation.toJson),
    ("api_port", c.apiPort.toJson PageLocation.portJson)] ++
    (c.file.map fun path => ("config_file", Json.string path)).toList)

/-! ### Default path -/

/-- A path below a directory. -/
def below (directory name : String) : String :=
  if directory.endsWith "/" then directory ++ name else s!"{directory}/{name}"

/-- The directory of configurations: the absolute one that is set, else the one of the home. -/
def directory (configHome home : Option String) : String :=
  match configHome.filter (·.startsWith "/"), home.filter (· ≠ "") with
  | some path, _ => path
  | none, some path => below path ".config"
  | none, none => "."

def defaultPath (configHome home : Option String) : String :=
  below (below (directory configHome home) "sloto") "config.yaml"

end Config

end EntitySync

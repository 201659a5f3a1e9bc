import EntitySync.CommandLine.Arguments
import EntitySync.CommandLine.Report

/-!
# Commands without a server

Folding an instruction from a file, and showing the configuration.
-/

namespace EntitySync

namespace CommandLine

/-! ### Folding an instruction -/

/-- The JSON value that a file holds. -/
def jsonInFile (path : String) : FileText → Except CommandError Json
  | .ok contents => (Json.parse contents).mapError (.notJson (.file path))
  | .error fault => .error (.unreadable fault)

/-- A file that is decoded to a value. -/
def decodedFile {α : Type} (decode : Json → Decoded α) (path : String) (file : FileText) :
    Except CommandError α := do
  (decode (← jsonInFile path file)).mapError (.wrongShape (.file path))

/-- The state that a batch leads to, also if it stops early. -/
def foldReport (s : Snapshot) (operations : List Operation) : Report :=
  match s.applyAll operations with
  | .ok next => .json next.toJson
  | .error e => { Report.json e.applied.toJson with error := some (.fold e) }

/-- The initial state of a fold. -/
def initialState : Option (String × FileText) → Except CommandError Snapshot
  | some (path, file) => decodedFile Snapshot.ofJson path file
  | none => .ok .empty

/-- Fold the instruction in a file into a state. -/
def applyReport (state : Option (String × FileText)) (instruction : String × FileText) : Report :=
  .ofExcept do
    let s ← initialState state
    let i ← decodedFile Instruction.ofJson instruction.1 instruction.2
    return foldReport s i.operations

/-! ### Showing the configuration -/

/-- A value on a line, and where it comes from on the next. -/
def sourcedText {α : Type} (name : String) (describe : α → String) (v : Sourced α) : String :=
  s!"\n{name}: {describe v.value}\n  source: {v.source.word}\n"

def locationText (l : PageLocation) : String :=
  let port := (l.port.map fun n => s!":{n.toNat}").getD ""
  s!"{l.protocol}//{l.hostname}{port}"

/-- The token itself is not shown. -/
def tokenText (token : Option String) : String :=
  if token.isSome then "(set)" else "(not set)"

def configFileText (c : Config) (defaultPath : String) : String :=
  c.file.getD s!"{defaultPath} (not found)"

def effectiveText (c : Config) : String :=
  match c.effectiveBaseUrl with
  | .ok base => base.text
  | .error e => s!"invalid ({e.message})"

/-- The configuration as text. Without a file, the path is shown at which one is expected. -/
def configText (c : Config) (defaultPath : String) : String :=
  s!"Configuration\n=============\n\nConfig file: {configFileText c defaultPath}\n\n" ++
  s!"effective base URL: {effectiveText c}\n" ++
  sourcedText "base_url" (·.getD "(derived)") c.baseUrl ++
  sourcedText "location" locationText c.location ++
  sourcedText "api_port" (fun n => s!"{n.toNat}") c.apiPort ++
  sourcedText "auth_token" tokenText c.authToken

def configReport (c : Config) (defaultPath : String) : OutputFormat → Report
  | .text => { output := configText c defaultPath }
  | .json => .json c.toJson

end CommandLine

end EntitySync

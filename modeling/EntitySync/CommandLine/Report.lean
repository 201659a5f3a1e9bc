import EntitySync.Config
import EntitySync.Store

/-!
# Reports

What a command prints, and the error with which it fails. A command that stops in the middle of a
batch does both: it prints the state that it has reached.
-/

namespace EntitySync

namespace CommandLine

/-- What is read from the user. -/
inductive Input where
  | body
  | file (path : String)

/-- How an input is named in front of what is wrong with it. -/
def Input.label : Input → String
  | .body => "--body is not JSON"
  | .file path => path

/-- Why a command fails. -/
inductive CommandError where
  | config (error : ConfigError)
  | baseUrl (error : InvalidBaseUrl)
  | dispatch (error : DispatchError)
  | fold (error : FoldError)
  | unreadable (fault : ReadFault)
  | notJson (input : Input) (error : Json.ParseError)
  | wrongShape (input : Input) (fault : ShapeError)
  /-- The server answered with errors. -/
  | rejected (errors : Json)
  | noToken

namespace CommandError

/-- The errors of a server: a text stands for itself. -/
def errorsText : Json → String
  | .string text => text
  | other => other.compact

def message : CommandError → String
  | .config error => error.message
  | .baseUrl error => error.message
  | .dispatch error => error.message
  | .fold error => error.message
  | .unreadable fault => s!"I/O error: {fault.message}"
  | .notJson input error => s!"Invalid input: {input.label}: {error.message}"
  | .wrongShape input fault => s!"Invalid input: {input.label}: {fault.message}"
  | .rejected errors => s!"Rejected by server: {errorsText errors}"
  | .noToken => "Rejected by server: server did not return a session token"

end CommandError

/-- What a command prints, and its error if it fails. -/
structure Report where
  output : String := ""
  error : Option CommandError := none

namespace Report

def failure (error : CommandError) : Report := { error := some error }

/-- A line of output. -/
def line (text : String) : Report := { output := text ++ "\n" }

/-- A JSON value over several lines. -/
def json (value : Json) : Report := line value.pretty

/-- The report, or the failure to come to one. -/
def ofExcept : Except CommandError Report → Report
  | .ok report => report
  | .error error => failure error

def exitCode (r : Report) : UInt8 := if r.error.isSome then 1 else 0

/-- What goes to the error output. -/
def errorOutput (r : Report) : String :=
  match r.error with
  | some error => s!"Error: {error.message}\n"
  | none => ""

end Report

end CommandLine

end EntitySync

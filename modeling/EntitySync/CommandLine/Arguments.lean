import EntitySync.CommandLine.Options

/-!
# Arguments

The commands of the program and their arguments, and how they are read from a command line. The
path of the configuration file may be given before or behind the name of a command.
-/

namespace EntitySync

namespace CommandLine

/-- The name of the program. -/
def programName : String := "sloto"

def version : String := "0.1.0"

/-! ### Commands -/

/-- How the configuration is shown. -/
inductive OutputFormat where
  | text
  | json
deriving DecidableEq

/-- The word for a format on the command line. -/
def OutputFormat.ofWord? : String → Option OutputFormat
  | "text" => some .text
  | "json" => some .json
  | _ => none

/-- Call an endpoint and show the state that it leads to. -/
structure CallArguments where
  endpoint : String
  /-- The body, as a JSON text. -/
  body : String := "\x7b\x7d"
  /-- Overrides the configured token; an empty one sends none. -/
  token : Option String := none
  /-- Show the response itself. -/
  raw : Bool := false

/-- Exchange a user name and a password for a session token. -/
structure LoginArguments where
  username : String
  /-- Asked for if it is not given. -/
  password : Option String := none
  endpoint : String := "AuthenticateUser"

/-- Fold the instruction in a file without calling the server. -/
structure ApplyArguments where
  instruction : String
  /-- Path of the initial state, which is empty if none is given. -/
  state : Option String := none

/-- What the program is asked to do. -/
inductive Command where
  | call (arguments : CallArguments)
  | login (arguments : LoginArguments)
  | apply (arguments : ApplyArguments)
  | showConfig (format : OutputFormat)

/-- A command line. -/
structure Arguments where
  /-- Path of the configuration file. -/
  config : Option String
  command : Option Command

/-! ### Grammars -/

/-- A path has at least one character. -/
def isPath (text : String) : Bool := text ≠ ""

def configOption : OptionSpec := { name := "config", letter := some 'c', accepts := isPath }

def helpOption : OptionSpec := { name := "help", letter := some 'h', effect := .showsHelp }

/-- The options that every command has. -/
def sharedOptions : List OptionSpec := [configOption, helpOption]

def programGrammar : Grammar where
  options := { name := "version", letter := some 'V', effect := .showsVersion } :: sharedOptions
  commands := ["call", "login", "apply", "config", "help"]

def callGrammar : Grammar where
  options := [{ name := "body", letter := some 'b' }, { name := "token" },
    { name := "raw", effect := .flag }] ++ sharedOptions
  operands := 1

def loginGrammar : Grammar where
  options := [{ name := "username", letter := some 'u' },
    { name := "password", letter := some 'p' }, { name := "endpoint" }] ++ sharedOptions

def applyGrammar : Grammar where
  options := { name := "state", accepts := isPath } :: sharedOptions
  operands := 1

def configGrammar : Grammar where
  options := sharedOptions
  commands := ["show", "help"]

def formatOption : OptionSpec where
  name := "format"
  letter := some 'f'
  accepts word := (OutputFormat.ofWord? word).isSome

def showGrammar : Grammar where
  options := formatOption :: sharedOptions

/-! ### Reading -/

namespace Arguments

def usage {α : Type} (error : UsageError) : Except Stop α := .error (.usage error)

/-- The path that is given last, level by level. -/
def configPath (levels : List Given) : Option String :=
  levels.foldl (fun path given => (given.value? configOption.name).or path) none

/-- The only operand. -/
def operand (given : Given) (name : String) : Except Stop String :=
  match given.operands with
  | word :: _ => .ok word
  | [] => usage (.missingOperand name)

def readCall (given : Given) : Except Stop Command := do
  let endpoint ← operand given "ENDPOINT"
  let default : CallArguments := { endpoint }
  let body := (given.value? "body").getD default.body
  return .call { endpoint, body, token := given.value? "token", raw := given.hasFlag "raw" }

def readLogin (given : Given) : Except Stop Command :=
  match given.value? "username" with
  | none => usage (.missingOption "username")
  | some username =>
    let default : LoginArguments := { username }
    let endpoint := (given.value? "endpoint").getD default.endpoint
    .ok (.login { username, password := given.value? "password", endpoint })

def readApply (given : Given) : Except Stop Command := do
  let path ← operand given "INSTRUCTION"
  if isPath path then return .apply { instruction := path, state := given.value? "state" }
  else usage (.invalidValue "INSTRUCTION" path)

def readShow (given : Given) : Except Stop Command :=
  .ok (.showConfig (((given.value? "format").bind OutputFormat.ofWord?).getD .text))

/-- Read a command that has no commands of its own. -/
def readLeaf (outer : List Given) (grammar : Grammar) (command : Given → Except Stop Command)
    (words : List String) : Except Stop Arguments := do
  let given ← read grammar words
  return ⟨configPath (outer ++ [given]), some (← command given)⟩

/-- Help on the command that is named, if there is one. -/
def readHelp (commands : List String) : List String → Stop
  | name :: _ => if commands.contains name then .help else .usage (.unknownCommand name)
  | [] => .help

def readConfig (outer : List Given) (words : List String) : Except Stop Arguments := do
  let given ← read configGrammar words
  match given.next with
  | some ("show", rest) => readLeaf (outer ++ [given]) showGrammar readShow rest
  | some (_, rest) => .error (readHelp configGrammar.commands rest)
  | none => usage .missingCommand

/-- Read a command line without the name of the program. -/
def ofWords (words : List String) : Except Stop Arguments := do
  let given ← read programGrammar words
  match given.next with
  | none => return ⟨configPath [given], none⟩
  | some ("call", rest) => readLeaf [given] callGrammar readCall rest
  | some ("login", rest) => readLeaf [given] loginGrammar readLogin rest
  | some ("apply", rest) => readLeaf [given] applyGrammar readApply rest
  | some ("config", rest) => readConfig [given] rest
  | some (_, rest) => .error (readHelp programGrammar.commands rest)

end Arguments

end CommandLine

end EntitySync

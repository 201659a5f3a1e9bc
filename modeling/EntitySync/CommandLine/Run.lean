import EntitySync.CommandLine.Online
import EntitySync.Http

/-!
# Running the program

The program is run on a host: what it reads, where it writes, and the wire to the server. Which host
that is does not matter here, so a run can be reasoned about on a host that keeps everything in
memory.
-/

namespace EntitySync

namespace CommandLine

/-- What the program is run on. -/
structure Host (m : Type → Type) where
  /-- The value of an environment variable, if it is set to a text. -/
  environmentVariable? : String → m (Option String)
  fileText : String → m FileText
  /-- The next line of the input, with its end. -/
  readLine : m FileText
  write : String → m Unit
  writeError : String → m Unit
  wire : Http.Message → m Http.Outcome

/-- How the program ends when the command line cannot be used. -/
def usageExit : UInt8 := 2

/-- The commands and options, a line each. -/
def usageLines : List String :=
  ["Usage: sloto [OPTIONS] [COMMAND]",
    "",
    "Commands:",
    "  call ENDPOINT       Call an endpoint and show the resulting state",
    "  login               Log in and print the session token",
    "  apply INSTRUCTION   Fold an instruction file without calling the server",
    "  config show         Show the configuration",
    "",
    "Options:",
    "  -c, --config PATH      Path of the configuration file",
    "  -b, --body JSON        call: request body, an empty object by default",
    "      --token TOKEN      call: credential to send",
    "      --raw              call: print the response instead of the state",
    "  -u, --username NAME    login: account",
    "  -p, --password WORD    login: password, asked for by default",
    "      --endpoint NAME    login: endpoint that authenticates users",
    "      --state PATH       apply: initial state",
    "  -f, --format FORMAT    config show: text or json",
    "  -h, --help             Print this text",
    "  -V, --version          Print the version"]

def usageText : String :=
  String.join (usageLines.map fun line => line ++ "\n")

namespace Host

variable {m : Type → Type} [Monad m]

def post (host : Host m) (request : Request) : m Reply :=
  Http.post host.wire request

def environment (host : Host m) : m Environment := do
  let baseUrl ← host.environmentVariable? Environment.baseUrlName
  let apiPort ← host.environmentVariable? Environment.apiPortName
  let authToken ← host.environmentVariable? Environment.authTokenName
  return { baseUrl, apiPort, authToken }

/-- The path of the configuration file if none is given. -/
def defaultPath (host : Host m) : m String := do
  return Config.defaultPath (← host.environmentVariable? "XDG_CONFIG_HOME")
    (← host.environmentVariable? "HOME")

/-- A line of input without its end. -/
def withoutLineEnd (line : String) : String :=
  String.ofList (Text.trimEnd (fun c => c = '\r' || c = '\n') line.toList)

/-- Ask for the password. -/
def askPassword (host : Host m) : m FileText := do
  host.write "Password: "
  return (← host.readLine).map withoutLineEnd

def namedFile (host : Host m) (path : String) : m (String × FileText) := do
  return (path, ← host.fileText path)

def runLogin (host : Host m) (c : Config) (a : LoginArguments) : m Report := do
  let password ←
    match a.password with
    | some password => pure (Except.ok password)
    | none => host.askPassword
  match password with
  | .ok password => a.run host.post c password
  | .error fault => return .failure (.unreadable fault)

def runApply (host : Host m) (a : ApplyArguments) : m Report := do
  let state ← a.state.mapM host.namedFile
  return applyReport state (← host.namedFile a.instruction)

def runCommand (host : Host m) (c : Config) (defaultPath : String) : Option Command → m Report
  | some (.call a) => a.run host.post c
  | some (.login a) => host.runLogin c a
  | some (.apply a) => host.runApply a
  | some (.showConfig format) => return configReport c defaultPath format
  | none => return .line "Use --help to see available commands"

/-- Load the configuration, whether the command needs it or not, and run the command. -/
def runArguments (host : Host m) (a : Arguments) : m Report := do
  let defaultPath ← host.defaultPath
  let path := a.config.getD defaultPath
  let file ← host.fileText path
  match Config.load path file (← host.environment) with
  | .ok c => host.runCommand c defaultPath a.command
  | .error e => return .failure (.config e)

/-- Run the program on the words of a command line. Gives back the exit code. -/
def run (host : Host m) (words : List String) : m UInt8 := do
  match Arguments.ofWords words with
  | .ok a =>
    let report ← host.runArguments a
    host.write report.output
    host.writeError report.errorOutput
    return report.exitCode
  | .error .version =>
    host.write s!"{programName} {version}\n"
    return 0
  | .error .help =>
    host.write usageText
    return 0
  | .error (.usage error) =>
    host.writeError s!"error: {error.message}\n\n{usageText}"
    return usageExit

end Host

end CommandLine

end EntitySync

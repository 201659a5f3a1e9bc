/-!
# Options of a command line

The words of a command line are options, operands and names of commands. What is accepted after a
command is described by a `Grammar`; reading stops at the name of a command, with the words that
follow it left to the grammar of that command.
-/

namespace EntitySync

namespace CommandLine

/-- What makes a command line unusable. -/
inductive UsageError where
  | unknownOption (word : String)
  | unexpectedOperand (word : String)
  | unknownCommand (name : String)
  | missingCommand
  | missingOption (name : String)
  | missingOperand (name : String)
  | missingValue (option : String)
  | unexpectedValue (option : String)
  | invalidValue (option value : String)
  | repeated (option : String)
deriving DecidableEq

namespace UsageError

def message : UsageError → String
  | .unknownOption word => s!"unexpected option '{word}'"
  | .unexpectedOperand word => s!"unexpected argument '{word}'"
  | .unknownCommand name => s!"unknown command '{name}'"
  | .missingCommand => "a command is required"
  | .missingOption name => s!"option --{name} is required"
  | .missingOperand name => s!"argument {name} is required"
  | .missingValue option => s!"option --{option} needs a value"
  | .unexpectedValue option => s!"option --{option} takes no value"
  | .invalidValue option value => s!"invalid value '{value}' for {option}"
  | .repeated option => s!"option --{option} is given twice"

end UsageError

/-- Why reading a command line ends early. -/
inductive Stop where
  | usage (error : UsageError)
  | version
  | help
deriving DecidableEq

/-! ### Grammars -/

/-- What follows an option, or what it does by itself. -/
inductive Effect where
  | takesValue
  | flag
  | showsVersion
  | showsHelp
deriving DecidableEq

/-- An option that is written with two hyphens, or with one and a letter. -/
structure OptionSpec where
  name : String
  letter : Option Char := none
  effect : Effect := .takesValue
  /-- The values that are taken. -/
  accepts : String → Bool := fun _ => true

/-- What may be written after a command. -/
structure Grammar where
  options : List OptionSpec
  /-- The greatest number of operands. -/
  operands : Nat := 0
  /-- Names of the commands that may follow. -/
  commands : List String := []

namespace Grammar

def byName? (g : Grammar) (name : String) : Option OptionSpec :=
  g.options.find? fun option => option.name = name

def byLetter? (g : Grammar) (letter : Char) : Option OptionSpec :=
  g.options.find? fun option => option.letter = some letter

end Grammar

/-! ### Reading -/

/-- What has been written after a command. -/
structure Given where
  values : List (String × String) := []
  flags : List String := []
  operands : List String := []
  /-- The command that follows, and the words behind it. -/
  next : Option (String × List String) := none

namespace Given

def value? (given : Given) (name : String) : Option String := given.values.lookup name

def hasFlag (given : Given) (name : String) : Bool := given.flags.contains name

end Given

/-- A word that is read as options: it starts with a hyphen and does not end there. -/
def isOptionWord (word : String) : Bool :=
  match word.toList with
  | '-' :: _ :: _ => true
  | _ => false

/-- The name of a long option, and the value behind an equals sign. -/
def longParts (cs : List Char) : String × Option String :=
  let name := cs.takeWhile (· ≠ '=')
  let value? :=
    match cs.drop name.length with
    | [] => none
    | _ :: value => some (String.ofList value)
  (String.ofList name, value?)

namespace Given

def addValue (given : Given) (option : OptionSpec) (value : String) : Except Stop Given :=
  if (given.value? option.name).isSome then .error (.usage (.repeated option.name))
  else if option.accepts value then
    .ok { given with values := (option.name, value) :: given.values }
  else .error (.usage (.invalidValue option.name value))

def addFlag (given : Given) (option : OptionSpec) : Except Stop Given :=
  if given.hasFlag option.name then .error (.usage (.repeated option.name))
  else .ok { given with flags := option.name :: given.flags }

/-- An option with the value that is attached to it, and the option whose value is still to come. -/
def addOption (given : Given) (option : OptionSpec) (attached : Option String) :
    Except Stop (Given × Option OptionSpec) :=
  match option.effect, attached with
  | .takesValue, some value => return (← given.addValue option value, none)
  | .takesValue, none => return (given, some option)
  | _, some _ => .error (.usage (.unexpectedValue option.name))
  | .flag, none => return (← given.addFlag option, none)
  | .showsVersion, none => .error .version
  | .showsHelp, none => .error .help

/-- Letters behind one hyphen. The rest of the word belongs to an option that takes a value. -/
def addLetters (grammar : Grammar) (given : Given) :
    List Char → Except Stop (Given × Option OptionSpec)
  | [] => .ok (given, none)
  | letter :: rest =>
    match grammar.byLetter? letter with
    | none => .error (.usage (.unknownOption s!"-{letter}"))
    | some option =>
      match option.effect with
      | .takesValue =>
        let value := if rest.head? = some '=' then rest.drop 1 else rest
        if rest.isEmpty then .ok (given, some option)
        else given.addOption option (some (String.ofList value))
      | _ => do
        let (given, _) ← given.addOption option none
        addLetters grammar given rest

/-- A word that is read as options. -/
def addOptionWord (grammar : Grammar) (given : Given) (word : String) :
    Except Stop (Given × Option OptionSpec) :=
  match word.toList with
  | '-' :: '-' :: cs =>
    let (name, attached) := longParts cs
    match grammar.byName? name with
    | some option => given.addOption option attached
    | none => .error (.usage (.unknownOption word))
  | cs => addLetters grammar given (cs.drop 1)

def addOperand (grammar : Grammar) (given : Given) (word : String) : Except Stop Given :=
  if given.operands.length < grammar.operands then
    .ok { given with operands := given.operands ++ [word] }
  else .error (.usage (.unexpectedOperand word))

end Given

/-- Read the words after `--`, which are all operands. -/
def readOperands (grammar : Grammar) (given : Given) (words : List String) : Except Stop Given :=
  words.foldlM (Given.addOperand grammar) given

/-- Read the words of a command line; `pending` is an option whose value comes next. -/
def readWords (grammar : Grammar) (given : Given) (pending : Option OptionSpec) :
    List String → Except Stop Given
  | [] =>
    match pending with
    | some option => .error (.usage (.missingValue option.name))
    | none => .ok given
  | word :: rest =>
    match pending with
    | some option =>
      if isOptionWord word then .error (.usage (.missingValue option.name))
      else do readWords grammar (← given.addValue option word) none rest
    | none =>
      if grammar.commands.contains word then .ok { given with next := some (word, rest) }
      else if word = "--" then readOperands grammar given rest
      else if isOptionWord word then do
        let (given, pending) ← given.addOptionWord grammar word
        readWords grammar given pending rest
      else do readWords grammar (← given.addOperand grammar word) none rest

/-- What is given to a command, and the command that follows it. -/
def read (grammar : Grammar) (words : List String) : Except Stop Given :=
  readWords grammar {} none words

end CommandLine

end EntitySync

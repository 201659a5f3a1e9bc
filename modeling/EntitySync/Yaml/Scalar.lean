/-!
# Scalars of configuration files

A configuration file is written in a part of YAML: nested block and flow collections of plain and
quoted scalars. This module reads the text of one scalar. Line breaks inside a scalar are folded: a
single one becomes a space, of several the first is dropped.
-/

namespace EntitySync

namespace Yaml

/-- Why a text is no document. -/
inductive Fault where
  | controlCharacter
  | unexpectedCharacter (found : Char)
  | tabIndentation
  | unclosedQuote
  | markerInQuotes
  | invalidEscape
  /-- A colon in a flow collection that neither ends a key nor belongs to a word. -/
  | unexpectedColon
  /-- A line at the column of the keys that is no key. -/
  | missingColon
  | entryNotAllowed
  | keyNotAllowed
  | valueNotAllowed
  /-- Directives, anchors, aliases, tags and block scalars are not read. -/
  | notSupported (indicator : Char)
  | missingNode
  | missingKey
  | missingEntry
  | unclosedFlow
  | severalDocuments
deriving DecidableEq

def Fault.message : Fault → String
  | .controlCharacter => "control characters are not allowed"
  | .unexpectedCharacter found => s!"no token starts with '{found}'"
  | .tabIndentation => "a tab stands in the indentation"
  | .unclosedQuote => "a quoted scalar is not closed"
  | .markerInQuotes => "a document marker stands in a quoted scalar"
  | .invalidEscape => "unknown escape in a quoted scalar"
  | .unexpectedColon => "unexpected ':' in a plain scalar"
  | .missingColon => "could not find expected ':'"
  | .entryNotAllowed => "a sequence entry is not allowed here"
  | .keyNotAllowed => "a key is not allowed here"
  | .valueNotAllowed => "a value is not allowed here"
  | .notSupported indicator => s!"'{indicator}' is not supported"
  | .missingNode => "expected a value"
  | .missingKey => "expected a key"
  | .missingEntry => "expected a sequence entry"
  | .unclosedFlow => "a flow collection is not closed"
  | .severalDocuments => "expected a single document"

/-- A scalar as it was written. -/
structure Scalar where
  text : String
  isPlain : Bool
deriving DecidableEq

namespace Scalar

/-- What stands where a value is left out. -/
def empty : Scalar := ⟨"", true⟩

/-- A plain scalar that stands for no value. -/
def isNull (s : Scalar) : Bool :=
  s.isPlain && ["", "null", "Null", "NULL", "~"].contains s.text

end Scalar

/-! ### Characters -/

def isBreak (c : Char) : Bool :=
  c = '\n' || c = '\u2028' || c = '\u2029'

def isBlank (c : Char) : Bool :=
  c = ' ' || c = '\t'

/-- The text is at an end: white space, a line break or nothing follows. -/
def endsWord : List Char → Bool
  | [] => true
  | c :: _ => isBlank c || isBreak c

/-- The text starts with a marker between documents. -/
def startsWithMarker : List Char → Bool
  | '-' :: '-' :: '-' :: rest => endsWord rest
  | '.' :: '.' :: '.' :: rest => endsWord rest
  | _ => false

/-- A place in a text, counted from zero. -/
structure Place where
  line : Nat := 0
  column : Nat := 0
  /-- Bytes before it. -/
  offset : Nat := 0

/-- The place behind a character. -/
def Place.after (place : Place) (c : Char) : Place :=
  let offset := place.offset + c.utf8Size
  if isBreak c then ⟨place.line + 1, 0, offset⟩ else ⟨place.line, place.column + 1, offset⟩

/-! ### White space between words -/

/-- White space between two words of a scalar, the last character first. -/
inductive Gap where
  | blanks (cs : List Char)
  /-- A first line break, unless it is escaped, and the line breaks behind it. -/
  | breaks (first : Option Char) (more : List Char)

namespace Gap

def none : Gap := .blanks []

/-- White space around line breaks is dropped. -/
def push (c : Char) : Gap → Gap
  | .blanks cs => if isBreak c then .breaks (some c) [] else .blanks (c :: cs)
  | .breaks first more => if isBreak c then .breaks first (c :: more) else .breaks first more

def hasBreak : Gap → Bool
  | .blanks _ => false
  | .breaks _ _ => true

def isNone : Gap → Bool
  | .blanks cs => cs.isEmpty
  | .breaks _ _ => false

/-- What is read for the gap, the last character first. -/
def folded : Gap → List Char
  | .blanks cs => cs
  | .breaks Option.none more => more
  | .breaks (some '\n') [] => [' ']
  | .breaks (some '\n') more => more
  | .breaks (some c) more => more ++ [c]

end Gap

/-- A scalar that has been read, and where the text goes on. -/
structure Scanned where
  text : String
  place : Place
  rest : List Char
  /-- The text goes on behind a line break. -/
  behindBreak : Bool := false

/-! ### Plain scalars -/

/-- Where plain scalars may reach: not into lines with less indentation, and in a flow collection
not over its indicators. -/
structure Surroundings where
  inFlow : Bool
  indent : Nat

/-- The characters that end a plain scalar of a flow collection. -/
def isFlowIndicator (c : Char) : Bool :=
  c = ',' || c = '[' || c = ']' || c = '{' || c = '}'

/-- A colon that ends a word is an indicator. -/
def isColon : List Char → Bool
  | ':' :: rest => endsWord rest
  | _ => false

/-- A colon before an indicator, which is an error in a flow collection. -/
def isBadColon : List Char → Bool
  | ':' :: c :: _ => isFlowIndicator c || c = '?'
  | _ => false

/-- A word goes on, or a new one starts, with this character. -/
def endsPlain (around : Surroundings) (gap : Gap) (place : Place) (cs : List Char) : Bool :=
  (gap.hasBreak && !around.inFlow && place.column < around.indent) ||
    (place.column = 0 && startsWithMarker cs) || (!gap.isNone && cs.head? = some '#')

/-- Read a plain scalar. Text that has been read is kept with its last character first. -/
def plainFrom (around : Surroundings) (done : List Char) (gap : Gap) (place : Place) :
    List Char → Except Fault Scanned
  | [] => .ok ⟨String.ofList done.reverse, place, [], gap.hasBreak⟩
  | c :: rest =>
    if isBlank c || isBreak c then
      if gap.hasBreak && place.column < around.indent && c = '\t' then .error .tabIndentation
      else plainFrom around done (gap.push c) (place.after c) rest
    else if endsPlain around gap place (c :: rest) then
      .ok ⟨String.ofList done.reverse, place, c :: rest, gap.hasBreak⟩
    else if around.inFlow && isBadColon (c :: rest) then .error .unexpectedColon
    else if isColon (c :: rest) || (around.inFlow && isFlowIndicator c) then
      .ok ⟨String.ofList done.reverse, place, c :: rest, gap.hasBreak⟩
    else plainFrom around (c :: gap.folded ++ done) .none (place.after c) rest

/-- The plain scalar at the front. -/
def plain (around : Surroundings) (place : Place) (cs : List Char) : Except Fault Scanned :=
  plainFrom around [] .none place cs

/-! ### Quoted scalars -/

/-- Read a scalar in single quotes, in which a quote is written twice. -/
def singleQuotedFrom (done : List Char) (gap : Gap) (place : Place) :
    List Char → Except Fault Scanned
  | [] => .error .unclosedQuote
  | '\'' :: '\'' :: rest =>
    singleQuotedFrom ('\'' :: gap.folded ++ done) .none ((place.after '\'').after '\'') rest
  | '\'' :: rest =>
    .ok { text := String.ofList (gap.folded ++ done).reverse, place := place.after '\'', rest }
  | c :: rest =>
    if isBlank c || isBreak c then singleQuotedFrom done (gap.push c) (place.after c) rest
    else if place.column = 0 && startsWithMarker (c :: rest) then .error .markerInQuotes
    else singleQuotedFrom (c :: gap.folded ++ done) .none (place.after c) rest

/-- What the next character of a scalar in double quotes belongs to. -/
inductive EscapeState where
  | outside
  /-- A backslash stands before it. -/
  | behindBackslash
  /-- Hexadecimal digits that are still to come, and the number that those before them write. -/
  | digits (missing : Nat) (value : Nat)

/-- The character that a letter behind a backslash stands for. -/
def escaped? (c : Char) : Option Char :=
  [('0', '\x00'), ('a', '\x07'), ('b', '\x08'), ('t', '\t'), ('\t', '\t'), ('n', '\n'),
    ('v', '\x0b'), ('f', '\x0c'), ('r', '\r'), ('e', '\x1b'), (' ', ' '), ('"', '"'), ('/', '/'),
    ('\\', '\\'), ('N', '\u0085'), ('_', '\u00a0'), ('L', '\u2028'), ('P', '\u2029')].lookup c

/-- How many hexadecimal digits follow a letter behind a backslash. -/
def escapedDigits? (c : Char) : Option Nat :=
  [('x', 2), ('u', 4), ('U', 8)].lookup c

def digitValue? (c : Char) : Option Nat :=
  let n := c.toNat
  if 0x30 ≤ n && n ≤ 0x39 then some (n - 0x30)
  else if 0x41 ≤ n && n ≤ 0x46 then some (n - 0x37)
  else if 0x61 ≤ n && n ≤ 0x66 then some (n - 0x57)
  else none

/-- The character with a code point, if there is one. -/
def scalarValue? (n : Nat) : Option Char :=
  if h : n.isValidChar then some (.ofNatAux n h) else none

/-- Read a scalar in double quotes. -/
def doubleQuotedFrom (escape : EscapeState) (done : List Char) (gap : Gap) (place : Place) :
    List Char → Except Fault Scanned
  | [] => .error .unclosedQuote
  | c :: rest =>
    match escape with
    | .outside =>
      if c = '"' then
        .ok { text := String.ofList (gap.folded ++ done).reverse, place := place.after c, rest }
      else if isBlank c || isBreak c then
        doubleQuotedFrom .outside done (gap.push c) (place.after c) rest
      else if place.column = 0 && startsWithMarker (c :: rest) then .error .markerInQuotes
      else if c = '\\' then
        doubleQuotedFrom .behindBackslash (gap.folded ++ done) .none (place.after c) rest
      else doubleQuotedFrom .outside (c :: gap.folded ++ done) .none (place.after c) rest
    | .behindBackslash =>
      if isBreak c then
        doubleQuotedFrom .outside done (.breaks .none []) (place.after c) rest
      else
        match escaped? c, escapedDigits? c with
        | some e, _ => doubleQuotedFrom .outside (e :: done) .none (place.after c) rest
        | none, some missing =>
          doubleQuotedFrom (.digits missing 0) done .none (place.after c) rest
        | none, none => .error .invalidEscape
    | .digits missing value =>
      match digitValue? c with
      | none => .error .invalidEscape
      | some digit =>
        let value := 16 * value + digit
        if missing ≤ 1 then
          match scalarValue? value with
          | some e => doubleQuotedFrom .outside (e :: done) .none (place.after c) rest
          | none => .error .invalidEscape
        else doubleQuotedFrom (.digits (missing - 1) value) done .none (place.after c) rest

/-- The scalar whose opening quote has been read. -/
def quoted (quote : Char) (place : Place) (cs : List Char) : Except Fault Scanned :=
  if quote = '"' then doubleQuotedFrom .outside [] .none place cs
  else singleQuotedFrom [] .none place cs

end Yaml

end EntitySync

import EntitySync.Yaml.Scalar

/-!
# Tokens of configuration files

A text becomes a list of tokens in which indentation is made explicit: a block collection starts and
ends with a token of its own. That a scalar or a flow collection is a key only shows at the colon
behind it, so the place of each candidate is kept until then.
-/

namespace EntitySync

namespace Yaml

/-- A token. -/
inductive Token where
  | documentStart
  | documentEnd
  | blockSequence
  | blockMapping
  | blockEnd
  | flowSequence
  | flowSequenceEnd
  | flowMapping
  | flowMappingEnd
  | blockEntry
  | flowEntry
  | key
  | value
  | scalar (s : Scalar)
deriving DecidableEq

/-! ### Scanning state -/

/-- A token that is a key if a colon follows it. -/
structure KeyCandidate where
  /-- Tokens before it. -/
  index : Nat
  place : Place
  /-- It starts at the column of the keys, where nothing but a key can stand. -/
  isRequired : Bool

/-- A text that has been cut into tokens up to a place. -/
structure Scanner where
  rest : List Char
  place : Place := {}
  /-- Tokens so far, the last one first. -/
  tokens : List Token := []
  /-- Columns of the open block collections, the innermost first. -/
  columns : List Nat := []
  candidate : Option KeyCandidate := none
  /-- The candidates around each open flow collection, the innermost first. -/
  outer : List (Option KeyCandidate) := []
  /-- A key may start here. -/
  keyAllowed : Bool := true

namespace Scanner

def inFlow (s : Scanner) : Bool := !s.outer.isEmpty

def emit (token : Token) (s : Scanner) : Scanner := { s with tokens := token :: s.tokens }

/-- Put a token before those from the given index on. -/
def emitAt (index : Nat) (token : Token) (s : Scanner) : Scanner :=
  { s with tokens := s.tokens.insertIdx (s.tokens.length - index) token }

/-- Take characters of the line. -/
def advance (n : Nat) (s : Scanner) : Scanner :=
  { s with rest := s.rest.drop n, place := (s.rest.take n).foldl Place.after s.place }

/-! ### Block collections -/

/-- Open a block collection at a column that lies deeper than the current one. -/
def openBlock (column index : Nat) (token : Token) (s : Scanner) : Scanner :=
  if s.inFlow || s.columns.head?.any (column ≤ ·) then s
  else { s.emitAt index token with columns := column :: s.columns }

/-- Close the block collections that fail the condition on their column. -/
def closeBlocks (isOpen : Nat → Bool) (s : Scanner) : Scanner :=
  if s.inFlow then s
  else
    let closed := s.columns.takeWhile fun column => !isOpen column
    { s with
      tokens := List.replicate closed.length .blockEnd ++ s.tokens
      columns := s.columns.drop closed.length }

/-! ### Candidates for keys -/

def isMissingKey (candidate : Option KeyCandidate) : Bool :=
  candidate.any KeyCandidate.isRequired

/-- Forget the candidate, which must not be a key that has to be there. -/
def dropCandidate (s : Scanner) : Except Fault Scanner :=
  if isMissingKey s.candidate then .error .missingColon else .ok { s with candidate := none }

/-- Note that a key may start here. -/
def addCandidate (s : Scanner) : Except Fault Scanner :=
  if s.keyAllowed then do
    let s ← s.dropCandidate
    let isRequired := !s.inFlow && s.columns.head? = some s.place.column
    return { s with candidate := some ⟨s.tokens.length, s.place, isRequired⟩ }
  else .ok s

/-- Longest distance in bytes from the start of a key to its colon. -/
def longestKey : Nat := 1024

/-- A key stands on one line and is not too long. -/
def isExpired (s : Scanner) (candidate : KeyCandidate) : Bool :=
  candidate.place.line < s.place.line || candidate.place.offset + longestKey < s.place.offset

def expire (s : Scanner) (candidate : Option KeyCandidate) : Except Fault (Option KeyCandidate) :=
  match candidate with
  | some c =>
    if s.isExpired c then if c.isRequired then .error .missingColon else .ok none
    else .ok (some c)
  | none => .ok none

/-- Forget the candidates that can be keys no more. -/
def expireCandidates (s : Scanner) : Except Fault Scanner := do
  return { s with candidate := ← s.expire s.candidate, outer := ← s.outer.mapM s.expire }

/-! ### White space -/

/-- Skip white space and comments, and a byte order mark at the start of a line. A key may start on
a new line of a block. -/
def skipFrom (inFlow inComment keyAllowed : Bool) (place : Place) :
    List Char → Bool × Place × List Char
  | [] => (keyAllowed, place, [])
  | c :: rest =>
    if isBreak c then skipFrom inFlow false (keyAllowed || !inFlow) (place.after c) rest
    else if inComment || c = ' ' || (c = '\t' && (inFlow || !keyAllowed)) then
      skipFrom inFlow inComment keyAllowed (place.after c) rest
    else if c = '#' then skipFrom inFlow true keyAllowed (place.after c) rest
    else if c = '\ufeff' && place.column = 0 then
      skipFrom inFlow inComment keyAllowed (place.after c) rest
    else (keyAllowed, place, c :: rest)

def skip (s : Scanner) : Scanner :=
  let (keyAllowed, place, rest) := skipFrom s.inFlow false s.keyAllowed s.place s.rest
  { s with keyAllowed, place, rest }

/-! ### Indicators -/

def documentMarker (token : Token) (s : Scanner) : Except Fault Scanner := do
  let s ← (s.closeBlocks fun _ => false).dropCandidate
  return { (s.emit token).advance 3 with keyAllowed := false }

/-- The start of a flow collection, which may be a key itself. -/
def openFlow (token : Token) (s : Scanner) : Except Fault Scanner := do
  let s ← s.addCandidate
  let s := (s.emit token).advance 1
  return { s with candidate := none, outer := s.candidate :: s.outer, keyAllowed := true }

def closeFlow (token : Token) (s : Scanner) : Except Fault Scanner := do
  let s ← s.dropCandidate
  let s := (s.emit token).advance 1
  match s.outer with
  | [] => return { s with keyAllowed := false }
  | candidate :: outer => return { s with candidate, outer, keyAllowed := false }

def flowEntry (s : Scanner) : Except Fault Scanner := do
  let s ← s.dropCandidate
  return { (s.emit .flowEntry).advance 1 with keyAllowed := true }

def blockEntry (s : Scanner) : Except Fault Scanner := do
  if !s.inFlow && !s.keyAllowed then throw .entryNotAllowed
  let s ← (s.openBlock s.place.column s.tokens.length .blockSequence).dropCandidate
  return { (s.emit .blockEntry).advance 1 with keyAllowed := true }

/-- A question mark before a key. -/
def explicitKey (s : Scanner) : Except Fault Scanner := do
  if !s.inFlow && !s.keyAllowed then throw .keyNotAllowed
  let s ← (s.openBlock s.place.column s.tokens.length .blockMapping).dropCandidate
  return { (s.emit .key).advance 1 with keyAllowed := !s.inFlow }

/-- A colon: what the candidate stands for is a key. -/
def value (s : Scanner) : Except Fault Scanner :=
  match s.candidate with
  | some c =>
    let s := (s.emitAt c.index .key).openBlock c.place.column c.index .blockMapping
    .ok { (s.emit .value).advance 1 with candidate := none, keyAllowed := false }
  | none =>
    if !s.inFlow && !s.keyAllowed then .error .valueNotAllowed
    else
      let s := s.openBlock s.place.column s.tokens.length .blockMapping
      .ok { (s.emit .value).advance 1 with keyAllowed := !s.inFlow }

/-! ### Scalars -/

def emitScalar (isPlain : Bool) (scanned : Scanned) (s : Scanner) : Scanner :=
  { s.emit (.scalar ⟨scanned.text, isPlain⟩) with
    place := scanned.place
    rest := scanned.rest
    keyAllowed := scanned.behindBreak }

def quotedScalar (quote : Char) (s : Scanner) : Except Fault Scanner := do
  let s ← s.addCandidate
  return s.emitScalar false (← quoted quote (s.place.after quote) (s.rest.drop 1))

def plainScalar (s : Scanner) : Except Fault Scanner := do
  let s ← s.addCandidate
  let indent := (s.columns.head?.map (· + 1)).getD 0
  return s.emitScalar true (← plain ⟨s.inFlow, indent⟩ s.place s.rest)

/-! ### Whole texts -/

/-- The characters that start something that is not read. -/
def isUnsupported (c : Char) : Bool :=
  c = '*' || c = '&' || c = '!' || c = '|' || c = '>' || c = '%'

/-- Take a token, which starts with the given character. -/
def token (c : Char) (s : Scanner) : Except Fault Scanner :=
  let endsBehind := endsWord (s.rest.drop 1)
  if s.place.column = 0 && startsWithMarker s.rest then
    s.documentMarker (if c = '-' then .documentStart else .documentEnd)
  else if c = '[' then s.openFlow .flowSequence
  else if c = '{' then s.openFlow .flowMapping
  else if c = ']' then s.closeFlow .flowSequenceEnd
  else if c = '}' then s.closeFlow .flowMappingEnd
  else if c = ',' then s.flowEntry
  else if c = '-' && endsBehind then s.blockEntry
  else if c = '?' && (s.inFlow || endsBehind) then s.explicitKey
  else if c = ':' && (s.inFlow || endsBehind) then s.value
  else if c = '\'' || c = '"' then s.quotedScalar c
  else if isUnsupported c then .error (.notSupported c)
  else if isBlank c || c = '@' || c = '\x60' then .error (.unexpectedCharacter c)
  else s.plainScalar

/-- Take at most so many tokens, up to the end of the text. -/
def run : Nat → Scanner → Except Fault Scanner
  | 0, s => .ok s
  | steps + 1, s => do
    let s ← s.skip.expireCandidates
    match s.rest with
    | [] => (s.closeBlocks fun _ => false).dropCandidate
    | c :: _ => run steps (← (s.closeBlocks (· ≤ s.place.column)).token c)

end Scanner

/-! ### Tokens of a text -/

def isControl (c : Char) : Bool :=
  let n := c.toNat
  !(n = 0x09 || n = 0x0A || n = 0x0D || (0x20 ≤ n && n ≤ 0x7E) || n = 0x85 ||
    (0xA0 ≤ n && n ≤ 0xFFFD) || 0x10000 ≤ n)

/-- The line breaks that are read as a line feed. -/
def normalBreaks : List Char → List Char
  | '\r' :: '\n' :: rest => '\n' :: normalBreaks rest
  | c :: rest => (if c = '\r' || c = '\u0085' then '\n' else c) :: normalBreaks rest
  | [] => []

/-- The tokens of a text. Every token takes a character. -/
def tokens (text : String) : Except Fault (List Token) :=
  let cs := normalBreaks text.toList
  if cs.any isControl then .error .controlCharacter
  else (Scanner.run (cs.length + 1) { rest := cs }).map fun s => s.tokens.reverse

end Yaml

end EntitySync

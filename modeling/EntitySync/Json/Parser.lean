import EntitySync.Json
import EntitySync.Json.Literal
import EntitySync.Json.Numeral

/-!
# Parsing JSON

A value may nest 127 arrays and objects deep. Members are inserted in the order in which they
stand, so that the keys of an object ascend and the last value of a repeated key stays.
-/

namespace EntitySync

namespace Json

open Reader Utf8

/-! ### Readers of values -/

def listBracket : Bracket := ⟨byte ']', .eofInList, .expectedCommaOrListEnd⟩

def objectBracket : Bracket := ⟨byte '}', .eofInObject, .expectedCommaOrObjectEnd⟩

/-- The key of a member: a string literal. -/
def keyReader : Reader String where
  run s :=
    match s with
    | [] => .error ⟨.keyNotString, 0⟩
    | b :: r =>
      if b = byte '"' then Literal.reader.run r else .error (.before .keyNotString r)
  consumes := by
    intro s key rest h
    split at h
    · simp at h
    · split at h
      · exact Nat.lt_succ_of_lt (Literal.reader.consumes h)
      · simp at h

def colonReader : Reader Unit where
  run s :=
    match s with
    | [] => .error ⟨.eofInObject, 0⟩
    | b :: r => if b = byte ':' then .ok ((), r) else .error (.before .expectedColon r)
  consumes := by
    intro s _ rest h
    split at h
    · simp at h
    · split at h
      · simp only [Except.ok.injEq, Prod.mk.injEq] at h
        simp [← h.2]
      · simp at h

/-- A key, a colon and a value. -/
def memberReader (value : Reader Json) : Reader (String × Json) :=
  keyReader.bind fun key =>
    colonReader.afterBlanks.bind fun _ => value.map fun v => (key, v)

/-- What an opening bracket starts, read with the reader of nested values. -/
def contents (nested : Reader Json) (opening : UInt8) : Reader Json :=
  if opening = byte '[' then (bracketed listBracket nested).map .array
  else (bracketed objectBracket (memberReader nested)).map fun ms => .object (Entries.ofList ms)

/-- A value at the front; `nested` reads the values inside it, unless it may hold none. -/
def valueAtFront (nested : Option (Reader Json)) (s : List UInt8) :
    Except Fault (Json × List UInt8) :=
  match s with
  | [] => .error ⟨.eofInValue, 0⟩
  | b :: r =>
    if b = byte 'n' then (word [byte 'u', byte 'l', byte 'l'] r).map (.null, ·)
    else if b = byte 't' then (word [byte 'r', byte 'u', byte 'e'] r).map (.bool true, ·)
    else if b = byte 'f' then
      (word [byte 'a', byte 'l', byte 's', byte 'e'] r).map (.bool false, ·)
    else if b = byte '-' || Numeral.isDigit b then (Numeral.reader.map .number).run (b :: r)
    else if b = byte '"' then (Literal.reader.map .string).run r
    else if b = byte '[' || b = byte '{' then
      match nested with
      | none => .error (.before .recursionLimit r)
      | some nested => (contents nested b).run r
    else .error (.before .expectedValue r)

theorem length_lt_of_word_map {bytes s rest : List UInt8} {v w : Json}
    (h : (word bytes s).map (v, ·) = .ok (w, rest)) : rest.length ≤ s.length := by
  cases hw : word bytes s with
  | error fault => simp [hw, Except.map] at h
  | ok r =>
    simp only [hw, Except.map, Except.ok.injEq, Prod.mk.injEq] at h
    exact h.2 ▸ length_le_of_word hw

theorem length_lt_of_valueAtFront {nested : Option (Reader Json)} {s rest : List UInt8} {v : Json}
    (h : valueAtFront nested s = .ok (v, rest)) : rest.length < s.length := by
  unfold valueAtFront at h
  split at h
  · simp at h
  next b r =>
    repeat' split at h
    · exact Nat.lt_succ_of_le (length_lt_of_word_map h)
    · exact Nat.lt_succ_of_le (length_lt_of_word_map h)
    · exact Nat.lt_succ_of_le (length_lt_of_word_map h)
    · exact (Numeral.reader.map _).consumes h
    · exact Nat.lt_succ_of_lt ((Literal.reader.map _).consumes h)
    · simp at h
    · exact Nat.lt_succ_of_lt ((contents _ b).consumes h)
    · simp at h

/-- Reader of a value after white space. -/
def valueWith (nested : Option (Reader Json)) : Reader Json :=
  afterBlanks ⟨valueAtFront nested, length_lt_of_valueAtFront⟩

/-- Reader of a value that nests at most so many levels. -/
def valueReader : Nat → Reader Json
  | 0 => valueWith none
  | levels + 1 => valueWith (some (valueReader levels))

def deepest : Nat := 127

/-! ### Documents -/

/-- A syntax error and its place: lines count from one, columns in bytes. -/
structure ParseError where
  error : SyntaxError
  line : Nat
  column : Nat
deriving DecidableEq

def ParseError.message (e : ParseError) : String :=
  s!"{e.error.message} at line {e.line} column {e.column}"

/-- The place of a fault in the input in which it arose. -/
def ParseError.ofFault (input : List UInt8) (fault : Fault) : ParseError :=
  let read := input.take (input.length - fault.behind)
  { error := fault.error
    line := 1 + read.count (byte '\n')
    column := (read.reverse.takeWhile (· ≠ byte '\n')).length }

/-- A value and nothing but white space around it. -/
def readDocument (s : List UInt8) : Except Fault Json :=
  match (valueReader deepest).run s with
  | .error fault => .error fault
  | .ok (value, rest) =>
    match skipBlanks rest with
    | [] => .ok value
    | _ :: r => .error (.before .trailingCharacters r)

/-- The value that the bytes write. -/
def parseBytes (input : List UInt8) : Except ParseError Json :=
  (readDocument input).mapError (.ofFault input)

/-- The value that a text writes. -/
def parse (text : String) : Except ParseError Json :=
  parseBytes (Utf8.encode text)

end Json

end EntitySync

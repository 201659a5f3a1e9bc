import EntitySync.Http
import EntitySync.Text.Blank

/-!
# The form of messages on the wire

A message is written as a header section and a body, on a connection that is closed behind the
response. A response is read when it is complete: its body has the length that is announced, or
comes in chunks, or reaches to the end.
-/

namespace EntitySync

namespace Http

/-! ### Messages -/

def lineEnd : String := "\r\n"

namespace Message

def headerFields (m : Message) : List (String × String) :=
  [("Host", String.ofList m.url.place), ("Authorization", m.authorization),
    ("Content-Type", m.contentType), (requestedWithHeader, m.requestedWith),
    ("Content-Length", s!"{m.body.utf8ByteSize}"), ("Connection", "close")]

/-- What is asked for: the path and the query. -/
def target (m : Message) : String :=
  String.ofList (m.url.target.takeWhile (· ≠ '#'))

def text (m : Message) : String :=
  let fields := m.headerFields.map fun (name, value) => s!"{name}: {value}{lineEnd}"
  s!"{m.method} {m.target} HTTP/1.1{lineEnd}" ++ String.join fields ++ lineEnd ++ m.body

end Message

/-! ### Responses -/

/-- The header section and what stands behind the empty line. -/
def splitHead : List UInt8 → Option (List UInt8 × List UInt8)
  | 13 :: 10 :: 13 :: 10 :: body => some ([], body)
  | b :: rest => (splitHead rest).map fun (head, body) => (b :: head, body)
  | [] => none

/-- The characters of a header section, which is ASCII. -/
def headLines (head : List UInt8) : List (List Char) :=
  let cs := (head.filter (· ≠ 13)).map fun b => Char.ofNat b.toNat
  cs.splitOn '\n'

/-- The status in the first line of a response. -/
def status? (line : List Char) : Option Nat :=
  Text.natural? 10 (((line.dropWhile (· ≠ ' ')).drop 1).takeWhile (· ≠ ' '))

/-- The value of a header field, whose name is given in lowercase. -/
def field? (lines : List (List Char)) (name : String) : Option String :=
  let isNamed (line : List Char) : Bool :=
    (line.takeWhile (· ≠ ':')).map Char.toLower = name.toList
  (lines.find? isNamed).map fun line =>
    String.ofList (Text.trim Text.isBlank ((line.dropWhile (· ≠ ':')).drop 1))

/-- The contents of at most so many chunks. -/
def chunks : Nat → List UInt8 → List UInt8
  | 0, _ => []
  | count + 1, bytes =>
    let line := bytes.takeWhile (· ≠ 10)
    let isSizeChar (c : Char) : Bool := (Text.digitValue? 16 c).isSome
    let digits := (line.map fun b => Char.ofNat b.toNat).takeWhile isSizeChar
    let size := (Text.natural? 16 digits).getD 0
    let rest := bytes.drop (line.length + 1)
    if size = 0 then [] else rest.take size ++ chunks count (rest.drop (size + 2))

/-- The body of a response with the given header fields. -/
def bodyOf (lines : List (List Char)) (bytes : List UInt8) : List UInt8 :=
  if (field? lines "transfer-encoding").any (·.toLower = "chunked") then chunks bytes.length bytes
  else
    match (field? lines "content-length").bind fun n => Text.natural? 10 n.toList with
    | some length => bytes.take length
    | none => bytes

/-- What the bytes of a connection mean. -/
def Outcome.ofBytes (bytes : List UInt8) : Outcome :=
  match splitHead bytes with
  | none => .unreachable
  | some (head, rest) =>
    let lines := headLines head
    match lines.head?.bind status? with
    | some status => .response status (bodyOf lines.tail rest)
    | none => .unreachable

end Http

end EntitySync

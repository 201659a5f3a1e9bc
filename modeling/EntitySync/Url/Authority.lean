import EntitySync.Url.HostName

/-!
# Authorities of URLs

The authority of a URL names a host and perhaps a port, and may hold the name and the password of a
user. Schemes differ in whether they need a host and in the port that they use by default.
-/

namespace EntitySync

/-- What a scheme says about the rest of a URL. -/
inductive SchemeKind where
  /-- The URL names a host of the network, with this port by default. -/
  | network (defaultPort : Nat)
  /-- The URL names a file. -/
  | file
  | other
deriving DecidableEq

namespace SchemeKind

def defaultPorts : List (String × Nat) :=
  [("http", 80), ("https", 443), ("ftp", 21), ("ws", 80), ("wss", 443)]

def ofScheme (scheme : String) : SchemeKind :=
  match defaultPorts.lookup scheme with
  | some port => .network port
  | none => if scheme = "file" then .file else .other

def defaultPort? : SchemeKind → Option Nat
  | .network port => some port
  | _ => none

/-- A backslash counts as a slash. -/
def isLenient (kind : SchemeKind) : Bool := kind ≠ .other

end SchemeKind

/-- The authority of a URL in normal form. -/
structure Authority where
  user : List Char := []
  password : Option (List Char) := none
  /-- Empty if no host is named. -/
  host : List Char
  /-- The port, unless it is the default of the scheme. -/
  port : Option Nat := none
deriving DecidableEq

namespace Authority

/-! ### Reading -/

/-- Characters that stand for themselves in no name or password. -/
def encodedMarks : String := " \"#<>?`\x7b\x7d/:;=@[\\]^|"

/-- The text behind the last of a mark, if it occurs. -/
def behindLast (mark : Char) (cs : List Char) : List Char :=
  (cs.reverse.takeWhile (· ≠ mark)).reverse

/-- The host and what is behind it. A colon in brackets belongs to the host. -/
def splitHost (place : List Char) : List Char × List Char :=
  match place with
  | '[' :: _ =>
    let inside := place.takeWhile (· ≠ ']')
    (inside ++ (place.drop inside.length).take 1, place.drop (inside.length + 1))
  | _ => (place.takeWhile (· ≠ ':'), place.dropWhile (· ≠ ':'))

/-- The port behind a host, and a path that follows it without a slash. -/
def port? (kind : SchemeKind) : List Char → Option (Option Nat × List Char)
  | [] => some (none, [])
  | ':' :: text => do
    let digits := text.takeWhile Char.isDigit
    let rest := text.drop digits.length
    if rest.head?.any (· ≠ '\\') then none
    else if digits.isEmpty then return (none, rest)
    else
      let port ← Text.natural? 10 digits
      if port ≤ 65535 then
        return (if kind.defaultPort? = some port then none else some port, rest)
      else none
  | _ => none

def host? (kind : SchemeKind) (text : List Char) : Option (List Char) :=
  if kind.isLenient then HostName.normal? text else HostName.plain? text

/-- An authority, and a path that follows it without a slash. The last argument says whether the URL
goes on behind it. -/
def ofText? (kind : SchemeKind) (text : List Char) (goesOn : Bool) :
    Option (Authority × List Char) := do
  let place := behindLast '@' text
  let info := text.take (text.length - place.length - 1)
  let user := Percent.encodeBut encodedMarks (info.takeWhile (· ≠ ':'))
  let password := Percent.encodeBut encodedMarks ((info.dropWhile (· ≠ ':')).drop 1)
  let hasUser := !user.isEmpty || !password.isEmpty
  let (hostText, behind) := splitHost place
  let host ← host? kind hostText
  let (port, rest) ← port? kind behind
  let mustNameHost := kind.isLenient || hasUser || !behind.isEmpty ||
    (place.length ≠ text.length && info.isEmpty && goesOn)
  if host.isEmpty && mustNameHost then none
  else
    let password := if password.isEmpty then none else some password
    return ({ user, password, host, port }, rest)

/-! ### Users -/

/-- The characters of an encoded text, if they are a text. -/
def decoded? (encoded : List Char) : Option String :=
  Utf8.decode? (Percent.decodeLoosely encoded)

/-- The authority without its user. A name that is no text stays, and so does a password that is
none behind an empty name. -/
def withoutUser (a : Authority) : Authority :=
  if (decoded? a.user).isSome && (!a.user.isEmpty || (a.password.bind decoded?).isSome) then
    { a with user := [], password := none }
  else a

/-! ### Writing -/

/-- The host, and the port behind a colon. -/
def place (a : Authority) : List Char :=
  a.host ++ (a.port.map fun n => ':' :: Nat.toDigits 10 n).getD []

def userText (a : Authority) : List Char :=
  a.user ++ (a.password.map (':' :: ·)).getD []

def text (a : Authority) : List Char :=
  if a.userText.isEmpty then a.place else a.userText ++ ['@'] ++ a.place

end Authority

end EntitySync

import EntitySync.Text.Blank
import EntitySync.Url.Authority
import EntitySync.Url.Path

/-!
# URLs

Before a request is sent its URL is brought into a normal form: scheme and host are in lowercase,
the default port of the scheme is left out, the segments `.` and `..` of the path are resolved, and
characters that no URL holds are percent encoded.
-/

namespace EntitySync

/-- A URL in normal form. -/
structure Url where
  scheme : String
  authority : Option Authority
  path : UrlPath
  /-- The query and the fragment with the marks in front of them. -/
  tail : List Char
deriving DecidableEq

namespace Url

/-! ### Parts of a text -/

/-- White space and controls around a URL do not belong to it. -/
def isPadding (c : Char) : Bool := c.toNat ≤ 0x20

/-- Tabs and line breaks are left out. -/
def isSkipped (c : Char) : Bool := c = '\t' || c = '\n' || c = '\r'

/-- The scheme in front of a colon. -/
def scheme? (cs : List Char) : Option String :=
  let scheme := cs.takeWhile (· ≠ ':')
  let isMark (c : Char) : Bool := c = '+' || c = '-' || c = '.'
  let isScheme := (scheme.head?.map Char.isAlpha).getD false &&
    scheme.all (fun c => c.isAlphanum || isMark c) && scheme.length < cs.length
  if isScheme then some (String.ofList (scheme.map Char.toLower)) else none

/-- What stands before the query and the fragment. -/
def frontOf (cs : List Char) : List Char := cs.takeWhile fun c => c ≠ '?' && c ≠ '#'

/-- The query and the fragment, encoded. -/
def tailOf (kind : SchemeKind) (cs : List Char) : List Char :=
  let tail := cs.drop (frontOf cs).length
  let query := tail.takeWhile (· ≠ '#')
  Percent.encodeBut (if kind.isLenient then " \"<>'" else " \"<>") query ++
    (tail.drop query.length).take 1 ++ Percent.encodeBut " \"<>`" (tail.drop (query.length + 1))

/-- A backslash that counts as a slash. -/
def plainSlash (c : Char) : Char := if c = '\\' then '/' else c

/-! ### Schemes -/

/-- The authority and the path of a URL, behind the slashes in front of them. -/
def ofPlace? (kind : SchemeKind) (front : List Char) (hasTail : Bool) :
    Option (Option Authority × UrlPath) := do
  let text := front.takeWhile (· ≠ '/')
  let (authority, path) ← Authority.ofText? kind text (text.length < front.length || hasTail)
  let path := path ++ front.drop text.length
  let segments :=
    if kind.isLenient || path.head? = some '/' then UrlPath.segmentsOf (path.drop 1)
    else if path.isEmpty then []
    else UrlPath.segmentsOf path
  return (some authority, .segments segments)

/-- The host of a file and its path, behind two slashes. The letter of a drive is no host, and the
machine itself is not named. -/
def fileHost? (front : List Char) : Option (List Char × List Char) := do
  let text := front.takeWhile (· ≠ '/')
  if text.isEmpty || UrlPath.isDriveLetter text then return ([], front)
  else
    let host ← HostName.normal? text
    if host = "localhost".toList then return ([], front.drop text.length)
    else return (host, front.drop (text.length + 1))

/-- A file on a drive has no host. -/
def ofFile? (front : List Char) : Option (Option Authority × UrlPath) := do
  let (host, path) ← match front with
    | '/' :: '/' :: front => fileHost? front
    | '/' :: path => some ([], path)
    | path => some ([], path)
  let segments := UrlPath.normalDrive (UrlPath.segmentsOf path)
  let host := if UrlPath.startsWithDrive segments then [] else host
  return (some { host }, .segments (UrlPath.withoutEmptyFront segments))

/-- A URL of another scheme has an authority behind two slashes, or none. -/
def ofOther? (front : List Char) (hasTail : Bool) : Option (Option Authority × UrlPath) :=
  match front with
  | '/' :: '/' :: front => ofPlace? .other front hasTail
  | '/' :: path => some (none, .segments (UrlPath.segmentsOf path))
  | text => some (none, .undivided (Percent.encodeBut "" text))

/-! ### Reading -/

/-- Read a URL. -/
def parse (text : String) : Option Url := do
  let cs := (Text.trim isPadding text.toList).filter fun c => !isSkipped c
  let scheme ← scheme? cs
  let kind := SchemeKind.ofScheme scheme
  let cs := cs.drop (scheme.length + 1)
  let front := frontOf cs
  let hasTail := front.length < cs.length
  let (authority, path) ← match kind with
    | .network _ => ofPlace? kind ((front.map plainSlash).dropWhile (· = '/')) hasTail
    | .file => ofFile? (front.map plainSlash)
    | .other => ofOther? front hasTail
  return { scheme, authority, path, tail := tailOf kind cs }

/-! ### Parts -/

def host (u : Url) : List Char := (u.authority.map Authority.host).getD []

/-- The host and the port. -/
def place (u : Url) : List Char := (u.authority.map Authority.place).getD []

def port? (u : Url) : Option Nat := u.authority.bind Authority.port

def withoutUser (u : Url) : Url := { u with authority := u.authority.map Authority.withoutUser }

/-! ### Writing -/

/-- Two slashes in front of a path would be read as the start of an authority. -/
def pathText (u : Url) : List Char :=
  match u.authority, u.path with
  | none, .segments ([] :: _ :: _) => ['/', '.'] ++ u.path.text
  | _, _ => u.path.text

/-- The path, the query and the fragment. -/
def target (u : Url) : List Char := u.pathText ++ u.tail

def text (u : Url) : String :=
  let authority := (u.authority.map fun a => ['/', '/'] ++ a.text).getD []
  u.scheme ++ ":" ++ String.ofList (authority ++ u.target)

end Url

end EntitySync

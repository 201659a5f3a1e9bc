import EntitySync.Json.Printer
import EntitySync.Transport
import EntitySync.Url

/-!
# Requests over HTTP

A request is posted as JSON. Any status may answer it; only the body counts, which has to be a JSON
value.
-/

namespace EntitySync

namespace Http

/-- The header that marks a request as made by a program and not by a page. -/
def requestedWithHeader : String := "X-Requested-With"

/-- A request as it is written on the wire. -/
structure Message where
  method : String := "POST"
  url : Url
  authorization : String
  contentType : String := "application/json"
  requestedWith : String := "XMLHttpRequest"
  body : String
deriving DecidableEq

/-- What the wire gives back. -/
inductive Outcome where
  | unreachable
  | response (status : Nat) (body : List UInt8)

/-- A header value holds no control characters but the tab. -/
def isHeaderValue (value : String) : Bool :=
  value.toList.all fun c => (0x20 ≤ c.toNat && c.toNat ≠ 0x7F) || c = '\t'

/-- Value of the authorization header: empty without a credential. -/
def authorization (credential : Option Credential) : String :=
  (credential.map Credential.header).getD ""

/-- The schemes under which requests are sent. -/
def schemes : List String := ["http", "https"]

/-- Characters that no host holds on the wire. -/
def unfitMarks : String := "\"\x60\x7b\x7d"

/-- Greatest length of a URL in bytes. -/
def longestUrl : Nat := 65534

/-- A URL under which requests are sent. -/
def isFit (url : Url) : Bool :=
  schemes.contains url.scheme && !url.host.any unfitMarks.toList.contains &&
    url.text.utf8ByteSize ≤ longestUrl

/-- The message that carries a request, if there is one. -/
def message (request : Request) : Except SendFailure Message :=
  match Url.parse request.url with
  | none => .error .notWritable
  | some url =>
    let authorization := authorization request.credential
    if url.host.isEmpty then .error (.unfit url.text)
    else if !isHeaderValue authorization then .error .notWritable
    else if isFit url.withoutUser then
      .ok { url := url.withoutUser, authorization, body := request.body.compact }
    else .error (.unfit url.withoutUser.text)

/-- The reply that an outcome means for a request that was sent to an address. -/
def reply (request : Request) (address : Url) : Outcome → Reply
  | .unreachable => .error (.request request.url (.notSent address.text))
  | .response status body =>
    (Json.parseBytes body).mapError fun e => .notJson request.url status (.syntaxError e)

/-- Send a request over a wire. -/
def post {m : Type → Type} [Monad m] (wire : Message → m Outcome) (request : Request) :
    m Reply :=
  match message request with
  | .error failure => return .error (.request request.url failure)
  | .ok message => return reply request message.url (← wire message)

end Http

end EntitySync

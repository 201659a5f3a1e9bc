import EntitySync.CommandLine.Run
import EntitySync.Http.Wire
import Std.Async.DNS
import Std.Async.TCP

/-!
# The program

The host of the command line is the process: its environment, files, streams, and connections.
-/

namespace EntitySync

namespace Program

open Std Async

/-! ### Files and streams -/

/-- A directory stands where a file is expected, or the other way round. -/
def typeFault (code : UInt32) : ReadFault :=
  if code = 21 then .isDirectory else .notDirectory

def readFault : IO.Error → ReadFault
  | .inappropriateType _ code _ => typeFault code
  | .permissionDenied .. => .accessDenied
  | .invalidArgument _ code _ => if code = 36 then .nameTooLong else .notFound
  | _ => .notFound

def fileText (path : String) : IO FileText := do
  try
    return .ofBytes (← IO.FS.readBinFile path).data.toList
  catch e => return .error (readFault e)

def writeTo (stream : IO IO.FS.Stream) (text : String) : IO Unit := do
  let stream ← stream
  stream.putStr text
  stream.flush

/-! ### Connections -/

/-- What is received until the other side closes the connection. -/
partial def receiveAll (client : TCP.Socket.Client) (received : ByteArray) : Async ByteArray := do
  match ← client.recv? 65536 with
  | some bytes => receiveAll client (received ++ bytes)
  | none => return received

def socketAddress (address : Net.IPAddr) (port : UInt16) : Net.SocketAddress :=
  match address with
  | .v4 address => .v4 ⟨address, port⟩
  | .v6 address => .v6 ⟨address, port⟩

/-- Send a message over a connection of its own and wait for the response. -/
def exchange (message : Http.Message) : Async Http.Outcome := do
  let host := String.ofList (message.url.host.filter fun c => c ≠ '[' && c ≠ ']')
  let port := message.url.port?.getD 80
  let addresses ← DNS.getAddrInfo host (toString port)
  let some address := addresses[0]? | return .unreachable
  let client ← TCP.Socket.Client.mk
  client.connect (socketAddress address port.toUInt16)
  client.send message.text.toUTF8
  return .ofBytes (← receiveAll client .empty).data.toList

/-- Only plain connections are made. -/
def wire (message : Http.Message) : IO Http.Outcome := do
  if message.url.scheme ≠ "http" then return .unreachable
  try Async.block (exchange message)
  catch _ => return .unreachable

def host : CommandLine.Host IO where
  environmentVariable? name := IO.getEnv name
  fileText := fileText
  readLine := return .ok (← (← IO.getStdin).getLine)
  write := writeTo IO.getStdout
  writeError := writeTo IO.getStderr
  wire := wire

end Program

end EntitySync

def main (words : List String) : IO UInt32 := do
  return (← EntitySync.Program.host.run words).toUInt32

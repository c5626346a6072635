import SeriesAcl.Command.Program
import SeriesAcl.Http.Wire
import Std.Async.DNS
import Std.Async.TCP

/-!
# The command line

The program at work: it reads the environment and the settings file, performs requests over the
network, and prints. What to do is decided by `Program.run`, which is a function of the responses:
it is run on those that have come so far until it asks for no further one.
-/

namespace SeriesAcl.Shell

open Std.Async Std.Net

/-- Why a file cannot be read. -/
def reason : IO.Error → String
  | .noFileOrDirectory .. => "No such file or directory (os error 2)"
  | .permissionDenied .. => "Permission denied (os error 13)"
  | .inappropriateType .. => "Is a directory (os error 21)"
  | error => toString error

/-- The text of a file. -/
def readText (path : String) : IO (Except String String) := do
  try
    return .ok (← IO.FS.readFile path)
  catch error =>
    return .error (reason error)

/-- The environment as far as the program looks at it. -/
def environment : IO (Dict String) := do
  let found ← Program.environmentNames.filterMapM fun name ↦ do
    return (← IO.getEnv name).map fun value ↦ (name, value)
  return Dict.ofList found

/-- The addresses of a host. -/
def addresses (a : Authority) : IO (List IPAddr) := do
  match a.host with
  | .ipv6 groups => return (IPv6Addr.ofString (Host.ipv6Text groups)).toList.map .v6
  | host => return (← (DNS.getAddrInfo host.toText "").block).toList

/-- The place to connect to. -/
def socketAddress (number : UInt16) : IPAddr → SocketAddress
  | .v4 address => .v4 ⟨address, number⟩
  | .v6 address => .v6 ⟨address, number⟩

/-- All bytes that come until the connection is closed. -/
def receiveAll (socket : TCP.Socket.Client) : Async ByteArray := do
  let mut received := ByteArray.empty
  repeat
    match ← socket.recv? 65536 with
    | none => break
    | some bytes => received := received ++ bytes
  return received

/-- The response to a request over one connection. -/
def converse (request : Request) (place : SocketAddress) : IO (Option Response) := do
  let socket ← TCP.Socket.Client.mk
  let bytes ← (do
    socket.connect place
    socket.send (Wire.ofRequest request).toUTF8
    receiveAll socket : Async ByteArray).block
  return Wire.toResponse? bytes.toList

/-- The response to a request, if its host is reached. Encrypted connections are not made. -/
def perform (request : Request) : IO (Option Response) := do
  match request.url.authority with
  | none => return none
  | some authority =>
    if request.url.scheme ≠ "http" then return none
    let usual := (Url.usualPortNumber request.url.scheme).getD 0
    let number := (authority.portNumber.getD usual).toUInt16
    try
      for address in ← addresses authority do
        try
          return ← converse request (socketAddress number address)
        catch _ => pure ()
      return none
    catch _ => return none

/-- The responses that have come so far, in order. -/
def replay (responses : List (Option Response)) : Transport := fun log _ ↦
  responses[log.length]?.join

/-- A run that performs its requests one by one. -/
def finish (run : Transport → Outcome × List Exchange) : IO Outcome := do
  let mut responses : List (Option Response) := []
  repeat
    let (_, log) := run (replay responses)
    match log[responses.length]? with
    | none => break
    | some exchange => responses := responses ++ [← perform exchange.request]
  return (run (replay responses)).1

end SeriesAcl.Shell

/-- Run the program. -/
def main (args : List String) : IO UInt32 := do
  let env ← SeriesAcl.Shell.environment
  let path := ((env.get? "SERIES_ACCESS_CONFIG").map SeriesAcl.Text.trim).getD ""
  let settings ← if path.isEmpty then pure (.error "") else SeriesAcl.Shell.readText path
  let run := SeriesAcl.Program.run args env.get? fun _ ↦ settings
  let outcome ← SeriesAcl.Shell.finish run
  IO.print outcome.output
  IO.eprint outcome.errors
  return outcome.exit.toUInt32

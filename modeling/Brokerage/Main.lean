import Brokerage.CommandLine
import Brokerage.Remote.Wire
import Std.Async.DNS
import Std.Async.Signal
import Std.Http.Server

/-! # The program

Reads the arguments, the environment and the file with the settings, listens, and answers requests
until it is interrupted. Effects change the state one at a time; requests run side by side. The
bindings live as long as the program.
-/

namespace Brokerage.Main

open Std.Async

/-! ## The allocation service -/

/-- An address of a host by its name. -/
def resolve (host : String) (port : Nat) : Async (Option Std.Net.SocketAddress) := do
  let port := port.toUInt16
  let addresses ← DNS.getAddrInfo host ""
  match addresses.toList.head? with
  | some (.v4 addr) => return some (.v4 ⟨addr, port⟩)
  | some (.v6 addr) => return some (.v6 ⟨addr, port⟩)
  | none => return none

/-- Everything that comes from a connection until its end. -/
partial def receive (connection : TCP.Socket.Client) (received : ByteArray) : Async ByteArray := do
  match ← connection.recv? 65536 with
  | some bytes => receive connection (received ++ bytes)
  | none => return received

/-- Send a message on a connection of its own and read the reply. -/
def exchange (url : Remote.Url) (message : String) : Async Remote.Reply := do
  if url.scheme != "http" then return .lost
  match ← resolve url.host url.port with
  | none => return .lost
  | some address => do
    let connection ← TCP.Socket.Client.mk
    connection.connect address
    connection.send message.toUTF8
    let received ← receive connection ByteArray.empty
    return .ofBytes received.toList

def pause (milliseconds : Nat) : Async Unit := sleep (.ofNat milliseconds)

/-- Ask the service; it has a limited time for its reply. -/
def ask (client : Remote.Client) (request : Remote.Request) : Async Remote.Reply := do
  match request.url? client with
  | none => return .lost
  | some url =>
    let answer : Async Remote.Reply := do
      try exchange url (request.message url) catch _ => return .lost
    let silence : Async Remote.Reply := do
      pause client.timeout.milliseconds
      return .silence
    Async.race answer silence

/-- Hold an exchange with the service. -/
def hold {α : Type} (client : Remote.Client) (p : Remote.Exchange α) : Async (Except Error α) :=
  (ExceptT.run p).runM (ask client)

/-! ## Requests -/

/-- A broker that is reached through the network. -/
structure Host where
  registry : Registry
  timeLimit : Duration
  state : IO.Ref State

/-- The time of day. -/
def now : IO Timestamp := do
  let time ← Std.Time.Timestamp.now
  return ⟨time.toSecondsSinceUnixEpoch.val,
    (time.toNanosecondsSinceUnixEpoch.val % 1000000000).toNat⟩

/-- A number of 128 random bits, marked as a random id. -/
def randomNumber : IO Nat := do
  let bytes ← IO.getRandomBytes 16
  let n := bytes.toList.foldl (fun n b => n * 256 + b.toNat) 0
  let low := n % 2 ^ 62 + 2 ^ 63
  let middle := n / 2 ^ 64 % 2 ^ 12 + 4 * 2 ^ 12
  return (n / 2 ^ 80 * 2 ^ 16 + middle) * 2 ^ 64 + low

/-- An effect on the state. -/
def change (h : Host) (e : Effect) : IO e.Outcome := do
  let now ← now
  h.state.modifyGet fun s =>
    let (outcome, s) := { s with now }.perform e
    (outcome, { s with journal := [] })

/-- An effect happens, here or at the allocation service. -/
def perform (h : Host) : (e : Effect) → Async e.Outcome
  | .acquire ctx resourceType => do
    match (← h.state.get).policy with
    | .remote client _ =>
      return (← hold client (Remote.acquire client resourceType)).mapError .error
    | .localPool _ => change h (.acquire ctx resourceType)
  | .release ctx resourceId => do
    match (← h.state.get).policy with
    | .remote client _ =>
      return (← hold client (Remote.release client resourceId)).mapError .error
    | .localPool _ => change h (.release ctx resourceId)
  | .store op => change h (.store op)
  | .backend descriptor call ctx => change h (.backend descriptor call ctx)
  | .count event => change h (.count event)
  | .readCounters => change h .readCounters

/-- Answer a request within the time limit. What nobody waits for stops before its next effect,
unless it goes on by itself. -/
def answer (h : Host) (r : Http.Request) : Async Http.Response := do
  match Http.Target.ofText? r.target with
  | none => return .bare 400
  | some target =>
    let handler := Http.Api.handle h.registry (IdSupply.name (← randomNumber)) r target
    let dropped ← IO.mkRef false
    let work : Async Http.Response := do
      let result ← (ExceptT.run handler.procedure).runM fun e => do
        if ← dropped.get then throw (IO.userError "nobody waits for the answer")
        perform h e
      match result with
      | .ok response => return response
      | .error _ => return .bare 500
    let giveUp : Async Http.Response := do
      pause h.timeLimit.milliseconds
      dropped.set (!handler.detached)
      return .bare 408
    Async.race work giveUp

/-- A response as it is sent. -/
def sent (r : Http.Response) : Async (Std.Http.Response Std.Http.Body.Any) := do
  let status := (Std.Http.Status.ofCode none r.status.toUInt16).getD .internalServerError
  let builder := Std.Http.Response.withStatus status
  let builder :=
    match r.contentType with
    | some kind => builder.header! "content-type" kind
    | none => builder
  return builder.body (.ofBody (← Std.Http.Body.Full.ofString r.body.content))

instance : Std.Http.Server.Handler Host where
  onRequest h request := do
    let body : ByteArray ← request.body.readAll
    let response ← answer h {
      method := toString request.line.method
      target := toString request.line.uri
      headers := request.line.headers.toList.map fun (name, value) => (toString name, value.value)
      body := String.ofList (Utf8.decodeLossy body.toList) }
    sent response

/-! ## Starting up -/

/-- The environment variables that stand in for options. -/
def readEnvironment : IO (List (String × String)) := do
  let names := "LOG_JSON" ::
    [CommandLine.Key.config, .apiAddr, .databaseUrl, .logLevel].map (·.environmentName)
  return (← names.mapM fun name => do return (name, ← IO.getEnv name)).filterMap
    fun (name, value) => value.map fun value => (name, value)

/-- The contents of the file with the settings. -/
def readSettings (c : CommandLine) : IO (Except Error String) := do
  match c.config with
  | none => return .ok ""
  | some path =>
    match ← (IO.FS.readFile path).toBaseIO with
    | .ok contents => return .ok contents
    | .error (.noFileOrDirectory ..) =>
      return .error (.io "No such file or directory (os error 2)")
    | .error e => return .error (.io (toString e))

/-- Whether a database file can be made where a URL says. -/
def fileOpens (url : String) : IO Bool := do
  match Store.Location.ofUrl? url with
  | some (.file path) =>
    let opened ← (IO.FS.withFile path .append fun _ => pure ()).toBaseIO
    return opened.toBool
  | _ => return true

/-- An address as sockets take it. -/
def socketAddress (a : Net.Address) : Std.Net.SocketAddress :=
  let port := a.port.toUInt16
  match a.ip with
  | .v4 octets =>
    let octet (i : Nat) := (octets.getD i 0).toUInt8
    .v4 ⟨.ofParts (octet 0) (octet 1) (octet 2) (octet 3), port⟩
  | .v6 groups _ =>
    let group (i : Nat) := (groups.getD i 0).toUInt16
    .v6 ⟨.ofParts (group 0) (group 1) (group 2) (group 3) (group 4) (group 5) (group 6) (group 7),
      port⟩

/-- Serve requests until the program is interrupted. -/
def serve (address : Net.Address) (h : Host) : Async (Except Error Unit) := do
  let interrupt ← Signal.Waiter.mk .sigint false
  try
    let server ← Std.Http.Server.serve (socketAddress address) h
    let _ ← await (← interrupt.wait)
    server.shutdownAndWait
    return .ok ()
  catch e => return .error (CommandLine.bindFailure (toString e))

/-- Start the broker of a command line and serve. -/
def start (c : CommandLine) : IO (Except Error Unit) := do
  match c.settings (← readSettings c) with
  | .error e => return .error e
  | .ok settings =>
    let opens ← fileOpens settings.store.databaseUrl
    let network : Remote.Service := ⟨false, [], []⟩
    let ready := CommandLine.prepare settings (fun _ => opens) network ⟨← randomNumber⟩
    match ready, settings.api.socketAddress with
    | .ok ready, .ok address => do
      let state ← IO.mkRef ready.state
      (serve address ⟨ready.registry, settings.api.requestTimeout, state⟩).block
    | .error e, _ | _, .error e => return .error e

end Brokerage.Main

open Brokerage in
def main (arguments : List String) : IO UInt32 := do
  let environment ← Main.readEnvironment
  match CommandLine.ofArguments arguments (environment.lookup ·) with
  | .error stop => do
    if stop.exitCode = 0 then IO.println stop.text else IO.eprintln stop.text
    return stop.exitCode.toUInt32
  | .ok c =>
    match ← Main.start c with
    | .ok () => do
      IO.println "Router Broker shutdown complete"
      return 0
    | .error e => do
      IO.eprintln ("Error: " ++ CommandLine.report e)
      return 1

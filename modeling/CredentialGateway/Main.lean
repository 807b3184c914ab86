import CredentialGateway.CommandLine.Serving
import CredentialGateway.Log.Time
import CredentialGateway.Network.Wire
import CredentialGateway.Server.Basic
import Std.Async

/-! The program: it gathers what the library asks about the machine, writes what the library logs, and moves bytes
between sockets and the server, one request after the other. -/

namespace CredentialGateway.Main

open CommandLine Std.Async

def systemError : IO.Error → SystemError
  | .noFileOrDirectory .. => .notFound
  | .permissionDenied .. => .permissionDenied
  | .inappropriateType .. => .isADirectory
  | .resourceBusy .. => .addressInUse
  | _ => .addressNotAvailable

def attempt {α : Type} (act : IO α) : IO (Except SystemError α) := do
  match ← act.toBaseIO with
  | .ok a => pure (.ok a)
  | .error e => pure (.error (systemError e))

def readFile (path : String) : IO Config.File := do
  match ← attempt (IO.FS.readBinFile path) with
  | .ok bytes => pure (.ok bytes.toList)
  | .error e => pure (.error e)

/-! Logs -/

def writeRecord (format : Config.LogFormat) (r : Log.Record) : IO Unit := do
  let now ← Std.Time.Timestamp.now
  let time := Log.Time.text (now.toNanosecondsSinceUnixEpoch.val.toNat / 1000)
  match format with
  | .pretty => IO.println (time ++ " " ++ String.ofList (List.replicate (5 - r.level.name.length) ' ') ++ r.line)
  | .json =>
    IO.println (String.ofList (Json.render (.table
      [("timestamp", .text time), ("level", .text r.level.name), ("fields", r.encodeFields),
        ("target", .text r.target)])))
  (← IO.getStdout).flush

def writeLog (l : Launch) (rs : List Log.Record) : IO Unit :=
  (l.filter.select rs).forM (writeRecord l.format)

/-! Addresses -/

def netAddress : SocketAddress → Std.Net.SocketAddress
  | .ipv4 n port =>
    .v4
      { addr := .ofParts (n / 16777216).toUInt8 (n / 65536).toUInt8 (n / 256).toUInt8 n.toUInt8
        port := port.toUInt16 }
  | .ipv6 groups _ port =>
    let part (i : Nat) : UInt16 := (groups[i]?.getD 0).toUInt16
    .v6
      { addr := .ofParts (part 0) (part 1) (part 2) (part 3) (part 4) (part 5) (part 6) (part 7)
        port := port.toUInt16 }

def withPort (port : Nat) : SocketAddress → SocketAddress
  | .ipv4 n _ => .ipv4 n port
  | .ipv6 groups scope _ => .ipv6 groups scope port

def listen (a : SocketAddress) : IO (TCP.Socket.Server × SocketAddress) := do
  let socket ← TCP.Socket.Server.mk
  socket.bind (netAddress a)
  socket.listen 1024
  let bound ← socket.getSockName
  pure (socket, withPort bound.port.toNat a)

/-! Calls to other hosts -/

def splitHost (host : List Char) : String × UInt16 :=
  let name := Resolver.stripPort host
  let port := (Wire.decimal? (host.drop (name.length + 1))).getD 80
  (String.ofList name, port.toUInt16)

def connect (host : List Char) : Async TCP.Socket.Client := do
  let (name, port) := splitHost host
  let addresses ← DNS.getAddrInfo name (toString port)
  match addresses[0]? with
  | none => throw (IO.userError "no address")
  | some a =>
    let socket ← TCP.Socket.Client.mk
    socket.connect (match a with
      | .v4 addr => .v4 { addr, port }
      | .v6 addr => .v6 { addr, port })
    pure socket

def receive (socket : TCP.Socket.Client) (millis : Nat) : Async (Option (Option ByteArray)) := do
  let alarm ← Selector.sleep (.ofNat (max 1 millis))
  Selectable.one
    #[.case (socket.recvSelector 65536) (fun bytes => pure (some bytes)), .case alarm (fun _ => pure none)]

partial def readReply (socket : TCP.Socket.Client) (method : String) (start limit : Nat) (got : Bytes) :
    Async Reply := do
  let elapsed := (← IO.monoMsNow) - start
  let settle (cut : Option Cut) : Option Reply :=
    match Wire.readReply method elapsed cut got with
    | .more => none
    | .malformed => some (.broken elapsed)
    | .complete r => some r
  if let some r := settle none then return r
  match ← receive socket (limit - elapsed) with
  | some (some bytes) => readReply socket method start limit (got ++ bytes.toList)
  | some none => return (settle (some .close)).getD (.broken elapsed)
  | none => return (settle (some .stall)).getD (.broken limit)

def exchange (limit : Nat) (s : Sent) : Async Reply := do
  let start ← IO.monoMsNow
  try
    let socket ← connect s.host
    socket.send ⟨(Wire.writeSent s).toArray⟩
    readReply socket s.method start limit []
  catch _ => return .broken ((← IO.monoMsNow) - start)

/-! Serving -/

structure Process where
  launch : Launch
  serving : Serving
  listener : TCP.Socket.Server
  started : Nat
  server : Server
  filter : Config.ReloadFilter
  seen : Config.File

namespace Process

/-- Brings the clock of the server up to date, without what it remembers of past calls. -/
def catchUp (p : Process) : IO Process := do
  let state := p.server.state
  let now := (← IO.monoMsNow) - p.started
  let session : Session := { state.toSession with world := ⟨max now state.now, []⟩, attempts := [], metrics := [] }
  pure { p with server := { p.server with state := { state with toSession := session } }.sweep }

def patience (p : Process) : Nat := max p.server.gateway.timeout p.server.gateway.tokenTimeout

/-- Answers a request. The calls that this takes are made one by one, each time beginning anew with the replies so
far. -/
partial def answer (p : Process) (fresh : Http.HeaderValue) (r : Http.Request) (replies : List Reply) :
    Async (Option Http.Response × Process) := do
  let gateway := { p.server.gateway with network := .recorded replies }
  let (response, after) := { p.server with gateway }.request fresh r
  match after.state.world.sent[replies.length]? with
  | none => return (response, { p with server := after })
  | some sent => p.answer fresh r (replies ++ [← exchange p.patience sent])

def freshId : IO Http.HeaderValue := do
  let random ← IO.getRandomBytes 16
  pure ⟨Bytes.ofText (String.ofList (Bytes.hexDigits random.toList)), false⟩

partial def readRequest (socket : TCP.Socket.Client) (start : Nat) (got : Bytes) : Async (Option Http.Request) := do
  let settle (ended : Bool) : Async (Wire.Progress Http.Request) := do
    return Wire.readRequest ((← IO.monoMsNow) - start) ended got
  match ← settle false with
  | .complete r => return some r
  | .malformed => return none
  | .more =>
    match ← receive socket 30000 with
    | some (some bytes) => readRequest socket start (got ++ bytes.toList)
    | _ =>
      match ← settle true with
      | .complete r => return some r
      | _ => return none

def handle (p : Process) (socket : TCP.Socket.Client) : Async Process := do
  let p ← p.catchUp
  try
    match ← readRequest socket (← IO.monoMsNow) [] with
    | none =>
      socket.send ⟨(Wire.writeResponse "GET" ⟨400, .empty, some []⟩).toArray⟩
      return p
    | some r =>
      let (response, p) ← p.answer (← freshId) r []
      if let some response := response then
        socket.send ⟨(Wire.writeResponse r.method.token response).toArray⟩
        socket.shutdown
      return p
  catch _ => return p

def sameFile : Config.File → Config.File → Bool
  | .ok a, .ok b => a == b
  | .error a, .error b => a == b
  | _, _ => false

def watch (p : Process) : IO Process := do
  match p.serving.watched with
  | none => pure p
  | some path =>
    let file ← readFile path
    if sameFile file p.seen then pure p
    else
      writeLog p.launch (Serving.reloadRecords path p.filter file)
      let (result, filter) := p.filter.reload file
      let server := match result with
        | .changed update => (p.server.reload update.services).2
        | _ => p.server
      pure { p with server, filter, seen := file }

inductive Event
  | connection (socket : TCP.Socket.Client)
  | signal (s : CommandLine.Signal)
  | tick

partial def serve (p : Process) (interrupt terminate : Std.Async.Signal.Waiter) : Async CommandLine.Signal := do
  let alarm ← Selector.sleep 1000
  let event ← Selectable.one
    #[.case p.listener.acceptSelector (fun socket => pure (Event.connection socket)),
      .case interrupt.selector (fun _ => pure (Event.signal .interrupt)),
      .case terminate.selector (fun _ => pure (Event.signal .terminate)),
      .case alarm (fun _ => pure Event.tick)]
  match event with
  | .signal s => return s
  | .connection socket => (← p.handle socket).serve interrupt terminate
  | .tick => (← (← p.catchUp).watch).serve interrupt terminate

end Process

def run (l : Launch) (s : Serving) (listener : TCP.Socket.Server) (seen : Config.File) : IO Unit := do
  writeLog l s.beginning
  let interrupt ← Std.Async.Signal.Waiter.mk .sigint false
  let terminate ← Std.Async.Signal.Waiter.mk .sigterm false
  let server := Server.start (.recorded []) s.config (.directory (.ofServices s.config.services))
  let p : Process :=
    { launch := l, serving := s, listener, started := ← IO.monoMsNow, server, filter := ⟨s.config⟩, seen }
  let signal ← (p.serve interrupt terminate).block
  writeLog l (Serving.ending signal)

def configFile (args : List String) : IO Config.File := do
  match Arguments.read args with
  | .ok { config := some path, .. } => readFile path
  | _ => pure (.error .notFound)

/-- Listens where the configuration asks for it. The answer stands for every address: metrics are not offered. -/
def openListener (m : Machine) (args : List String) : IO (Except SystemError (TCP.Socket.Server × SocketAddress)) := do
  match (Launch.start m args).stage with
  | .serving s => attempt (listen s.address)
  | _ => pure (.error .addressNotAvailable)

def start (args : List String) : IO UInt32 := do
  let file ← configFile args
  let logFilter ← IO.getEnv "RUST_LOG"
  let listener ← openListener { file := fun _ => file, listen := .ok, logFilter } args
  let launch := Launch.start { file := fun _ => file, listen := fun _ => listener.map Prod.snd, logFilter } args
  writeLog launch launch.log
  match launch.stage, listener with
  | .help, _ => helpText.forM IO.println
  | .serving s, .ok (socket, _) => run launch s socket file
  | _, _ => pure ()
  launch.stage.complaint.forM IO.eprintln
  pure launch.stage.exitCode.toUInt32

end CredentialGateway.Main

def main (args : List String) : IO UInt32 := CredentialGateway.Main.start args

import RemoteBSP.Toolbusd.NodeIds
import RemoteBSP.Toolbusd.RequestLifecycle

/-!
# The clients of the daemon

`handle_client` and `can_loop` of `toolbusd/src/main.cpp` as threads. Each client has a thread,
which submits its request, sends it, and waits for what the thread of the bus puts into the tables.
A step is a section under a mutex, or the sending of one packet, and the threads take their steps in
any order (`Host`). The thread of the bus takes no message and looks at no timer before the requests
have been sent again that the last look has found.
-/

namespace RemoteBSP.Toolbusd

/-- What becomes of a packet that a client sends. -/
inductive SendOutcome
  /-- All frames of the request have been sent. -/
  | sent
  /-- The traffic controller does not admit it. -/
  | rejected
  /-- `CanTransport::send` throws, for the first frame or for a later one. -/
  | failed
deriving DecidableEq, Repr

/-- The answer of a client: the `IpcStatus`, and what goes with it. -/
inductive Answer
  | ok (response : Packet)
  | timedOut
  | error (exception : DaemonError)
deriving DecidableEq, Repr

/-- How far `handle_client` has got with a request. -/
inductive ClientPhase
  /-- The request has been submitted, and is to be sent. -/
  | sending
  /-- The request has not been admitted, and is to be cancelled. -/
  | rejected
  /-- The request has been sent, and the client waits. -/
  | waiting
  /-- The client has been answered, and will not be waited for. -/
  | answered (answer : Answer)
deriving DecidableEq, Repr

/-- A client with a request for a node. -/
structure Client where
  /-- The node that the request is for. -/
  nodeId : UInt32
  /-- The request, if it has been submitted. -/
  submission : Option Submission
  /-- How far `handle_client` has got. -/
  phase : ClientPhase
deriving DecidableEq, Repr

/-- `UartStreamChunk`, what a client reads of a stream. -/
structure UartStreamChunk where
  /-- The bytes that have been read. -/
  data : List UInt8
  /-- The bytes that had no room. -/
  droppedBytes : UInt64
  /-- The events that have not arrived. -/
  lostEvents : UInt64
deriving DecidableEq, Repr

namespace Daemon

/-- The section of `handle_client` that takes the next event of a node. -/
def nextEvent (daemon : Daemon) (nodeId : UInt32) : Option Packet × Daemon :=
  match daemon.eventQueues.lookup nodeId with
  | some (event :: events) =>
    (some event, { daemon with eventQueues := daemon.eventQueues.insert nodeId events })
  | _ => (none, daemon)

/-- The section of `handle_client` that takes bytes of a stream. -/
def readUartStream (daemon : Daemon) (nodeId objectId : UInt32) (maximumLength : ℕ) :
    Option UartStreamChunk × Daemon :=
  let streamKey := uartStreamKey nodeId objectId
  match daemon.uartStreamBuffers.lookup streamKey with
  | none => (none, daemon)
  | some stream =>
    if stream.bytes = [] then (none, daemon)
    else
      (some ⟨stream.bytes.take maximumLength, stream.droppedBytes, stream.lostEvents⟩,
        { daemon with
          uartStreamBuffers := daemon.uartStreamBuffers.insert streamKey
            { stream with bytes := stream.bytes.drop maximumLength } })

end Daemon

/-- The key of a request that has been submitted. -/
def Submission.key (submission : Submission) : UInt64 :=
  RequestManager.key submission.packet.header.sessionId submission.requestId

/-- The daemon with its threads, one for each client. -/
structure Host where
  /-- The daemon that the threads share. -/
  daemon : Daemon
  /-- The clients, in the order in which they come. -/
  clients : List Client := []
  /-- The requests that the thread of the bus is to send again, and where to. -/
  retries : List (Packet × UInt32) := []
  /-- The packets that have arrived, each with its identifier. -/
  heard : List (UInt32 × Packet) := []

/-- The steps of the threads, in whatever order they come. -/
inductive HostOp
  /-- A client comes with a request. -/
  | connect (nodeId : UInt32) (request : Packet) (now : ℤ)
  /-- The thread of a client takes its next step. -/
  | client (index : ℕ) (outcome : SendOutcome)
  /-- The thread of the bus looks for nodes. -/
  | discover
  /-- The thread of the bus gets a message. -/
  | hear (message : CanMessage) (now : ℤ)
  /-- The thread of the bus looks at the timers. -/
  | timers (now : ℤ)
  /-- The thread of the bus sends a request again. -/
  | resend (failed : Bool)
  /-- A client takes the next event of a node. -/
  | nextEvent (nodeId : UInt32)
  /-- A client takes bytes of a stream. -/
  | readUartStream (nodeId objectId : UInt32) (maximumLength : ℕ)

namespace Host

/-- The daemon has just started, and no client has come. -/
def start (mode : CanMode) (sessionId : UInt32) (hsession : sessionId ≠ 0) : Host :=
  { daemon := .create mode sessionId hsession }

/-- A client comes with a request, which is submitted. -/
def connect (host : Host) (nodeId : UInt32) (request : Packet) (now : ℤ) : Host :=
  match host.daemon.submitRequest nodeId request now with
  | (.error exception, daemon) => { host with
      daemon := daemon
      clients := host.clients ++ [⟨nodeId, none, .answered (.error exception)⟩] }
  | (.ok submission, daemon) => { host with
      daemon := daemon
      clients := host.clients ++ [⟨nodeId, some submission, .sending⟩] }

/-- A client sends its request: where it is then, and the daemon. -/
def sendRequest (daemon : Daemon) (nodeId : UInt32) (submission : Submission)
    (outcome : SendOutcome) : ClientPhase × Daemon :=
  match daemon.sendPacket submission.packet (kNodeRequestBaseCanId + nodeId)
      (outcome ≠ .rejected) with
  | (.error exception, daemon) => (.answered (.error exception), daemon)
  | (.ok none, daemon) => (.rejected, daemon)
  | (.ok (some _), daemon) =>
    -- The exception of `send` leaves `handle_client` for its handler, which only answers.
    if outcome = .failed then (.answered (.error (.runtimeError "发送 CAN 帧失败")), daemon)
    else (.waiting, daemon)

/-- Whether a client that waits wakes up. -/
def wakes (daemon : Daemon) (requestKey : UInt64) : Bool :=
  (daemon.responses.lookup requestKey).isSome ∨ requestKey ∈ daemon.timedOut

/-- A step of a client with a request: where it is then, and the daemon. -/
def advance (daemon : Daemon) (nodeId : UInt32) (submission : Submission) (outcome : SendOutcome) :
    ClientPhase → ClientPhase × Daemon
  | .sending => sendRequest daemon nodeId submission outcome
  | .rejected =>
    (.answered (.error (daemon.rejectRequest submission).1), (daemon.rejectRequest submission).2)
  | .waiting =>
    if wakes daemon submission.key then
      match daemon.finishRequest submission.key with
      | (some response, daemon) => (.answered (.ok response), daemon)
      | (none, daemon) => (.answered .timedOut, daemon)
    else (.waiting, daemon)
  | .answered answer => (.answered answer, daemon)

/-- The thread of a client sends its request, waits for the answer or gives up. -/
def clientStep (host : Host) (index : ℕ) (outcome : SendOutcome) : Host :=
  match host.clients[index]? with
  | some ⟨nodeId, some submission, phase⟩ =>
    { host with
      daemon := (advance host.daemon nodeId submission outcome phase).2
      clients := host.clients.set index
        ⟨nodeId, some submission, (advance host.daemon nodeId submission outcome phase).1⟩ }
  | _ => host

/-- What the daemon wants to have sent on its own account is sent. -/
def control (host : Host) (result : Except DaemonError (Option Packet) × Daemon) : Host :=
  match result with
  | (.ok (some packet), daemon) =>
    { host with daemon := (daemon.sendPacket packet kBroadcastRequestCanId true).2 }
  | (_, daemon) => { host with daemon := daemon }

/-- What a message completes, with its identifier, if it is one from a node. -/
def completed (daemon : Daemon) (message : CanMessage) (now : ℤ) : List (UInt32 × Packet) :=
  if !message.extendedIdentifier ∧ (Daemon.fromResponses message.identifier ∨
      Daemon.fromEvents message.identifier ∨ Daemon.provisional message.identifier) then
    ((daemon.arrived message now).map fun packet => (message.identifier, packet)).toList
  else []

/-- The thread of the bus sends a request again. An exception makes it forget the others. -/
def resend (host : Host) (failed : Bool) : List (Packet × UInt32) × Host :=
  match host.retries with
  | [] => ([], host)
  | retry :: retries =>
    match host.daemon.sendPacket retry.1 retry.2 true with
    | (.ok _, daemon) =>
      ([retry], { host with daemon := daemon, retries := if failed then [] else retries })
    | (.error _, daemon) => ([], { host with daemon := daemon, retries := [] })

/-- A step of some thread, and the requests that are sent again in it. -/
def step (host : Host) : HostOp → Host × List (Packet × UInt32)
  | .connect nodeId request now => (host.connect nodeId request now, [])
  | .client index outcome => (host.clientStep index outcome, [])
  | .discover =>
    if host.retries ≠ [] then (host, [])
    else
      let (request, daemon) := host.daemon.sendDiscovery
      (host.control (request.map some, daemon), [])
  | .hear message now =>
    if host.retries ≠ [] then (host, [])
    else
      ({ host with heard := host.heard ++ completed host.daemon message now }.control
        (host.daemon.receive message now), [])
  | .timers now =>
    if host.retries ≠ [] then (host, [])
    else
      ({ host with
        daemon := (host.daemon.processRequestTimers now).2
        retries := (host.daemon.processRequestTimers now).1 }, [])
  | .resend failed => ((host.resend failed).2, (host.resend failed).1)
  | .nextEvent nodeId => ({ host with daemon := (host.daemon.nextEvent nodeId).2 }, [])
  | .readUartStream nodeId objectId maximumLength =>
    ({ host with daemon := (host.daemon.readUartStream nodeId objectId maximumLength).2 }, [])

/-- The daemon with its threads, as a machine. -/
def threads : Machine Host HostOp (List (Packet × UInt32)) where
  step := step

end Host

end RemoteBSP.Toolbusd

import RtcAsr.Client.StartCall
import RtcAsr.Server.Connection

/-!
# The Local STT clients

`AsyncLocalSttClient` and `AsyncRawUdsLocalSttClient` of `src/rtc_client.py`, connected to a v1
server.  A call writes its message and then takes the next event of the server, whatever it is.  The
two clients are the same program up to what an error event raises.

The client and the server with the messages between them are a step system: messages and events
arrive in order, and a run is an interleaving of the caller with the tasks of the server.
-/

namespace RtcAsr

/-! ## The calls -/

/-- The two clients. -/
inductive ClientTransport
  /-- `AsyncLocalSttClient`. -/
  | webSocket
  /-- `AsyncRawUdsLocalSttClient`. -/
  | rawUds
  deriving DecidableEq

/-- What a call of a client raises. -/
inductive ClientExn
  /-- `RuntimeError` with the message of an error event. -/
  | runtimeError (message : String)
  /-- `LocalSttProtocolError` of an error event. -/
  | protocol (error : LocalSttProtocolError)
  /-- `RuntimeError(f"Expected {expected} event, got: {event}")`. -/
  | unexpected (expected : String) (event : Event)

/-- `_recv_json` on the next event. -/
def recvJson (transport : ClientTransport) (allowError : Bool) :
    Event → Except ClientExn Event
  | .error e =>
    if allowError = true then .ok (.error e)
    else
      match transport with
      | .webSocket => .error (.runtimeError e.message)
      | .rawUds =>
        .error (.protocol
          { message := e.message, code := e.code, fatal := e.fatal, retryable := e.retryable,
            metadata := e.metadata })
  | event => .ok event

/-- The calls that wait for a reply. -/
inductive ClientCall
  | start (start : ClientStart)
  | ping (message : Heartbeat)
  | close

/-- The calls that wait for none; `send_audio` checks its chunk. -/
inductive ClientNotice
  | sendAudio (chunk : Bytes) (valid : validateAudioChunk chunk = .ok chunk)
  | finalize
  | cancel
  | pong (message : Heartbeat)

/-- The message a call writes. -/
def ClientCall.message : ClientCall → ClientEvent
  | .start s => .start s.config
  | .ping message => .ping message
  | .close => .close

/-- The message a call writes. -/
def ClientNotice.message : ClientNotice → ClientEvent
  | .sendAudio chunk _ => .audio chunk
  | .finalize => .finalize
  | .cancel => .cancel
  | .pong message => .pong message

/-- The end of `start` with the next event. -/
def startReply (transport : ClientTransport) (event : Event) : Except ClientExn Event := do
  let readyEvent ← recvJson transport false event
  match readyEvent with
  | .ready _ => return readyEvent
  | _ => throw (.unexpected "ready" readyEvent)

/-- The end of `ping` with the next event. -/
def pingReply (transport : ClientTransport) (event : Event) : Except ClientExn Event := do
  let pongEvent ← recvJson transport false event
  match pongEvent with
  | .pong _ => return pongEvent
  | _ => throw (.unexpected "pong" pongEvent)

/-- The end of `close` with the next event. -/
def closeReply (transport : ClientTransport) (event : Event) : Except ClientExn Event := do
  let closedEvent ← recvJson transport true event
  match closedEvent with
  | .closed => return closedEvent
  | _ => throw (.unexpected "closed" closedEvent)

/-- The end of a call with the next event. -/
def ClientCall.finish (transport : ClientTransport) : ClientCall → Event → Except ClientExn Event
  | .start _ => startReply transport
  | .ping _ => pingReply transport
  | .close => closeReply transport

/-! ## A client and its server -/

/-- A client connected to a server. -/
structure ClientWorld where
  server : Conn := {}
  /-- The messages on their way to the server. -/
  outbox : List ClientEvent := []
  /-- The number of events the client took. -/
  read : ℕ := 0
  /-- The call that waits for its reply. -/
  call : Option ClientCall := none
  connected : Bool := true
  /-- The calls that returned, with the event they returned. -/
  returned : List (ClientCall × Event) := []
  /-- The calls that raised, with the event they took. -/
  failed : List (ClientCall × Event) := []
  /-- The events `recv_event` returned. -/
  received : List Event := []

/-- The events the server has written and the client has not taken. -/
def ClientWorld.unread (w : ClientWorld) : List Event := w.server.sent.drop w.read

/-- The steps of a client and its server. -/
inductive ClientAct
  /-- A step of the server that is no receipt of a message. -/
  | server (a : Act)
  /-- The server receives the next message. -/
  | deliver
  /-- `start`, `ping` or a graceful `close` writes its message. -/
  | call (call : ClientCall)
  /-- A message without a reply is written. -/
  | notify (notice : ClientNotice)
  /-- `recv_event` takes the next event. -/
  | recvEvent
  /-- The waiting call takes the next event. -/
  | reply

namespace ClientWorld

/-- The waiting call ends with an event; a `close` drops the connection in any case. -/
def finish (transport : ClientTransport) (w : ClientWorld) (call : ClientCall) (event : Event) :
    ClientWorld :=
  let connected := match call with
    | .close => false
    | _ => w.connected
  let w := { w with read := w.read + 1, call := none, connected := connected }
  match call.finish transport event with
  | .ok reply => { w with returned := w.returned ++ [(call, reply)] }
  | .error _ => { w with failed := w.failed ++ [(call, event)] }

/-- One step of a client and its server. -/
def step (env : ServerEnv) (transport : ClientTransport) (w : ClientWorld) :
    ClientAct → Option ClientWorld
  | .server a =>
    match a with
    | .receive (.ok _) => none
    | a => (w.server.step env a).map fun server => { w with server := server }
  | .deliver =>
    match w.outbox with
    | [] => none
    | e :: outbox =>
      (w.server.step env (.receive (.ok e))).map fun server =>
        { w with server := server, outbox := outbox }
  | .call call =>
    match w.call with
    | some _ => none
    | none =>
      if w.connected = true then
        some { w with outbox := w.outbox ++ [call.message], call := some call }
      else none
  | .notify notice =>
    match w.call with
    | some _ => none
    | none =>
      if w.connected = true then some { w with outbox := w.outbox ++ [notice.message] } else none
  | .recvEvent =>
    match w.call, w.unread with
    | none, event :: _ =>
      if w.connected = true then
        some { w with read := w.read + 1, received := w.received ++ [event] }
      else none
    | _, _ => none
  | .reply =>
    match w.call, w.unread with
    | some call, event :: _ => some (w.finish transport call event)
    | _, _ => none

end ClientWorld

/-- A client and its server as a step system. -/
def clientSession (env : ServerEnv) (transport : ClientTransport) :
    StepSystem ClientWorld ClientAct := ⟨ClientWorld.step env transport⟩

end RtcAsr

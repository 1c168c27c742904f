import SqlSafetyProxy.MySql.Course
import SqlSafetyProxy.MySql.Exchange
import SqlSafetyProxy.MySql.Splitting

/-!
# The server behind a connection

The server reads the messages written to it one after another and answers each
with a well-formed response.  What it does besides is left open: it is a
relation on a state of its own.  The two tasks of the proxy run against it.
-/

namespace SqlSafetyProxy.MySql

open SqlSafetyProxy.Sql SqlSafetyProxy.Policy SqlSafetyProxy.Wire SqlSafetyProxy.Runtime
open SqlSafetyProxy.Coroutine

/-! ## Responses -/

/-- The protocol leaves these commands unanswered. -/
def CommandKind.silent : CommandKind → Bool
  | .quit | .stmtClose | .stmtSendLongData => true
  | _ => false

/-- A message that is left unanswered. -/
def silent (message : LogicalMessage) : Bool := (commandOf message).kind.silent

/-- An execution that opens a cursor is answered with the columns alone. -/
inductive CursorOpened (flags : Nat) : List Bytes → Prop where
  | mk {columns : Nat} {follows : Bool} {header : Bytes} {definitions separator : List Bytes} :
      hasFlag flags clientDeprecateEof = false → Header flags columns follows header →
      definitions.length = (if follows then columns else 0) →
      (∀ payload ∈ definitions, Definition payload) → Separator flags separator →
      CursorOpened flags (header :: (definitions ++ separator))

/-- The well-formed responses to a command; nothing is known of unsupported ones. -/
def Responds (flags : Nat) (kind : CommandKind) (packets : List Bytes) : Prop :=
  match kind with
  | .query => Results flags packets
  | .stmtExecute => Results flags packets ∨ CursorOpened flags packets
  | .stmtPrepare => PrepareResponse flags packets
  | .initDb | .ping | .stmtReset => Acknowledgment packets
  | .quit | .stmtClose | .stmtSendLongData => packets = []
  | .unsupported => packets ≠ []

theorem results_ne_nil {flags : Nat} {packets : List Bytes} (results : Results flags packets) :
    packets ≠ [] := by
  have single : ∀ {more : Bool} {packets : List Bytes}, Result flags more packets →
      packets ≠ [] := by
    rintro more packets (_ | _ | _ | _) <;> simp
  cases results with
  | last result => exact single result
  | more result _ => simp [single result]

/-- A message is answered by nothing exactly when it is a silent one. -/
theorem responds_nil_iff {flags : Nat} {message : LogicalMessage} {packets : List Bytes}
    (responds : Responds flags (commandOf message).kind packets) :
    packets = [] ↔ silent message = true := by
  have acknowledged : ∀ {packets : List Bytes}, Acknowledgment packets → packets ≠ [] := by
    rintro packets (_ | _) <;> simp
  unfold silent
  cases kind : (commandOf message).kind with
  | query =>
      rw [kind] at responds
      simpa [CommandKind.silent] using results_ne_nil responds
  | stmtExecute =>
      rw [kind] at responds
      rcases responds with results | opened
      · simpa [CommandKind.silent] using results_ne_nil results
      · cases opened
        simp [CommandKind.silent]
  | stmtPrepare =>
      rw [kind] at responds
      cases responds <;> simp [CommandKind.silent]
  | initDb =>
      rw [kind] at responds
      simpa [CommandKind.silent] using acknowledged responds
  | ping =>
      rw [kind] at responds
      simpa [CommandKind.silent] using acknowledged responds
  | stmtReset =>
      rw [kind] at responds
      simpa [CommandKind.silent] using acknowledged responds
  | quit =>
      rw [kind] at responds
      exact iff_of_true responds rfl
  | stmtClose =>
      rw [kind] at responds
      exact iff_of_true responds rfl
  | stmtSendLongData =>
      rw [kind] at responds
      exact iff_of_true responds rfl
  | unsupported =>
      rw [kind] at responds
      simpa [CommandKind.silent, Responds] using responds

/-- A server whose answers have the form the protocol gives, in packets of less than 16 MiB. -/
structure Server (flags : Nat) (σ : Type) where
  replies : σ → LogicalMessage → List Packet → σ → Prop
  responds : ∀ {state message packets later}, replies state message packets later →
    Responds flags (commandOf message).kind (packets.map Packet.payload)
  short : ∀ {state message packets later}, replies state message packets later →
    ∀ packet ∈ packets, packet.payload.length < maxPacketPayload

/-! ## Messages and packets under way -/

/-- The far side of a connection, and how far the proxy has come with its packets. -/
structure Peer (σ : Type) where
  server : σ
  /-- The answers to the messages that have been read, in order. -/
  answered : List (List Packet) := []
  /-- How many packets have been taken up. -/
  read : Nat := 0
  /-- What is left to do about the last one of them once it has been relayed. -/
  due : FollowUp := .nothing

def Peer.sent {σ : Type} (peer : Peer σ) : List Packet := peer.answered.flatten

/-- The messages written to the server, in order. -/
def written : List (Event adapter) → List LogicalMessage
  | [] => []
  | .forwarded (.command message) _ :: rest => message :: written rest
  | _ :: rest => written rest

/-- The packets that the client has received from the server, as they were sent. -/
def relayed : List ClientWrite → List Bytes
  | [] => []
  | .relayed raw :: rest => raw :: relayed rest
  | .built _ :: rest => relayed rest

@[simp] theorem written_append (first second : List (Event adapter)) :
    written (first ++ second) = written first ++ written second := by
  induction first with
  | nil => rfl
  | cons event rest ih =>
      cases event with
      | forwarded source raw => cases source <;> simp [written, ih]
      | _ => simp [written, ih]

@[simp] theorem relayed_append (first second : List ClientWrite) :
    relayed (first ++ second) = relayed first ++ relayed second := by
  induction first with
  | nil => rfl
  | cons write rest ih => cases write <;> simp [relayed, ih]

variable {σ : Type}

abbrev Link (σ : Type) := World adapter (Peer σ)

/-- Messages that the server has still to read. -/
def inFlight (w : Link σ) : List LogicalMessage := (written w.trace).drop w.peer.answered.length

/-- Packets that the proxy has still to take up. -/
def unread (w : Link σ) : List Packet := w.peer.sent.drop w.peer.read

/-- The client has received the complete response to everything it has sent. -/
def Received (w : Link σ) : Prop :=
  relayed w.clientOut = w.peer.sent.map Packet.raw ∧
    ∀ message ∈ inFlight w, silent message = true

/-! ## Turns -/

/-- What a packet will leave to do. -/
def followUpOf (flags : Nat) (payload : Bytes) (state : SessionState) : FollowUp :=
  match (trackResponse flags payload state).1 with
  | .ok next => next
  | .error _ => .nothing

/-- The next packet is taken up. -/
def takeUp (w : Link σ) (packet : Packet) : Link σ :=
  { w with peer := { w.peer with
    read := w.peer.read + 1
    due := followUpOf w.session.auth.capabilityFlags packet.payload w.session.session } }

/-- The packet that was taken up has been dealt with. -/
def settle (w : Link σ) : Link σ := { w with peer := { w.peer with due := .nothing } }

/-- One turn of the backend loop. -/
def backendTurn (packet : Packet) : Handler adapter (Peer σ) Unit := do
  routeBackendPacket packet
  Proc.update settle

/-- The server reads the next message and answers it. -/
def hear (w : Link σ) (packets : List Packet) (later : σ) : Link σ :=
  { w with peer := { w.peer with server := later, answered := w.peer.answered ++ [packets] } }

variable {flags : Nat}

inductive Hears (server : Server flags σ) (w : Link σ) : Link σ → Prop where
  | mk {message : LogicalMessage} {rest : List LogicalMessage} {packets : List Packet} {later : σ} :
      inFlight w = message :: rest → server.replies w.peer.server message packets later →
      Hears server w (hear w packets later)

/-- The tasks of a connection, the messages that may arrive, and the server. -/
def served (tools : Tools) (opts : ProxyOptions) (server : Server flags σ)
    (sends : Link σ → LogicalMessage → Prop) :
    System awaits (Link σ) Exn Side where
  start
    | .client, w, task, w' => ∃ message, sends w message ∧
        task = clientTurn tools opts message ∧ w' = receive w message
    | .backend, w, task, w' => ∃ packet rest, unread w = packet :: rest ∧
        task = backendTurn packet ∧ w' = takeUp w packet
  answers q w answer := answers q w answer
  environment := Hears server

section Fields

variable {w : Link σ}

variable {packet : Packet}

@[simp] theorem takeUp_session : (takeUp w packet).session = w.session := rfl
@[simp] theorem takeUp_trace : (takeUp w packet).trace = w.trace := rfl
@[simp] theorem takeUp_clientOut : (takeUp w packet).clientOut = w.clientOut := rfl
@[simp] theorem settle_session : (settle w).session = w.session := rfl
@[simp] theorem settle_trace : (settle w).trace = w.trace := rfl
@[simp] theorem settle_clientOut : (settle w).clientOut = w.clientOut := rfl
@[simp] theorem hear_session {packets : List Packet} {later : σ} :
    (hear w packets later).session = w.session := rfl
@[simp] theorem hear_trace {packets : List Packet} {later : σ} :
    (hear w packets later).trace = w.trace := rfl

theorem hear_sent {packets : List Packet} {later : σ} :
    (hear w packets later).peer.sent = w.peer.sent ++ packets := by
  simp [hear, Peer.sent]

/-- A server that reads the next message leaves the others in flight. -/
theorem inFlight_hear {message : LogicalMessage} {rest : List LogicalMessage}
    {packets : List Packet} {later : σ} (next : inFlight w = message :: rest) :
    inFlight (hear w packets later) = rest := by
  unfold inFlight at next
  simp only [inFlight, hear, List.length_append, List.length_singleton]
  rw [← List.drop_drop, next, List.drop_one, List.tail_cons]

theorem unread_hear {packets : List Packet} {later : σ} (within : w.peer.read ≤ w.peer.sent.length) :
    unread (hear w packets later) = unread w ++ packets := by
  rw [unread, hear_sent]
  exact List.drop_append_of_le_length within

theorem unread_takeUp {rest : List Packet} (next : unread w = packet :: rest) :
    unread (takeUp w packet) = rest := by
  unfold unread at next
  simp only [unread, takeUp, Peer.sent] at next ⊢
  rw [← List.drop_drop, next, List.drop_one, List.tail_cons]

end Fields

end SqlSafetyProxy.MySql

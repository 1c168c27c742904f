import SqlSafetyProxy.Coroutine.Proc
import SqlSafetyProxy.Policy.Evaluation
import SqlSafetyProxy.Wire.Bytes

/-!
# Connections seen by the handlers

A handler runs as a task over the state of its connection: the adapter's
session, the trace of what the client-side task did, and the bytes written to
the client by either task.  `peer` is the rest of the connection, which no
handler looks at.
-/

namespace SqlSafetyProxy.Runtime

open SqlSafetyProxy.Sql SqlSafetyProxy.Policy SqlSafetyProxy.Coroutine SqlSafetyProxy.Wire

/-! ## Text shown outside the proxy -/

/-- Bounded printable text without control-character log injection. -/
def boundExternalText (text : String) (maxChars : Nat) : String :=
  let shown := text.toList.flatMap fun char =>
    if char = '\r' then ['\\', 'r'] else if char = '\n' then ['\\', 'n'] else [char]
  if shown.length ≤ maxChars then String.ofList shown
  else String.ofList (shown.take (maxChars - 14)) ++ "...[truncated]"

/-- Describe a failure by the name of its exception class only. -/
def safeExceptionSummary (exception operation : String) : String :=
  boundExternalText (operation ++ " failed (" ++ exception ++ ")") 256

inductive FinalDecision where
  | allowed | blockedByPolicy | approvedByUser | blockedByUser
  | allowedProtocolGap | blockedProtocolGap
  deriving DecidableEq, Repr

structure AuditEvent where
  sql : String
  database : String
  operation : String
  targetTable : Option String
  severity : Severity
  policyAction : PolicyAction
  finalDecision : FinalDecision
  estimatedRows : Option Int
  estimateError : Option String
  classificationReason : String
  policyReason : String
  approximateEstimate : Bool
  protocol : String
  deriving DecidableEq, Repr

structure QueryContext where
  sql : String
  classification : Classification
  estimatedRows : Option Int
  estimateError : Option String
  policyDecision : PolicyDecision
  database : String
  approximateEstimate : Bool
  deriving DecidableEq, Repr

/-! ## Suspension points -/

/-- Exceptions: a malformed message, the loss of a connection, or any other by its class. -/
inductive Exn where
  | protocol (reason : String)
  | connectionLost
  | failure (exception : String)
  deriving DecidableEq, Repr

/-- The steps of a computation that returned. -/
theorem bind_ok {α β : Type} {first : Except Exn α} {rest : α → Except Exn β} {value : β}
    (done : (first >>= rest) = .ok value) :
    ∃ middle, first = .ok middle ∧ rest middle = .ok value := by
  cases first with
  | error error => cases done
  | ok middle => exact ⟨middle, rfl, done⟩

/-- A parser fails with a protocol error only. -/
def RaisesProtocol {α : Type} (result : Except Exn α) : Prop :=
  ∀ error, result = .error error → ∃ reason, error = .protocol reason

namespace RaisesProtocol

variable {α β : Type}

theorem ok (value : α) : RaisesProtocol (.ok value) := by
  rintro error ⟨⟩

theorem protocol (reason : String) : RaisesProtocol (.error (.protocol reason) : Except Exn α) := by
  rintro error ⟨⟩
  exact ⟨reason, rfl⟩

theorem bind {result : Except Exn α} {next : α → Except Exn β} (first : RaisesProtocol result)
    (rest : ∀ value, RaisesProtocol (next value)) : RaisesProtocol (result >>= next) := by
  intro error failed
  cases result with
  | error inner =>
      cases failed
      exact first _ rfl
  | ok value => exact rest value error failed

theorem ite {condition : Prop} [Decidable condition] {yes no : Except Exn α}
    (onYes : RaisesProtocol yes) (onNo : RaisesProtocol no) :
    RaisesProtocol (if condition then yes else no) := by
  split
  · exact onYes
  · exact onNo

end RaisesProtocol

/-- What a handler awaits. -/
inductive Request where
  | drain
  | estimate (query database : String)
  | confirm (context : QueryContext)
  | auditLog (event : AuditEvent)
  | prepareEvent
  deriving DecidableEq, Repr

/--
Answers: a drain completes or raises; an estimate is a row count or the name of
the exception raised; a confirmation is the user's decision or an exception; an
audit write succeeds or fails.
-/
abbrev Request.Answer : Request → Type
  | .drain => Bool
  | .estimate _ _ => Except String Int
  | .confirm _ => Except String Bool
  | .auditLog _ => Bool
  | .prepareEvent => Unit

abbrev awaits : Interface := ⟨Request, Request.Answer⟩

/-! ## The state of a connection -/

/-- An adapter: its session, where it forwards messages from, and what else it notes. -/
structure Adapter where
  Session : Type
  Source : Type
  Note : Type

/-- What the client-side task did, in order. -/
inductive Event (A : Adapter) where
  | classified (sql : String) (classification : Classification)
  | decided (decision : PolicyDecision)
  | confirmed (context : QueryContext) (answer : Except String Bool)
  | audited (event : AuditEvent)
  | forwarded (source : A.Source) (raw : Bytes)
  | noted (note : A.Note)

/-- Bytes written to the client: relayed from the backend, or built by the proxy. -/
inductive ClientWrite where
  | relayed (raw : Bytes)
  | built (raw : Bytes)
  deriving DecidableEq, Repr

def ClientWrite.raw : ClientWrite → Bytes
  | .relayed raw => raw
  | .built raw => raw

structure World (A : Adapter) (Γ : Type) where
  session : A.Session
  trace : List (Event A)
  clientOut : List ClientWrite
  peer : Γ

variable {A : Adapter} {Γ : Type}

namespace World

def log (w : World A Γ) (event : Event A) : World A Γ :=
  { w with trace := w.trace ++ [event] }

def answer (w : World A Γ) (write : ClientWrite) : World A Γ :=
  { w with clientOut := w.clientOut ++ [write] }

def withSession (w : World A Γ) (session : A.Session) : World A Γ :=
  { w with session := session }

section Fields

variable (w : World A Γ)

@[simp] theorem log_session (event : Event A) : (w.log event).session = w.session := rfl
@[simp] theorem log_trace (event : Event A) : (w.log event).trace = w.trace ++ [event] := rfl
@[simp] theorem log_clientOut (event : Event A) : (w.log event).clientOut = w.clientOut := rfl
@[simp] theorem log_peer (event : Event A) : (w.log event).peer = w.peer := rfl
@[simp] theorem answer_session (write : ClientWrite) : (w.answer write).session = w.session := rfl
@[simp] theorem answer_trace (write : ClientWrite) : (w.answer write).trace = w.trace := rfl
@[simp] theorem answer_clientOut (write : ClientWrite) :
    (w.answer write).clientOut = w.clientOut ++ [write] := rfl
@[simp] theorem answer_peer (write : ClientWrite) : (w.answer write).peer = w.peer := rfl
@[simp] theorem withSession_session (session : A.Session) :
    (w.withSession session).session = session := rfl
@[simp] theorem withSession_trace (session : A.Session) :
    (w.withSession session).trace = w.trace := rfl
@[simp] theorem withSession_clientOut (session : A.Session) :
    (w.withSession session).clientOut = w.clientOut := rfl
@[simp] theorem withSession_peer (session : A.Session) :
    (w.withSession session).peer = w.peer := rfl

end Fields

end World

/-- The messages forwarded in a trace, in order. -/
def forwards : List (Event A) → List Bytes
  | [] => []
  | .forwarded _ raw :: rest => raw :: forwards rest
  | _ :: rest => forwards rest

@[simp] theorem forwards_append (first second : List (Event A)) :
    forwards (first ++ second) = forwards first ++ forwards second := by
  induction first with
  | nil => rfl
  | cons event rest ih => cases event <;> simp [forwards, ih]

/-- A handler of a connection. -/
abbrev Handler (A : Adapter) (Γ α : Type) := Proc awaits (World A Γ) Exn α

def record (event : Event A) : Handler A Γ Unit := Proc.update fun w => w.log event

def session : Handler A Γ A.Session := do
  let w ← Proc.get
  return w.session

/-- `backend_writer.write(raw)`. -/
def writeBackend (source : A.Source) (raw : Bytes) : Handler A Γ Unit :=
  record (.forwarded source raw)

/-- `client_writer.write(raw)`. -/
def writeClient (write : ClientWrite) : Handler A Γ Unit := Proc.update fun w => w.answer write

/-- Suspend on a request. -/
def request (q : Request) : Handler A Γ q.Answer := @Proc.ask awaits (World A Γ) Exn q

/-- `await writer.drain()`. -/
def drain : Handler A Γ Unit := do
  let completed : Bool ← request .drain
  if completed then pure () else Proc.raised .connectionLost

/-- `try: ... except ProtocolError`: the reason of a protocol error becomes a value. -/
def attempt {α : Type} (body : Handler A Γ α) : Handler A Γ (Except String α) :=
  Proc.handle
    (do
      let value ← body
      return .ok value)
    fun error =>
      match error with
      | .protocol reason => return .error reason
      | other => Proc.raised other

/-- `except BaseException: cleanup; raise`. -/
def onRaise {α : Type} (body : Handler A Γ α) (cleanup : Handler A Γ Unit) : Handler A Γ α :=
  Proc.handle body fun error => do
    cleanup
    Proc.raised error

section Rules

variable {C : Proc.Contract awaits (World A Γ)} {fail : Exn → World A Γ → World A Γ → Prop}
  {start w : World A Γ}

@[simp] theorem wp_record (event : Event A) {post : Unit → World A Γ → World A Γ → Prop} :
    Proc.wp C (record event) post fail start w = post () start (w.log event) := rfl

@[simp] theorem wp_session {post : A.Session → World A Γ → World A Γ → Prop} :
    Proc.wp C session post fail start w = post w.session start w := rfl

@[simp] theorem wp_writeBackend (source : A.Source) (raw : Bytes)
    {post : Unit → World A Γ → World A Γ → Prop} :
    Proc.wp C (writeBackend source raw) post fail start w =
      post () start (w.log (.forwarded source raw)) := rfl

@[simp] theorem wp_writeClient (write : ClientWrite)
    {post : Unit → World A Γ → World A Γ → Prop} :
    Proc.wp C (writeClient write) post fail start w = post () start (w.answer write) := rfl

theorem wp_attempt {α : Type} {body : Handler A Γ α}
    {post : Except String α → World A Γ → World A Γ → Prop}
    (holds : Proc.wp C body (fun value start w => post (.ok value) start w)
      (fun error start w =>
        match error with
        | .protocol reason => post (.error reason) start w
        | other => fail other start w) start w) :
    Proc.wp C (attempt body) post fail start w := by
  unfold attempt
  rw [Proc.wp_handle, Proc.wp_bind]
  refine Proc.wp_mono holds ?_ ?_
  · intro value start w done
    exact done
  · intro error start w raised
    cases error with
    | protocol reason => exact raised
    | connectionLost => exact raised
    | failure exception => exact raised

theorem wp_onRaise {α : Type} {body : Handler A Γ α} {cleanup : Handler A Γ Unit}
    {post : α → World A Γ → World A Γ → Prop}
    (holds : Proc.wp C body post (fun error start w =>
      Proc.wp C cleanup (fun _ start w => fail error start w) fail start w) start w) :
    Proc.wp C (onRaise body cleanup) post fail start w := by
  unfold onRaise
  simpa only [Proc.wp_handle, Proc.wp_bind, Proc.wp_raised] using holds

theorem wp_request (q : Request) {post : q.Answer → World A Γ → World A Γ → Prop}
    (pause : C.pause q start w)
    (resumes : ∀ answer w', C.rely q w answer w' → post answer w' w') :
    Proc.wp C (request q) post fail start w :=
  ⟨pause, resumes⟩

/-- After a drain the handler goes on in a relied-on state, or the connection is lost. -/
theorem wp_drain {post : Unit → World A Γ → World A Γ → Prop}
    (pause : C.pause .drain start w)
    (completes : ∀ w', C.rely .drain w true w' → post () w' w')
    (fails : ∀ w', C.rely .drain w false w' → fail .connectionLost w' w') :
    Proc.wp C drain post fail start w := by
  refine ⟨pause, ?_⟩
  intro completed w' relied
  cases completed with
  | true => exact completes w' relied
  | false => exact fails w' relied

end Rules

section Maintains

open Proc

variable {C : Proc.Contract awaits (World A Γ)} {related : World A Γ → World A Γ → Prop}

theorem maintains_session : Maintains C related (session : Handler A Γ A.Session) :=
  maintains_bind maintains_get fun _ => maintains_pure _

theorem maintains_drain (renews : Renews C related) :
    Maintains C related (drain : Handler A Γ Unit) := by
  refine maintains_bind (maintains_ask renews _) ?_
  intro completed
  cases completed with
  | true => exact maintains_pure ()
  | false => exact maintains_raised _

end Maintains

end SqlSafetyProxy.Runtime

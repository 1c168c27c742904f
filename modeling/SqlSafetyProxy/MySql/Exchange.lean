import SqlSafetyProxy.Coroutine.Interleaving
import SqlSafetyProxy.MySql.Dispatcher

/-!
# The two tasks of a connection in its command phase

The client task dispatches logical messages one after another, the backend task
routes the packets of the backend one after another.  They share the connection
and take turns at their suspension points.  Which messages arrive and which
packets are read is left to the two parties.
-/

namespace SqlSafetyProxy.MySql

open SqlSafetyProxy.Sql SqlSafetyProxy.Policy SqlSafetyProxy.Wire SqlSafetyProxy.Runtime
open SqlSafetyProxy.Coroutine

variable {Γ : Type}

inductive Side where
  | client | backend
  deriving DecidableEq, Repr

/-- The messages that may arrive in a state, and the packets that may be read in it. -/
structure Parties (Γ : Type) where
  sends : World adapter Γ → LogicalMessage → Prop
  reads : World adapter Γ → Packet → World adapter Γ → Prop

/-- One turn of the client loop, noting how the dispatch ends. -/
def clientTurn (tools : Tools) (opts : ProxyOptions) (message : LogicalMessage) :
    Handler adapter Γ Unit :=
  Proc.handle
    (do
      let forwarded ← dispatchAuthenticatedCommand tools opts message
      record (.noted (.ended (.ok forwarded))))
    fun error => do
      record (.noted (.ended (.error error)))
      Proc.raised error

/-- The next message is received. -/
def receive (w : World adapter Γ) (message : LogicalMessage) : World adapter Γ :=
  w.log (.noted (.received message))

/-- Any answer may be given, but a wait for a prepare ends only when its event is set. -/
def answers (q : Request) (w : World adapter Γ) (_ : q.Answer) : Prop :=
  q = .prepareEvent → w.session.session.pendingPrepareEvent = some true

/-- A task that has raised is not started again. -/
def exchange (tools : Tools) (opts : ProxyOptions) (parties : Parties Γ) :
    System awaits (World adapter Γ) Exn Side where
  start
    | .client, w, task, w' => ∃ message, parties.sends w message ∧
        task = clientTurn tools opts message ∧ w' = receive w message
    | .backend, w, task, w' => ∃ packet, parties.reads w packet w' ∧
        task = routeBackendPacket packet
  answers q w answer := answers q w answer
  environment _ _ := False

end SqlSafetyProxy.MySql

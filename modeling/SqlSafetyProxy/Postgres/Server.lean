import SqlSafetyProxy.Postgres.Protocol
import Mathlib.Logic.Function.Basic

/-!
# The backend's own registries

What the extended protocol says of a PostgreSQL backend: how each message acts
on its prepared statements and portals when it succeeds, that a failed message
leaves them alone and makes the backend skip everything up to the next `Sync`,
and what else may disappear on the way.  Which messages fail is not known in
advance: a run of the backend is driven by a fate for each message.
-/

namespace SqlSafetyProxy.Postgres

open SqlSafetyProxy.Wire SqlSafetyProxy.Runtime

/-- A portal: the statement it was built from and that statement's text at `Bind` time. -/
structure ServerPortal where
  statement : String
  text : String
  deriving DecidableEq, Repr

structure Server where
  statements : String → Option String
  portals : String → Option ServerPortal
  skipping : Bool

/--
What befalls a message: whether it can succeed, and whether the unnamed
statement, the unnamed portal or all portals are gone after it.
-/
structure Fate where
  accepted : Bool
  dropsUnnamedStatement : Bool
  dropsUnnamedPortal : Bool
  endsTransaction : Bool

namespace Server

def empty : Server := ⟨fun _ => none, fun _ => none, false⟩

/-- A named statement is never redefined; the unnamed one is replaced. -/
def parse (server : Server) (message : ParseMessage) : Option Server :=
  if message.statementName = "" ∨ server.statements message.statementName = none then
    some { server with
      statements := Function.update server.statements message.statementName (some message.query) }
  else none

/-- A named portal is never rebound; the text is captured now. -/
def bind (server : Server) (message : BindMessage) : Option Server :=
  if message.portalName = "" ∨ server.portals message.portalName = none then
    (server.statements message.statementName).map fun text =>
      { server with portals :=
          Function.update server.portals message.portalName (some ⟨message.statementName, text⟩) }
  else none

/-- Closing a statement closes the portals built from it. -/
def close (server : Server) (message : CloseMessage) : Server :=
  match message.targetType with
  | .statement =>
      { server with
        statements := Function.update server.statements message.name none
        portals := fun name =>
          (server.portals name).filter fun portal => portal.statement != message.name }
  | .portal => { server with portals := Function.update server.portals message.name none }

/-- The effect of a message that succeeds, if it can succeed. -/
def apply (server : Server) (message : Message) : Option Server :=
  if message.type = 'P' then
    (parseParseMessage message.payload).toOption.bind server.parse
  else if message.type = 'B' then
    (parseBindMessage message.payload).toOption.bind server.bind
  else if message.type = 'C' then
    (parseCloseMessage message.payload).toOption.map server.close
  else some server

/-- A message reaches the backend outside recovery and succeeds. -/
def effect (server : Server) (fate : Fate) (message : Message) : Option Server :=
  if server.skipping = false ∧ fate.accepted = true then server.apply message else none

/-- What is gone after a message. -/
def settle (server : Server) (fate : Fate) : Server where
  statements name :=
    if fate.dropsUnnamedStatement = true ∧ name = "" then none else server.statements name
  portals name :=
    if fate.endsTransaction = true ∨ fate.dropsUnnamedPortal = true ∧ name = "" then none
    else server.portals name
  skipping := server.skipping

/-- `Sync` ends the skipping; any other message is skipped, fails or takes effect. -/
def process (server : Server) (fate : Fate) (message : Message) : Server :=
  if message.type = 'S' then ({ server with skipping := false }).settle fate
  else if server.skipping then server
  else match server.effect fate message with
  | some next => next.settle fate
  | none => ({ server with skipping := message.type != 'Q' }).settle fate

/-- The backend after the messages it was sent, in order. -/
def after (fates : Nat → Fate) (messages : List Message) : Server :=
  messages.zipIdx.foldl (fun server entry => server.process (fates entry.2) entry.1) empty

theorem after_append (fates : Nat → Fate) (messages : List Message) (message : Message) :
    after fates (messages ++ [message]) =
      (after fates messages).process (fates messages.length) message := by
  simp [after, List.zipIdx_append]

/-! ## Losing things -/

/-- `later` has lost some of the portals and perhaps the unnamed statement of `earlier`. -/
structure Shrinks (earlier later : Server) : Prop where
  statements : ∀ name text, later.statements name = some text →
    earlier.statements name = some text
  portals : ∀ name portal, later.portals name = some portal →
    earlier.portals name = some portal
  named : ∀ name, name ≠ "" → later.statements name = earlier.statements name

theorem shrinks_refl (server : Server) : Shrinks server server :=
  ⟨fun _ _ found => found, fun _ _ found => found, fun _ _ => rfl⟩

theorem shrinks_settle (server : Server) (fate : Fate) (skipping : Bool) :
    Shrinks server (({ server with skipping := skipping }).settle fate) := by
  refine ⟨?_, ?_, ?_⟩
  · intro name text found
    simp only [settle] at found
    split at found
    · cases found
    · exact found
  · intro name portal found
    simp only [settle] at found
    split at found
    · cases found
    · exact found
  · intro name named
    simp [settle, named]

/-- A message without effect only loses things. -/
theorem process_without_effect {server : Server} {fate : Fate} {message : Message}
    (none_ : message.type = 'S' ∨ server.effect fate message = none) :
    Shrinks server (server.process fate message) := by
  unfold process
  split
  · exact shrinks_settle server fate false
  · next notSync =>
    split
    · exact shrinks_refl server
    · rw [none_.resolve_left notSync]
      exact shrinks_settle server fate _

/-- A message with an effect has exactly that effect, up to later losses. -/
theorem process_effect {server next : Server} {fate : Fate} {message : Message}
    (notSync : message.type ≠ 'S') (taken : server.effect fate message = some next) :
    Shrinks next (server.process fate message) := by
  have reading : ¬ server.skipping = true := by
    intro skipping
    simp [effect, skipping] at taken
  rw [process, if_neg notSync, if_neg reading, taken]
  exact shrinks_settle next fate next.skipping

end Server

end SqlSafetyProxy.Postgres

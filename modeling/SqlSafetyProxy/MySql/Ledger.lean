import SqlSafetyProxy.MySql.Server

/-!
# What a client is owed

Every message that arrives is forwarded or refused.  The client is owed the
server's answer to the one and an ERR packet for the other; what it receives is
compared with that, command by command.
-/

namespace SqlSafetyProxy.MySql

open SqlSafetyProxy.Wire SqlSafetyProxy.Runtime

/-! ## Arrivals and dealings -/

/-- How a message has been dealt with. -/
inductive Fate where
  | forwarded
  | refused (packet : Bytes)
  deriving DecidableEq, Repr

abbrev Dealings := List (LogicalMessage × Fate)

/-- The messages that have arrived, in order. -/
def arrivals : List (Event adapter) → List LogicalMessage
  | [] => []
  | .noted (.received message) :: rest => message :: arrivals rest
  | _ :: rest => arrivals rest

/-- The messages that have been forwarded or refused, in order. -/
def dealings : List (Event adapter) → Dealings
  | [] => []
  | .forwarded (.command message) _ :: rest => (message, .forwarded) :: dealings rest
  | .noted (.refuses message packet) :: rest => (message, .refused packet) :: dealings rest
  | _ :: rest => dealings rest

/-- The messages that the server gets to read. -/
def passedOn : Dealings → List LogicalMessage
  | [] => []
  | (message, .forwarded) :: rest => message :: passedOn rest
  | (_, .refused _) :: rest => passedOn rest

/-- The messages that were refused, each with the packet that says so. -/
def refusals : Dealings → List (LogicalMessage × Bytes)
  | [] => []
  | (_, .forwarded) :: rest => refusals rest
  | (message, .refused packet) :: rest => (message, packet) :: refusals rest

@[simp] theorem arrivals_append (first second : List (Event adapter)) :
    arrivals (first ++ second) = arrivals first ++ arrivals second := by
  induction first with
  | nil => rfl
  | cons event rest ih =>
      cases event with
      | noted note => cases note <;> simp [arrivals, ih]
      | _ => exact ih

@[simp] theorem dealings_append (first second : List (Event adapter)) :
    dealings (first ++ second) = dealings first ++ dealings second := by
  induction first with
  | nil => rfl
  | cons event rest ih =>
      cases event with
      | forwarded source raw => cases source <;> simp [dealings, ih]
      | noted note => cases note <;> simp [dealings, ih]
      | _ => exact ih

@[simp] theorem passedOn_append (first second : Dealings) :
    passedOn (first ++ second) = passedOn first ++ passedOn second := by
  induction first with
  | nil => rfl
  | cons dealing rest ih =>
      obtain ⟨message, fate⟩ := dealing
      cases fate <;> simp [passedOn, ih]

@[simp] theorem refusals_append (first second : Dealings) :
    refusals (first ++ second) = refusals first ++ refusals second := by
  induction first with
  | nil => rfl
  | cons dealing rest ih =>
      obtain ⟨message, fate⟩ := dealing
      cases fate <;> simp [refusals, ih]

theorem passedOn_dealings (trace : List (Event adapter)) :
    passedOn (dealings trace) = written trace := by
  induction trace with
  | nil => rfl
  | cons event rest ih =>
      cases event with
      | forwarded source raw => cases source <;> simp [dealings, passedOn, written, ih]
      | noted note => cases note <;> simp [dealings, passedOn, written, ih]
      | _ => exact ih

/-- A decision deals with nothing and is no arrival. -/
theorem decision_unlisted {event : Event adapter} (isDecision : event.IsDecision) :
    arrivals [event] = [] ∧ dealings [event] = [] := by
  cases event with
  | forwarded source raw => exact isDecision.elim
  | noted note => exact isDecision.elim
  | _ => exact ⟨rfl, rfl⟩

/-! ## What is owed and what is received -/

/--
The packets that the commands expecting a response are owed, in order: the
server's answer, or the refusal.  Silent messages that were forwarded bring no
answer, and those that were refused are left out.
-/
def owed : Dealings → List (List Packet) → List Bytes
  | [], _ => []
  | (_, .forwarded) :: rest, [] => owed rest []
  | (_, .forwarded) :: rest, answer :: answers => answer.map Packet.raw ++ owed rest answers
  | (message, .refused packet) :: rest, answers =>
      if silent message then owed rest answers else packet :: owed rest answers

/-- The packets that the proxy has built for the client. -/
def built : List ClientWrite → List Bytes
  | [] => []
  | .relayed _ :: rest => built rest
  | .built raw :: rest => raw :: built rest

/--
The packets that the client has received for commands expecting a response: the
packets built by the proxy belong to the refusals in order, and those for silent
messages are left out.
-/
def responsesIn : List ClientWrite → List (LogicalMessage × Bytes) → List Bytes
  | [], _ => []
  | .relayed raw :: out, refused => raw :: responsesIn out refused
  | .built raw :: out, [] => raw :: responsesIn out []
  | .built raw :: out, (message, _) :: refused =>
      if silent message then responsesIn out refused else raw :: responsesIn out refused

@[simp] theorem built_append (first second : List ClientWrite) :
    built (first ++ second) = built first ++ built second := by
  induction first with
  | nil => rfl
  | cons write rest ih => cases write <;> simp [built, ih]

theorem responsesIn_relayed (out : List ClientWrite) (refused : List (LogicalMessage × Bytes))
    (raw : Bytes) :
    responsesIn (out ++ [.relayed raw]) refused = responsesIn out refused ++ [raw] := by
  induction out generalizing refused with
  | nil => rfl
  | cons write rest ih =>
      cases write with
      | relayed other => exact congrArg (other :: ·) (ih refused)
      | built other =>
          cases refused with
          | nil => exact congrArg (other :: ·) (ih [])
          | cons refusal refused =>
              simp only [List.cons_append, responsesIn, ih]
              split <;> rfl

/-- A further refusal adds its packet, unless it answers a silent message. -/
theorem responsesIn_refused {out : List ClientWrite} {refused : List (LogicalMessage × Bytes)}
    (count : (built out).length = refused.length) (message : LogicalMessage) (packet : Bytes) :
    responsesIn (out ++ [.built packet]) (refused ++ [(message, packet)]) =
      responsesIn out refused ++ if silent message then [] else [packet] := by
  induction out generalizing refused with
  | nil =>
      have none : refused = [] := List.eq_nil_of_length_eq_zero count.symm
      subst none
      rfl
  | cons write rest ih =>
      cases write with
      | relayed other => exact congrArg (other :: ·) (ih count)
      | built other =>
          cases refused with
          | nil => cases count
          | cons refusal refused =>
              have fewer : (built rest).length = refused.length := Nat.succ.inj count
              simp only [List.cons_append, responsesIn, ih fewer]
              split <;> rfl

/-! ## Further dealings and answers -/

section Owed

variable {settled : Dealings} {answers : List (List Packet)} {message : LogicalMessage}

/-- A message is owed nothing before the server has read it. -/
theorem owed_forwarded (heard : answers.length ≤ (passedOn settled).length) :
    owed (settled ++ [(message, .forwarded)]) answers = owed settled answers := by
  induction settled generalizing answers with
  | nil =>
      have none : answers = [] := List.eq_nil_of_length_eq_zero (Nat.le_zero.mp heard)
      subst none
      rfl
  | cons dealing rest ih =>
      obtain ⟨earlier, fate⟩ := dealing
      cases fate with
      | refused packet => simp only [List.cons_append, owed, ih heard]
      | forwarded =>
          cases answers with
          | nil => exact ih (Nat.zero_le _)
          | cons answer answers =>
              simp only [List.cons_append, owed, ih (Nat.le_of_succ_le_succ heard)]

theorem owed_refused (packet : Bytes) :
    owed (settled ++ [(message, .refused packet)]) answers =
      owed settled answers ++ if silent message then [] else [packet] := by
  induction settled generalizing answers with
  | nil => simp only [List.nil_append, owed]
  | cons dealing rest ih =>
      obtain ⟨earlier, fate⟩ := dealing
      cases fate with
      | refused other =>
          simp only [List.cons_append, owed, ih]
          split <;> rfl
      | forwarded =>
          cases answers with
          | nil => exact ih
          | cons answer answers => simp only [List.cons_append, owed, ih, List.append_assoc]

/-- A refusal that is no answer to a command expecting a response. -/
def Spares : LogicalMessage × Fate → Prop
  | (_, .forwarded) => True
  | (message, .refused _) => silent message = true

/-- After a message whose answer is still to come only silent ones have been refused. -/
def Clear : Dealings → Nat → Prop
  | [], _ => True
  | (message, .forwarded) :: rest, 0 =>
      (silent message = false → ∀ later ∈ rest, Spares later) ∧ Clear rest 0
  | (_, .forwarded) :: rest, heard + 1 => Clear rest heard
  | (_, .refused _) :: rest, heard => Clear rest heard

theorem Clear.next {heard : Nat} (clear : Clear settled heard) : Clear settled (heard + 1) := by
  induction settled generalizing heard with
  | nil => trivial
  | cons dealing rest ih =>
      obtain ⟨message, fate⟩ := dealing
      cases fate with
      | refused packet => exact ih clear
      | forwarded =>
          cases heard with
          | zero => exact clear.2
          | succ heard => exact ih clear

theorem Clear.snoc {heard : Nat} {dealing : LogicalMessage × Fate} (clear : Clear settled heard)
    (spares : Spares dealing) : Clear (settled ++ [dealing]) heard := by
  induction settled generalizing heard with
  | nil =>
      obtain ⟨message, fate⟩ := dealing
      cases fate with
      | refused packet => trivial
      | forwarded =>
          cases heard with
          | zero => exact ⟨fun _ _ none => (List.not_mem_nil none).elim, trivial⟩
          | succ heard => trivial
  | cons earlier rest ih =>
      obtain ⟨message, fate⟩ := earlier
      cases fate with
      | refused packet => exact ih clear
      | forwarded =>
          cases heard with
          | succ heard => exact ih clear
          | zero =>
              refine ⟨?_, ih clear.2⟩
              intro speaks later inside
              rcases List.mem_append.mp inside with early | last
              · exact clear.1 speaks later early
              · rw [List.mem_singleton.mp last]
                exact spares

/-- Where no answer is to come any refusal may follow. -/
theorem Clear.refuse {heard : Nat} (clear : Clear settled heard)
    (quiet : ∀ other ∈ (passedOn settled).drop heard, silent other = true) (packet : Bytes) :
    Clear (settled ++ [(message, .refused packet)]) heard := by
  induction settled generalizing heard with
  | nil => trivial
  | cons earlier rest ih =>
      obtain ⟨other, fate⟩ := earlier
      cases fate with
      | refused packet => exact ih clear quiet
      | forwarded =>
          cases heard with
          | succ heard => exact ih clear quiet
          | zero =>
              have still : silent other = true := quiet other List.mem_cons_self
              refine ⟨?_, ih clear.2 fun later inside => quiet later (List.mem_cons_of_mem _ inside)⟩
              intro speaks
              rw [still] at speaks
              cases speaks

theorem owed_spares (spares : ∀ later ∈ settled, Spares later) : owed settled [] = [] := by
  induction settled with
  | nil => rfl
  | cons dealing rest ih =>
      have others := ih fun later inside => spares later (List.mem_cons_of_mem _ inside)
      obtain ⟨message, fate⟩ := dealing
      cases fate with
      | forwarded => exact others
      | refused packet =>
          have still : silent message = true := spares _ List.mem_cons_self
          rw [owed, if_pos still]
          exact others

/-- The answer to the next message is owed after all that was owed before. -/
theorem owed_answered {rest : List LogicalMessage} {packets : List Packet}
    (clear : Clear settled answers.length)
    (next : (passedOn settled).drop answers.length = message :: rest)
    (quiet : silent message = true → packets = []) :
    owed settled (answers ++ [packets]) = owed settled answers ++ packets.map Packet.raw := by
  induction settled generalizing answers with
  | nil => simp [passedOn] at next
  | cons dealing later ih =>
      obtain ⟨earlier, fate⟩ := dealing
      cases fate with
      | refused packet =>
          simp only [owed, ih clear next]
          split <;> rfl
      | forwarded =>
          cases answers with
          | cons answer answers =>
              simp only [List.cons_append, owed, ih clear next, List.append_assoc]
          | nil =>
              have isNext : earlier = message := (List.cons.inj next).1
              subst isNext
              cases isSilent : silent earlier with
              | true =>
                  rw [quiet isSilent]
                  simp [owed]
              | false => simp [owed, owed_spares (clear.1 isSilent)]

end Owed

end SqlSafetyProxy.MySql

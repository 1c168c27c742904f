import SqlSafetyProxy.Runtime.World

/-!
# PostgreSQL wire protocol

Framing of frontend and backend messages, the strict parsers of the messages
the proxy inspects, and the two messages it builds itself.  A parser reads the
unread rest of a payload and returns what is left after it.
-/

namespace SqlSafetyProxy.Postgres

open SqlSafetyProxy.Wire SqlSafetyProxy.Runtime

/-- A framed frontend or backend message. -/
structure Message where
  type : Char
  payload : Bytes
  raw : Bytes
  deriving DecidableEq, Repr

/-! ## Framing -/

/-- `bytes.decode("ascii")` of one byte. -/
def asciiChar (byte : UInt8) : Option Char :=
  if byte < 128 then some (Char.ofNat byte.toNat) else none

/-- The message at the front of the buffer, if all of it has arrived, and the bytes after it. -/
def takeMessage (maxMessageBytes : Nat) (buffer : Bytes) :
    Except Exn (Option (Message × Bytes)) :=
  match buffer with
  | type :: b₁ :: b₂ :: b₃ :: b₄ :: _ =>
      let length := beInt [b₁, b₂, b₃, b₄]
      if length < 4 then
        .error (.protocol s!"invalid PostgreSQL message length {length}; minimum is 4")
      else
        let totalSize := 1 + length.toNat
        if maxMessageBytes < totalSize then
          .error (.protocol (s!"PostgreSQL message size {totalSize} exceeds configured " ++
            s!"maximum {maxMessageBytes}"))
        else if buffer.length < totalSize then .ok none
        else
          let raw := buffer.take totalSize
          match asciiChar type with
          | none => .error (.protocol "message type is not ASCII")
          | some type => .ok (some (⟨type, raw.drop 5, raw⟩, buffer.drop totalSize))
  | _ => .ok none

/-- The framing loop; the fuel bounds the number of messages in the buffer. -/
def takeMessages (maxMessageBytes : Nat) : Nat → Bytes → Except Exn (List Message × Bytes)
  | 0, buffer => .ok ([], buffer)
  | fuel + 1, buffer =>
      match takeMessage maxMessageBytes buffer with
      | .error error => .error error
      | .ok none => .ok ([], buffer)
      | .ok (some (message, rest)) =>
          match takeMessages maxMessageBytes fuel rest with
          | .error error => .error error
          | .ok (messages, rest) => .ok (message :: messages, rest)

/-- An incremental framer; the constructor rejects bounds below the header size. -/
structure Framer where
  buffer : Bytes := []
  maxMessageBytes : Nat
  header_le_max : 5 ≤ maxMessageBytes := by decide

/-- Frame what has arrived so far. -/
def Framer.push (framer : Framer) (chunk : Bytes) : Except Exn (List Message × Framer) :=
  let buffer := framer.buffer ++ chunk
  match takeMessages framer.maxMessageBytes buffer.length buffer with
  | .error error => .error error
  | .ok (messages, rest) => .ok (messages, { framer with buffer := rest })

/-- A byte string that is one whole message. -/
def IsMessage : Bytes → Prop
  | _ :: b₁ :: b₂ :: b₃ :: b₄ :: payload =>
      beInt [b₁, b₂, b₃, b₄] = payload.length + 4
  | _ => False

theorem isMessage_length {raw : Bytes} (whole : IsMessage raw) :
    ∃ type b₁ b₂ b₃ b₄ payload, raw = type :: b₁ :: b₂ :: b₃ :: b₄ :: payload ∧
      beInt [b₁, b₂, b₃, b₄] = payload.length + 4 := by
  unfold IsMessage at whole
  split at whole
  · exact ⟨_, _, _, _, _, _, rfl, whole⟩
  · exact whole.elim

/-- What the framer takes off the buffer is one whole message. -/
theorem takeMessage_some {maxMessageBytes : Nat} {buffer rest : Bytes} {message : Message}
    (taken : takeMessage maxMessageBytes buffer = .ok (some (message, rest))) :
    buffer = message.raw ++ rest ∧ IsMessage message.raw ∧ 5 ≤ message.raw.length := by
  unfold takeMessage at taken
  split at taken
  case h_2 => cases taken
  case h_1 type b₁ b₂ b₃ b₄ tail =>
    simp only at taken
    split at taken
    · cases taken
    split at taken
    · cases taken
    split at taken
    · cases taken
    split at taken
    · cases taken
    next long _ enough _ _ _ =>
      simp only [Except.ok.injEq, Option.some.injEq, Prod.mk.injEq] at taken
      obtain ⟨rfl, rfl⟩ := taken
      obtain ⟨extra, isExtra⟩ : ∃ extra : Nat, beInt [b₁, b₂, b₃, b₄] = extra + 4 :=
        ⟨(beInt [b₁, b₂, b₃, b₄] - 4).toNat, by omega⟩
      have size : 1 + (beInt [b₁, b₂, b₃, b₄]).toNat = extra + 5 := by omega
      have fits : extra ≤ tail.length := by
        simp only [size, List.length_cons] at enough
        omega
      rw [size]
      refine ⟨(List.take_append_drop _ _).symm, ?_, ?_⟩
      · simp [IsMessage, isExtra, fits]
      · simp [fits]

/-- A framed message is read off its own bytes. -/
theorem takeMessage_fields {maxMessageBytes : Nat} {buffer rest : Bytes} {message : Message}
    (taken : takeMessage maxMessageBytes buffer = .ok (some (message, rest))) :
    message.raw.head?.bind asciiChar = some message.type ∧
      message.payload = message.raw.drop 5 := by
  unfold takeMessage at taken
  split at taken
  case h_2 => cases taken
  case h_1 type b₁ b₂ b₃ b₄ tail =>
    simp only at taken
    split at taken
    · cases taken
    split at taken
    · cases taken
    split at taken
    · cases taken
    split at taken
    · cases taken
    next long _ enough _ letter isLetter =>
      simp only [Except.ok.injEq, Option.some.injEq, Prod.mk.injEq] at taken
      rw [← taken.1]
      simp only [and_true]
      rw [Nat.add_comm, List.take_succ_cons]
      exact isLetter

theorem takeMessages_taken {maxMessageBytes fuel : Nat} {buffer rest : Bytes}
    {messages : List Message}
    (taken : takeMessages maxMessageBytes fuel buffer = .ok (messages, rest)) :
    ∀ message ∈ messages, ∃ buffer rest,
      takeMessage maxMessageBytes buffer = .ok (some (message, rest)) := by
  induction fuel generalizing buffer messages rest with
  | zero =>
      cases taken
      simp
  | succ fuel ih =>
      unfold takeMessages at taken
      split at taken
      · cases taken
      · cases taken
        simp
      · next message tail first =>
        split at taken
        · cases taken
        · next later remaining others =>
          cases taken
          intro other inside
          rcases List.mem_cons.mp inside with rfl | later
          · exact ⟨_, _, first⟩
          · exact ih others other later

theorem takeMessages_ok {maxMessageBytes fuel : Nat} {buffer rest : Bytes}
    {messages : List Message}
    (taken : takeMessages maxMessageBytes fuel buffer = .ok (messages, rest)) :
    buffer = (messages.map Message.raw).flatten ++ rest ∧
      ∀ message ∈ messages, IsMessage message.raw := by
  induction fuel generalizing buffer messages rest with
  | zero =>
      cases taken
      simp
  | succ fuel ih =>
      unfold takeMessages at taken
      split at taken
      · cases taken
      · cases taken
        simp
      · next message tail first =>
        split at taken
        · cases taken
        · next later remaining others =>
          cases taken
          obtain ⟨split, whole, -⟩ := takeMessage_some first
          obtain ⟨splitLater, wholeLater⟩ := ih others
          refine ⟨?_, ?_⟩
          · rw [split, splitLater]
            simp
          · intro other inside
            rcases List.mem_cons.mp inside with rfl | later
            · exact whole
            · exact wholeLater other later

/-- Framing loses nothing: the messages and the new buffer are the old buffer and the chunk. -/
theorem Framer.push_ok {framer framer' : Framer} {chunk : Bytes} {messages : List Message}
    (pushed : framer.push chunk = .ok (messages, framer')) :
    framer.buffer ++ chunk = (messages.map Message.raw).flatten ++ framer'.buffer ∧
      ∀ message ∈ messages, IsMessage message.raw := by
  unfold Framer.push at pushed
  simp only at pushed
  split at pushed
  · cases pushed
  · next taken =>
    cases pushed
    exact takeMessages_ok taken

/-! ## Simple queries and transaction status -/

def parseSimpleQueryText (payload : Bytes) : Except Exn String :=
  if payload.getLast? = some 0 then
    match decodeUtf8 payload.dropLast with
    | some text => .ok text
    | none => .error (.protocol "Simple Query contains invalid UTF-8")
  else .error (.protocol "Simple Query payload is missing NUL terminator")

/-- The status byte of `ReadyForQuery`: `I`, `T` or `E`. -/
inductive TransactionStatus where
  | idle | inTransaction | failed
  deriving DecidableEq, Repr

def TransactionStatus.byte : TransactionStatus → UInt8
  | .idle => 0x49
  | .inTransaction => 0x54
  | .failed => 0x45

def parseReadyForQueryStatus (payload : Bytes) : Except Exn TransactionStatus :=
  match payload with
  | [0x49] => .ok .idle
  | [0x54] => .ok .inTransaction
  | [0x45] => .ok .failed
  | _ => .error (.protocol "ReadyForQuery has invalid transaction status")

/-! ## Messages built by the proxy -/

/-- `struct.pack(">i", value)`, which raises when the value does not fit. -/
def packInt32 (value : Nat) : Except Exn Bytes :=
  if value < 2 ^ 31 then .ok (bePack 4 value) else .error (.failure "error")

def buildErrorResponse (message sqlState : String) : Except Exn Bytes := do
  let fields :=
    [0x53] ++ encodeUtf8 "ERROR" ++ [0]
      ++ [0x43] ++ encodeUtf8 sqlState ++ [0]
      ++ [0x4D] ++ encodeUtf8 message ++ [0]
  let body := fields ++ [0]
  let length ← packInt32 (body.length + 4)
  return [0x45] ++ length ++ body

def buildReadyForQuery (status : TransactionStatus) : Bytes :=
  [0x5A] ++ bePack 4 5 ++ [status.byte]

theorem isMessage_framed {type : UInt8} {payload : Bytes}
    (fits : payload.length + 4 < 2 ^ 31) :
    IsMessage ([type] ++ bePack 4 (payload.length + 4) ++ payload) := by
  have packed : beInt (bePack 4 (payload.length + 4)) = (payload.length + 4 : Nat) :=
    beInt_bePack fits
  simpa [IsMessage, bePack] using packed

theorem isMessage_buildErrorResponse {message sqlState : String} {raw : Bytes}
    (built : buildErrorResponse message sqlState = .ok raw) : IsMessage raw := by
  unfold buildErrorResponse packInt32 at built
  simp only at built
  split at built
  · next fits =>
    cases built
    exact isMessage_framed fits
  · cases built

theorem buildErrorResponse_head {message sqlState : String} {raw : Bytes}
    (built : buildErrorResponse message sqlState = .ok raw) : raw.head? = some 0x45 := by
  unfold buildErrorResponse packInt32 at built
  simp only at built
  split at built
  · cases built
    rfl
  · cases built

theorem buildReadyForQuery_inj {first second : TransactionStatus}
    (same : buildReadyForQuery first = buildReadyForQuery second) : first = second := by
  revert same
  cases first <;> cases second <;> decide

theorem isMessage_buildReadyForQuery (status : TransactionStatus) :
    IsMessage (buildReadyForQuery status) :=
  @isMessage_framed 0x5A [status.byte] (by simp)

/-! ## Extended-query messages -/

def readCString (rest : Bytes) : Except Exn (String × Bytes) :=
  match rest with
  | [] => .error (.protocol "missing NUL-terminated string")
  | _ =>
      match splitAtNul rest with
      | none => .error (.protocol "unterminated protocol string")
      | some (text, rest) =>
          match decodeUtf8 text with
          | none => .error (.protocol "protocol string contains invalid UTF-8")
          | some value => .ok (value, rest)

/-- The next `size` bytes, which the context says are needed. -/
def require (size : Nat) (context : String) (rest : Bytes) : Except Exn (Bytes × Bytes) :=
  match splitExactly size rest with
  | some parts => .ok parts
  | none => .error (.protocol (context ++ " is truncated"))

def readInt (size : Nat) (context : String) (rest : Bytes) : Except Exn (Int × Bytes) := do
  let parts ← require size context rest
  return (beInt parts.1, parts.2)

def readInt16 : String → Bytes → Except Exn (Int × Bytes) := readInt 2

def readInt32 : String → Bytes → Except Exn (Int × Bytes) := readInt 4

/-- Read a count and reject a negative one. -/
def readCount (context : String) (rest : Bytes) : Except Exn (Nat × Bytes) := do
  let count ← readInt16 context rest
  if count.1 < 0 then .error (.protocol (context ++ " cannot be negative"))
  else return (count.1.toNat, count.2)

/-- Nothing may follow the last field. -/
def requireEnd (message : String) (rest : Bytes) : Except Exn Unit :=
  if rest = [] then .ok () else .error (.protocol (message ++ " message contains trailing bytes"))

structure ParseMessage where
  statementName : String
  query : String
  deriving DecidableEq, Repr

def parseParseMessage (payload : Bytes) : Except Exn ParseMessage := do
  let statementName ← readCString payload
  let query ← readCString statementName.2
  let count ← readCount "Parse parameter type count" query.2
  let oids ← require (count.1 * 4) "Parse parameter OID list" count.2
  requireEnd "Parse" oids.2
  return { statementName := statementName.1, query := query.1 }

structure BindMessage where
  portalName : String
  statementName : String
  paramValues : List (Option Bytes)
  formatCodes : List Int
  resultFormatCodes : List Int
  deriving DecidableEq, Repr

/-- The format codes in a list of 16-bit integers, each of which must be 0 or 1. -/
def formatCodesOf (context : String) (codes : Bytes) : Except Exn (List Int) :=
  let values := pairs codes
  if values.all fun code => code = 0 || code = 1 then .ok values
  else .error (.protocol ("Bind " ++ context ++ " format code must be 0 or 1"))
where
  pairs : Bytes → List Int
    | high :: low :: rest => beInt [high, low] :: pairs rest
    | _ => []

def resolveFormatCodes (rawFormatCodes : List Int) (numParams : Nat) : Except Exn (List Int) :=
  match rawFormatCodes with
  | [] => .ok (List.replicate numParams 0)
  | [code] => .ok (List.replicate numParams code)
  | _ =>
      if rawFormatCodes.length ≠ numParams then
        .error (.protocol
          "Bind format code count must be zero, one, or match parameter count")
      else .ok rawFormatCodes

/-- The parameter values of a Bind message. -/
def readParamValues : Nat → Bytes → Except Exn (List (Option Bytes) × Bytes)
  | 0, rest => .ok ([], rest)
  | count + 1, rest => do
      let length ← readInt32 "Bind parameter length" rest
      if length.1 = -1 then
        let later ← readParamValues count length.2
        return (none :: later.1, later.2)
      else if length.1 < -1 then
        .error (.protocol "Bind parameter length is invalid")
      else
        let value ← require length.1.toNat "Bind parameter value" length.2
        let later ← readParamValues count value.2
        return (some value.1 :: later.1, later.2)

def parseBindMessage (payload : Bytes) : Except Exn BindMessage := do
  let portalName ← readCString payload
  let statementName ← readCString portalName.2
  let numFormatCodes ← readCount "Bind format count" statementName.2
  let formats ← require (numFormatCodes.1 * 2) "Bind format codes" numFormatCodes.2
  let rawFormatCodes ← formatCodesOf "parameter" formats.1
  let numParams ← readCount "Bind parameter count" formats.2
  let values ← readParamValues numParams.1 numParams.2
  let numResultCodes ← readCount "Bind result format count" values.2
  let results ← require (numResultCodes.1 * 2) "Bind result format codes" numResultCodes.2
  let resultCodes ← formatCodesOf "result" results.1
  requireEnd "Bind" results.2
  let formatCodes ← resolveFormatCodes rawFormatCodes numParams.1
  return {
    portalName := portalName.1
    statementName := statementName.1
    paramValues := values.1
    formatCodes := formatCodes
    resultFormatCodes := resultCodes }

structure ExecuteMessage where
  portalName : String
  maxRows : Int
  deriving DecidableEq, Repr

def parseExecuteMessage (payload : Bytes) : Except Exn ExecuteMessage := do
  let portalName ← readCString payload
  let maxRows ← readInt32 "Execute max rows" portalName.2
  if maxRows.1 < 0 then .error (.protocol "Execute max rows cannot be negative")
  requireEnd "Execute" maxRows.2
  return { portalName := portalName.1, maxRows := maxRows.1 }

inductive CloseTarget where
  | statement | portal
  deriving DecidableEq, Repr

structure CloseMessage where
  targetType : CloseTarget
  name : String
  deriving DecidableEq, Repr

def parseCloseTarget (byte : UInt8) : Except Exn CloseTarget :=
  match asciiChar byte with
  | none => .error (.protocol "Close target type is not ASCII")
  | some 'S' => .ok .statement
  | some 'P' => .ok .portal
  | some _ => .error (.protocol "Close target type must be S or P")

def parseCloseMessage (payload : Bytes) : Except Exn CloseMessage :=
  match payload with
  | [] => .error (.protocol "Close message is empty")
  | type :: rest => do
      let targetType ← parseCloseTarget type
      let name ← readCString rest
      requireEnd "Close" name.2
      return { targetType := targetType, name := name.1 }

/-! ## Malformed messages -/

open RaisesProtocol

theorem raisesProtocol_parseSimpleQueryText (payload : Bytes) :
    RaisesProtocol (parseSimpleQueryText payload) := by
  unfold parseSimpleQueryText
  split
  · split
    · exact .ok _
    · exact .protocol _
  · exact .protocol _

theorem raisesProtocol_readCString (rest : Bytes) : RaisesProtocol (readCString rest) := by
  unfold readCString
  split
  · exact .protocol _
  · split
    · exact .protocol _
    · split
      · exact .protocol _
      · exact .ok _

theorem raisesProtocol_require (size : Nat) (context : String) (rest : Bytes) :
    RaisesProtocol (require size context rest) := by
  unfold require
  split
  · exact .ok _
  · exact .protocol _

theorem raisesProtocol_readInt (size : Nat) (context : String) (rest : Bytes) :
    RaisesProtocol (readInt size context rest) :=
  .bind (raisesProtocol_require _ _ _) fun _ => .ok _

theorem raisesProtocol_readCount (context : String) (rest : Bytes) :
    RaisesProtocol (readCount context rest) :=
  .bind (raisesProtocol_readInt _ _ _) fun _ => .ite (.protocol _) (.ok _)

theorem raisesProtocol_requireEnd (message : String) (rest : Bytes) :
    RaisesProtocol (requireEnd message rest) := .ite (.ok _) (.protocol _)

theorem raisesProtocol_formatCodesOf (context : String) (codes : Bytes) :
    RaisesProtocol (formatCodesOf context codes) := .ite (.ok _) (.protocol _)

theorem raisesProtocol_resolveFormatCodes (codes : List Int) (numParams : Nat) :
    RaisesProtocol (resolveFormatCodes codes numParams) := by
  unfold resolveFormatCodes
  split
  · exact .ok _
  · exact .ok _
  · exact .ite (.protocol _) (.ok _)

theorem raisesProtocol_readParamValues (count : Nat) (rest : Bytes) :
    RaisesProtocol (readParamValues count rest) := by
  induction count generalizing rest with
  | zero => exact .ok _
  | succ count ih =>
      refine .bind (raisesProtocol_readInt _ _ _) fun length => .ite ?_ (.ite (.protocol _) ?_)
      · exact .bind (ih _) fun _ => .ok _
      · exact .bind (raisesProtocol_require _ _ _) fun _ => .bind (ih _) fun _ => .ok _

theorem raisesProtocol_parseParseMessage (payload : Bytes) :
    RaisesProtocol (parseParseMessage payload) :=
  .bind (raisesProtocol_readCString _) fun _ => .bind (raisesProtocol_readCString _) fun _ =>
    .bind (raisesProtocol_readCount _ _) fun _ => .bind (raisesProtocol_require _ _ _) fun _ =>
      .bind (raisesProtocol_requireEnd _ _) fun _ => .ok _

theorem raisesProtocol_parseBindMessage (payload : Bytes) :
    RaisesProtocol (parseBindMessage payload) :=
  .bind (raisesProtocol_readCString _) fun _ => .bind (raisesProtocol_readCString _) fun _ =>
    .bind (raisesProtocol_readCount _ _) fun _ => .bind (raisesProtocol_require _ _ _) fun _ =>
    .bind (raisesProtocol_formatCodesOf _ _) fun _ => .bind (raisesProtocol_readCount _ _) fun _ =>
    .bind (raisesProtocol_readParamValues _ _) fun _ => .bind (raisesProtocol_readCount _ _) fun _ =>
    .bind (raisesProtocol_require _ _ _) fun _ => .bind (raisesProtocol_formatCodesOf _ _) fun _ =>
    .bind (raisesProtocol_requireEnd _ _) fun _ =>
    .bind (raisesProtocol_resolveFormatCodes _ _) fun _ => .ok _

theorem raisesProtocol_parseExecuteMessage (payload : Bytes) :
    RaisesProtocol (parseExecuteMessage payload) :=
  .bind (raisesProtocol_readCString _) fun _ => .bind (raisesProtocol_readInt _ _ _) fun _ =>
    .ite (.bind (.protocol _) fun _ => .bind (raisesProtocol_requireEnd _ _) fun _ => .ok _)
      (.bind (raisesProtocol_requireEnd _ _) fun _ => .ok _)

theorem raisesProtocol_parseCloseMessage (payload : Bytes) :
    RaisesProtocol (parseCloseMessage payload) := by
  unfold parseCloseMessage
  split
  · exact .protocol _
  · refine .bind ?_ fun _ => .bind (raisesProtocol_readCString _) fun _ =>
      .bind (raisesProtocol_requireEnd _ _) fun _ => .ok _
    unfold parseCloseTarget
    split
    · exact .protocol _
    · exact .ok _
    · exact .ok _
    · exact .protocol _

end SqlSafetyProxy.Postgres

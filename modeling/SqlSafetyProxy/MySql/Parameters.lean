import SqlSafetyProxy.MySql.Protocol
import SqlSafetyProxy.Runtime.Decision

/-!
# Parameters of a prepared execution

The binary parameter payload of `COM_STMT_EXECUTE` is decoded strictly, and the
decoded literals are put in the place of the placeholders of the prepared text.
-/

namespace SqlSafetyProxy.MySql

open SqlSafetyProxy.Wire SqlSafetyProxy.Runtime

/-! ## Types -/

structure ParameterType where
  typeCode : UInt8
  unsigned : Bool
  deriving DecidableEq, Repr

/-- A floating-point value is kept as its bit pattern. -/
inductive ParameterValue where
  | integer (value : Int)
  | float (size bits : Nat)
  | bytes (value : Bytes)
  | null
  deriving DecidableEq, Repr

structure DecodedParameter where
  typeMetadata : ParameterType
  value : ParameterValue
  sqlLiteral : String
  deriving DecidableEq, Repr

def DecodedParameter.isBytes (parameter : DecodedParameter) : Bool :=
  match parameter.value with
  | .bytes _ => true
  | _ => false

structure StmtExecuteParameters where
  nullBitmap : Bytes
  newParamsBound : Bool
  parameterTypes : List ParameterType
  parameters : List DecodedParameter
  deriving DecidableEq, Repr

def mysqlTypeNull : UInt8 := 0x06

/-- Sizes of `TINY`, `SHORT`, `LONG`, `LONGLONG`, `INT24` and `YEAR`. -/
def integerSize (typeCode : UInt8) : Option Nat :=
  if typeCode = 0x01 then some 1
  else if typeCode = 0x02 ∨ typeCode = 0x0D then some 2
  else if typeCode = 0x03 ∨ typeCode = 0x09 then some 4
  else if typeCode = 0x08 then some 8
  else none

/-- Sizes of `FLOAT` and `DOUBLE`. -/
def floatSize (typeCode : UInt8) : Option Nat :=
  if typeCode = 0x04 then some 4
  else if typeCode = 0x05 then some 8
  else none

/-- `VARCHAR`, `VAR_STRING`, `STRING` and `BIT`. -/
def isStringType (typeCode : UInt8) : Bool := [0x0F, 0xFD, 0xFE, 0x10].contains typeCode

def typeFamily (typeCode : UInt8) : String :=
  if [0x07, 0x0A, 0x0B, 0x0C, 0x0E, 0x11, 0x12, 0x13].contains typeCode then "temporal"
  else if [0x00, 0xF6].contains typeCode then "decimal"
  else if [0xF9, 0xFA, 0xFB, 0xFC].contains typeCode then "blob"
  else "unsupported"

def unsignedError (index : Nat) : Exn :=
  .protocol ("COM_STMT_EXECUTE unsigned flag is only supported for " ++
    s!"integer parameter {index}")

def uninspectableType (index : Nat) (typeCode : UInt8) : Exn :=
  .protocol ("COM_STMT_EXECUTE " ++ typeFamily typeCode ++ " parameter type " ++
    hexCode typeCode ++ s!" is not safely inspectable for parameter {index}")

def validateStmtParameterType (index : Nat) (metadata : ParameterType) : Except Exn Unit :=
  if metadata.unsigned = true ∧ integerSize metadata.typeCode = none then
    .error (unsignedError index)
  else if (integerSize metadata.typeCode).isSome ∨ (floatSize metadata.typeCode).isSome
      ∨ metadata.typeCode = mysqlTypeNull ∨ isStringType metadata.typeCode = true then .ok ()
  else .error (uninspectableType index metadata.typeCode)

/-! ## Values -/

def takeStmtBytes (size index : Nat) (rest : Bytes) : Except Exn (Bytes × Bytes) :=
  match splitExactly size rest with
  | some parts => .ok parts
  | none => .error (.protocol s!"COM_STMT_EXECUTE parameter {index} is truncated")

def readStmtLenencBytes (index : Nat) (rest : Bytes) : Except Exn (Bytes × Bytes) :=
  match rest with
  | [] => .error (.protocol s!"COM_STMT_EXECUTE parameter {index} is truncated")
  | marker :: rest =>
      match lenencSize marker with
      | none => .error (.protocol ("COM_STMT_EXECUTE length-encoded parameter cannot use " ++
          "marker " ++ hexCode marker ++ s!" for parameter {index}"))
      | some 0 => takeStmtBytes marker.toNat index rest
      | some width => do
          let size ← takeStmtBytes width index rest
          takeStmtBytes (leNat size.1) index size.2

/-- `math.isfinite`: the exponent of the bit pattern is not all ones. -/
def isFinite (size bits : Nat) : Bool :=
  if size = 4 then bits / 2 ^ 23 % 2 ^ 8 != 2 ^ 8 - 1
  else bits / 2 ^ 52 % 2 ^ 11 != 2 ^ 11 - 1

def hexLiteral (value : Bytes) : String :=
  "X'" ++ String.ofList (value.flatMap hexLower) ++ "'"

/-- Decode one parameter and return the bytes after it. -/
def decodeStmtParameter (tools : Tools) (index : Nat) (metadata : ParameterType)
    (rest : Bytes) : Except Exn (DecodedParameter × Bytes) :=
  match integerSize metadata.typeCode with
  | some size => do
      let raw ← takeStmtBytes size index rest
      let value : Int := if metadata.unsigned then leNat raw.1 else leInt raw.1
      return (⟨metadata, .integer value, toString value⟩, raw.2)
  | none =>
      if metadata.unsigned then .error (unsignedError index)
      else match floatSize metadata.typeCode with
      | some size => do
          let raw ← takeStmtBytes size index rest
          let bits := leNat raw.1
          if isFinite size bits then
            return (⟨metadata, .float size bits, tools.floatRepr size bits⟩, raw.2)
          else .error (.protocol ("COM_STMT_EXECUTE floating-point parameter " ++
            s!"{index} is not finite"))
      | none =>
          if isStringType metadata.typeCode then do
            let value ← readStmtLenencBytes index rest
            return (⟨metadata, .bytes value.1, hexLiteral value.1⟩, value.2)
          else .error (uninspectableType index metadata.typeCode)

/-- The bit of a parameter in the NULL bitmap. -/
def isNullParameter (nullBitmap : Bytes) (index : Nat) : Bool :=
  (nullBitmap.getD (index / 8) 0).toNat.testBit (index % 8)

/-- A NULL parameter takes no bytes of the payload. -/
def decodeOrNull (tools : Tools) (nullBitmap : Bytes) (index : Nat) (metadata : ParameterType)
    (rest : Bytes) : Except Exn (DecodedParameter × Bytes) :=
  if isNullParameter nullBitmap index = true ∨ metadata.typeCode = mysqlTypeNull then
    .ok (⟨metadata, .null, "NULL"⟩, rest)
  else decodeStmtParameter tools index metadata rest

/-- Decode the parameters of the given types one after another. -/
def decodeStmtParameters (tools : Tools) (nullBitmap : Bytes) :
    Nat → List ParameterType → Bytes → Except Exn (List DecodedParameter × Bytes)
  | _, [], rest => .ok ([], rest)
  | index, metadata :: types, rest => do
      validateStmtParameterType index metadata
      let first ← decodeOrNull tools nullBitmap index metadata rest
      let others ← decodeStmtParameters tools nullBitmap (index + 1) types first.2
      return (first.1 :: others.1, others.2)

/-! ## Type metadata -/

def parseParameterType (index : Nat) (typeCode flags : UInt8) : Except Exn ParameterType :=
  if flags.toNat % 0x80 ≠ 0 then
    .error (.protocol ("COM_STMT_EXECUTE parameter type metadata contains " ++
      s!"unsupported flags for parameter {index}"))
  else .ok ⟨typeCode, flags.toNat = 0x80⟩

/-- Two bytes of metadata for each parameter. -/
def parseParameterTypes : Nat → Nat → Bytes → Except Exn (List ParameterType × Bytes)
  | _, 0, rest => .ok ([], rest)
  | index, count + 1, typeCode :: flags :: rest => do
      let first ← parseParameterType index typeCode flags
      let others ← parseParameterTypes (index + 1) count rest
      return (first :: others.1, others.2)
  | _, _ + 1, _ => .error (.protocol "COM_STMT_EXECUTE parameter type metadata is truncated")

/-- The types sent with the execution, or those of an earlier one. -/
def chooseTypes (parameterCount : Nat) (newParamsBound : Bool)
    (previousTypes : Option (List ParameterType)) (rest : Bytes) :
    Except Exn (List ParameterType × Bytes) :=
  if newParamsBound then
    if rest.length < parameterCount * 2 then
      .error (.protocol "COM_STMT_EXECUTE parameter type metadata is truncated")
    else parseParameterTypes 0 parameterCount rest
  else match previousTypes with
  | none => .error (.protocol ("COM_STMT_EXECUTE reuses parameter types before metadata " ++
      "has been registered"))
  | some types =>
      if types.length ≠ parameterCount then
        .error (.protocol ("Stored COM_STMT_EXECUTE parameter metadata count does " ++
          "not match the prepared statement"))
      else .ok (types, rest)

/-! ## The payload -/

/-- The part of the payload behind the fixed checks, with at least one parameter. -/
def parseBoundParameters (tools : Tools) (parameterCount : Nat)
    (previousTypes : Option (List ParameterType)) (nullBitmap : Bytes) (flag : UInt8)
    (rest : Bytes) : Except Exn StmtExecuteParameters :=
  if flag ≠ 0 ∧ flag ≠ 1 then
    .error (.protocol "COM_STMT_EXECUTE new_params_bound_flag must be 0 or 1")
  else do
    let types ← chooseTypes parameterCount (flag == 1) previousTypes rest
    let decoded ← decodeStmtParameters tools nullBitmap 0 types.1 types.2
    if decoded.2 ≠ [] then
      .error (.protocol "COM_STMT_EXECUTE parameter payload contains trailing data")
    else return ⟨nullBitmap, flag == 1, types.1, decoded.1⟩

/-- Decode a `COM_STMT_EXECUTE` parameter payload. -/
def parseStmtExecuteParameters (tools : Tools) (execution : StmtExecute) (parameterCount : Nat)
    (previousTypes : Option (List ParameterType)) : Except Exn StmtExecuteParameters :=
  if execution.iterationCount ≠ 1 then
    .error (.protocol "COM_STMT_EXECUTE iteration count must be 1")
  else if ¬ [0, 1, 2, 4].contains execution.flags then
    .error (.protocol ("COM_STMT_EXECUTE contains unsupported cursor flags " ++
      hexCode execution.flags))
  else if parameterCount = 0 then
    if execution.parameterPayload ≠ [] then
      .error (.protocol "COM_STMT_EXECUTE without parameters contains trailing data")
    else .ok ⟨[], false, [], []⟩
  else
    let bitmapSize := (parameterCount + 7) / 8
    let nullBitmap := execution.parameterPayload.take bitmapSize
    match execution.parameterPayload.drop bitmapSize with
    | [] => .error (.protocol "COM_STMT_EXECUTE parameter metadata is truncated")
    | flag :: rest =>
        if parameterCount % 8 ≠ 0
            ∧ (nullBitmap.getLast?.getD 0).toNat / 2 ^ (parameterCount % 8) ≠ 0 then
          .error (.protocol "COM_STMT_EXECUTE NULL bitmap sets out-of-range parameter bits")
        else parseBoundParameters tools parameterCount previousTypes nullBitmap flag rest

/-! ## The number of types -/

theorem parseParameterTypes_length {index count : Nat} {payload rest : Bytes}
    {types : List ParameterType}
    (parsed : parseParameterTypes index count payload = .ok (types, rest)) :
    types.length = count := by
  induction count generalizing index payload types with
  | zero =>
      cases parsed
      rfl
  | succ count ih =>
      match payload, parsed with
      | typeCode :: flags :: payload, parsed =>
          obtain ⟨first, -, parsed⟩ := bind_ok parsed
          obtain ⟨others, found, parsed⟩ := bind_ok parsed
          cases parsed
          rw [List.length_cons, ih found]

theorem chooseTypes_length {count : Nat} {newParamsBound : Bool}
    {previousTypes : Option (List ParameterType)} {payload rest : Bytes}
    {types : List ParameterType}
    (chosen : chooseTypes count newParamsBound previousTypes payload = .ok (types, rest)) :
    types.length = count := by
  unfold chooseTypes at chosen
  split at chosen
  · split at chosen
    · cases chosen
    · exact parseParameterTypes_length chosen
  · split at chosen
    · cases chosen
    · split at chosen
      · cases chosen
      · next same =>
        cases chosen
        exact not_not.mp same

/-- An execution is decoded with one type for each parameter. -/
theorem parseStmtExecuteParameters_length {tools : Tools} {execution : StmtExecute} {count : Nat}
    {previousTypes : Option (List ParameterType)} {decoded : StmtExecuteParameters}
    (parsed : parseStmtExecuteParameters tools execution count previousTypes = .ok decoded) :
    decoded.parameterTypes.length = count := by
  unfold parseStmtExecuteParameters at parsed
  split at parsed
  · cases parsed
  · split at parsed
    · cases parsed
    · split at parsed
      · next none_ =>
        split at parsed
        · cases parsed
        · cases parsed
          exact none_.symm
      · dsimp only at parsed
        split at parsed
        · cases parsed
        · split at parsed
          · cases parsed
          · unfold parseBoundParameters at parsed
            split at parsed
            · cases parsed
            · obtain ⟨types, chosen, parsed⟩ := bind_ok parsed
              obtain ⟨decoded, -, parsed⟩ := bind_ok parsed
              split at parsed
              · cases parsed
              · cases parsed
                exact chooseTypes_length chosen

/-! ## Reconstruction -/

/-- Where the scan of a prepared text stands. -/
inductive ScanState where
  | sql | quoted (mark : Char) | lineComment | blockComment
  deriving DecidableEq, Repr

/-- `--` starts a comment at the end of the text or before white space. -/
def opensLineComment : List Char → Bool
  | '-' :: [] => true
  | '-' :: char :: _ => isSpace char
  | _ => false

/-- `/*!` and `/*M!` open comments that a server executes. -/
def opensExecutableComment : List Char → Bool
  | '*' :: '!' :: _ => true
  | '*' :: 'M' :: '!' :: _ => true
  | '*' :: 'm' :: '!' :: _ => true
  | _ => false

theorem opensExecutableComment_iff (text : List Char) :
    opensExecutableComment text = true ↔
      ['*', '!'] <+: text ∨ ['*', 'M', '!'] <+: text ∨ ['*', 'm', '!'] <+: text := by
  unfold opensExecutableComment
  split
  · simp [List.cons_prefix_cons]
  · simp [List.cons_prefix_cons]
  · simp [List.cons_prefix_cons]
  · next plain upper lower =>
      refine iff_of_false (by decide) ?_
      rintro (⟨tail, rfl⟩ | ⟨tail, rfl⟩ | ⟨tail, rfl⟩)
      · exact plain tail rfl
      · exact upper tail rfl
      · exact lower tail rfl

/-- The end of the text: nothing may be left open and no literal unused. -/
def endOfTemplate (state : ScanState) (literals : List String) : Except Exn (List Char) :=
  match state with
  | .quoted _ | .blockComment =>
      .error (.protocol "Prepared SQL has an unterminated quoted value or comment")
  | .sql | .lineComment =>
      if literals ≠ [] then
        .error (.protocol ("Prepared SQL contains fewer placeholders than " ++
          "COM_STMT_PREPARE reported"))
      else .ok []

/-- What a character of the text is: a placeholder, or text after which the scan goes on. -/
inductive ScanStep where
  | placeholder
  /-- Whether the following character is text of the same token. -/
  | text (next : ScanState) (withFollowing : Bool)
  deriving DecidableEq, Repr

def isQuote (char : Char) : Bool := char = '\'' || char = '"' || char.toNat = 0x60

/-- Read one character, looking at those that follow it. -/
def scanStep (state : ScanState) (char : Char) (rest : List Char) : Except Exn ScanStep :=
  match state with
  | .sql =>
      if char = '?' then .ok .placeholder
      else if isQuote char then .ok (.text (.quoted char) false)
      else if char = '#' then .ok (.text .lineComment false)
      else if char = '-' ∧ opensLineComment rest = true then .ok (.text .lineComment true)
      else if char = '/' ∧ opensExecutableComment rest = true then
        .error (.protocol ("Prepared SQL contains an executable comment and " ++
          "cannot be reconstructed safely"))
      else if char = '/' ∧ rest.head? = some '*' then .ok (.text .blockComment true)
      else .ok (.text .sql false)
  | .quoted mark =>
      if char = '\\' then
        .error (.protocol ("Prepared SQL contains a mode-dependent backslash " ++
          "escape and cannot be reconstructed safely"))
      else if char ≠ mark then .ok (.text (.quoted mark) false)
      else if rest.head? = some mark then .ok (.text (.quoted mark) true)
      else .ok (.text .sql false)
  | .lineComment =>
      .ok (.text (if char = '\n' ∨ char = '\r' then .sql else .lineComment) false)
  | .blockComment =>
      if char = '*' ∧ rest.head? = some '/' then .ok (.text .sql true)
      else .ok (.text .blockComment false)

/-- Replace the placeholders outside quoted text and comments. -/
def substituteLiterals : ScanState → Bool → List String → List Char → Except Exn (List Char)
  | state, _, literals, [] => endOfTemplate state literals
  | state, true, literals, char :: rest => do
      let output ← substituteLiterals state false literals rest
      return char :: output
  | state, false, literals, char :: rest => do
      match ← scanStep state char rest with
      | .placeholder =>
          match literals with
          | [] => .error (.protocol ("Prepared SQL contains more placeholders than " ++
              "COM_STMT_PREPARE reported"))
          | literal :: literals =>
              let output ← substituteLiterals .sql false literals rest
              return literal.toList ++ output
      | .text next withFollowing =>
          let output ← substituteLiterals next withFollowing literals rest
          return char :: output

/-- The text to inspect for an execution with the given parameters. -/
def reconstructStmtExecuteSql (sqlTemplate : String) (parameters : List DecodedParameter) :
    Except Exn String := do
  let output ← substituteLiterals .sql false (parameters.map DecodedParameter.sqlLiteral)
    sqlTemplate.toList
  return String.ofList output

end SqlSafetyProxy.MySql

import SqlSafetyProxy.Runtime.World

/-!
# MySQL packets and commands

Framing of packets, assembly of logical messages, the commands a message may
carry and the parsers of the packets the proxy follows.
-/

namespace SqlSafetyProxy.MySql

open SqlSafetyProxy.Wire SqlSafetyProxy.Runtime

def maxPacketPayload : Nat := 0xFFFFFF

def mariadbStmtIdLast : Nat := 0xFFFFFFFF

/-! ## Capability and status flags -/

def clientMysql : Nat := 0x00000001
def clientConnectWithDb : Nat := 0x00000008
def clientSsl : Nat := 0x00000800
def clientProtocol41 : Nat := 0x00000200
def clientTransactions : Nat := 0x00002000
def clientPluginAuthLenencClientData : Nat := 0x00200000
def clientSecureConnection : Nat := 0x00008000
def clientPluginAuth : Nat := 0x00080000
def clientDeprecateEof : Nat := 0x01000000
def mariadbClientCacheMetadata : Nat := 2 ^ 36

def serverStatusInTrans : Nat := 0x0001
def serverStatusAutocommit : Nat := 0x0002
def serverMoreResultsExists : Nat := 0x0008
def serverStatusInTransReadonly : Nat := 0x2000

/-! ## Packets -/

structure Packet where
  sequenceId : UInt8
  payload : Bytes
  raw : Bytes
  deriving DecidableEq, Repr

/-- The packet at the front of the buffer, if all of it has arrived, and the bytes after it. -/
def takePacket (maxPacketBytes : Nat) (buffer : Bytes) : Except Exn (Option (Packet × Bytes)) :=
  match buffer with
  | b₁ :: b₂ :: b₃ :: sequenceId :: _ =>
      let totalLength := leNat [b₁, b₂, b₃] + 4
      if maxPacketBytes < totalLength then
        .error (.protocol (s!"MySQL packet size {totalLength} exceeds " ++
          s!"configured maximum {maxPacketBytes}"))
      else if buffer.length < totalLength then .ok none
      else
        let raw := buffer.take totalLength
        .ok (some (⟨sequenceId, raw.drop 4, raw⟩, buffer.drop totalLength))
  | _ => .ok none

/-- The framing loop; the fuel bounds the number of packets in the buffer. -/
def takePackets (maxPacketBytes : Nat) : Nat → Bytes → Except Exn (List Packet × Bytes)
  | 0, buffer => .ok ([], buffer)
  | fuel + 1, buffer =>
      match takePacket maxPacketBytes buffer with
      | .error error => .error error
      | .ok none => .ok ([], buffer)
      | .ok (some (packet, rest)) =>
          match takePackets maxPacketBytes fuel rest with
          | .error error => .error error
          | .ok (packets, rest) => .ok (packet :: packets, rest)

/-- An incremental framer; the constructor rejects bounds below the header size. -/
structure PacketFramer where
  buffer : Bytes := []
  maxPacketBytes : Nat
  header_le_max : 4 ≤ maxPacketBytes := by decide

def PacketFramer.push (framer : PacketFramer) (chunk : Bytes) :
    Except Exn (List Packet × PacketFramer) :=
  let buffer := framer.buffer ++ chunk
  match takePackets framer.maxPacketBytes buffer.length buffer with
  | .error error => .error error
  | .ok (packets, rest) => .ok (packets, { framer with buffer := rest })

/-! ## Logical messages -/

structure LogicalMessage where
  firstSequenceId : UInt8
  lastSequenceId : UInt8
  payload : Bytes
  rawPackets : Bytes
  packetCount : Nat
  deriving DecidableEq, Repr

/-- The packets of a message that is not complete yet. -/
structure LogicalMessageAssembler where
  parts : List Packet := []
  maxMessageBytes : Nat
  positive : 0 < maxMessageBytes := by decide

namespace LogicalMessageAssembler

def reset (assembler : LogicalMessageAssembler) : LogicalMessageAssembler :=
  { assembler with parts := [] }

/-- Packets of one message carry consecutive sequence numbers. -/
def inSequence (assembler : LogicalMessageAssembler) (packet : Packet) : Except Exn Unit :=
  match assembler.parts.getLast? with
  | none => .ok ()
  | some last =>
      let expected := (last.sequenceId.toNat + 1) % 256
      if packet.sequenceId.toNat ≠ expected then
        .error (.protocol ("MySQL logical-message packet sequence mismatch: " ++
          s!"expected {expected}, received {packet.sequenceId.toNat}"))
      else .ok ()

/-- A packet shorter than the maximum completes the message. -/
def push (assembler : LogicalMessageAssembler) (packet : Packet) :
    Except Exn (Option LogicalMessage) × LogicalMessageAssembler :=
  match assembler.inSequence packet with
  | .error error => (.error error, assembler.reset)
  | .ok () =>
      let parts := assembler.parts ++ [packet]
      let payload := (parts.map Packet.payload).flatten
      if assembler.maxMessageBytes < payload.length then
        (.error (.protocol ("MySQL logical message exceeds configured maximum " ++
          toString assembler.maxMessageBytes)), assembler.reset)
      else if packet.payload.length = maxPacketPayload then
        (.ok none, { assembler with parts := parts })
      else
        (.ok (some
          { firstSequenceId := (parts.head?.getD packet).sequenceId
            lastSequenceId := packet.sequenceId
            payload := payload
            rawPackets := (parts.map Packet.raw).flatten
            packetCount := parts.length }), assembler.reset)

end LogicalMessageAssembler

/-! ## Packets built by the proxy -/

def buildPacket (payload : Bytes) (sequenceId : UInt8) : Except Exn Bytes :=
  if maxPacketPayload < payload.length then .error (.failure "ValueError")
  else .ok (lePack 3 payload.length ++ [sequenceId] ++ payload)

/-- An ERR packet; the SQL states in use all have five characters. -/
def buildErrorPacket (message : String) (sequenceId : UInt8) (errorCode : Nat)
    (sqlState : String) : Except Exn Bytes :=
  if sqlState.length ≠ 5 then .error (.failure "ValueError")
  else buildPacket
    ([0xFF] ++ lePack 2 errorCode ++ encodeUtf8 "#" ++ encodeUtf8 sqlState ++ encodeUtf8 message)
    sequenceId

/-- The sequence number of the answer to a message. -/
def nextSequenceId (sequenceId : UInt8) : UInt8 := sequenceId + 1

/-! ## Commands -/

inductive CommandKind where
  | query | initDb | quit | ping | stmtPrepare | stmtExecute | stmtSendLongData
  | stmtClose | stmtReset | unsupported
  deriving DecidableEq, Repr

structure Command where
  commandCode : UInt8
  kind : CommandKind
  payload : Bytes
  deriving DecidableEq, Repr

def commandKind (commandCode : UInt8) : CommandKind :=
  if commandCode = 0x03 then .query
  else if commandCode = 0x02 then .initDb
  else if commandCode = 0x01 then .quit
  else if commandCode = 0x0E then .ping
  else if commandCode = 0x16 then .stmtPrepare
  else if commandCode = 0x17 then .stmtExecute
  else if commandCode = 0x18 then .stmtSendLongData
  else if commandCode = 0x19 then .stmtClose
  else if commandCode = 0x1A then .stmtReset
  else .unsupported

def classifyCommand (commandCode : UInt8) (commandPayload : Bytes) : Command :=
  { commandCode := commandCode
    kind := commandKind commandCode
    payload := commandPayload }

def parseLogicalCommand (message : LogicalMessage) : Except Exn Command :=
  match message.payload with
  | [] => .error (.protocol "MySQL logical command message is empty")
  | commandCode :: rest => .ok (classifyCommand commandCode rest)

/-- Text of a command: not empty and valid UTF-8. -/
def parseText (missing invalid : String) (commandPayload : Bytes) : Except Exn String :=
  if commandPayload = [] then .error (.protocol missing)
  else match decodeUtf8 commandPayload with
  | some text => .ok text
  | none => .error (.protocol invalid)

def parseQuery : Bytes → Except Exn String :=
  parseText "COM_QUERY contains no SQL text" "COM_QUERY contains invalid UTF-8"

def parseStmtPrepare : Bytes → Except Exn String :=
  parseText "COM_STMT_PREPARE contains no SQL text" "COM_STMT_PREPARE contains invalid UTF-8"

def parseDatabaseName : Bytes → Except Exn String :=
  parseText "COM_INIT_DB contains no database name" "COM_INIT_DB contains invalid UTF-8"

def parseStatementId (commandPayload : Bytes) : Except Exn Nat :=
  if commandPayload.length < 4 then
    .error (.protocol ("MySQL prepared-statement command is missing " ++
      "its 4-byte statement id"))
  else .ok (leNat (commandPayload.take 4))

def parseStmtReset (commandPayload : Bytes) : Except Exn Nat :=
  if commandPayload.length ≠ 4 then
    .error (.protocol ("COM_STMT_RESET payload must contain exactly its " ++
      "4-byte statement id"))
  else .ok (leNat commandPayload)

structure StmtExecute where
  statementId : Nat
  flags : UInt8
  iterationCount : Nat
  parameterPayload : Bytes
  deriving DecidableEq, Repr

def parseStmtExecute (commandPayload : Bytes) : Except Exn StmtExecute :=
  match commandPayload with
  | i₀ :: i₁ :: i₂ :: i₃ :: flags :: c₀ :: c₁ :: c₂ :: c₃ :: parameterPayload =>
      .ok
        { statementId := leNat [i₀, i₁, i₂, i₃]
          flags := flags
          iterationCount := leNat [c₀, c₁, c₂, c₃]
          parameterPayload := parameterPayload }
  | _ => .error (.protocol "COM_STMT_EXECUTE payload is shorter than 9 bytes")

structure StmtLongData where
  statementId : Nat
  parameterId : Nat
  deriving DecidableEq, Repr

def parseStmtLongData (commandPayload : Bytes) : Except Exn StmtLongData :=
  if commandPayload.length < 6 then
    .error (.protocol "COM_STMT_SEND_LONG_DATA payload is shorter than 6 bytes")
  else .ok
    { statementId := leNat (commandPayload.take 4)
      parameterId := leNat ((commandPayload.drop 4).take 2) }

/-! ## Backend packets -/

/-- How many bytes follow the marker of a length-encoded integer. -/
def lenencSize (marker : UInt8) : Option Nat :=
  if marker < 0xFB then some 0
  else if marker = 0xFC then some 2
  else if marker = 0xFD then some 3
  else if marker = 0xFE then some 8
  else none

/-- A length-encoded integer and the bytes after it, with the texts of its failures. -/
def readLenenc (missing null truncated : String) (rest : Bytes) : Except Exn (Nat × Bytes) :=
  match rest with
  | [] => .error (.protocol missing)
  | marker :: rest =>
      match lenencSize marker with
      | none => .error (.protocol null)
      | some 0 => .ok (marker.toNat, rest)
      | some size =>
          match splitExactly size rest with
          | none => .error (.protocol truncated)
          | some (number, rest) => .ok (leNat number, rest)

def readPacketLengthEncodedInteger (fieldName : String) : Bytes → Except Exn (Nat × Bytes) :=
  readLenenc ("Backend packet is missing " ++ fieldName)
    ("Backend packet contains NULL for " ++ fieldName)
    ("Backend packet has truncated " ++ fieldName)

def parseOkPacketStatus (payload : Bytes) (capabilityFlags : Nat) : Except Exn Nat :=
  match payload with
  | [] => .error (.protocol "Backend packet is not an OK packet")
  | marker :: rest =>
      if marker ≠ 0x00 ∧ marker ≠ 0xFE then
        .error (.protocol "Backend packet is not an OK packet")
      else do
        let affectedRows ← readPacketLengthEncodedInteger "OK affected rows" rest
        let lastInsertId ← readPacketLengthEncodedInteger "OK last insert id" affectedRows.2
        if hasFlag capabilityFlags clientProtocol41 then
          if lastInsertId.2.length < 4 then
            .error (.protocol "Backend OK packet is missing status or warning fields")
          else return leNat (lastInsertId.2.take 2)
        else if hasFlag capabilityFlags clientTransactions then
          if lastInsertId.2.length < 2 then
            .error (.protocol "Backend OK packet is missing server status")
          else return leNat (lastInsertId.2.take 2)
        else .error (.protocol "Backend OK packet has no negotiated server-status field")

def parseEofPacketStatus (payload : Bytes) (capabilityFlags : Nat) : Except Exn Nat :=
  if payload.head? ≠ some 0xFE ∨ 9 ≤ payload.length then
    .error (.protocol "Backend packet is not an EOF packet")
  else if hasFlag capabilityFlags clientProtocol41 = false then
    .error (.protocol "Backend EOF packet has no negotiated server-status field")
  else if payload.length < 5 then
    .error (.protocol "Backend EOF packet is missing warning or status fields")
  else .ok (leNat ((payload.drop 3).take 2))

/-- The metadata indicator of a result-set header and the bytes after it. -/
def readMetadataIndicator (capabilityFlags : Nat) (rest : Bytes) : Except Exn (Bool × Bytes) :=
  if hasFlag capabilityFlags mariadbClientCacheMetadata then
    match rest with
    | [] => .error (.protocol "MariaDB result-set header is missing metadata indicator")
    | indicator :: rest =>
        if indicator ≠ 0 ∧ indicator ≠ 1 then
          .error (.protocol "MariaDB result-set metadata indicator must be 0 or 1")
        else .ok (indicator == 1, rest)
  else .ok (true, rest)

def parseResultsetHeader (payload : Bytes) (capabilityFlags : Nat) : Except Exn (Nat × Bool) := do
  let count ← readPacketLengthEncodedInteger "result-set column count" payload
  if count.1 = 0 then .error (.protocol "Backend result-set column count must be positive")
  else
    let indicator ← readMetadataIndicator capabilityFlags count.2
    if indicator.2 ≠ [] then
      .error (.protocol "Backend result-set header has unexpected trailing bytes")
    else return (count.1, indicator.1)

structure StmtPrepareOk where
  statementId : Nat
  columnCount : Nat
  parameterCount : Nat
  deriving DecidableEq, Repr

def parseStmtPrepareOk (backendPayload : Bytes) : Except Exn StmtPrepareOk :=
  if backendPayload.head? ≠ some 0x00 then
    .error (.protocol "Backend packet is not COM_STMT_PREPARE_OK")
  else if backendPayload.length < 12 then
    .error (.protocol "COM_STMT_PREPARE_OK packet is shorter than 12 bytes")
  else .ok
    { statementId := leNat ((backendPayload.drop 1).take 4)
      columnCount := leNat ((backendPayload.drop 5).take 2)
      parameterCount := leNat ((backendPayload.drop 7).take 2) }

/-! ## The client's handshake response -/

structure HandshakeResponse where
  capabilityFlags : Nat
  username : String
  database : Option String
  authPlugin : Option String
  isSslRequest : Bool
  deriving DecidableEq, Repr

def readNullTerminated (fieldName : String) (rest : Bytes) : Except Exn (Bytes × Bytes) :=
  match splitAtNul rest with
  | some parts => .ok parts
  | none => .error (.protocol
      ("MySQL handshake response " ++ fieldName ++ " is not null terminated"))

def handshakeText (decoded : Option String) (failure : String) : Except Exn String :=
  match decoded with
  | some text => .ok text
  | none => .error (.protocol failure)

/-- `bytes.decode("ascii")`. -/
def decodeAscii (bytes : Bytes) : Option String :=
  if bytes.all fun byte => byte < 128 then
    some (String.ofList (bytes.map fun byte => Char.ofNat byte.toNat))
  else none

/-- Skip `count` bytes of authentication data, all of which must be there. -/
def skipAuthData (count : Nat) (rest : Bytes) : Except Exn Bytes :=
  if rest.length < count then
    .error (.protocol "MySQL handshake response auth data is truncated")
  else .ok (rest.drop count)

def skipAuthResponse (capabilityFlags : Nat) (rest : Bytes) : Except Exn Bytes :=
  if hasFlag capabilityFlags clientPluginAuthLenencClientData then do
    let length ← readLenenc "MySQL handshake response is missing a length-encoded integer"
      "Unsupported NULL length-encoded value in handshake response"
      "Truncated length-encoded integer in handshake response" rest
    skipAuthData length.1 length.2
  else if hasFlag capabilityFlags clientSecureConnection then
    match rest with
    | [] => .error (.protocol "MySQL handshake response is missing auth-response length")
    | length :: rest => skipAuthData length.toNat rest
  else do
    let response ← readNullTerminated "auth response" rest
    return response.2

def readDatabase (capabilityFlags : Nat) (rest : Bytes) : Except Exn (Option String × Bytes) :=
  if hasFlag capabilityFlags clientConnectWithDb then do
    let name ← readNullTerminated "database" rest
    let text ← handshakeText (decodeUtf8 name.1)
      "MySQL handshake response database is not valid UTF-8"
    return (some text, name.2)
  else return (none, rest)

def readAuthPlugin (capabilityFlags : Nat) (rest : Bytes) : Except Exn (Option String) :=
  if hasFlag capabilityFlags clientPluginAuth ∧ rest ≠ [] then do
    let name ← readNullTerminated "auth plugin" rest
    let text ← handshakeText (decodeAscii name.1)
      "MySQL handshake response auth plugin is not ASCII"
    return some text
  else return none

def handshakeCapabilities (payload : Bytes) : Nat :=
  let flags := leNat (payload.take 4)
  if hasFlag flags clientMysql then flags
  else flags + leNat ((payload.drop 28).take 4) * 2 ^ 32

def parseHandshakeResponse (payload : Bytes) : Except Exn HandshakeResponse :=
  if payload.length < 32 then
    .error (.protocol "MySQL handshake response is shorter than 32 bytes")
  else
    let capabilityFlags := handshakeCapabilities payload
    if hasFlag capabilityFlags clientSsl ∧ payload.length = 32 then
      .ok
        { capabilityFlags := capabilityFlags
          username := ""
          database := none
          authPlugin := none
          isSslRequest := true }
    else do
      let user ← readNullTerminated "username" (payload.drop 32)
      let username ← handshakeText (decodeUtf8 user.1)
        "MySQL handshake response username is not valid UTF-8"
      let afterAuth ← skipAuthResponse capabilityFlags user.2
      let database ← readDatabase capabilityFlags afterAuth
      let authPlugin ← readAuthPlugin capabilityFlags database.2
      return {
        capabilityFlags := capabilityFlags
        username := username
        database := database.1
        authPlugin := authPlugin
        isSslRequest := false }

end SqlSafetyProxy.MySql

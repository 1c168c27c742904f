import SqlSafetyProxy.MySql.Protocol

/-!
# The grammar of backend responses

What the client/server protocol lets a backend send in answer to a command,
stated by the layout of the packets and independently of how the proxy reads
them.  Payloads are those of protocol 4.1.
-/

namespace SqlSafetyProxy.MySql

open SqlSafetyProxy.Wire SqlSafetyProxy.Runtime

/-! ## Packets -/

/-- A length-encoded integer and its bytes. -/
inductive Lenenc : Nat → Bytes → Prop where
  | one {byte : UInt8} : byte < 0xFB → Lenenc byte.toNat [byte]
  | two (b₀ b₁ : UInt8) : Lenenc (leNat [b₀, b₁]) [0xFC, b₀, b₁]
  | three (b₀ b₁ b₂ : UInt8) : Lenenc (leNat [b₀, b₁, b₂]) [0xFD, b₀, b₁, b₂]
  | eight {bytes : Bytes} : bytes.length = 8 → Lenenc (leNat bytes) (0xFE :: bytes)

/-- A length-encoded integer is read off the bytes before what follows it. -/
theorem readLenenc_append {value : Nat} {encoded : Bytes} (wellFormed : Lenenc value encoded)
    (missing null truncated : String) (rest : Bytes) :
    readLenenc missing null truncated (encoded ++ rest) = .ok (value, rest) := by
  cases wellFormed with
  | one small => simp [readLenenc, lenencSize, small]
  | two b₀ b₁ => simp [readLenenc, lenencSize, splitExactly]
  | three b₀ b₁ b₂ => simp [readLenenc, lenencSize, splitExactly]
  | @eight bytes eight =>
      have split : splitExactly 8 (bytes ++ rest) = some (bytes, rest) := by
        simp [splitExactly, eight, List.take_left' eight, List.drop_left' eight]
      simp [readLenenc, lenencSize, split]

/-- An OK packet with the given marker and server status. -/
inductive OkPacket (marker : UInt8) : Nat → Bytes → Prop where
  | mk {affectedRows lastInsertId : Nat} {affected insertId info : Bytes}
      (s₀ s₁ w₀ w₁ : UInt8) : Lenenc affectedRows affected → Lenenc lastInsertId insertId →
      OkPacket marker (leNat [s₀, s₁])
        (marker :: (affected ++ (insertId ++ s₀ :: s₁ :: w₀ :: w₁ :: info)))

/-- An EOF packet with the given server status. -/
inductive EofPacket : Nat → Bytes → Prop where
  | mk (w₀ w₁ s₀ s₁ : UInt8) : EofPacket (leNat [s₀, s₁]) [0xFE, w₀, w₁, s₀, s₁]

inductive ErrPacket : Bytes → Prop where
  | mk (rest : Bytes) : ErrPacket (0xFF :: rest)

/-- A column or parameter definition; it opens with a catalog name. -/
inductive Definition : Bytes → Prop where
  | mk {marker : UInt8} (rest : Bytes) : marker ≠ 0xFF → Definition (marker :: rest)

/-- A row: binary, or text whose first cell is NULL or a length-encoded string. -/
inductive Row : Bytes → Prop where
  | binary (rest : Bytes) : Row (0x00 :: rest)
  | null (rest : Bytes) : Row (0xFB :: rest)
  | text {size : Nat} {encoded cells : Bytes} : Lenenc size encoded →
      (encoded.head? = some 0xFE → 2 ^ 24 ≤ size) → size ≤ cells.length →
      Row (encoded ++ cells)

/-! ## Results -/

/-- The column count, and with the MariaDB flag whether the definitions follow. -/
inductive Header (flags : Nat) : Nat → Bool → Bytes → Prop where
  | plain {columns : Nat} {encoded : Bytes} : hasFlag flags mariadbClientCacheMetadata = false →
      0 < columns → Lenenc columns encoded → Header flags columns true encoded
  | indicated {columns : Nat} {encoded : Bytes} (follows : Bool) :
      hasFlag flags mariadbClientCacheMetadata = true → 0 < columns → Lenenc columns encoded →
      Header flags columns follows (encoded ++ [if follows then 1 else 0])

/-- The EOF between parts of a response, which newer clients do without. -/
def Separator (flags : Nat) (packets : List Bytes) : Prop :=
  if hasFlag flags clientDeprecateEof then packets = []
  else ∃ status payload, EofPacket status payload ∧ packets = [payload]

/--
The packet after the last row: an EOF, or an OK in its place.  A packet of
`maxPacketPayload` bytes or more that begins like it is a row.
-/
def Terminator (flags status : Nat) (payload : Bytes) : Prop :=
  if hasFlag flags clientDeprecateEof then
    OkPacket 0xFE status payload ∧ payload.length < maxPacketPayload
  else EofPacket status payload

/-- A result set up to its last row. -/
inductive ResultSet (flags : Nat) : List Bytes → Prop where
  | mk {columns : Nat} {follows : Bool} {header : Bytes}
      {definitions separator rows : List Bytes} : Header flags columns follows header →
      definitions.length = (if follows then columns else 0) →
      (∀ payload ∈ definitions, Definition payload) → Separator flags separator →
      (∀ payload ∈ rows, Row payload) →
      ResultSet flags (header :: (definitions ++ (separator ++ rows)))

def moreResults (status : Nat) : Bool := hasFlag status serverMoreResultsExists

/-- One result, and whether it announces another one. -/
inductive Result (flags : Nat) : Bool → List Bytes → Prop where
  | ok {status : Nat} {payload : Bytes} : OkPacket 0x00 status payload →
      Result flags (moreResults status) [payload]
  | error {payload : Bytes} : ErrPacket payload → Result flags false [payload]
  | rows {status : Nat} {packets : List Bytes} {payload : Bytes} : ResultSet flags packets →
      Terminator flags status payload → Result flags (moreResults status) (packets ++ [payload])
  | rowsError {packets : List Bytes} {payload : Bytes} : ResultSet flags packets →
      ErrPacket payload → Result flags false (packets ++ [payload])

/-- The response to a query or an execution. -/
inductive Results (flags : Nat) : List Bytes → Prop where
  | last {packets : List Bytes} : Result flags false packets → Results flags packets
  | more {packets rest : List Bytes} : Result flags true packets → Results flags rest →
      Results flags (packets ++ rest)

/-! ## Prepares and acknowledgments -/

/-- The first packet of a successful prepare. -/
inductive PrepareOkPacket : StmtPrepareOk → Bytes → Prop where
  | mk (i₀ i₁ i₂ i₃ c₀ c₁ p₀ p₁ filler w₀ w₁ : UInt8) (rest : Bytes) :
      PrepareOkPacket ⟨leNat [i₀, i₁, i₂, i₃], leNat [c₀, c₁], leNat [p₀, p₁]⟩
        (0x00 :: i₀ :: i₁ :: i₂ :: i₃ :: c₀ :: c₁ :: p₀ :: p₁ :: filler :: w₀ :: w₁ :: rest)

/-- As many definitions as announced, closed by a separator unless there are none. -/
inductive Definitions (flags count : Nat) : List Bytes → Prop where
  | none : count = 0 → Definitions flags count []
  | some {definitions separator : List Bytes} : count ≠ 0 → definitions.length = count →
      (∀ payload ∈ definitions, Definition payload) → Separator flags separator →
      Definitions flags count (definitions ++ separator)

/-- The metadata of the parameters, then of the columns. -/
inductive PrepareMetadata (flags : Nat) (prepared : StmtPrepareOk) : List Bytes → Prop where
  | mk {parameters columns : List Bytes} : Definitions flags prepared.parameterCount parameters →
      Definitions flags prepared.columnCount columns →
      PrepareMetadata flags prepared (parameters ++ columns)

/-- The response to a prepare: it may still fail amid the metadata. -/
inductive PrepareResponse (flags : Nat) : List Bytes → Prop where
  | ok {prepared : StmtPrepareOk} {payload : Bytes} {metadata : List Bytes} :
      PrepareOkPacket prepared payload → PrepareMetadata flags prepared metadata →
      PrepareResponse flags (payload :: metadata)
  | error {payload : Bytes} : ErrPacket payload → PrepareResponse flags [payload]
  | broken {prepared : StmtPrepareOk} {payload failure : Bytes} {metadata rest : List Bytes} :
      PrepareOkPacket prepared payload → PrepareMetadata flags prepared (metadata ++ rest) →
      rest ≠ [] → ErrPacket failure →
      PrepareResponse flags (payload :: (metadata ++ [failure]))

/-- The response to a command that is only acknowledged. -/
inductive Acknowledgment : List Bytes → Prop where
  | ok {status : Nat} {payload : Bytes} : OkPacket 0x00 status payload → Acknowledgment [payload]
  | error {payload : Bytes} : ErrPacket payload → Acknowledgment [payload]

end SqlSafetyProxy.MySql

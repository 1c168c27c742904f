import Mathlib.Data.Nat.Bitwise
import SqlSafetyProxy.MySql.Grammar
import SqlSafetyProxy.MySql.Parameters
import SqlSafetyProxy.Wire.Reader

/-!
# The format of execution parameters

The parameter payload of `COM_STMT_EXECUTE` as the protocol lays it out, stated
by the bytes that a client writes.  The decoder accepts exactly these payloads,
and gives back the values they were written from.
-/

namespace SqlSafetyProxy.MySql

open SqlSafetyProxy.Wire SqlSafetyProxy.Runtime

/-! ## The format -/

/-- `TINY`, `SHORT`, `YEAR`, `LONG`, `INT24` and `LONGLONG`, with the bytes of their values. -/
inductive IntegerType : UInt8 → Nat → Prop
  | tiny : IntegerType 0x01 1
  | short : IntegerType 0x02 2
  | year : IntegerType 0x0D 2
  | long : IntegerType 0x03 4
  | int24 : IntegerType 0x09 4
  | longlong : IntegerType 0x08 8

/-- `FLOAT` and `DOUBLE`. -/
inductive FloatType : UInt8 → Nat → Prop
  | single : FloatType 0x04 4
  | double : FloatType 0x05 8

/-- `VARCHAR`, `VAR_STRING`, `STRING` and `BIT`. -/
inductive StringType : UInt8 → Prop
  | varchar : StringType 0x0F
  | varString : StringType 0xFD
  | char : StringType 0xFE
  | bit : StringType 0x10

/-- The bits of finite numbers: a sign, an exponent that is not all ones, and a fraction. -/
inductive FiniteBits : Nat → Nat → Prop
  | single {sign exponent fraction : Nat} : sign < 2 → exponent < 0xFF → fraction < 2 ^ 23 →
      FiniteBits 4 (sign * 2 ^ 31 + exponent * 2 ^ 23 + fraction)
  | double {sign exponent fraction : Nat} : sign < 2 → exponent < 0x7FF → fraction < 2 ^ 52 →
      FiniteBits 8 (sign * 2 ^ 63 + exponent * 2 ^ 52 + fraction)

/-- The types whose values are decoded; only integers may be unsigned. -/
def Supported (metadata : ParameterType) : Prop :=
  (∃ size, IntegerType metadata.typeCode size) ∨
    metadata.unsigned = false ∧
      ((∃ size, FloatType metadata.typeCode size) ∨ metadata.typeCode = 0x06 ∨
        StringType metadata.typeCode)

/-- A value of a type and its bytes. -/
inductive ValueFormat (metadata : ParameterType) : ParameterValue → Bytes → Prop
  | integer {size : Nat} {value : Int} : IntegerType metadata.typeCode size →
      Fits size metadata.unsigned value →
      ValueFormat metadata (.integer value) (leInteger size value)
  | float {size bits : Nat} : metadata.unsigned = false →
      FloatType metadata.typeCode size → FiniteBits size bits →
      ValueFormat metadata (.float size bits) (lePack size bits)
  | bytes {value encoded : Bytes} : metadata.unsigned = false →
      StringType metadata.typeCode → Lenenc value.length encoded →
      ValueFormat metadata (.bytes value) (encoded ++ value)

/-- A parameter takes no bytes where the bitmap or its type says that it is NULL. -/
def ParameterFormat (nullBitmap : Bytes) (index : Nat) (metadata : ParameterType)
    (value : ParameterValue) (raw : Bytes) : Prop :=
  if isNullParameter nullBitmap index = true ∨ metadata.typeCode = mysqlTypeNull then
    value = .null ∧ raw = []
  else ValueFormat metadata value raw

/-- The values one after another, numbered from an index on. -/
inductive ValuesFormat (nullBitmap : Bytes) :
    Nat → List ParameterType → List ParameterValue → Bytes → Prop
  | nil {index : Nat} : ValuesFormat nullBitmap index [] [] []
  | cons {index : Nat} {metadata : ParameterType} {types : List ParameterType}
      {value : ParameterValue} {values : List ParameterValue} {raw rest : Bytes} :
      Supported metadata → ParameterFormat nullBitmap index metadata value raw →
      ValuesFormat nullBitmap (index + 1) types values rest →
      ValuesFormat nullBitmap index (metadata :: types) (value :: values) (raw ++ rest)

/-- Two bytes of metadata. -/
def typeBytes (metadata : ParameterType) : Bytes :=
  [metadata.typeCode, if metadata.unsigned then 0x80 else 0x00]

/-- The types are sent along, or they are those of an earlier execution. -/
inductive TypesFormat (previousTypes : Option (List ParameterType)) :
    UInt8 → List ParameterType → Bytes → Prop
  | sent (types : List ParameterType) :
      TypesFormat previousTypes 1 types (types.flatMap typeBytes)
  | stored {types : List ParameterType} : previousTypes = some types →
      TypesFormat previousTypes 0 types []

/-- The text that stands for a value in the reconstructed statement. -/
def sqlLiteralOf (tools : Tools) : ParameterValue → String
  | .integer value => toString value
  | .float size bits => tools.floatRepr size bits
  | .bytes value => hexLiteral value
  | .null => "NULL"

def decodedAs (tools : Tools) (metadata : ParameterType) (value : ParameterValue) :
    DecodedParameter :=
  ⟨metadata, value, sqlLiteralOf tools value⟩

/-- A payload for the given number of parameters, and what it says. -/
inductive PayloadFormat (tools : Tools) (previousTypes : Option (List ParameterType)) :
    Nat → Bytes → StmtExecuteParameters → Prop
  | none : PayloadFormat tools previousTypes 0 [] ⟨[], false, [], []⟩
  | some {count : Nat} {nullBitmap metadata raw : Bytes} {flag : UInt8}
      {types : List ParameterType} {values : List ParameterValue} : 0 < count →
      nullBitmap.length = (count + 7) / 8 →
      (∀ index, count ≤ index → isNullParameter nullBitmap index = false) →
      types.length = count → TypesFormat previousTypes flag types metadata →
      ValuesFormat nullBitmap 0 types values raw →
      PayloadFormat tools previousTypes count (nullBitmap ++ flag :: (metadata ++ raw))
        ⟨nullBitmap, flag == 1, types, List.zipWith (decodedAs tools) types values⟩

/-! ## Values are read exactly -/

theorem exact_takeStmtBytes (size index : Nat) :
    Exact (takeStmtBytes size index) (fun value raw => raw = value ∧ value.length = size) := by
  intro input value rest
  unfold takeStmtBytes
  constructor
  · intro taken
    split at taken
    · next parts found =>
        cases taken
        obtain ⟨long, split⟩ := splitExactly_eq_some.mp found
        exact ⟨value, ⟨rfl, long⟩, split⟩
    · cases taken
  · rintro ⟨raw, ⟨rfl, long⟩, split⟩
    rw [splitExactly_eq_some.mpr ⟨long, split⟩]

/-- A length is its marker, or the number after the marker. -/
theorem lenenc_iff {size : Nat} {encoded : Bytes} : Lenenc size encoded ↔
    ∃ marker number, encoded = marker :: number ∧
      (lenencSize marker = some 0 ∧ number = [] ∧ size = marker.toNat ∨
        ∃ width, width ≠ 0 ∧ lenencSize marker = some width ∧ number.length = width ∧
          size = leNat number) := by
  constructor
  · intro wellFormed
    cases wellFormed with
    | @one byte small => exact ⟨byte, [], rfl, .inl ⟨by simp [lenencSize, small], rfl, rfl⟩⟩
    | two b₀ b₁ => exact ⟨0xFC, _, rfl, .inr ⟨2, by decide, rfl, rfl, rfl⟩⟩
    | three b₀ b₁ b₂ => exact ⟨0xFD, _, rfl, .inr ⟨3, by decide, rfl, rfl, rfl⟩⟩
    | eight eight => exact ⟨0xFE, _, rfl, .inr ⟨8, by decide, rfl, eight, rfl⟩⟩
  · rintro ⟨marker, number, rfl, ⟨short, rfl, rfl⟩ | ⟨width, positive, wide, long, rfl⟩⟩
    · unfold lenencSize at short
      split at short
      · next small => exact .one small
      · grind
    · unfold lenencSize at wide
      split at wide
      · grind
      · split at wide
        · next two =>
            cases wide
            obtain ⟨b₀, b₁, rfl⟩ := List.length_eq_two.mp long
            exact two ▸ .two b₀ b₁
        · split at wide
          · next three =>
              cases wide
              obtain ⟨b₀, b₁, b₂, rfl⟩ := List.length_eq_three.mp long
              exact three ▸ .three b₀ b₁ b₂
          · split at wide
            · next eight =>
                cases wide
                exact eight ▸ .eight long
            · cases wide

/-- What follows a marker of length-encoded bytes. -/
def AfterMarker (marker : UInt8) (value raw : Bytes) : Prop :=
  match lenencSize marker with
  | none => False
  | some 0 => raw = value ∧ value.length = marker.toNat
  | some width => ∃ number, number.length = width ∧ value.length = leNat number ∧
      raw = number ++ value

theorem exact_readStmtLenencBytes (index : Nat) :
    Exact (readStmtLenencBytes index)
      (fun value raw => ∃ encoded, Lenenc value.length encoded ∧ raw = encoded ++ value) := by
  have afterMarker : ∀ marker, Exact (fun rest => match lenencSize marker with
      | none => .error (.protocol ("COM_STMT_EXECUTE length-encoded parameter cannot use " ++
          "marker " ++ hexCode marker ++ s!" for parameter {index}"))
      | some 0 => takeStmtBytes marker.toNat index rest
      | some width => do
          let size ← takeStmtBytes width index rest
          takeStmtBytes (leNat size.1) index size.2) (AfterMarker marker) := by
    intro marker
    unfold AfterMarker
    split
    · exact .fail _
    · exact exact_takeStmtBytes _ _
    · next width _ _ =>
        refine ((exact_takeStmtBytes width index).bind fun number =>
          exact_takeStmtBytes (leNat number) index).congr fun value raw => ?_
        constructor
        · rintro ⟨number, front, back, ⟨rfl, long⟩, ⟨rfl, size⟩, rfl⟩
          exact ⟨_, long, size, rfl⟩
        · rintro ⟨number, long, size, rfl⟩
          exact ⟨number, number, value, ⟨rfl, long⟩, ⟨rfl, size⟩, rfl⟩
  have reads : Exact (readStmtLenencBytes index) (fun value raw => ∃ marker back,
      AfterMarker marker value back ∧ raw = marker :: back) := by
    intro input value rest
    cases input with
    | nil => exact Exact.byte _ afterMarker [] value rest
    | cons marker input =>
        exact Exact.byte (.protocol "") afterMarker (marker :: input) value rest
  refine reads.congr fun value raw => ?_
  simp only [lenenc_iff, AfterMarker]
  constructor
  · rintro ⟨marker, back, meets, rfl⟩
    split at meets
    · cases meets
    · next short => exact ⟨[marker], ⟨marker, [], rfl, .inl ⟨short, rfl, meets.2⟩⟩, by simp [meets.1]⟩
    · next width positive wide =>
        obtain ⟨number, long, size, rfl⟩ := meets
        exact ⟨marker :: number, ⟨marker, number, rfl, .inr ⟨width, positive, wide, long, size⟩⟩, rfl⟩
  · rintro ⟨encoded, ⟨marker, number, rfl, ⟨short, rfl, size⟩ | ⟨width, positive, wide, long, size⟩⟩,
      rfl⟩
    · exact ⟨marker, value, by simp [short, size], rfl⟩
    · refine ⟨marker, number ++ value, ?_, rfl⟩
      rw [wide]
      split
      · next missing => cases missing
      · next isZero => exact absurd (Option.some.inj isZero) positive
      · next same => exact ⟨number, long.trans (Option.some.inj same), size, rfl⟩

/-! ### The tables of the decoder -/

theorem integerSize_iff {typeCode : UInt8} {size : Nat} :
    integerSize typeCode = some size ↔ IntegerType typeCode size := by
  constructor
  · intro known
    unfold integerSize at known
    repeat' split at known
    · next same => cases known; rw [same]; exact .tiny
    · next same =>
      cases known
      rcases same with rfl | rfl
      · exact .short
      · exact .year
    · next same =>
      cases known
      rcases same with rfl | rfl
      · exact .long
      · exact .int24
    · next same => cases known; rw [same]; exact .longlong
    · cases known
  · intro isInteger
    cases isInteger <;> rfl

theorem floatSize_iff {typeCode : UInt8} {size : Nat} :
    floatSize typeCode = some size ↔ FloatType typeCode size := by
  constructor
  · intro known
    unfold floatSize at known
    repeat' split at known
    · next same => cases known; rw [same]; exact .single
    · next same => cases known; rw [same]; exact .double
    · cases known
  · intro isFloat
    cases isFloat <;> rfl

theorem isStringType_iff {typeCode : UInt8} :
    isStringType typeCode = true ↔ StringType typeCode := by
  constructor
  · intro known
    simp only [isStringType, List.contains_cons, List.contains_nil, Bool.or_false,
      Bool.or_eq_true, beq_iff_eq] at known
    rcases known with rfl | rfl | rfl | rfl
    · exact .varchar
    · exact .varString
    · exact .char
    · exact .bit
  · intro isString
    cases isString <;> rfl

theorem isFinite_iff {typeCode : UInt8} {size bits : Nat} (isFloat : FloatType typeCode size) :
    FiniteBits size bits ↔ bits < 256 ^ size ∧ isFinite size bits = true := by
  cases isFloat with
  | single =>
      constructor
      · rintro ⟨sign, exponent, fraction⟩
        simp only [isFinite, if_true, bne_iff_ne]
        omega
      · rintro ⟨small, finite⟩
        simp only [isFinite, if_true, bne_iff_ne] at finite
        have parts := @FiniteBits.single (bits / 2 ^ 31) (bits / 2 ^ 23 % 2 ^ 8) (bits % 2 ^ 23)
          (by omega) (by omega) (by omega)
        have same : bits / 2 ^ 31 * 2 ^ 31 + bits / 2 ^ 23 % 2 ^ 8 * 2 ^ 23 + bits % 2 ^ 23 =
            bits := by omega
        rwa [same] at parts
  | double =>
      constructor
      · rintro (_ | ⟨sign, exponent, fraction⟩)
        simp only [isFinite, Nat.reduceEqDiff, if_false, bne_iff_ne]
        omega
      · rintro ⟨small, finite⟩
        simp only [isFinite, Nat.reduceEqDiff, if_false, bne_iff_ne] at finite
        have parts := @FiniteBits.double (bits / 2 ^ 63) (bits / 2 ^ 52 % 2 ^ 11) (bits % 2 ^ 52)
          (by omega) (by omega) (by omega)
        have same : bits / 2 ^ 63 * 2 ^ 63 + bits / 2 ^ 52 % 2 ^ 11 * 2 ^ 52 + bits % 2 ^ 52 =
            bits := by omega
        rwa [same] at parts

theorem IntegerType.pos {typeCode : UInt8} {size : Nat} (isInteger : IntegerType typeCode size) :
    0 < size := by
  cases isInteger <;> decide

theorem IntegerType.unique {typeCode : UInt8} {size other : Nat}
    (isInteger : IntegerType typeCode size) (again : IntegerType typeCode other) :
    size = other := by
  have known := integerSize_iff.mpr again
  rw [integerSize_iff.mpr isInteger] at known
  exact Option.some.inj known

theorem FloatType.unique {typeCode : UInt8} {size other : Nat}
    (isFloat : FloatType typeCode size) (again : FloatType typeCode other) : size = other := by
  have known := floatSize_iff.mpr again
  rw [floatSize_iff.mpr isFloat] at known
  exact Option.some.inj known

theorem IntegerType.alone {typeCode : UInt8} {size : Nat} (isInteger : IntegerType typeCode size) :
    (∀ other, ¬ FloatType typeCode other) ∧ ¬ StringType typeCode := by
  constructor
  · intro other isFloat
    cases isInteger <;> cases isFloat
  · intro isString
    cases isInteger <;> cases isString

theorem FloatType.alone {typeCode : UInt8} {size : Nat} (isFloat : FloatType typeCode size) :
    ¬ StringType typeCode := by
  intro isString
  cases isFloat <;> cases isString

theorem noInteger_of_none {typeCode : UInt8} (none_ : integerSize typeCode = none) (size : Nat) :
    ¬ IntegerType typeCode size := by
  intro isInteger
  rw [integerSize_iff.mpr isInteger] at none_
  cases none_

theorem noFloat_of_none {typeCode : UInt8} (none_ : floatSize typeCode = none) (size : Nat) :
    ¬ FloatType typeCode size := by
  intro isFloat
  rw [floatSize_iff.mpr isFloat] at none_
  cases none_

variable {metadata : ParameterType} {value : ParameterValue} {raw : Bytes} {size : Nat}

theorem valueFormat_integer (known : IntegerType metadata.typeCode size) :
    ValueFormat metadata value raw ↔
      raw.length = size ∧ value = .integer (integerOf metadata.unsigned raw) := by
  constructor
  · intro format
    cases format with
    | integer known' fits =>
        obtain rfl := known.unique known'
        rw [length_leInteger, integerOf_leInteger known.pos fits]
        exact ⟨rfl, rfl⟩
    | float _ float => exact absurd float (known.alone.1 _)
    | bytes _ string => exact absurd string known.alone.2
  · rintro ⟨rfl, rfl⟩
    have some_ : raw ≠ [] := List.ne_nil_of_length_pos known.pos
    have format := ValueFormat.integer known (@integerOf_fits raw metadata.unsigned some_)
    rwa [leInteger_integerOf] at format

theorem valueFormat_float (known : FloatType metadata.typeCode size) :
    ValueFormat metadata value raw ↔ metadata.unsigned = false ∧ raw.length = size ∧
      isFinite size (leNat raw) = true ∧ value = .float size (leNat raw) := by
  constructor
  · intro format
    cases format with
    | integer integer => exact absurd known (integer.alone.1 _)
    | float plain known' bits =>
        obtain rfl := known.unique known'
        obtain ⟨small, finite⟩ := (isFinite_iff known).mp bits
        rw [length_lePack, leNat_lePack, Nat.mod_eq_of_lt small]
        exact ⟨plain, rfl, finite, rfl⟩
    | bytes _ string => exact absurd string known.alone
  · rintro ⟨plain, rfl, finite, rfl⟩
    have format := ValueFormat.float plain known ((isFinite_iff known).mpr ⟨leNat_lt raw, finite⟩)
    rwa [lePack_leNat] at format

theorem valueFormat_bytes (none_ : integerSize metadata.typeCode = none)
    (noFloat : floatSize metadata.typeCode = none) :
    ValueFormat metadata value raw ↔ metadata.unsigned = false ∧
      isStringType metadata.typeCode = true ∧ ∃ bytes encoded, value = .bytes bytes ∧
        Lenenc bytes.length encoded ∧ raw = encoded ++ bytes := by
  rw [isStringType_iff]
  constructor
  · intro format
    cases format with
    | integer integer => exact absurd integer (noInteger_of_none none_ _)
    | float _ float => exact absurd float (noFloat_of_none noFloat _)
    | bytes plain string lenenc => exact ⟨plain, string, _, _, rfl, lenenc, rfl⟩
  · rintro ⟨plain, string, bytes, encoded, rfl, lenenc, rfl⟩
    exact .bytes plain string lenenc

/-- Only integers are unsigned. -/
theorem ValueFormat.plain (format : ValueFormat metadata value raw)
    (none_ : integerSize metadata.typeCode = none) : metadata.unsigned = false := by
  cases format with
  | integer integer => exact absurd integer (noInteger_of_none none_ _)
  | float plain => exact plain
  | bytes plain => exact plain

/-- A single value is accepted exactly in the format of its type. -/
theorem exact_decodeStmtParameter (tools : Tools) (index : Nat) (metadata : ParameterType) :
    Exact (decodeStmtParameter tools index metadata)
      (fun decoded raw => ∃ value, ValueFormat metadata value raw ∧
        decoded = decodedAs tools metadata value) := by
  unfold decodeStmtParameter
  cases known : integerSize metadata.typeCode with
  | some size =>
      simp only [valueFormat_integer (integerSize_iff.mp known)]
      refine ((exact_takeStmtBytes size index).map fun raw =>
        decodedAs tools metadata (.integer (integerOf metadata.unsigned raw))).congr ?_
      intro decoded raw
      constructor
      · rintro ⟨bytes, ⟨rfl, long⟩, rfl⟩
        exact ⟨_, ⟨long, rfl⟩, rfl⟩
      · rintro ⟨value, ⟨long, rfl⟩, rfl⟩
        exact ⟨raw, ⟨rfl, long⟩, rfl⟩
  | none =>
      cases plain : metadata.unsigned with
      | true =>
          refine (Exact.fail _).congr fun decoded raw => iff_of_false id ?_
          rintro ⟨value, format, -⟩
          exact absurd (format.plain known) (by simp [plain])
      | false =>
          cases float : floatSize metadata.typeCode with
          | some size =>
              simp only [valueFormat_float (floatSize_iff.mp float)]
              have checked : ∀ raw, Exact
                  (fun rest => if isFinite size (leNat raw) = true
                    then .ok (decodedAs tools metadata (.float size (leNat raw)), rest)
                    else .error (Exn.protocol ("COM_STMT_EXECUTE floating-point parameter " ++
                      s!"{index} is not finite")))
                  (fun decoded back => if isFinite size (leNat raw) = true
                    then decoded = decodedAs tools metadata (.float size (leNat raw)) ∧ back = []
                    else False) :=
                fun raw => .ite (fun _ => .pure _) fun _ => .fail _
              refine ((exact_takeStmtBytes size index).bind checked).congr fun decoded raw => ?_
              constructor
              · rintro ⟨bytes, front, back, ⟨rfl, long⟩, accepted, rfl⟩
                split at accepted
                · next finite =>
                    obtain ⟨rfl, rfl⟩ := accepted
                    rw [List.append_nil]
                    exact ⟨_, ⟨plain, long, finite, rfl⟩, rfl⟩
                · cases accepted
              · rintro ⟨value, ⟨-, long, finite, rfl⟩, rfl⟩
                exact ⟨raw, raw, [], ⟨rfl, long⟩, by rw [if_pos finite]; exact ⟨rfl, rfl⟩,
                  (List.append_nil raw).symm⟩
          | none =>
              simp only [valueFormat_bytes known float]
              refine (Exact.ite
                (fun _ => (exact_readStmtLenencBytes index).map fun bytes =>
                  decodedAs tools metadata (.bytes bytes))
                fun _ => .fail _).congr fun decoded raw => ?_
              split
              · next string =>
                  constructor
                  · rintro ⟨bytes, ⟨encoded, lenenc, rfl⟩, rfl⟩
                    exact ⟨_, ⟨plain, string, bytes, encoded, rfl, lenenc, rfl⟩, rfl⟩
                  · rintro ⟨value, ⟨-, -, bytes, encoded, rfl, lenenc, rfl⟩, rfl⟩
                    exact ⟨bytes, ⟨encoded, lenenc, rfl⟩, rfl⟩
              · next string =>
                  refine iff_of_false id ?_
                  rintro ⟨value, ⟨-, isString, -⟩, -⟩
                  exact string isString

theorem exact_decodeOrNull (tools : Tools) (nullBitmap : Bytes) (index : Nat)
    (metadata : ParameterType) :
    Exact (decodeOrNull tools nullBitmap index metadata)
      (fun decoded raw => ∃ value, ParameterFormat nullBitmap index metadata value raw ∧
        decoded = decodedAs tools metadata value) := by
  refine (Exact.ite (fun _ => .pure (decodedAs tools metadata .null))
    fun _ => exact_decodeStmtParameter tools index metadata).congr fun decoded raw => ?_
  unfold ParameterFormat
  split
  · constructor
    · rintro ⟨rfl, rfl⟩
      exact ⟨.null, ⟨rfl, rfl⟩, rfl⟩
    · rintro ⟨value, ⟨rfl, rfl⟩, rfl⟩
      exact ⟨rfl, rfl⟩
  · exact Iff.rfl

theorem validate_ok_iff {index : Nat} :
    validateStmtParameterType index metadata = .ok () ↔ Supported metadata := by
  have isInteger : (∃ size, IntegerType metadata.typeCode size) ↔
      (integerSize metadata.typeCode).isSome = true := by
    simp only [← integerSize_iff, Option.isSome_iff_exists]
  have isFloat : (∃ size, FloatType metadata.typeCode size) ↔
      (floatSize metadata.typeCode).isSome = true := by
    simp only [← floatSize_iff, Option.isSome_iff_exists]
  rw [Supported, isInteger, isFloat, ← isStringType_iff]
  unfold validateStmtParameterType
  cases integerSize metadata.typeCode with
  | some size => simp
  | none =>
      cases metadata.unsigned with
      | true => simp
      | false => by_cases known : (floatSize metadata.typeCode).isSome ∨
            metadata.typeCode = mysqlTypeNull ∨ isStringType metadata.typeCode = true <;>
          simp_all [mysqlTypeNull]

/-- Any number of parameters is accepted exactly in the format. -/
theorem exact_decodeStmtParameters (tools : Tools) (nullBitmap : Bytes)
    (types : List ParameterType) (index : Nat) :
    Exact (decodeStmtParameters tools nullBitmap index types)
      (fun decoded raw => ∃ values, ValuesFormat nullBitmap index types values raw ∧
        decoded = List.zipWith (decodedAs tools) types values) := by
  induction types generalizing index with
  | nil =>
      refine (Exact.pure []).congr fun decoded raw => ?_
      constructor
      · rintro ⟨rfl, rfl⟩
        exact ⟨[], .nil, rfl⟩
      · rintro ⟨values, format, rfl⟩
        cases format
        exact ⟨rfl, rfl⟩
  | cons metadata types ih =>
      have step : decodeStmtParameters tools nullBitmap index (metadata :: types) = fun input =>
          validateStmtParameterType index metadata >>= fun _ =>
            decodeOrNull tools nullBitmap index metadata input >>= fun first =>
              decodeStmtParameters tools nullBitmap (index + 1) types first.2 >>= fun others =>
                .ok (first.1 :: others.1, others.2) := rfl
      rw [step]
      cases valid : validateStmtParameterType index metadata with
      | error error =>
          refine (Exact.fail error).congr fun decoded raw => iff_of_false id ?_
          rintro ⟨values, format, rfl⟩
          cases format with
          | cons supported =>
              rw [validate_ok_iff.mpr supported] at valid
              cases valid
      | ok checked =>
          have reads := (exact_decodeOrNull tools nullBitmap index metadata).bind fun first =>
            (ih (index + 1)).map fun others => first :: others
          refine reads.congr fun decoded raw => ?_
          constructor
          · rintro ⟨_, front, back, ⟨value, one, rfl⟩, ⟨_, ⟨values, format, rfl⟩, rfl⟩, rfl⟩
            exact ⟨value :: values, .cons (validate_ok_iff.mp valid) one format, rfl⟩
          · rintro ⟨values, format, rfl⟩
            cases format with
            | cons supported one others =>
                exact ⟨_, _, _, ⟨_, one, rfl⟩, ⟨_, ⟨_, others, rfl⟩, rfl⟩, rfl⟩

/-! ## The whole payload -/

theorem parseParameterType_ok_iff {index : Nat} {typeCode flags : UInt8} :
    parseParameterType index typeCode flags = .ok metadata ↔
      typeBytes metadata = [typeCode, flags] := by
  obtain ⟨code, isUnsigned⟩ := metadata
  unfold parseParameterType typeBytes
  have small := flags.toNat_lt
  constructor
  · intro parsed
    split at parsed
    · cases parsed
    · next plain =>
        cases parsed
        have flag : (if flags.toNat = 0x80 then (0x80 : UInt8) else 0x00) = flags := by
          apply UInt8.toNat_inj.mp
          split
          · next set => exact set.symm
          · next unset =>
              show 0 = flags.toNat
              omega
        simpa using flag
  · intro bytes
    simp only [List.cons.injEq, and_true] at bytes
    obtain ⟨rfl, rfl⟩ := bytes
    cases isUnsigned with
    | true => simp
    | false => simp

theorem exact_parseParameterTypes (count index : Nat) :
    Exact (parseParameterTypes index count)
      (fun types raw => types.length = count ∧ raw = types.flatMap typeBytes) := by
  induction count generalizing index with
  | zero =>
      refine (Exact.pure []).congr fun types raw => ?_
      constructor
      · rintro ⟨rfl, rfl⟩
        exact ⟨rfl, rfl⟩
      · rintro ⟨none_, rfl⟩
        rw [List.length_eq_zero_iff.mp none_]
        exact ⟨rfl, rfl⟩
  | succ count ih =>
      intro input types rest
      constructor
      · intro parsed
        match input, parsed with
        | typeCode :: flags :: input, parsed =>
            obtain ⟨first, one, parsed⟩ := bind_ok parsed
            obtain ⟨others, found, parsed⟩ := bind_ok parsed
            cases parsed
            obtain ⟨raw, ⟨rfl, rfl⟩, rfl⟩ := (ih _ _ _ _).mp found
            refine ⟨typeBytes first ++ others.1.flatMap typeBytes, ⟨rfl, rfl⟩, ?_⟩
            rw [parseParameterType_ok_iff.mp one]
            rfl
      · rintro ⟨raw, ⟨long, rfl⟩, rfl⟩
        cases types with
        | nil => cases long
        | cons first others =>
            have one : parseParameterType index first.typeCode
                (if first.unsigned then 0x80 else 0x00) = .ok first :=
              parseParameterType_ok_iff.mpr rfl
            have found := (ih (index + 1) (others.flatMap typeBytes ++ rest) others rest).mpr
              ⟨_, ⟨Nat.succ.inj long, rfl⟩, rfl⟩
            change (parseParameterType index _ _ >>= _) = _
            rw [one]
            change (parseParameterTypes (index + 1) count
              (others.flatMap typeBytes ++ rest) >>= _) = _
            rw [found]
            rfl

theorem flatMap_typeBytes_length (types : List ParameterType) :
    (types.flatMap typeBytes).length = types.length * 2 := by
  induction types with
  | nil => rfl
  | cons first others ih =>
      rw [List.flatMap_cons, List.length_append, ih, List.length_cons, typeBytes]
      simp only [List.length_cons, List.length_nil]
      omega

theorem typesFormat_sent {previousTypes : Option (List ParameterType)}
    {types : List ParameterType} :
    TypesFormat previousTypes 1 types raw ↔ raw = types.flatMap typeBytes := by
  constructor
  · rintro ⟨⟩
    rfl
  · rintro rfl
    exact .sent types

theorem typesFormat_stored {previousTypes : Option (List ParameterType)}
    {types : List ParameterType} :
    TypesFormat previousTypes 0 types raw ↔ previousTypes = some types ∧ raw = [] := by
  constructor
  · intro format
    cases format with
    | stored known => exact ⟨known, rfl⟩
  · rintro ⟨known, rfl⟩
    exact .stored known

theorem exact_chooseTypes (count : Nat) (previousTypes : Option (List ParameterType))
    {flag : UInt8} (binary : flag = 0 ∨ flag = 1) :
    Exact (chooseTypes count (flag == 1) previousTypes)
      (fun types raw => types.length = count ∧ TypesFormat previousTypes flag types raw) := by
  rcases binary with rfl | rfl
  · simp only [typesFormat_stored]
    unfold chooseTypes
    cases previousTypes with
    | none =>
        refine (Exact.fail _).congr fun types raw => iff_of_false id ?_
        rintro ⟨-, ⟨⟩, -⟩
    | some stored =>
        refine (Exact.ite (fun _ => .fail _) fun _ => .pure stored).congr fun types raw => ?_
        split
        · next differs =>
            refine iff_of_false id ?_
            rintro ⟨long, ⟨⟩, -⟩
            exact differs long
        · next same =>
            constructor
            · rintro ⟨rfl, rfl⟩
              exact ⟨not_not.mp same, rfl, rfl⟩
            · rintro ⟨-, known, rfl⟩
              cases known
              exact ⟨rfl, rfl⟩
  · simp only [typesFormat_sent]
    intro input types rest
    show (if input.length < count * 2 then _ else _) = _ ↔ _
    split
    · next short =>
        refine iff_of_false (by rintro ⟨⟩) ?_
        rintro ⟨raw, ⟨long, rfl⟩, rfl⟩
        rw [List.length_append, flatMap_typeBytes_length, long] at short
        omega
    · exact exact_parseParameterTypes count 0 input types rest

/-- The bits of the last byte that are checked are those of no parameter. -/
theorem bitmap_ok_iff {count : Nat} {nullBitmap : Bytes} (positive : 0 < count)
    (long : nullBitmap.length = (count + 7) / 8) :
    ¬ (count % 8 ≠ 0 ∧ (nullBitmap.getLast?.getD 0).toNat / 2 ^ (count % 8) ≠ 0) ↔
      ∀ index, count ≤ index → isNullParameter nullBitmap index = false := by
  have beyond : ∀ index, nullBitmap.length ≤ index / 8 → isNullParameter nullBitmap index = false := by
    intro index large
    rw [isNullParameter, List.getD_eq_default _ _ large]
    exact Nat.zero_testBit _
  by_cases whole : count % 8 = 0
  · refine iff_of_true (fun rest => rest.1 whole) fun index large => beyond index ?_
    omega
  · have last : nullBitmap.getLast?.getD 0 = nullBitmap.getD (count / 8) 0 := by
      rw [List.getLast?_eq_getElem?, List.getD_eq_getElem?_getD]
      congr 2
      omega
    simp only [whole, ne_eq, not_false_eq_true, true_and, not_not, last]
    constructor
    · intro clear index large
      by_cases inside : index / 8 = count / 8
      · rw [isNullParameter, inside]
        refine Nat.testBit_lt_two_pow (Nat.lt_of_lt_of_le ?_ (Nat.pow_le_pow_right (by decide)
          (by omega : count % 8 ≤ index % 8)))
        exact (Nat.div_eq_zero_iff_lt (Nat.two_pow_pos _)).mp clear
      · exact beyond index (by omega)
    · intro clear
      refine (Nat.div_eq_zero_iff_lt (Nat.two_pow_pos _)).mpr (Nat.lt_pow_two_of_testBit _ ?_)
      intro bit large
      by_cases inside : bit < 8
      · have unset := clear (count / 8 * 8 + bit) (by omega)
        rw [isNullParameter] at unset
        rwa [show (count / 8 * 8 + bit) / 8 = count / 8 by omega,
          show (count / 8 * 8 + bit) % 8 = bit by omega] at unset
      · refine Nat.testBit_lt_two_pow (Nat.lt_of_lt_of_le (UInt8.toNat_lt _) ?_)
        exact Nat.pow_le_pow_right (by decide) (by omega)

theorem parseBoundParameters_ok_iff {tools : Tools} {count : Nat}
    {previousTypes : Option (List ParameterType)} {nullBitmap rest : Bytes} {flag : UInt8}
    {decoded : StmtExecuteParameters} :
    parseBoundParameters tools count previousTypes nullBitmap flag rest = .ok decoded ↔
      ∃ types values metadata raw, types.length = count ∧
        TypesFormat previousTypes flag types metadata ∧
        ValuesFormat nullBitmap 0 types values raw ∧ rest = metadata ++ raw ∧
        decoded = ⟨nullBitmap, flag == 1, types,
          List.zipWith (decodedAs tools) types values⟩ := by
  unfold parseBoundParameters
  split
  · next other =>
      refine iff_of_false (by rintro ⟨⟩) ?_
      rintro ⟨types, values, metadata, raw, -, format, -⟩
      cases format with
      | sent => exact other.2 rfl
      | stored => exact other.1 rfl
  · next binary =>
      have binary : flag = 0 ∨ flag = 1 := by
        by_cases zero : flag = 0
        · exact .inl zero
        · exact .inr (not_not.mp fun one => binary ⟨zero, one⟩)
      have reads := exact_chooseTypes count previousTypes binary
      constructor
      · intro parsed
        obtain ⟨types, chosen, parsed⟩ := bind_ok parsed
        obtain ⟨found, values, parsed⟩ := bind_ok parsed
        split at parsed
        · cases parsed
        · next finished =>
            cases parsed
            obtain ⟨metadata, ⟨long, typesFormat⟩, rfl⟩ := (reads _ _ _).mp chosen
            obtain ⟨raw, ⟨values, valuesFormat, isDecoded⟩, split⟩ :=
              (exact_decodeStmtParameters tools nullBitmap types.1 0 _ _ _).mp values
            rw [not_not.mp finished, List.append_nil] at split
            rw [split, isDecoded]
            exact ⟨_, _, _, _, long, typesFormat, valuesFormat, rfl, rfl⟩
      · rintro ⟨types, values, metadata, raw, long, typesFormat, valuesFormat, rfl, rfl⟩
        have chosen := (reads (metadata ++ raw) types raw).mpr ⟨_, ⟨long, typesFormat⟩, rfl⟩
        have found := (exact_decodeStmtParameters tools nullBitmap types 0 raw _ []).mpr
          ⟨raw, ⟨values, valuesFormat, rfl⟩, (List.append_nil raw).symm⟩
        rw [chosen]
        change (decodeStmtParameters tools nullBitmap 0 types raw >>= _) = _
        rw [found]
        rfl

/-- What follows the bitmap and the flag. -/
theorem payloadFormat_iff {tools : Tools} {count : Nat}
    {previousTypes : Option (List ParameterType)} {payload : Bytes}
    {decoded : StmtExecuteParameters} (positive : 0 < count) :
    PayloadFormat tools previousTypes count payload decoded ↔
      ∃ nullBitmap flag rest, nullBitmap.length = (count + 7) / 8 ∧
        payload = nullBitmap ++ flag :: rest ∧
        (∀ index, count ≤ index → isNullParameter nullBitmap index = false) ∧
        parseBoundParameters tools count previousTypes nullBitmap flag rest = .ok decoded := by
  simp only [parseBoundParameters_ok_iff]
  constructor
  · intro format
    cases format with
    | none => exact absurd positive (by decide)
    | some _ bitmap unset long types values =>
        exact ⟨_, _, _, bitmap, rfl, unset, _, _, _, _, long, types, values, rfl, rfl⟩
  · rintro ⟨nullBitmap, flag, rest, bitmap, rfl, unset, types, values, metadata, raw, long,
      typesFormat, valuesFormat, rfl, rfl⟩
    exact .some positive bitmap unset long typesFormat valuesFormat

/-- The decoder accepts exactly the payloads of the format, with the fields of the header. -/
theorem parseStmtExecuteParameters_ok_iff {tools : Tools} {execution : StmtExecute} {count : Nat}
    {previousTypes : Option (List ParameterType)} {decoded : StmtExecuteParameters} :
    parseStmtExecuteParameters tools execution count previousTypes = .ok decoded ↔
      execution.iterationCount = 1 ∧ execution.flags ∈ [0, 1, 2, 4] ∧
        PayloadFormat tools previousTypes count execution.parameterPayload decoded := by
  unfold parseStmtExecuteParameters
  split
  · next other => exact iff_of_false (by rintro ⟨⟩) fun accepted => other accepted.1
  · next once =>
    split
    · next other =>
        refine iff_of_false (by rintro ⟨⟩) fun accepted => other ?_
        exact List.contains_iff_mem.mpr accepted.2.1
    · next known =>
      have known : execution.flags ∈ [0, 1, 2, 4] := List.contains_iff_mem.mp (not_not.mp known)
      simp only [not_not.mp once, known, true_and]
      generalize execution.parameterPayload = payload
      split
      · next none_ =>
          subst none_
          split
          · next trailing =>
              refine iff_of_false (by rintro ⟨⟩) fun format => ?_
              cases format with
              | none => exact trailing rfl
              | some positive => exact absurd positive (by decide)
          · next empty =>
              rw [not_not.mp empty]
              constructor
              · rintro ⟨⟩
                exact .none
              · intro format
                generalize isEmpty : ([] : Bytes) = payload at format
                cases format with
                | none => rfl
                | some positive => exact absurd positive (by decide)
      · next some_ =>
          rw [payloadFormat_iff (Nat.pos_of_ne_zero some_)]
          split
          · next short =>
              refine iff_of_false (by rintro ⟨⟩) ?_
              rintro ⟨nullBitmap, flag, rest, long, rfl, -⟩
              rw [← long, List.drop_left] at short
              cases short
          · next flag rest split_ =>
              have long : (payload.take ((count + 7) / 8)).length = (count + 7) / 8 := by
                have remaining := congrArg List.length split_
                rw [List.length_drop, List.length_cons] at remaining
                exact List.length_take_of_le (by omega)
              have whole : payload = payload.take ((count + 7) / 8) ++ flag :: rest := by
                rw [← split_, List.take_append_drop]
              have bitmap := bitmap_ok_iff (Nat.pos_of_ne_zero some_) long
              split
              · next set =>
                  refine iff_of_false (by rintro ⟨⟩) ?_
                  rintro ⟨nullBitmap, flag', rest', long', split', clear, -⟩
                  obtain ⟨rfl, -⟩ := List.append_inj (whole.symm.trans split') (long.trans long'.symm)
                  exact bitmap.mpr clear set
              · next unset =>
                  constructor
                  · exact fun parsed => ⟨_, flag, rest, long, whole, bitmap.mp unset, parsed⟩
                  · rintro ⟨nullBitmap, flag', rest', long', split', -, parsed⟩
                    obtain ⟨rfl, same⟩ :=
                      List.append_inj (whole.symm.trans split') (long.trans long'.symm)
                    cases same
                    exact parsed

/-! ## Every other payload is a protocol error -/

open RaisesProtocol

theorem raisesProtocol_takeStmtBytes (size index : Nat) (rest : Bytes) :
    RaisesProtocol (takeStmtBytes size index rest) := by
  unfold takeStmtBytes
  split
  · exact .ok _
  · exact .protocol _

theorem raisesProtocol_readStmtLenencBytes (index : Nat) (rest : Bytes) :
    RaisesProtocol (readStmtLenencBytes index rest) := by
  unfold readStmtLenencBytes
  split
  · exact .protocol _
  · split
    · exact .protocol _
    · exact raisesProtocol_takeStmtBytes _ _ _
    · exact .bind (raisesProtocol_takeStmtBytes _ _ _) fun _ =>
        raisesProtocol_takeStmtBytes _ _ _

theorem raisesProtocol_decodeStmtParameter (tools : Tools) (index : Nat)
    (metadata : ParameterType) (rest : Bytes) :
    RaisesProtocol (decodeStmtParameter tools index metadata rest) := by
  unfold decodeStmtParameter
  split
  · exact .bind (raisesProtocol_takeStmtBytes _ _ _) fun _ => .ok _
  · refine .ite (.protocol _) ?_
    split
    · exact .bind (raisesProtocol_takeStmtBytes _ _ _) fun _ => .ite (.ok _) (.protocol _)
    · exact .ite (.bind (raisesProtocol_readStmtLenencBytes _ _) fun _ => .ok _) (.protocol _)

theorem raisesProtocol_decodeStmtParameters (tools : Tools) (nullBitmap : Bytes)
    (types : List ParameterType) (index : Nat) (rest : Bytes) :
    RaisesProtocol (decodeStmtParameters tools nullBitmap index types rest) := by
  induction types generalizing index rest with
  | nil => exact .ok _
  | cons metadata types ih =>
      refine .bind ?_ fun _ => .bind ?_ fun _ => .bind (ih _ _) fun _ => .ok _
      · exact .ite (.protocol _) (.ite (.ok _) (.protocol _))
      · exact .ite (.ok _) (raisesProtocol_decodeStmtParameter _ _ _ _)

theorem raisesProtocol_parseParameterTypes (count index : Nat) (rest : Bytes) :
    RaisesProtocol (parseParameterTypes index count rest) := by
  fun_induction parseParameterTypes index count rest with
  | case1 => exact .ok _
  | case2 index count typeCode flags rest ih =>
      exact .bind (.ite (.protocol _) (.ok _)) fun _ => .bind ih fun _ => .ok _
  | case3 => exact .protocol _

theorem raisesProtocol_chooseTypes (count : Nat) (newParamsBound : Bool)
    (previousTypes : Option (List ParameterType)) (rest : Bytes) :
    RaisesProtocol (chooseTypes count newParamsBound previousTypes rest) := by
  refine .ite (.ite (.protocol _) (raisesProtocol_parseParameterTypes _ _ _)) ?_
  split
  · exact .protocol _
  · exact .ite (.protocol _) (.ok _)

theorem raisesProtocol_parseStmtExecuteParameters (tools : Tools) (execution : StmtExecute)
    (count : Nat) (previousTypes : Option (List ParameterType)) :
    RaisesProtocol (parseStmtExecuteParameters tools execution count previousTypes) := by
  refine .ite (.protocol _) (.ite (.protocol _) (.ite (.ite (.protocol _) (.ok _)) ?_))
  dsimp only
  split
  · exact .protocol _
  · refine .ite (.protocol _) (.ite (.protocol _) ?_)
    exact .bind (raisesProtocol_chooseTypes _ _ _ _) fun _ =>
      .bind (raisesProtocol_decodeStmtParameters _ _ _ _ _) fun _ => .ite (.protocol _) (.ok _)

/-! ## Encoding -/

/-- The bytes of a length. -/
def encodeLenenc (size : Nat) : Bytes :=
  if size < 0xFB then [UInt8.ofNat size]
  else if size < 256 ^ 2 then 0xFC :: lePack 2 size
  else if size < 256 ^ 3 then 0xFD :: lePack 3 size
  else 0xFE :: lePack 8 size

/-- The bytes of a value of the given type. -/
def encodeValue (metadata : ParameterType) : ParameterValue → Bytes
  | .integer value => leInteger ((integerSize metadata.typeCode).getD 0) value
  | .float size bits => lePack size bits
  | .bytes value => encodeLenenc value.length ++ value
  | .null => []

/-- The values that a parameter of a type can have: NULL, or one of the type's own. -/
def Encodable (metadata : ParameterType) (value : ParameterValue) : Prop :=
  Supported metadata ∧
    (value = .null ∨ metadata.typeCode ≠ mysqlTypeNull ∧ ∃ raw, ValueFormat metadata value raw)

/-- One bit for each parameter, eight to a byte, set where it is NULL. -/
def nullBitmapOf (values : List ParameterValue) : Bytes :=
  (List.range ((values.length + 7) / 8)).map fun byte : Nat =>
    UInt8.ofNat (Nat.ofBits fun bit : Fin 8 => values[8 * byte + bit.val]? == some .null)

/-- The payload of an execution, with or without the types. -/
def encodeParameters (sendTypes : Bool) (parameters : List (ParameterType × ParameterValue)) :
    Bytes :=
  if parameters = [] then []
  else
    nullBitmapOf (parameters.map Prod.snd) ++ (if sendTypes then 1 else 0) ::
      ((if sendTypes then (parameters.map Prod.fst).flatMap typeBytes else []) ++
        parameters.flatMap fun parameter => encodeValue parameter.1 parameter.2)

theorem lenenc_encode {size : Nat} (small : size < 256 ^ 8) : Lenenc size (encodeLenenc size) := by
  have packed : ∀ {width}, size < 256 ^ width → leNat (lePack width size) = size := fun below => by
    rw [leNat_lePack, Nat.mod_eq_of_lt below]
  rw [lenenc_iff, encodeLenenc]
  split
  · next short =>
      have fits : size % 256 = size := Nat.mod_eq_of_lt (by omega)
      refine ⟨_, [], rfl, .inl ⟨?_, rfl, ?_⟩⟩
      · rw [lenencSize, if_pos]
        rw [UInt8.lt_iff_toNat_lt, toNat_ofNat_byte, fits]
        exact short
      · rw [toNat_ofNat_byte, fits]
  · split
    · next two => exact ⟨_, _, rfl, .inr ⟨2, by decide, rfl, length_lePack _ _, (packed two).symm⟩⟩
    · split
      · next three =>
          exact ⟨_, _, rfl, .inr ⟨3, by decide, rfl, length_lePack _ _, (packed three).symm⟩⟩
      · exact ⟨_, _, rfl, .inr ⟨8, by decide, rfl, length_lePack _ _, (packed small).symm⟩⟩

theorem lenenc_small {size : Nat} {encoded : Bytes} (lenenc : Lenenc size encoded) :
    size < 256 ^ 8 := by
  cases lenenc with
  | one => exact Nat.lt_trans (UInt8.toNat_lt _) (by decide)
  | two b₀ b₁ => exact Nat.lt_trans (leNat_lt [b₀, b₁]) (show 256 ^ 2 < 256 ^ 8 by decide)
  | three b₀ b₁ b₂ => exact Nat.lt_trans (leNat_lt [b₀, b₁, b₂]) (show 256 ^ 3 < 256 ^ 8 by decide)
  | @eight bytes eight => exact eight ▸ leNat_lt bytes

/-- The encoder writes the format. -/
theorem ValueFormat.encode (format : ValueFormat metadata value raw) :
    ValueFormat metadata value (encodeValue metadata value) := by
  cases format with
  | integer known fits =>
      rw [encodeValue, integerSize_iff.mpr known]
      exact .integer known fits
  | float plain known finite => exact .float plain known finite
  | bytes plain string lenenc => exact .bytes plain string (lenenc_encode (lenenc_small lenenc))

theorem ValueFormat.ne_null (format : ValueFormat metadata value raw) : value ≠ .null := by
  rintro rfl
  cases format

theorem isNullParameter_nullBitmapOf (values : List ParameterValue) (index : Nat) :
    isNullParameter (nullBitmapOf values) index = (values[index]? == some .null) := by
  rw [isNullParameter, nullBitmapOf, List.getD_eq_getElem?_getD, List.getElem?_map]
  by_cases inside : index / 8 < (values.length + 7) / 8
  · have small : Nat.ofBits (fun bit : Fin 8 =>
        values[8 * (index / 8) + bit.val]? == some .null) % 256 = Nat.ofBits _ :=
      Nat.mod_eq_of_lt (Nat.ofBits_lt_two_pow _)
    rw [List.getElem?_range inside, Option.map_some, Option.getD_some, toNat_ofNat_byte, small,
      Nat.testBit_ofBits_lt _ _ (Nat.mod_lt _ (by decide))]
    rw [show 8 * (index / 8) + index % 8 = index by omega]
  · rw [List.getElem?_eq_none (by simpa using inside), List.getElem?_eq_none (by omega)]
    exact Nat.zero_testBit _

theorem parameterFormat_encode {nullBitmap : Bytes} {index : Nat}
    (encodable : Encodable metadata value)
    (marked : isNullParameter nullBitmap index = (value == .null)) :
    ParameterFormat nullBitmap index metadata value (encodeValue metadata value) := by
  rw [ParameterFormat, marked]
  obtain ⟨-, rfl | ⟨typed, raw, format⟩⟩ := encodable
  · rw [if_pos (.inl (by decide))]
    exact ⟨rfl, rfl⟩
  · rw [if_neg]
    · exact format.encode
    · rintro (null | null)
      · exact format.ne_null (eq_of_beq null)
      · exact typed null

theorem valuesFormat_encode {nullBitmap : Bytes} {parameters : List (ParameterType × ParameterValue)}
    {index : Nat} (encodable : ∀ parameter ∈ parameters, Encodable parameter.1 parameter.2)
    (marked : ∀ offset, isNullParameter nullBitmap (index + offset) =
      ((parameters.map Prod.snd)[offset]? == some .null)) :
    ValuesFormat nullBitmap index (parameters.map Prod.fst) (parameters.map Prod.snd)
      (parameters.flatMap fun parameter => encodeValue parameter.1 parameter.2) := by
  induction parameters generalizing index with
  | nil => exact .nil
  | cons parameter parameters ih =>
      have first := encodable parameter List.mem_cons_self
      refine .cons first.1 (parameterFormat_encode first (marked 0)) (ih ?_ ?_)
      · exact fun other inside => encodable other (List.mem_cons_of_mem _ inside)
      · intro offset
        rw [Nat.add_assoc, Nat.add_comm 1]
        exact marked (offset + 1)

/-- Decoding undoes encoding. -/
theorem decode_encodeParameters {tools : Tools} {execution : StmtExecute}
    {previousTypes : Option (List ParameterType)} {sendTypes : Bool}
    {parameters : List (ParameterType × ParameterValue)}
    (encodable : ∀ parameter ∈ parameters, Encodable parameter.1 parameter.2)
    (once : execution.iterationCount = 1) (known : execution.flags ∈ [0, 1, 2, 4])
    (stored : sendTypes = false → previousTypes = some (parameters.map Prod.fst))
    (encoded : execution.parameterPayload = encodeParameters sendTypes parameters) :
    ∃ decoded, parseStmtExecuteParameters tools execution parameters.length previousTypes =
        .ok decoded ∧
      decoded.parameters = parameters.map fun parameter => decodedAs tools parameter.1 parameter.2 := by
  simp only [parseStmtExecuteParameters_ok_iff, once, known, true_and, encoded]
  by_cases none_ : parameters = []
  · subst none_
    exact ⟨_, .none, rfl⟩
  · have positive := List.length_pos_of_ne_nil none_
    have marked := isNullParameter_nullBitmapOf (parameters.map Prod.snd)
    have bitmap : (nullBitmapOf (parameters.map Prod.snd)).length =
        (parameters.length + 7) / 8 := by simp [nullBitmapOf]
    have unset : ∀ index, parameters.length ≤ index →
        isNullParameter (nullBitmapOf (parameters.map Prod.snd)) index = false := by
      intro index large
      rw [marked, List.getElem?_eq_none (by simpa using large)]
      rfl
    have values := @valuesFormat_encode (nullBitmapOf (parameters.map Prod.snd)) parameters 0 encodable
      fun offset => by rw [Nat.zero_add, marked]
    have types : TypesFormat previousTypes (if sendTypes then 1 else 0) (parameters.map Prod.fst)
        (if sendTypes then (parameters.map Prod.fst).flatMap typeBytes else []) := by
      cases sendTypes with
      | true => exact .sent _
      | false => exact .stored (stored rfl)
    rw [encodeParameters, if_neg none_]
    refine ⟨_, .some positive bitmap unset (List.length_map _) types values, ?_⟩
    rw [List.zipWith_map, List.zipWith_self]

/-- The decoder accepts its format, fails with a protocol error elsewhere, and inverts encoding. -/
theorem parameters_decodeExactly (tools : Tools) (execution : StmtExecute) (count : Nat)
    (previousTypes : Option (List ParameterType)) :
    (∀ decoded, parseStmtExecuteParameters tools execution count previousTypes = .ok decoded ↔
      execution.iterationCount = 1 ∧ execution.flags ∈ [0, 1, 2, 4] ∧
        PayloadFormat tools previousTypes count execution.parameterPayload decoded) ∧
    (∀ error, parseStmtExecuteParameters tools execution count previousTypes = .error error →
      ∃ reason, error = .protocol reason) ∧
    ∀ (sendTypes : Bool) (parameters : List (ParameterType × ParameterValue)),
      (∀ parameter ∈ parameters, Encodable parameter.1 parameter.2) →
      execution.iterationCount = 1 → execution.flags ∈ [0, 1, 2, 4] →
      (sendTypes = false → previousTypes = some (parameters.map Prod.fst)) →
      execution.parameterPayload = encodeParameters sendTypes parameters →
      ∃ decoded, parseStmtExecuteParameters tools execution parameters.length previousTypes =
          .ok decoded ∧
        decoded.parameters =
          parameters.map fun parameter => decodedAs tools parameter.1 parameter.2 :=
  ⟨fun _ => parseStmtExecuteParameters_ok_iff,
    raisesProtocol_parseStmtExecuteParameters tools execution count previousTypes,
    fun _ _ encodable once known stored encoded =>
      decode_encodeParameters encodable once known stored encoded⟩

end SqlSafetyProxy.MySql

import SqlSafetyProxy.Postgres.Protocol
import SqlSafetyProxy.Wire.Reader

/-!
# Formats of the extended-query messages

What a payload of each message consists of.  The parsers accept exactly these
payloads, and return the message that a payload is of.
-/

namespace SqlSafetyProxy.Postgres

open SqlSafetyProxy.Wire SqlSafetyProxy.Runtime

/-! ## Fields -/

def encodeCString (text : String) : Bytes := encodeUtf8 text ++ [0]

/-- A text that can be sent with a NUL behind it. -/
def NulFree (text : String) : Prop := 0 ∉ encodeUtf8 text

instance (text : String) : Decidable (NulFree text) :=
  inferInstanceAs (Decidable (0 ∉ encodeUtf8 text))

/-- The greatest count that a 16-bit signed field can hold. -/
def maxCount : Nat := 32767

def encodeCount (count : Nat) : Bytes := bePack 2 count

/-- The length of a parameter value and the value; `NULL` has the length -1. -/
def encodeParamValue : Option Bytes → Bytes
  | none => bePack 4 (2 ^ 32 - 1)
  | some value => bePack 4 value.length ++ value

def Sendable (value : Option Bytes) : Prop := ∀ bytes ∈ value, bytes.length < 2 ^ 31

/-- Text or binary. -/
def IsFormatCode (code : Int) : Prop := code = 0 ∨ code = 1

def encodeFormatCode (code : Int) : Bytes := bePack 2 code.toNat

/-- A number of format codes, each of them text or binary, and the codes. -/
def encodeFormatCodes (codes : List Int) : Bytes :=
  encodeCount codes.length ++ codes.flatMap encodeFormatCode

def FormatCodes (codes : List Int) : Prop :=
  codes.length ≤ maxCount ∧ ∀ code ∈ codes, IsFormatCode code

/-- No format code stands for text, and one for all parameters. -/
inductive Expands (count : Nat) : List Int → List Int → Prop
  | none : Expands count [] (List.replicate count 0)
  | all (code : Int) : Expands count [code] (List.replicate count code)
  | each {codes : List Int} : codes.length = count → Expands count codes codes

/-! ## Messages -/

inductive ParseFormat : ParseMessage → Bytes → Prop
  | mk {message : ParseMessage} {count : Nat} {oids : Bytes} :
      NulFree message.statementName → NulFree message.query → count ≤ maxCount →
      oids.length = count * 4 →
      ParseFormat message (encodeCString message.statementName ++ (encodeCString message.query ++
        (encodeCount count ++ oids)))

inductive BindFormat : BindMessage → Bytes → Prop
  | mk {message : BindMessage} {codes : List Int} :
      NulFree message.portalName → NulFree message.statementName → FormatCodes codes →
      message.paramValues.length ≤ maxCount → (∀ value ∈ message.paramValues, Sendable value) →
      FormatCodes message.resultFormatCodes →
      Expands message.paramValues.length codes message.formatCodes →
      BindFormat message (encodeCString message.portalName ++
        (encodeCString message.statementName ++ (encodeFormatCodes codes ++
          (encodeCount message.paramValues.length ++
            (message.paramValues.flatMap encodeParamValue ++
              encodeFormatCodes message.resultFormatCodes)))))

inductive ExecuteFormat : ExecuteMessage → Bytes → Prop
  | mk {message : ExecuteMessage} {limit : Nat} : NulFree message.portalName →
      message.maxRows = limit → limit < 2 ^ 31 →
      ExecuteFormat message (encodeCString message.portalName ++ bePack 4 limit)

def CloseTarget.byte : CloseTarget → UInt8
  | .statement => 0x53
  | .portal => 0x50

inductive CloseFormat : CloseMessage → Bytes → Prop
  | mk {message : CloseMessage} : NulFree message.name →
      CloseFormat message (message.targetType.byte :: encodeCString message.name)

/-! ## The readers of the fields -/

theorem exact_readCString :
    Exact readCString fun text raw => NulFree text ∧ raw = encodeCString text := by
  intro input text rest
  have read : readCString input = .ok (text, rest) ↔
      ∃ bytes, splitAtNul input = some (bytes, rest) ∧ decodeUtf8 bytes = some text := by
    unfold readCString
    cases input with
    | nil =>
        refine iff_of_false (by rintro ⟨⟩) ?_
        rintro ⟨bytes, ⟨⟩, -⟩
    | cons byte input =>
        dsimp only
        cases found : splitAtNul (byte :: input) with
        | none =>
            refine iff_of_false (by rintro ⟨⟩) ?_
            rintro ⟨bytes, ⟨⟩, -⟩
        | some parts =>
            obtain ⟨bytes, behind⟩ := parts
            dsimp only
            cases decoded : decodeUtf8 bytes with
            | none =>
                refine iff_of_false (by rintro ⟨⟩) ?_
                rintro ⟨other, same, decodes⟩
                cases same
                rw [decoded] at decodes
                cases decodes
            | some value =>
                constructor
                · rintro ⟨⟩
                  exact ⟨bytes, rfl, decoded⟩
                · rintro ⟨other, same, decodes⟩
                  cases same
                  rw [decoded] at decodes
                  cases decodes
                  rfl
  rw [read]
  constructor
  · rintro ⟨bytes, found, decoded⟩
    obtain ⟨clean, split⟩ := splitAtNul_eq_some.mp found
    rw [decodeUtf8_eq_some] at decoded
    subst decoded
    exact ⟨_, ⟨clean, rfl⟩, by rw [split, encodeCString, List.append_assoc]; rfl⟩
  · rintro ⟨raw, ⟨clean, rfl⟩, rfl⟩
    refine ⟨encodeUtf8 text, splitAtNul_eq_some.mpr ⟨clean, ?_⟩, decodeUtf8_encodeUtf8 text⟩
    rw [encodeCString, List.append_assoc]
    rfl

theorem exact_require (size : Nat) (context : String) :
    Exact (require size context) fun bytes raw => bytes.length = size ∧ raw = bytes := by
  intro input bytes rest
  unfold require
  cases found : splitExactly size input with
  | none =>
      refine iff_of_false (by rintro ⟨⟩) ?_
      rintro ⟨raw, ⟨long, rfl⟩, split⟩
      rw [splitExactly_eq_some.mpr ⟨long, split⟩] at found
      cases found
  | some parts =>
      constructor
      · rintro ⟨⟩
        obtain ⟨long, split⟩ := splitExactly_eq_some.mp found
        exact ⟨bytes, ⟨long, rfl⟩, split⟩
      · rintro ⟨raw, ⟨long, rfl⟩, split⟩
        rw [splitExactly_eq_some.mpr ⟨long, split⟩] at found
        cases found
        rfl

theorem exact_readInt (size : Nat) (context : String) :
    Exact (readInt size context) fun value raw => raw.length = size ∧ value = beInt raw := by
  refine ((exact_require size context).map beInt).congr fun value raw => ?_
  constructor
  · rintro ⟨bytes, ⟨long, rfl⟩, rfl⟩
    exact ⟨long, rfl⟩
  · rintro ⟨long, rfl⟩
    exact ⟨raw, ⟨long, rfl⟩, rfl⟩

theorem exact_readCount (context : String) :
    Exact (readCount context) fun count raw => count ≤ maxCount ∧ raw = encodeCount count := by
  have reads := (exact_readInt 2 context).bind fun value =>
    Exact.ite (fun _ => Exact.fail (Exn.protocol (context ++ " cannot be negative")))
      (fun _ : ¬ value < 0 => Exact.pure value.toNat)
  refine reads.congr fun count raw => ?_
  constructor
  · rintro ⟨value, front, back, ⟨long, rfl⟩, found, rfl⟩
    split at found
    · exact found.elim
    · next nonneg =>
        obtain ⟨rfl, rfl⟩ := found
        obtain ⟨fits, packed⟩ := beInt_eq_natCast.mp
          (Int.toNat_of_nonneg (Int.not_lt.mp nonneg)).symm
        rw [long] at fits packed
        exact ⟨Nat.le_of_lt_succ fits, by rw [List.append_nil]; exact packed⟩
  · rintro ⟨small, rfl⟩
    have read : beInt (encodeCount count) = count := beInt_bePack (Nat.lt_succ_of_le small)
    refine ⟨_, encodeCount count, [], ⟨length_bePack 2 count, rfl⟩, ?_,
      (List.append_nil _).symm⟩
    rw [read, if_neg (Int.not_lt.mpr (Int.natCast_nonneg count))]
    exact ⟨(Int.toNat_natCast count).symm, rfl⟩

theorem encodeFormatCode_iff {bytes : Bytes} {code : Int} (long : bytes.length = 2) :
    beInt bytes = code ∧ IsFormatCode code ↔
      bytes = encodeFormatCode code ∧ IsFormatCode code := by
  refine and_congr_left fun isCode => ?_
  obtain ⟨value, rfl⟩ : ∃ value : Nat, code = value := by
    rcases isCode with rfl | rfl
    · exact ⟨0, rfl⟩
    · exact ⟨1, rfl⟩
  have small : value < 2 ^ (8 * 2 - 1) := by
    rcases isCode with isCode | isCode <;> omega
  rw [beInt_eq_natCast, long, encodeFormatCode, Int.toNat_natCast, and_iff_right small]

theorem pairs_eq {count : Nat} {bytes : Bytes} {codes : List Int}
    (long : bytes.length = count * 2) :
    formatCodesOf.pairs bytes = codes ∧ (∀ code ∈ codes, IsFormatCode code) ↔
      codes.length = count ∧ bytes = codes.flatMap encodeFormatCode ∧
        ∀ code ∈ codes, IsFormatCode code := by
  induction count generalizing bytes codes with
  | zero =>
      rw [List.length_eq_zero_iff.mp (long.trans (Nat.zero_mul 2))]
      constructor
      · rintro ⟨rfl, -⟩
        exact ⟨rfl, rfl, fun _ inside => absurd inside List.not_mem_nil⟩
      · rintro ⟨none_, -, -⟩
        rw [List.length_eq_zero_iff.mp none_]
        exact ⟨rfl, fun _ inside => absurd inside List.not_mem_nil⟩
  | succ count ih =>
      match bytes, long with
      | [_], long =>
          simp only [List.length_cons, List.length_nil] at long
          omega
      | high :: low :: bytes, long =>
          replace long : bytes.length = count * 2 := by
            simp only [List.length_cons] at long
            omega
          cases codes with
          | nil =>
              refine iff_of_false ?_ ?_
              · rintro ⟨⟨⟩, -⟩
              · rintro ⟨⟨⟩, -⟩
          | cons code codes =>
              have first := @encodeFormatCode_iff [high, low] code rfl
              rw [formatCodesOf.pairs, List.cons.injEq, List.forall_mem_cons,
                List.length_cons, Nat.succ_inj, List.flatMap_cons]
              constructor
              · rintro ⟨⟨one, others⟩, isCode, areCodes⟩
                obtain ⟨size, packed, -⟩ := (ih long).mp ⟨others, areCodes⟩
                refine ⟨size, ?_, isCode, areCodes⟩
                rw [← packed, ← (first.mp ⟨one, isCode⟩).1]
                rfl
              · rintro ⟨size, packed, isCode, areCodes⟩
                have packed : [high, low] ++ bytes =
                    encodeFormatCode code ++ codes.flatMap encodeFormatCode := packed
                obtain ⟨front, back⟩ :=
                  List.append_inj packed (length_bePack 2 code.toNat).symm
                exact ⟨⟨(first.mpr ⟨front, isCode⟩).1, ((ih long).mpr ⟨size, back, areCodes⟩).1⟩,
                  isCode, areCodes⟩

theorem formatCodesOf_eq_ok {context : String} {count : Nat} {bytes : Bytes} {codes : List Int}
    (long : bytes.length = count * 2) :
    formatCodesOf context bytes = .ok codes ↔
      codes.length = count ∧ bytes = codes.flatMap encodeFormatCode ∧
        ∀ code ∈ codes, IsFormatCode code := by
  have all : (formatCodesOf.pairs bytes).all (fun code => code = 0 || code = 1) = true ↔
      ∀ code ∈ formatCodesOf.pairs bytes, IsFormatCode code := by
    simp only [List.all_eq_true, Bool.or_eq_true, decide_eq_true_eq, IsFormatCode]
  rw [← pairs_eq long, formatCodesOf]
  split
  · next valid =>
      constructor
      · rintro ⟨⟩
        exact ⟨rfl, all.mp valid⟩
      · rintro ⟨rfl, -⟩
        rfl
  · next invalid =>
      refine iff_of_false (by rintro ⟨⟩) ?_
      rintro ⟨rfl, areCodes⟩
      exact invalid (all.mpr areCodes)

/-- One parameter value is read exactly. -/
theorem exact_readParamValues (count : Nat) :
    Exact (readParamValues count) fun values raw => values.length = count ∧
      (∀ value ∈ values, Sendable value) ∧ raw = values.flatMap encodeParamValue := by
  induction count with
  | zero =>
      refine (Exact.pure []).congr fun values raw => ?_
      constructor
      · rintro ⟨rfl, rfl⟩
        exact ⟨rfl, fun _ inside => absurd inside List.not_mem_nil, rfl⟩
      · rintro ⟨none_, -, rfl⟩
        rw [List.length_eq_zero_iff.mp none_]
        exact ⟨rfl, rfl⟩
  | succ count ih =>
      have null := ih.map fun later => none :: later
      have value := fun size => (exact_require size "Bind parameter value").bind fun bytes =>
        ih.map fun later => some bytes :: later
      have reads := (exact_readInt 4 "Bind parameter length").bind fun length =>
        Exact.ite (fun _ : length = -1 => null) fun _ =>
          Exact.ite (fun _ : length < -1 =>
              Exact.fail (Exn.protocol "Bind parameter length is invalid"))
            fun _ => value length.toNat
      refine reads.congr fun values raw => ?_
      constructor
      · rintro ⟨length, front, back, ⟨long, rfl⟩, found, rfl⟩
        split at found
        · next isNull =>
            obtain ⟨later, ⟨size, sendable, rfl⟩, rfl⟩ := found
            have packed := (beInt_eq_minus_one (List.ne_nil_of_length_eq_add_one long)).mp isNull
            rw [long] at packed
            exact ⟨congrArg Nat.succ size, List.forall_mem_cons.mpr ⟨by rintro _ ⟨⟩, sendable⟩,
              by rw [packed]; rfl⟩
        split at found
        · exact found.elim
        · next noNull valid =>
            obtain ⟨bytes, front', back', ⟨size', rfl⟩, ⟨later, ⟨size, sendable, rfl⟩, rfl⟩, rfl⟩ :=
              found
            have nonneg : 0 ≤ beInt front := by omega
            obtain ⟨fits, packed⟩ := beInt_eq_natCast.mp (Int.toNat_of_nonneg nonneg).symm
            rw [long] at fits packed
            rw [← size'] at fits packed
            refine ⟨congrArg Nat.succ size, List.forall_mem_cons.mpr ⟨?_, sendable⟩, ?_⟩
            · rintro _ ⟨⟩
              exact fits
            · rw [packed, List.flatMap_cons, encodeParamValue, List.append_assoc]
      · rintro ⟨size, sendable, rfl⟩
        cases values with
        | nil => cases size
        | cons value values =>
            obtain ⟨sends, sendable⟩ := List.forall_mem_cons.mp sendable
            have later : values.length = count ∧ (∀ value ∈ values, Sendable value) ∧
                values.flatMap encodeParamValue = values.flatMap encodeParamValue :=
              ⟨Nat.succ.inj size, sendable, rfl⟩
            cases value with
            | none =>
                have isNull : beInt (bePack 4 (2 ^ 32 - 1)) = -1 := by decide
                refine ⟨_, bePack 4 (2 ^ 32 - 1), values.flatMap encodeParamValue,
                  ⟨length_bePack _ _, rfl⟩, ?_, rfl⟩
                rw [isNull, if_pos rfl]
                exact ⟨values, later, rfl⟩
            | some bytes =>
                have read : beInt (bePack 4 bytes.length) = bytes.length :=
                  beInt_bePack (sends bytes rfl)
                refine ⟨_, bePack 4 bytes.length, bytes ++ values.flatMap encodeParamValue,
                  ⟨length_bePack _ _, rfl⟩, ?_, by
                    rw [List.flatMap_cons, encodeParamValue, List.append_assoc]⟩
                rw [read, if_neg (by omega), if_neg (by omega), Int.toNat_natCast]
                exact ⟨bytes, bytes, values.flatMap encodeParamValue, ⟨rfl, rfl⟩,
                  ⟨values, later, rfl⟩, rfl⟩

theorem resolveFormatCodes_eq_ok {codes resolved : List Int} {count : Nat} :
    resolveFormatCodes codes count = .ok resolved ↔ Expands count codes resolved := by
  unfold resolveFormatCodes
  split
  · constructor
    · rintro ⟨⟩
      exact .none
    · rintro (_ | _ | ⟨⟨⟩⟩)
      · rfl
      · rfl
  · next code =>
    constructor
    · rintro ⟨⟩
      exact .all code
    · rintro (_ | _ | ⟨⟨⟩⟩)
      · rfl
      · rfl
  · next none_ one =>
    constructor
    · intro resolved
      split at resolved
      · cases resolved
      · next same =>
          cases resolved
          exact .each (Decidable.not_not.mp same)
    · intro expands
      cases expands with
      | none => exact absurd rfl none_
      | all code => exact absurd rfl (one code)
      | each same => exact if_neg fun other => other same

theorem requireEnd_eq_ok {message : String} {rest : Bytes} :
    requireEnd message rest = .ok () ↔ rest = [] := by
  unfold requireEnd
  split
  · next empty => exact iff_of_true rfl empty
  · next some_ => exact iff_of_false (by rintro ⟨⟩) some_

/-! ## The parsers -/

theorem parseParseMessage_eq_ok {payload : Bytes} {message : ParseMessage} :
    parseParseMessage payload = .ok message ↔ ParseFormat message payload := by
  unfold parseParseMessage
  constructor
  · intro parsed
    obtain ⟨⟨name, rest⟩, readName, parsed⟩ := bind_ok parsed
    obtain ⟨⟨query, rest'⟩, readQuery, parsed⟩ := bind_ok parsed
    obtain ⟨⟨count, rest''⟩, readTypes, parsed⟩ := bind_ok parsed
    obtain ⟨⟨oids, behind⟩, readOids, parsed⟩ := bind_ok parsed
    obtain ⟨_, ends, parsed⟩ := bind_ok parsed
    cases parsed
    obtain ⟨_, ⟨cleanName, rfl⟩, rfl⟩ := (exact_readCString _ _ _).mp readName
    obtain ⟨_, ⟨cleanQuery, rfl⟩, rfl⟩ := (exact_readCString _ _ _).mp readQuery
    obtain ⟨_, ⟨small, rfl⟩, rfl⟩ := (exact_readCount _ _ _ _).mp readTypes
    obtain ⟨_, ⟨long, rfl⟩, rfl⟩ := (exact_require _ _ _ _ _).mp readOids
    cases requireEnd_eq_ok.mp ends
    rw [List.append_nil]
    exact .mk cleanName cleanQuery small long
  · rintro ⟨cleanName, cleanQuery, small, long⟩
    refine bind_eq_ok.mpr ⟨_, (exact_readCString _ _ _).mpr ⟨_, ⟨cleanName, rfl⟩, rfl⟩, ?_⟩
    refine bind_eq_ok.mpr ⟨_, (exact_readCString _ _ _).mpr ⟨_, ⟨cleanQuery, rfl⟩, rfl⟩, ?_⟩
    refine bind_eq_ok.mpr ⟨_, (exact_readCount _ _ _ _).mpr ⟨_, ⟨small, rfl⟩, rfl⟩, ?_⟩
    refine bind_eq_ok.mpr ⟨_, (exact_require _ _ _ _ _).mpr
      ⟨_, ⟨long, rfl⟩, (List.append_nil _).symm⟩, ?_⟩
    exact bind_eq_ok.mpr ⟨_, requireEnd_eq_ok.mpr rfl, rfl⟩

theorem parseBindMessage_eq_ok {payload : Bytes} {message : BindMessage} :
    parseBindMessage payload = .ok message ↔ BindFormat message payload := by
  unfold parseBindMessage
  constructor
  · intro parsed
    obtain ⟨⟨portal, rest⟩, readPortal, parsed⟩ := bind_ok parsed
    obtain ⟨⟨name, rest⟩, readName, parsed⟩ := bind_ok parsed
    obtain ⟨⟨formatCount, rest⟩, readFormats, parsed⟩ := bind_ok parsed
    obtain ⟨⟨formats, rest⟩, takeFormats, parsed⟩ := bind_ok parsed
    obtain ⟨codes, areFormats, parsed⟩ := bind_ok parsed
    obtain ⟨⟨count, rest⟩, readParams, parsed⟩ := bind_ok parsed
    obtain ⟨⟨values, rest⟩, readValues, parsed⟩ := bind_ok parsed
    obtain ⟨⟨resultCount, rest⟩, readResults, parsed⟩ := bind_ok parsed
    obtain ⟨⟨results, rest⟩, takeResults, parsed⟩ := bind_ok parsed
    obtain ⟨resultCodes, areResults, parsed⟩ := bind_ok parsed
    obtain ⟨_, ends, parsed⟩ := bind_ok parsed
    obtain ⟨resolved, expands, parsed⟩ := bind_ok parsed
    cases parsed
    obtain ⟨_, ⟨cleanPortal, rfl⟩, rfl⟩ := (exact_readCString _ _ _).mp readPortal
    obtain ⟨_, ⟨cleanName, rfl⟩, rfl⟩ := (exact_readCString _ _ _).mp readName
    obtain ⟨_, ⟨fewFormats, rfl⟩, rfl⟩ := (exact_readCount _ _ _ _).mp readFormats
    obtain ⟨_, ⟨formatsLong, rfl⟩, rfl⟩ := (exact_require _ _ _ _ _).mp takeFormats
    obtain ⟨rfl, rfl, areCodes⟩ := (formatCodesOf_eq_ok formatsLong).mp areFormats
    obtain ⟨_, ⟨fewParams, rfl⟩, rfl⟩ := (exact_readCount _ _ _ _).mp readParams
    obtain ⟨_, ⟨rfl, sendable, rfl⟩, rfl⟩ := (exact_readParamValues _ _ _ _).mp readValues
    obtain ⟨_, ⟨fewResults, rfl⟩, rfl⟩ := (exact_readCount _ _ _ _).mp readResults
    obtain ⟨_, ⟨resultsLong, rfl⟩, rfl⟩ := (exact_require _ _ _ _ _).mp takeResults
    obtain ⟨rfl, rfl, areResultCodes⟩ := (formatCodesOf_eq_ok resultsLong).mp areResults
    cases requireEnd_eq_ok.mp ends
    have format : BindFormat ⟨portal, name, values, resolved, resultCodes⟩ _ :=
      .mk cleanPortal cleanName ⟨fewFormats, areCodes⟩ fewParams sendable
        ⟨fewResults, areResultCodes⟩ (resolveFormatCodes_eq_ok.mp expands)
    simpa only [encodeFormatCodes, List.append_assoc, List.append_nil] using format
  · rintro ⟨cleanPortal, cleanName, ⟨fewFormats, areCodes⟩, fewParams, sendable,
      ⟨fewResults, areResultCodes⟩, expands⟩
    have codesLong : ∀ codes : List Int,
        (codes.flatMap encodeFormatCode).length = codes.length * 2 := by
      intro codes
      simp [encodeFormatCode, List.length_flatMap]
    simp only [encodeFormatCodes, List.append_assoc]
    refine bind_eq_ok.mpr ⟨_, (exact_readCString _ _ _).mpr ⟨_, ⟨cleanPortal, rfl⟩, rfl⟩, ?_⟩
    refine bind_eq_ok.mpr ⟨_, (exact_readCString _ _ _).mpr ⟨_, ⟨cleanName, rfl⟩, rfl⟩, ?_⟩
    refine bind_eq_ok.mpr ⟨_, (exact_readCount _ _ _ _).mpr ⟨_, ⟨fewFormats, rfl⟩, rfl⟩, ?_⟩
    refine bind_eq_ok.mpr ⟨_, (exact_require _ _ _ _ _).mpr ⟨_, ⟨codesLong _, rfl⟩, rfl⟩, ?_⟩
    refine bind_eq_ok.mpr ⟨_, (formatCodesOf_eq_ok (codesLong _)).mpr ⟨rfl, rfl, areCodes⟩, ?_⟩
    refine bind_eq_ok.mpr ⟨_, (exact_readCount _ _ _ _).mpr ⟨_, ⟨fewParams, rfl⟩, rfl⟩, ?_⟩
    refine bind_eq_ok.mpr ⟨_, (exact_readParamValues _ _ _ _).mpr
      ⟨_, ⟨rfl, sendable, rfl⟩, rfl⟩, ?_⟩
    refine bind_eq_ok.mpr ⟨_, (exact_readCount _ _ _ _).mpr ⟨_, ⟨fewResults, rfl⟩, rfl⟩, ?_⟩
    refine bind_eq_ok.mpr ⟨_, (exact_require _ _ _ _ _).mpr
      ⟨_, ⟨codesLong _, rfl⟩, (List.append_nil _).symm⟩, ?_⟩
    refine bind_eq_ok.mpr ⟨_, (formatCodesOf_eq_ok (codesLong _)).mpr
      ⟨rfl, rfl, areResultCodes⟩, ?_⟩
    refine bind_eq_ok.mpr ⟨_, requireEnd_eq_ok.mpr rfl, ?_⟩
    exact bind_eq_ok.mpr ⟨_, resolveFormatCodes_eq_ok.mpr expands, rfl⟩

theorem parseExecuteMessage_eq_ok {payload : Bytes} {message : ExecuteMessage} :
    parseExecuteMessage payload = .ok message ↔ ExecuteFormat message payload := by
  unfold parseExecuteMessage
  constructor
  · intro parsed
    obtain ⟨⟨portal, rest⟩, readPortal, parsed⟩ := bind_ok parsed
    obtain ⟨⟨limit, rest⟩, readLimit, parsed⟩ := bind_ok parsed
    obtain ⟨_, ⟨cleanPortal, rfl⟩, rfl⟩ := (exact_readCString _ _ _).mp readPortal
    obtain ⟨raw, ⟨long, rfl⟩, rfl⟩ := (exact_readInt _ _ _ _ _).mp readLimit
    dsimp only at parsed
    split at parsed
    · cases parsed
    · next nonneg =>
        obtain ⟨_, ends, parsed⟩ := bind_ok parsed
        cases parsed
        cases requireEnd_eq_ok.mp ends
        have isLimit := (Int.toNat_of_nonneg (Int.not_lt.mp nonneg)).symm
        obtain ⟨fits, packed⟩ := beInt_eq_natCast.mp isLimit
        rw [long] at fits packed
        have format : ExecuteFormat ⟨portal, beInt raw⟩ _ := .mk cleanPortal isLimit fits
        rw [← packed] at format
        rw [List.append_nil]
        exact format
  · rintro ⟨cleanPortal, isLimit, fits⟩
    obtain ⟨portal, maxRows⟩ := message
    dsimp only at isLimit
    subst isLimit
    refine bind_eq_ok.mpr ⟨_, (exact_readCString _ _ _).mpr ⟨_, ⟨cleanPortal, rfl⟩, rfl⟩, ?_⟩
    refine bind_eq_ok.mpr ⟨_, (exact_readInt _ _ _ _ _).mpr
      ⟨_, ⟨length_bePack _ _, rfl⟩, (List.append_nil _).symm⟩, ?_⟩
    dsimp only
    rw [beInt_bePack fits, if_neg (by omega)]
    exact bind_eq_ok.mpr ⟨_, requireEnd_eq_ok.mpr rfl, rfl⟩

theorem parseCloseTarget_eq_ok {byte : UInt8} {target : CloseTarget} :
    parseCloseTarget byte = .ok target ↔ byte = target.byte := by
  have onAscii : ∀ char, asciiChar byte = some char → byte = UInt8.ofNat char.toNat := by
    intro char found
    unfold asciiChar at found
    split at found
    · next small =>
        cases found
        have bound : byte.toNat < 128 := UInt8.lt_iff_toNat_lt.mp small
        have codes : ∀ code : Fin 128, (Char.ofNat code).toNat = code := by decide
        rw [codes ⟨byte.toNat, bound⟩, UInt8.ofNat_toNat]
    · cases found
  constructor
  · intro parsed
    unfold parseCloseTarget at parsed
    split at parsed
    · cases parsed
    · next found =>
        cases parsed
        exact onAscii 'S' found
    · next found =>
        cases parsed
        exact onAscii 'P' found
    · cases parsed
  · rintro rfl
    cases target with
    | statement => rfl
    | portal => rfl

theorem parseCloseMessage_eq_ok {payload : Bytes} {message : CloseMessage} :
    parseCloseMessage payload = .ok message ↔ CloseFormat message payload := by
  constructor
  · intro parsed
    cases payload with
    | nil => cases parsed
    | cons byte payload =>
        obtain ⟨target, isTarget, parsed⟩ := bind_ok parsed
        obtain ⟨⟨name, rest⟩, readName, parsed⟩ := bind_ok parsed
        obtain ⟨_, ends, parsed⟩ := bind_ok parsed
        cases parsed
        obtain ⟨_, ⟨cleanName, rfl⟩, rfl⟩ := (exact_readCString _ _ _).mp readName
        cases requireEnd_eq_ok.mp ends
        rw [parseCloseTarget_eq_ok.mp isTarget, List.append_nil]
        exact @CloseFormat.mk ⟨target, name⟩ cleanName
  · rintro ⟨cleanName⟩
    refine bind_eq_ok.mpr ⟨_, parseCloseTarget_eq_ok.mpr rfl, ?_⟩
    refine bind_eq_ok.mpr ⟨_, (exact_readCString _ _ _).mpr
      ⟨_, ⟨cleanName, rfl⟩, (List.append_nil _).symm⟩, ?_⟩
    exact bind_eq_ok.mpr ⟨_, requireEnd_eq_ok.mpr rfl, rfl⟩

/-! ## Encoding -/

def encodeParse (message : ParseMessage) : Bytes :=
  encodeCString message.statementName ++ (encodeCString message.query ++ encodeCount 0)

/-- Every parameter with its own format code. -/
def encodeBind (message : BindMessage) : Bytes :=
  encodeCString message.portalName ++ (encodeCString message.statementName ++
    (encodeFormatCodes message.formatCodes ++ (encodeCount message.paramValues.length ++
      (message.paramValues.flatMap encodeParamValue ++
        encodeFormatCodes message.resultFormatCodes))))

def encodeExecute (message : ExecuteMessage) : Bytes :=
  encodeCString message.portalName ++ bePack 4 message.maxRows.toNat

def encodeClose (message : CloseMessage) : Bytes :=
  message.targetType.byte :: encodeCString message.name

/-- A Bind payload has as many format codes as parameters. -/
theorem BindFormat.formats {message : BindMessage} {payload : Bytes}
    (format : BindFormat message payload) :
    message.formatCodes.length = message.paramValues.length := by
  cases format with
  | mk _ _ _ _ _ _ expands =>
      revert expands
      generalize message.formatCodes = codes
      rintro (_ | _ | same)
      · exact List.length_replicate
      · exact List.length_replicate
      · exact same

theorem Expands.isFormatCode {count : Nat} {codes resolved : List Int}
    (expands : Expands count codes resolved) (valid : ∀ code ∈ codes, IsFormatCode code) :
    ∀ code ∈ resolved, IsFormatCode code := by
  intro code inside
  cases expands with
  | none => exact .inl (List.eq_of_mem_replicate inside)
  | all code =>
      rw [List.eq_of_mem_replicate inside]
      exact valid code List.mem_cons_self
  | each => exact valid code inside

/-- Every message is encoded by some payload with a format code for each parameter. -/
theorem BindFormat.encode {message : BindMessage} {payload : Bytes}
    (format : BindFormat message payload) : BindFormat message (encodeBind message) := by
  have formats := format.formats
  obtain ⟨portalName, statementName, codes, params, values, resultFormats, expands⟩ := format
  exact .mk portalName statementName
    ⟨Nat.le_trans (Nat.le_of_eq formats) params, expands.isFormatCode codes.2⟩ params values
    resultFormats (.each formats)

theorem ParseFormat.encode {message : ParseMessage} {payload : Bytes}
    (format : ParseFormat message payload) : ParseFormat message (encodeParse message) := by
  obtain ⟨statementName, query, -, -⟩ := format
  have encoded := @ParseFormat.mk message 0 [] statementName query (Nat.zero_le _) rfl
  rwa [List.append_nil] at encoded

theorem ExecuteFormat.encode {message : ExecuteMessage} {payload : Bytes}
    (format : ExecuteFormat message payload) : ExecuteFormat message (encodeExecute message) := by
  obtain ⟨portalName, limit, fits⟩ := format
  rw [encodeExecute, limit, Int.toNat_natCast]
  exact .mk portalName limit fits

theorem CloseFormat.encode {message : CloseMessage} {payload : Bytes}
    (format : CloseFormat message payload) : CloseFormat message (encodeClose message) := by
  obtain ⟨name⟩ := format
  exact .mk name

/-! ## Exactness -/

/-- A payload of a message is parsed to that message, and any other is a protocol error. -/
def ParsesExactly {α : Type} (parse : Bytes → Except Exn α) (format : α → Bytes → Prop) : Prop :=
  ∀ payload, (∃ message, parse payload = .ok message ∧ format message payload ∧
      ∀ other, format other payload → other = message) ∨
    (¬ ∃ message, format message payload) ∧ ∃ reason, parse payload = .error (.protocol reason)

theorem ParsesExactly.of_iff {α : Type} {parse : Bytes → Except Exn α}
    {format : α → Bytes → Prop}
    (accepts : ∀ {payload message}, parse payload = .ok message ↔ format message payload)
    (raises : ∀ payload, RaisesProtocol (parse payload)) : ParsesExactly parse format := by
  intro payload
  cases parsed : parse payload with
  | ok message =>
      refine .inl ⟨message, rfl, accepts.mp parsed, fun other format => ?_⟩
      have same := accepts.mpr format
      rw [parsed] at same
      exact (Except.ok.inj same).symm
  | error error =>
      obtain ⟨reason, rfl⟩ := raises payload error parsed
      refine .inr ⟨?_, reason, rfl⟩
      rintro ⟨message, format⟩
      rw [accepts.mpr format] at parsed
      cases parsed

/-- The parsers accept exactly their formats, and no parameter is left without a format code. -/
theorem extendedMessages_exact :
    ParsesExactly parseParseMessage ParseFormat ∧ ParsesExactly parseBindMessage BindFormat ∧
    ParsesExactly parseExecuteMessage ExecuteFormat ∧
    ParsesExactly parseCloseMessage CloseFormat ∧
    (∀ payload message, ParseFormat message payload →
      parseParseMessage (encodeParse message) = .ok message) ∧
    (∀ payload message, BindFormat message payload →
      parseBindMessage (encodeBind message) = .ok message) ∧
    (∀ payload message, ExecuteFormat message payload →
      parseExecuteMessage (encodeExecute message) = .ok message) ∧
    (∀ payload message, CloseFormat message payload →
      parseCloseMessage (encodeClose message) = .ok message) ∧
    ∀ payload message, parseBindMessage payload = .ok message →
      message.formatCodes.length = message.paramValues.length ∧
        (message.paramValues.zip message.formatCodes).map Prod.fst = message.paramValues := by
  refine ⟨.of_iff parseParseMessage_eq_ok raisesProtocol_parseParseMessage,
    .of_iff parseBindMessage_eq_ok raisesProtocol_parseBindMessage,
    .of_iff parseExecuteMessage_eq_ok raisesProtocol_parseExecuteMessage,
    .of_iff parseCloseMessage_eq_ok raisesProtocol_parseCloseMessage, ?_, ?_, ?_, ?_, ?_⟩
  · exact fun payload message format => parseParseMessage_eq_ok.mpr format.encode
  · exact fun payload message format => parseBindMessage_eq_ok.mpr format.encode
  · exact fun payload message format => parseExecuteMessage_eq_ok.mpr format.encode
  · exact fun payload message format => parseCloseMessage_eq_ok.mpr format.encode
  · intro payload message parsed
    have formats := (parseBindMessage_eq_ok.mp parsed).formats
    exact ⟨formats, List.map_fst_zip (Nat.le_of_eq formats.symm)⟩

/-- A text and a binary parameter, and `NULL`. -/
def threeParameters : BindMessage where
  portalName := ""
  statementName := "s"
  paramValues := [some [0x31], none, some [0, 1]]
  formatCodes := [0, 0, 1]
  resultFormatCodes := [1]

theorem threeParameters_parsed :
    parseBindMessage (encodeBind threeParameters) = .ok threeParameters :=
  extendedMessages_exact.2.2.2.2.2.1 (encodeBind threeParameters) threeParameters
    (.mk (by decide +kernel) (by decide +kernel)
      ⟨by decide, by simp [threeParameters, IsFormatCode]⟩ (by decide)
      (by simp [threeParameters, Sendable])
      ⟨by decide, by simp [threeParameters, IsFormatCode]⟩ (.each rfl))

end SqlSafetyProxy.Postgres

import SqlSafetyProxy.Runtime.World

/-!
# Bound parameters in preview queries

Raw parameter bytes are decoded into SQL literals and put in the place of the
`$n` placeholders of a preview query.
-/

namespace SqlSafetyProxy.Postgres

open SqlSafetyProxy.Wire SqlSafetyProxy.Runtime

/-! ## Decoding -/

inductive Confidence where
  | exact | heuristic | unknown
  deriving DecidableEq, Repr

structure DecodedParam where
  sqlLiteral : String
  confidence : Confidence
  deriving DecidableEq, Repr

def quote (text : String) : String :=
  let doubled := text.toList.flatMap fun char => if char = '\'' then ['\'', '\''] else [char]
  String.ofList (['\''] ++ doubled ++ ['\''])

/-- The bytes that may follow a UTF-8 leading byte, and how many follow in all. -/
def secondByteRange (lead : UInt8) : Option (UInt8 × UInt8 × Nat) :=
  if 0xC2 ≤ lead ∧ lead ≤ 0xDF then some (0x80, 0xBF, 1)
  else if lead = 0xE0 then some (0xA0, 0xBF, 2)
  else if lead = 0xED then some (0x80, 0x9F, 2)
  else if 0xE1 ≤ lead ∧ lead ≤ 0xEF then some (0x80, 0xBF, 2)
  else if lead = 0xF0 then some (0x90, 0xBF, 3)
  else if 0xF1 ≤ lead ∧ lead ≤ 0xF3 then some (0x80, 0xBF, 3)
  else if lead = 0xF4 then some (0x80, 0x8F, 3)
  else none

/-- A multi-byte character being read: the bits so far and what must follow. -/
structure PartialChar where
  bits : Nat
  low : UInt8
  high : UInt8
  missing : Nat

/--
Decode UTF-8 with `errors="replace"`: each maximal part of a broken character
becomes one U+FFFD.
-/
def decodeReplace : Option PartialChar → Bytes → List Char
  | none, [] => []
  | some _, [] => ['\uFFFD']
  | none, byte :: rest => start byte fun open? => decodeReplace open? rest
  | some pending, byte :: rest =>
      if pending.low ≤ byte ∧ byte ≤ pending.high then
        let bits := pending.bits * 64 + byte.toNat % 64
        if pending.missing ≤ 1 then Char.ofNat bits :: decodeReplace none rest
        else decodeReplace (some ⟨bits, 0x80, 0xBF, pending.missing - 1⟩) rest
      else '\uFFFD' :: start byte fun open? => decodeReplace open? rest
where
  /-- Read the first byte of a character. -/
  start (byte : UInt8) (continue_ : Option PartialChar → List Char) : List Char :=
    if byte < 0x80 then Char.ofNat byte.toNat :: continue_ none
    else match secondByteRange byte with
    | none => '\uFFFD' :: continue_ none
    | some (low, high, missing) =>
        continue_ (some ⟨byte.toNat % 2 ^ (6 - missing), low, high, missing⟩)

/-- Decode a raw parameter; the type of a binary one is guessed from its length. -/
def decodeParam (raw : Option Bytes) (formatCode : Int) : DecodedParam :=
  match raw with
  | none => ⟨"NULL", .exact⟩
  | some bytes =>
      if formatCode = 0 then ⟨quote (String.ofList (decodeReplace none bytes)), .exact⟩
      else if bytes.length = 1 then
        ⟨if beNat bytes ≠ 0 then "TRUE" else "FALSE", .heuristic⟩
      else if bytes.length = 2 ∨ bytes.length = 4 ∨ bytes.length = 8 then
        ⟨toString (beInt bytes), .heuristic⟩
      else match decodeUtf8 bytes with
      | some text => ⟨quote text, .heuristic⟩
      | none => ⟨"NULL", .unknown⟩

/-! ## Placeholders -/

/-- A preview query cut into characters and placeholders. -/
inductive Piece where
  | text (char : Char)
  | placeholder (digits : List Char)
  deriving DecidableEq, Repr

/-- What an open `$` and the digits after it amount to. -/
def closePlaceholder : Option (List Char) → List Piece
  | none => []
  | some [] => [.text '$']
  | some digits => [.placeholder digits]

/-- The matches of `\$(\d+)` and the text between them; `digit` is the Unicode digit table. -/
def scanPlaceholders (digit : Char → Option Nat) : Option (List Char) → List Char → List Piece
  | open?, [] => closePlaceholder open?
  | open?, char :: rest =>
      match open?, digit char with
      | some digits, some _ => scanPlaceholders digit (some (digits ++ [char])) rest
      | _, _ =>
          closePlaceholder open? ++
            if char = '$' then scanPlaceholders digit (some []) rest
            else .text char :: scanPlaceholders digit none rest

/-- Longest digit string that `int` converts. -/
def maxIntDigits : Nat := 4300

/-- `params[idx]`, where a negative index counts from the end. -/
def pythonIndex {α : Type} (values : List α) (index : Int) : Except Exn α :=
  let position := if index < 0 then index + values.length else index
  match position with
  | .ofNat place =>
      match values[place]? with
      | some value => .ok value
      | none => .error (.failure "IndexError")
  | .negSucc _ => .error (.failure "IndexError")

/-- The number that the digits of a placeholder stand for. -/
def placeholderNumber (digit : Char → Option Nat) (digits : List Char) : Nat :=
  digits.foldl (fun value char => value * 10 + (digit char).getD 0) 0

/-- The text put in place of a piece, and how far its value can be trusted. -/
def replacePiece (digit : Char → Option Nat) (params : List DecodedParam) :
    Piece → Except Exn (String × Confidence)
  | .text char => .ok (String.ofList [char], .exact)
  | .placeholder digits =>
      if maxIntDigits < digits.length then .error (.failure "ValueError")
      else
        let number := digits.foldl (fun value char => value * 10 + (digit char).getD 0) 0
        let index : Int := number - 1
        if (params.length : Int) ≤ index then .ok (String.ofList ('$' :: digits), .unknown)
        else do
          let decoded ← pythonIndex params index
          return (decoded.sqlLiteral, decoded.confidence)

/--
The literal preview, and whether a value in it was only guessed; no preview
when a placeholder has no decodable value.
-/
def substituteParams (digit : Char → Option Nat) (previewQuery : String)
    (params : List DecodedParam) : Except Exn (Option String × Bool) := do
  let replaced ← (scanPlaceholders digit none previewQuery.toList).mapM (replacePiece digit params)
  if replaced.any fun part => part.2 = .unknown then return (none, false)
  else return (some (String.join (replaced.map Prod.fst)),
    replaced.any fun part => part.2 = .heuristic)

/-! ## Replaced pieces -/

theorem mapM_ok {α β : Type} {f : α → Except Exn β} {values : List α} {results : List β}
    (done : values.mapM f = .ok results) {value : α} (inside : value ∈ values) :
    ∃ result ∈ results, f value = .ok result := by
  induction values generalizing results with
  | nil => cases inside
  | cons first rest ih =>
      rw [List.mapM_cons] at done
      obtain ⟨head, ran, done⟩ := bind_ok done
      obtain ⟨tail, others, done⟩ := bind_ok done
      cases done
      rcases List.mem_cons.mp inside with rfl | later
      · exact ⟨head, List.mem_cons_self, ran⟩
      · obtain ⟨result, among, found⟩ := ih others later
        exact ⟨result, List.mem_cons_of_mem _ among, found⟩

theorem pythonIndex_mem {α : Type} {values : List α} {index : Int} {value : α}
    (found : pythonIndex values index = .ok value) : value ∈ values := by
  unfold pythonIndex at found
  simp only at found
  split at found
  · split at found
    · next place _ other isOther =>
        cases found
        exact List.mem_of_getElem? isOther
    · cases found
  · cases found

/-! ## Failures -/

theorem pythonIndex_error {α : Type} {values : List α} {index : Int} {error : Exn}
    (failed : pythonIndex values index = .error error) : ∃ name, error = .failure name := by
  unfold pythonIndex at failed
  simp only at failed
  split at failed
  · split at failed
    · cases failed
    · cases failed
      exact ⟨_, rfl⟩
  · cases failed
    exact ⟨_, rfl⟩

theorem replacePiece_error {digit : Char → Option Nat} {params : List DecodedParam}
    {piece : Piece} {error : Exn} (failed : replacePiece digit params piece = .error error) :
    ∃ name, error = .failure name := by
  cases piece with
  | text char => cases failed
  | placeholder digits =>
      simp only [replacePiece] at failed
      split at failed
      · cases failed
        exact ⟨_, rfl⟩
      split at failed
      · cases failed
      · rcases indexed : pythonIndex params
          (digits.foldl (fun value char => value * 10 + (digit char).getD 0) 0 - 1) with
          inner | decoded
        · rw [indexed] at failed
          cases failed
          exact pythonIndex_error indexed
        · rw [indexed] at failed
          cases failed

theorem mapM_error {α β : Type} {f : α → Except Exn β} {values : List α} {error : Exn}
    (failed : values.mapM f = .error error) : ∃ value ∈ values, f value = .error error := by
  induction values with
  | nil => cases failed
  | cons first rest ih =>
      rw [List.mapM_cons] at failed
      cases result : f first with
      | error inner =>
          rw [result] at failed
          cases failed
          exact ⟨first, List.mem_cons_self, result⟩
      | ok value =>
          cases others : rest.mapM f with
          | error inner =>
              rw [result, others] at failed
              cases failed
              obtain ⟨later, inside, raised⟩ := ih others
              exact ⟨later, List.mem_cons_of_mem _ inside, raised⟩
          | ok values =>
              rw [result, others] at failed
              cases failed

/-- Substituting parameters raises no protocol error. -/
theorem substituteParams_error {digit : Char → Option Nat} {query : String}
    {params : List DecodedParam} {error : Exn}
    (failed : substituteParams digit query params = .error error) :
    ∃ name, error = .failure name := by
  unfold substituteParams at failed
  cases replaced : (scanPlaceholders digit none query.toList).mapM
      (replacePiece digit params) with
  | error inner =>
      rw [replaced] at failed
      cases failed
      obtain ⟨piece, -, raised⟩ := mapM_error replaced
      exact replacePiece_error raised
  | ok parts =>
      rw [replaced] at failed
      simp only [bind, Except.bind] at failed
      split at failed <;> cases failed

end SqlSafetyProxy.Postgres

import SqlSafetyProxy.Collections.Archive
import SqlSafetyProxy.Runtime.World

/-!
# The audit log

Audit events are appended to a file as lines of JSON.  A file that would grow
too long becomes the first of a chain of numbered backups, and the oldest backup
goes.  The log and its backups together are a bounded archive of the newest
events.
-/

namespace SqlSafetyProxy.Runtime

open SqlSafetyProxy.Collections SqlSafetyProxy.Policy SqlSafetyProxy.Sql SqlSafetyProxy.Wire

/-! ## Records -/

/-- The values that occur in an audit event. -/
inductive JsonValue where
  | null
  | boolean (value : Bool)
  | number (value : Int)
  | text (value : String)

/-- The fields of an audit event, all names and decisions as text. -/
structure AuditFields where
  timestamp : String
  sql : String
  database : String
  operation : String
  targetTable : Option String
  severity : String
  policyAction : String
  finalDecision : String
  estimatedRows : Option Int
  estimateError : Option String
  classificationReason : String
  policyReason : String
  approximateEstimate : Bool
  protocol : String

def orNull {α : Type} (value : α → JsonValue) : Option α → JsonValue
  | none => .null
  | some content => value content

/-- `asdict`, in the order of the fields. -/
def AuditFields.asdict (event : AuditFields) : List (String × JsonValue) :=
  [("timestamp", .text event.timestamp),
    ("sql", .text event.sql),
    ("database", .text event.database),
    ("operation", .text event.operation),
    ("target_table", orNull .text event.targetTable),
    ("severity", .text event.severity),
    ("policy_action", .text event.policyAction),
    ("final_decision", .text event.finalDecision),
    ("estimated_rows", orNull .number event.estimatedRows),
    ("estimate_error", orNull .text event.estimateError),
    ("classification_reason", .text event.classificationReason),
    ("policy_reason", .text event.policyReason),
    ("approximate_estimate", .boolean event.approximateEstimate),
    ("protocol", .text event.protocol)]

/-- Text is bounded once more, whatever it is. -/
def JsonValue.bound (maxFieldChars : Nat) : JsonValue → JsonValue
  | .text value => .text (boundExternalText value maxFieldChars)
  | value => value

/-- The escape of a character in a JSON string that keeps what is not ASCII. -/
def escapeJson (char : Char) : List Char :=
  if char = '"' then ['\\', '"']
  else if char = '\\' then ['\\', '\\']
  else if char = '\n' then ['\\', 'n']
  else if char = '\r' then ['\\', 'r']
  else if char = '\t' then ['\\', 't']
  else if char.toNat = 0x0C then ['\\', 'f']
  else if char.toNat = 0x08 then ['\\', 'b']
  else if char.toNat < 0x20 then ['\\', 'u', '0', '0'] ++ hexLower (UInt8.ofNat char.toNat)
  else [char]

def dumpsText (value : String) : List Char :=
  '"' :: value.toList.flatMap escapeJson ++ ['"']

def JsonValue.dumps : JsonValue → List Char
  | .null => ['n', 'u', 'l', 'l']
  | .boolean true => ['t', 'r', 'u', 'e']
  | .boolean false => ['f', 'a', 'l', 's', 'e']
  | .number value => (toString value).toList
  | .text value => dumpsText value

def dumpsMembers : List (String × JsonValue) → List Char
  | [] => []
  | [(key, value)] => dumpsText key ++ ':' :: value.dumps
  | (key, value) :: rest => dumpsText key ++ ':' :: value.dumps ++ ',' :: dumpsMembers rest

/-- `json.dumps` of an object, without white space. -/
def dumps (members : List (String × JsonValue)) : List Char :=
  '{' :: dumpsMembers members ++ ['}']

/-! ## The directory of the log -/

/-- The log, numbered 0, and its backups: those that exist, with their contents. -/
abbrev Directory := Nat → Option String

namespace Directory

def empty : Directory := fun _ => none

def unlink (directory : Directory) (index : Nat) : Directory :=
  fun other => if other = index then none else directory other

/-- Rename a file, over the target if that exists. -/
def replace (directory : Directory) (source target : Nat) : Directory :=
  fun other =>
    if other = target then directory source
    else if other = source then none
    else directory other

/--
Write at the end of a file, which is created if need be.  A line feed is written
as it is, as text files do where `os.linesep` is a line feed.
-/
def write (directory : Directory) (index : Nat) (text : String) : Directory :=
  fun other =>
    if other = index then some ((directory index).getD "" ++ text) else directory other

end Directory

/-- The constructor rejects bounds that are too small. -/
structure JsonlAuditLogger where
  maxFileBytes : Nat := 10 * 1024 * 1024
  maxBackups : Nat := 3
  maxFieldChars : Nat := 4096
  fileBytes_large : 1024 ≤ maxFileBytes := by decide
  backups_pos : 1 ≤ maxBackups := by decide
  fieldChars_large : 16 ≤ maxFieldChars := by decide

namespace JsonlAuditLogger

variable (logger : JsonlAuditLogger)

/-- The line of an event. -/
def record (event : AuditFields) : String :=
  String.ofList (dumps (event.asdict.map fun member =>
    (member.1, member.2.bound logger.maxFieldChars)) ++ ['\n'])

/-- Each backup up to the given number becomes the next one, from the oldest on. -/
def shiftBackups : Nat → Directory → Directory
  | 0, directory => directory
  | index + 1, directory =>
      shiftBackups index
        (if (directory (index + 1)).isSome then directory.replace (index + 1) (index + 2)
        else directory)

def rotateIfNeeded (incomingBytes : Nat) (directory : Directory) : Directory :=
  match directory 0 with
  | none => directory
  | some log =>
      if log.utf8ByteSize + incomingBytes ≤ logger.maxFileBytes then directory
      else
        (shiftBackups (logger.maxBackups - 1) (directory.unlink logger.maxBackups)).replace 0 1

def append (directory : Directory) (event : AuditFields) : Directory :=
  (logger.rotateIfNeeded (logger.record event).utf8ByteSize directory).write 0
    (logger.record event)

/-- A sequence of appended events. -/
def appendAll (directory : Directory) (events : List AuditFields) : Directory :=
  events.foldl logger.append directory

end JsonlAuditLogger

/-! ## Reading the log back -/

/-- Cut a text after each line feed. -/
def splitLines : List Char → List (List Char)
  | [] => []
  | char :: rest =>
      if char = '\n' then [char] :: splitLines rest
      else
        match splitLines rest with
        | [] => [[char]]
        | line :: later => (char :: line) :: later

def lines (text : String) : List String := (splitLines text.toList).map String.ofList

/-- The lines of `path.N`, ..., `path.2`, `path.1`, `path`, of those that exist. -/
def JsonlAuditLogger.kept (logger : JsonlAuditLogger) (directory : Directory) : List String :=
  ((List.range (logger.maxBackups + 1)).reverse.filterMap directory).flatMap lines

/-! ## Every record is one line -/

/-- A text that ends with its only line feed. -/
def IsLine (text : String) : Prop := ∃ body, '\n' ∉ body ∧ text.toList = body ++ ['\n']

theorem hexLower_noFeed (byte : UInt8) : '\n' ∉ hexLower byte := by
  have digit := @hexDigit_of_all
    ['0', '1', '2', '3', '4', '5', '6', '7', '8', '9', 'a', 'b', 'c', 'd', 'e', 'f']
    (fun char => '\n' ≠ char) (by simp) (by decide)
  simpa [hexLower] using ⟨digit _, digit _⟩

theorem escapeJson_noFeed (char : Char) : '\n' ∉ escapeJson char := by
  unfold escapeJson
  repeat' split
  case isFalse.isFalse.isFalse.isFalse.isFalse.isFalse.isFalse.isTrue =>
    simp [hexLower_noFeed]
  case isFalse.isFalse.isFalse.isFalse.isFalse.isFalse.isFalse.isFalse =>
    next other _ _ _ _ _ => simpa using Ne.symm other
  all_goals decide

theorem dumpsText_noFeed (value : String) : '\n' ∉ dumpsText value := by
  simp [dumpsText, escapeJson_noFeed]

theorem number_noFeed (value : Int) : '\n' ∉ (toString value).toList := by
  have digits : ∀ count : Nat, '\n' ∉ count.repr.toList := by
    intro count inside
    rw [Nat.toList_repr] at inside
    have digit := Nat.isDigit_of_mem_toDigits (by decide) (by decide) inside
    simp at digit
  rw [Int.toString_eq_repr, Int.repr_eq_if]
  split
  · exact digits _
  · rw [String.toList_append, List.mem_append, not_or]
    exact ⟨by decide, digits _⟩

theorem JsonValue.dumps_noFeed (value : JsonValue) : '\n' ∉ value.dumps := by
  cases value with
  | null => decide
  | boolean value => cases value <;> decide
  | number value => exact number_noFeed value
  | text value => exact dumpsText_noFeed value

theorem dumpsMembers_noFeed (members : List (String × JsonValue)) :
    '\n' ∉ dumpsMembers members := by
  induction members with
  | nil => simp [dumpsMembers]
  | cons member rest ih =>
      obtain ⟨key, value⟩ := member
      cases rest with
      | nil => simp [dumpsMembers, dumpsText_noFeed, value.dumps_noFeed]
      | cons next rest => simp [dumpsMembers, dumpsText_noFeed, value.dumps_noFeed, ih]

theorem JsonlAuditLogger.isLine_record (logger : JsonlAuditLogger) (event : AuditFields) :
    IsLine (logger.record event) := by
  refine ⟨_, ?_, String.toList_ofList⟩
  simp [dumps, dumpsMembers_noFeed]

theorem splitLines_append {body : List Char} (plain : '\n' ∉ body) (rest : List Char) :
    splitLines (body ++ '\n' :: rest) = (body ++ ['\n']) :: splitLines rest := by
  induction body with
  | nil => simp [splitLines]
  | cons char body ih =>
      obtain ⟨first, others⟩ := List.ne_and_not_mem_of_not_mem_cons plain
      rw [List.cons_append, splitLines, if_neg first.symm, ih others]
      rfl

/-- A file of records is read back as these records. -/
theorem lines_join {records : List String} (whole : ∀ record ∈ records, IsLine record) :
    lines (String.join records) = records := by
  induction records with
  | nil => rfl
  | cons record records ih =>
      obtain ⟨body, plain, text⟩ := whole record List.mem_cons_self
      have later := ih fun other inside => whole other (List.mem_cons_of_mem _ inside)
      rw [lines] at later ⊢
      rw [String.join_cons, String.toList_append, text, List.append_assoc, List.singleton_append,
        splitLines_append plain, List.map_cons, later, ← text, String.ofList_toList]

/-! ## The directory holds an archive -/

section Refinement

variable {logger : JsonlAuditLogger} {directory : Directory}

/-- Whether the source exists does not matter where the target does not. -/
theorem JsonlAuditLogger.replace_missing {source target : Nat} (room : directory target = none) :
    (if (directory source).isSome then directory.replace source target else directory) =
      directory.replace source target := by
  split
  · rfl
  · next missing =>
      have gone : directory source = none := by simpa using missing
      funext other
      simp only [Directory.replace]
      split
      · next same => rw [same, room, gone]
      · split
        · next same => rw [same, gone]
        · rfl

/-- What a shift leaves, where there is room for the oldest of the backups that it moves. -/
theorem JsonlAuditLogger.shiftBackups_apply {last : Nat} {directory : Directory}
    (room : directory (last + 1) = none) (index : Nat) :
    shiftBackups last directory index =
      if index = 0 then directory 0
      else if index = 1 then none
      else if index ≤ last + 1 then directory (index - 1)
      else directory index := by
  induction last generalizing directory with
  | zero =>
      rw [shiftBackups]
      grind
  | succ last ih =>
      rw [shiftBackups, replace_missing room, ih (by simp [Directory.replace])]
      simp only [Directory.replace]
      grind

/-- After a rotation every file is the next backup, up to the last one. -/
theorem JsonlAuditLogger.rotated_apply (index : Nat) :
    (shiftBackups (logger.maxBackups - 1) (directory.unlink logger.maxBackups)).replace 0 1 index =
      if index = 0 then none
      else if index ≤ logger.maxBackups then directory (index - 1)
      else directory index := by
  have some_ := logger.backups_pos
  have last : logger.maxBackups - 1 + 1 = logger.maxBackups := by omega
  have room : directory.unlink logger.maxBackups (logger.maxBackups - 1 + 1) = none := by
    simp [Directory.unlink, last]
  simp only [Directory.replace, shiftBackups_apply room, last]
  grind [Directory.unlink]

/-- The files of an archive under their numbers. -/
def Stores (directory : Directory)
    (archive : Archive String.utf8ByteSize logger.maxFileBytes logger.maxBackups) : Prop :=
  ∀ index, directory index = archive.files[index]?.map String.join

variable {archive : Archive String.utf8ByteSize logger.maxFileBytes logger.maxBackups}

theorem utf8ByteSize_join (records : List String) :
    (String.join records).utf8ByteSize = (records.map String.utf8ByteSize).sum := by
  induction records with
  | nil => rfl
  | cons record records ih =>
      rw [String.join_cons, String.utf8ByteSize_append, ih, List.map_cons, List.sum_cons]

theorem Stores.beyond (stores : Stores directory archive) {index : Nat}
    (large : logger.maxBackups < index) : directory index = none := by
  have few := archive.few
  rw [stores, List.getElem?_eq_none (by omega)]
  rfl

/-- The log is rotated exactly when the record does not fit into the newest file. -/
theorem Stores.rotateIfNeeded (stores : Stores directory archive) (record : String) (index : Nat) :
    logger.rotateIfNeeded record.utf8ByteSize directory index =
      if archive.Fits record then directory index
      else if index = 0 then none
      else if index ≤ logger.maxBackups then directory (index - 1)
      else directory index := by
  have newest := stores 0
  rw [JsonlAuditLogger.rotateIfNeeded]
  cases files : archive.files with
  | nil =>
      have fits : archive.Fits record := by simp [Archive.Fits, files]
      rw [newest, files, if_pos fits]
      rfl
  | cons file older =>
      have fits : archive.Fits record ↔
          (String.join file).utf8ByteSize + record.utf8ByteSize ≤ logger.maxFileBytes := by
        simp [Archive.Fits, files, utf8ByteSize_join]
      rw [newest, files]
      simp only [List.getElem?_cons_zero, Option.map_some, fits]
      split
      · rfl
      · exact JsonlAuditLogger.rotated_apply index

/-- Appending an event to the log appends its record to the archive. -/
theorem Stores.append (stores : Stores directory archive) (event : AuditFields) :
    Stores (logger.append directory event) (archive.append (logger.record event)) := by
  have rotated := stores.rotateIfNeeded (logger.record event)
  intro index
  by_cases fits : archive.Fits (logger.record event)
  · simp only [if_pos fits] at rotated
    simp only [JsonlAuditLogger.append, Directory.write, rotated, Archive.append, dif_pos fits,
      Archive.extend]
    cases index with
    | zero =>
        rw [if_pos rfl, stores 0]
        cases archive.files with
        | nil => simp
        | cons newest older => simp [String.join_append]
    | succ index => simp [stores (index + 1), List.getElem?_tail]
  · simp only [if_neg fits] at rotated
    simp only [JsonlAuditLogger.append, Directory.write, rotated, Archive.append, dif_neg fits,
      Archive.rotate]
    cases index with
    | zero => simp
    | succ index =>
        simp only [Nat.succ_ne_zero, if_false, Nat.add_sub_cancel, List.getElem?_cons_succ,
          List.getElem?_take]
        split
        · next small => rw [if_pos (Nat.lt_of_succ_le small), stores]
        · next large =>
            rw [if_neg (by omega), stores.beyond (by omega)]
            rfl

theorem stores_empty : @Stores logger Directory.empty Archive.empty := fun _ => rfl

theorem Stores.appendAll (stores : Stores directory archive) (events : List AuditFields) :
    Stores (logger.appendAll directory events)
      (archive.appendAll (events.map logger.record)) := by
  induction events generalizing directory archive with
  | nil => exact stores
  | cons event events ih => exact ih (stores.append event)

/-- The records of a file of the archive, where the number is that of a file. -/
theorem Stores.file (stores : Stores directory archive) {index : Nat} {text : String}
    (found : directory index = some text) :
    ∃ file ∈ archive.files, archive.files[index]? = some file ∧ text = String.join file := by
  rw [stores] at found
  obtain ⟨file, inside, rfl⟩ := Option.map_eq_some_iff.mp found
  exact ⟨file, List.mem_of_getElem? inside, inside, rfl⟩

theorem filterMap_range {α : Type} (items : List α) {bound : Nat} (short : items.length ≤ bound) :
    (List.range bound).filterMap (fun index => items[index]?) = items := by
  induction items generalizing bound with
  | nil => simp
  | cons item items ih =>
      cases bound with
      | zero => simp at short
      | succ bound =>
          rw [List.range_succ_eq_map, List.filterMap_cons]
          simpa [List.filterMap_map, Function.comp_def] using ih (by simpa using short)

/-- What is read back are the records that the archive keeps. -/
theorem Stores.kept (stores : Stores directory archive)
    (whole : ∀ record ∈ archive.kept, IsLine record) : logger.kept directory = archive.kept := by
  have files : (List.range (logger.maxBackups + 1)).filterMap directory =
      archive.files.map String.join := by
    have same : directory = fun index => archive.files[index]?.map String.join :=
      funext stores
    rw [same, ← List.map_filterMap, filterMap_range _ archive.few]
  have wholeFiles : ∀ file ∈ archive.files, lines (String.join file) = file := by
    intro file inside
    refine lines_join fun record among => whole record ?_
    exact List.mem_flatten_of_mem (List.mem_reverse.mpr inside) among
  rw [JsonlAuditLogger.kept, List.filterMap_reverse, files, ← List.map_reverse, List.flatMap_map,
    List.flatMap_congr fun file inside => wholeFiles file (List.mem_reverse.mp inside),
    List.flatMap_id', Archive.kept]

theorem Stores.oldest (stores : Stores directory archive)
    (whole : ∀ record ∈ archive.kept, IsLine record) :
    archive.oldest = (directory logger.maxBackups).elim [] lines := by
  rw [stores, Archive.oldest, List.getD_eq_getElem?_getD]
  cases found : archive.files[logger.maxBackups]? with
  | none => rfl
  | some file =>
      refine (lines_join fun record among => whole record ?_).symm
      exact List.mem_flatten_of_mem (List.mem_reverse.mpr (List.mem_of_getElem? found)) among

end Refinement

/-- The archive of a sequence of events. -/
def JsonlAuditLogger.archived (logger : JsonlAuditLogger) (events : List AuditFields) :
    Archive String.utf8ByteSize logger.maxFileBytes logger.maxBackups :=
  Archive.empty.appendAll (events.map logger.record)

theorem archived_suffix (logger : JsonlAuditLogger) (events : List AuditFields) :
    (logger.archived events).kept <:+ events.map logger.record :=
  Archive.kept_appendAll Archive.empty _

theorem archived_whole (logger : JsonlAuditLogger) (events : List AuditFields) :
    ∀ record ∈ (logger.archived events).kept, IsLine record := by
  intro record inside
  obtain ⟨event, -, rfl⟩ := List.mem_map.mp ((archived_suffix logger events).mem inside)
  exact logger.isLine_record event

/-- After any sequence of events the log holds the newest of their records, within its bounds. -/
theorem rotation_dropsOldest (logger : JsonlAuditLogger) (events : List AuditFields) :
    let directory := logger.appendAll Directory.empty events
    let records := events.map logger.record
    (logger.kept directory <:+ records ∧
      (logger.kept directory).getLast? = records.getLast?) ∧
    (∀ index, logger.maxBackups < index → directory index = none) ∧
    (∀ index file, directory index = some file →
      file.utf8ByteSize ≤ logger.maxFileBytes ∨ (lines file).length = 1) ∧
    ∀ event,
      let next := logger.append directory event
      logger.kept next = logger.kept directory ++ [logger.record event] ∨
        ∃ oldest later, directory logger.maxBackups = some oldest ∧
          logger.kept directory = lines oldest ++ later ∧
          logger.kept next = later ++ [logger.record event] := by
  intro directory records
  have stores : Stores directory (logger.archived events) := stores_empty.appendAll events
  have whole := archived_whole logger events
  have kept : logger.kept directory = _ := stores.kept whole
  refine ⟨⟨?_, ?_⟩, fun index => stores.beyond, ?_, ?_⟩
  · rw [kept]
    exact archived_suffix logger events
  · rw [kept]
    exact Archive.getLast?_appendAll records
  · intro index file found
    obtain ⟨content, inside, -, rfl⟩ := stores.file found
    have read : lines (String.join content) = content := by
      refine lines_join fun record among => whole record ?_
      exact List.mem_flatten_of_mem (List.mem_reverse.mpr inside) among
    rw [read, utf8ByteSize_join]
    exact (logger.archived events).bounded content inside
  · intro event next
    have appended : logger.archived (events ++ [event]) =
        (logger.archived events).append (logger.record event) := by
      rw [JsonlAuditLogger.archived, List.map_append]
      exact Archive.appendAll_snoc _ _ _
    have keptNext : logger.kept next = ((logger.archived events).append _).kept :=
      (stores.append event).kept (appended ▸ archived_whole logger (events ++ [event]))
    rw [kept, keptNext]
    rcases Archive.kept_append (logger.archived events) (logger.record event) with
      same | ⟨later, split, rest⟩
    · exact .inl same
    · rw [stores.oldest whole] at split
      cases found : directory logger.maxBackups with
      | none =>
          rw [found] at split
          left
          rw [rest, split]
          rfl
      | some oldest =>
          rw [found] at split
          exact .inr ⟨oldest, later, rfl, split, rest⟩

end SqlSafetyProxy.Runtime

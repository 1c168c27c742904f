import SqlSafetyProxy.Collections.Patterns
import SqlSafetyProxy.Runtime.World

/-!
# Sanitised SQL

Four patterns are replaced one after another before a statement is shown or
recorded: dollar quotations, single quotations, password clauses and the
credentials of URIs.  `isAlnum` says which characters beyond ASCII are
alphanumeric.
-/

namespace SqlSafetyProxy.Runtime

open SqlSafetyProxy.Wire SqlSafetyProxy.Collections

/-! ## Dollar quotations -/

def isTagStart (char : Char) : Bool := char.isAlpha || char == '_'

def isTagPart (char : Char) : Bool := isTagStart char || char.isDigit

/-- The tag that opens a dollar quotation, and what follows it. -/
def dollarTag : List Char → Option (List Char × List Char)
  | '$' :: '$' :: rest => some (['$', '$'], rest)
  | '$' :: first :: rest =>
      if isTagStart first then
        match rest.dropWhile isTagPart with
        | '$' :: behind => some ('$' :: first :: (rest.takeWhile isTagPart ++ ['$']), behind)
        | _ => none
      else none
  | _ => none

/-- A text up to the first occurrence of the tag. -/
def upToTag (tag : List Char) : List Char → Option (List Char)
  | [] => none
  | first :: rest =>
      if tag <+: first :: rest then some tag else (upToTag tag rest).map (first :: ·)

def redactedDollars : List Char := ['$', 'r', 'e', 'd', 'a', 'c', 't', 'e', 'd', '$']

/-- `_DOLLAR_QUOTED`: a text between two equal tags. -/
def dollarQuoted : Pattern Char := fun _ text => do
  let (tag, rest) ← dollarTag text
  let body ← upToTag tag rest
  some (redactedDollars, tag ++ body)

/-! ## Single quotations -/

/--
What the pattern reads behind an opening mark: doubled marks, escaped
characters and others up to a mark, going back to an earlier choice where none
is found.
-/
def quotedBody : List Char → Option (List Char)
  | [] => none
  | '\'' :: '\'' :: rest =>
      ((quotedBody rest).map fun body => '\'' :: '\'' :: body).or (some ['\''])
  | '\'' :: _ => some ['\'']
  | '\\' :: char :: rest =>
      ((quotedBody rest).map fun body => '\\' :: char :: body).or
        ((quotedBody (char :: rest)).map ('\\' :: ·))
  | char :: rest => (quotedBody rest).map (char :: ·)

def redactedWord : List Char := ['<', 'r', 'e', 'd', 'a', 'c', 't', 'e', 'd', '>']

def redactedQuote : List Char := '\'' :: (redactedWord ++ ['\''])

/-- `_SINGLE_QUOTED` -/
def singleQuoted : Pattern Char
  | _, '\'' :: rest => (quotedBody rest).map fun body => (redactedQuote, '\'' :: body)
  | _, _ => none

/-! ## Letters and words -/

/-- The small letter of ASCII that a character matches when case is ignored. -/
def foldCase (char : Char) : Char :=
  if char = 'ı' ∨ char = 'İ' then 'i'
  else if char = 'ſ' then 's'
  else if char = '\u212A' then 'k'
  else char.toLower

def isLetter (char : Char) : Bool := (foldCase char).isLower

section Words

variable (isAlnum : Char → Bool)

/-- `\w` -/
def isWord (char : Char) : Bool :=
  isLetter char || char.isDigit || char == '_' || (0x80 ≤ char.toNat && isAlnum char)

/-- `\b` -/
def atBoundary (before : Option Char) (text : List Char) : Bool :=
  before.any (isWord isAlnum) != text.head?.any (isWord isAlnum)

/-! ## Password clauses -/

/-- A word at the front of a text, whatever its case, and what follows it. -/
def caseless : List Char → List Char → Option (List Char × List Char)
  | [], text => some ([], text)
  | _ :: _, [] => none
  | letter :: word, char :: text =>
      if foldCase char = letter then
        (caseless word text).map fun found => (char :: found.1, found.2)
      else none

/-- `PASSWORD` or `IDENTIFIED BY`, and what follows it. -/
def clauseKeyword (text : List Char) : Option (List Char × List Char) :=
  match caseless ['p', 'a', 's', 's', 'w', 'o', 'r', 'd'] text with
  | some found => some found
  | none => do
      let (identified, rest) ← caseless ['i', 'd', 'e', 'n', 't', 'i', 'f', 'i', 'e', 'd'] text
      let gap := rest.takeWhile isSpace
      if gap = [] then none
      else do
        let (by_, behind) ← caseless ['b', 'y'] (rest.dropWhile isSpace)
        some (identified ++ (gap ++ by_), behind)

/-- A quotation without its mark inside, or else what comes before the next blank. -/
def clauseValue : List Char → Option (List Char)
  | [] => none
  | first :: rest =>
      if (first = '\'' ∨ first = '"') ∧ first ∈ rest then
        some (first :: (rest.takeWhile (· != first) ++ [first]))
      else if isSpace first then none
      else some (first :: rest.takeWhile (!isSpace ·))

/-- `_PASSWORD_CLAUSE` -/
def passwordClause : Pattern Char := fun before text =>
  if atBoundary isAlnum before text then do
    let (keyword, rest) ← clauseKeyword text
    let gap := rest.takeWhile isSpace
    if gap = [] then none
    else do
      let value ← clauseValue (rest.dropWhile isSpace)
      some (keyword ++ ' ' :: redactedWord, keyword ++ (gap ++ value))
  else none

/-! ## Credentials of URIs -/

def isSchemePart (char : Char) : Bool :=
  isLetter char || char.isDigit || char == '+' || char == '.' || char == '-'

def isUserPart (char : Char) : Bool :=
  !isSpace char && char != ':' && char != '/' && char != '@'

def isPasswordPart (char : Char) : Bool := !isSpace char && char != '@'

/-- What precedes the password of a URI, and the password. -/
def credentials (text : List Char) : Option (List Char × List Char) :=
  match text.dropWhile isSchemePart with
  | ':' :: '/' :: '/' :: rest =>
      match rest.dropWhile isUserPart with
      | ':' :: behind =>
          if (behind.dropWhile isPasswordPart).head? = some '@' ∧ rest.takeWhile isUserPart ≠ []
              ∧ behind.takeWhile isPasswordPart ≠ [] then
            some (text.takeWhile isSchemePart ++
                ':' :: '/' :: '/' :: (rest.takeWhile isUserPart ++ [':']),
              behind.takeWhile isPasswordPart)
          else none
      | _ => none
  | _ => none

/-- `_URI_CREDENTIALS` -/
def uriCredentials : Pattern Char := fun before text =>
  if atBoundary isAlnum before text ∧ text.head?.any isLetter then do
    let (front, password) ← credentials text
    some (front ++ (redactedWord ++ ['@']), front ++ (password ++ ['@']))
  else none

/-! ## Sanitising -/

/-- The text with its quotations replaced. -/
def maskQuotations (text : List Char) : List Char :=
  singleQuoted.substitute 0 none (dollarQuoted.substitute 0 none text)

/-- The text with passwords replaced as well. -/
def maskSecrets (text : List Char) : List Char :=
  (uriCredentials isAlnum).substitute 0 none
    ((passwordClause isAlnum).substitute 0 none (maskQuotations text))

/-- Redact string and password literals; the bound is at least 16. -/
def sanitizeSql (sql : String) (maxChars : Nat) : String :=
  boundExternalText (String.ofList (maskSecrets isAlnum sql.toList)) maxChars

end Words

example : sanitizeSql (fun _ => false) "PASSWORD 'a'; x" 2048 = "PASSWORD <redacted>; x" := by
  decide +kernel

/-! ## Matches lie at the front -/

theorem dollarTag_eq {text tag rest : List Char} (opens : dollarTag text = some (tag, rest)) :
    text = tag ++ rest ∧ ∃ name, tag = '$' :: (name ++ ['$']) ∧
      ∀ char ∈ name, isTagPart char = true := by
  unfold dollarTag at opens
  split at opens
  · cases opens
    exact ⟨rfl, [], rfl, by simp⟩
  · next first behind _ =>
    split at opens
    · next start =>
      split at opens
      · next after found =>
        cases opens
        refine ⟨?_, first :: behind.takeWhile isTagPart, rfl, ?_⟩
        · conv_lhs => rw [← List.takeWhile_append_dropWhile (p := isTagPart) (l := behind), found]
          simp
        · intro char inside
          rcases List.mem_cons.mp inside with rfl | inside
          · simp [isTagPart, start]
          · exact List.all_eq_true.mp List.all_takeWhile char inside
      · cases opens
    · cases opens
  · cases opens

theorem upToTag_eq {tag text body : List Char} (found : upToTag tag text = some body) :
    ∃ front rest, body = front ++ tag ∧ text = body ++ rest := by
  induction text generalizing body with
  | nil => cases found
  | cons first text ih =>
      rw [upToTag] at found
      split at found
      · next here =>
        cases found
        obtain ⟨rest, split⟩ := here
        exact ⟨[], rest, rfl, split.symm⟩
      · obtain ⟨later, foundLater, rfl⟩ := Option.map_eq_some_iff.mp found
        obtain ⟨front, rest, rfl, split⟩ := ih foundLater
        exact ⟨first :: front, rest, rfl, by rw [split]; rfl⟩

theorem dollarQuoted_eq {before : Option Char} {text replacement found : List Char}
    (matched : dollarQuoted before text = some (replacement, found)) :
    ∃ tag rest body, dollarTag text = some (tag, rest) ∧ upToTag tag rest = some body ∧
      replacement = redactedDollars ∧ found = tag ++ body := by
  obtain ⟨⟨tag, rest⟩, opens, matched⟩ := Option.bind_eq_some_iff.mp matched
  obtain ⟨body, closes, matched⟩ := Option.bind_eq_some_iff.mp matched
  cases matched
  exact ⟨tag, rest, body, opens, closes, rfl, rfl⟩

theorem dollarQuoted_proper : dollarQuoted.Proper := by
  intro before text replacement found matched
  obtain ⟨tag, rest, body, opens, closes, -, rfl⟩ := dollarQuoted_eq matched
  obtain ⟨rfl, name, rfl, -⟩ := dollarTag_eq opens
  obtain ⟨front, behind, rfl, rfl⟩ := upToTag_eq closes
  exact ⟨by simp, behind, by simp⟩

theorem quotedBody_eq {text body : List Char} (found : quotedBody text = some body) :
    body ≠ [] ∧ body <+: text := by
  induction text using quotedBody.induct generalizing body with
  | case1 => cases found
  | case2 rest ih =>
      rw [quotedBody] at found
      rcases Option.or_eq_some_iff.mp found with found | ⟨-, found⟩
      · obtain ⟨later, foundLater, rfl⟩ := Option.map_eq_some_iff.mp found
        obtain ⟨-, behind, rfl⟩ := ih foundLater
        exact ⟨by simp, behind, rfl⟩
      · cases found
        exact ⟨by simp, _, rfl⟩
  | case3 rest other =>
      rw [quotedBody] at found
      · cases found
        exact ⟨by simp, rest, rfl⟩
      · exact other
  | case4 char rest ih ih' =>
      rw [quotedBody] at found
      rcases Option.or_eq_some_iff.mp found with found | ⟨-, found⟩
      · obtain ⟨later, foundLater, rfl⟩ := Option.map_eq_some_iff.mp found
        obtain ⟨-, behind, rfl⟩ := ih foundLater
        exact ⟨by simp, behind, rfl⟩
      · obtain ⟨later, foundLater, rfl⟩ := Option.map_eq_some_iff.mp found
        obtain ⟨-, behind, split⟩ := ih' foundLater
        exact ⟨by simp, behind, by rw [← split]; rfl⟩
  | case5 char rest noPair noQuote noEscape ih =>
      rw [quotedBody] at found
      · obtain ⟨later, foundLater, rfl⟩ := Option.map_eq_some_iff.mp found
        obtain ⟨-, behind, rfl⟩ := ih foundLater
        exact ⟨by simp, behind, rfl⟩
      · exact noPair
      · exact noQuote
      · exact noEscape

theorem singleQuoted_eq {before : Option Char} {text replacement found : List Char}
    (matched : singleQuoted before text = some (replacement, found)) :
    ∃ rest body, text = '\'' :: rest ∧ quotedBody rest = some body ∧
      replacement = redactedQuote ∧ found = '\'' :: body := by
  unfold singleQuoted at matched
  split at matched
  · next rest =>
    obtain ⟨body, closes, same⟩ := Option.map_eq_some_iff.mp matched
    cases same
    exact ⟨rest, body, rfl, closes, rfl, rfl⟩
  · cases matched

theorem singleQuoted_proper : singleQuoted.Proper := by
  intro before text replacement found matched
  obtain ⟨rest, body, rfl, closes, -, rfl⟩ := singleQuoted_eq matched
  obtain ⟨-, behind, rfl⟩ := quotedBody_eq closes
  exact ⟨by simp, behind, rfl⟩

theorem caseless_eq {word text found rest : List Char}
    (read : caseless word text = some (found, rest)) :
    text = found ++ rest ∧ found.map foldCase = word := by
  induction word generalizing text found with
  | nil =>
      cases read
      exact ⟨rfl, rfl⟩
  | cons letter word ih =>
      cases text with
      | nil => cases read
      | cons char text =>
          rw [caseless] at read
          split at read
          · next same =>
            obtain ⟨⟨later, behind⟩, readLater, equal⟩ := Option.map_eq_some_iff.mp read
            cases equal
            obtain ⟨rfl, folded⟩ := ih readLater
            exact ⟨rfl, by rw [List.map_cons, same, folded]⟩
          · cases read

/-- A keyword is one word, or two with a gap of blanks. -/
theorem clauseKeyword_eq {text keyword rest : List Char}
    (read : clauseKeyword text = some (keyword, rest)) :
    text = keyword ++ rest ∧
      (keyword.map foldCase = ['p', 'a', 's', 's', 'w', 'o', 'r', 'd'] ∨
        ∃ identified gap by_, keyword = identified ++ (gap ++ by_) ∧
          identified.map foldCase = ['i', 'd', 'e', 'n', 't', 'i', 'f', 'i', 'e', 'd'] ∧
          gap ≠ [] ∧ (∀ char ∈ gap, isSpace char = true) ∧ by_.map foldCase = ['b', 'y']) := by
  unfold clauseKeyword at read
  split at read
  · next found readWord =>
    cases read
    obtain ⟨split, folded⟩ := caseless_eq readWord
    exact ⟨split, .inl folded⟩
  · obtain ⟨⟨identified, behind⟩, readWord, readRest⟩ := Option.bind_eq_some_iff.mp read
    obtain ⟨rfl, folded⟩ := caseless_eq readWord
    dsimp only at readRest
    split at readRest
    · cases readRest
    · next gapped =>
      obtain ⟨⟨by_, after⟩, readBy, readEnd⟩ := Option.bind_eq_some_iff.mp readRest
      cases readEnd
      obtain ⟨split, foldedBy⟩ := caseless_eq readBy
      refine ⟨?_, .inr ⟨identified, behind.takeWhile isSpace, by_, rfl, folded, gapped, ?_,
        foldedBy⟩⟩
      · rw [List.append_assoc, List.append_assoc, ← split, List.takeWhile_append_dropWhile]
      · exact List.all_eq_true.mp List.all_takeWhile

/-- What ends at the first blank, or at the end of the text. -/
theorem dropWhile_head {keeps : Char → Bool} {text : List Char} :
    ∀ char ∈ (text.dropWhile keeps).head?, keeps char = false := by
  intro char inside
  induction text with
  | nil => cases inside
  | cons first text ih =>
      rw [List.dropWhile_cons] at inside
      split at inside
      · exact ih inside
      · next stops =>
        cases inside
        exact Bool.eq_false_iff.mpr stops

/-- A value and what follows it: the value is quoted, or it goes to the next blank. -/
inductive ClauseValue : List Char → List Char → Prop where
  | quoted {mark : Char} {inner behind : List Char} : mark = '\'' ∨ mark = '"' → mark ∉ inner →
      ClauseValue (mark :: (inner ++ [mark])) behind
  | word {first : Char} {rest behind : List Char} :
      ¬ ((first = '\'' ∨ first = '"') ∧ first ∈ rest ++ behind) →
      (∀ char ∈ first :: rest, isSpace char = false) →
      (∀ char ∈ behind.head?, isSpace char = true) → ClauseValue (first :: rest) behind

theorem clauseValue_iff {text value : List Char} :
    clauseValue text = some value ↔
      ∃ behind, text = value ++ behind ∧ ClauseValue value behind := by
  constructor
  · intro read
    cases text with
    | nil => cases read
    | cons first rest =>
        rw [clauseValue] at read
        split at read
        · next quoted =>
          obtain ⟨isMark, closed⟩ := quoted
          cases read
          obtain ⟨inner, behind, rfl, unmarked⟩ := List.eq_append_cons_of_mem closed
          have others : ∀ char ∈ inner, (char != first) = true := by
            intro char inside
            exact bne_iff_ne.mpr fun same => unmarked (same ▸ inside)
          have taken : (inner ++ first :: behind).takeWhile (· != first) = inner := by
            rw [List.takeWhile_append_of_pos others, List.takeWhile_cons_of_neg (by simp),
              List.append_nil]
          rw [taken]
          exact ⟨behind, by simp, .quoted isMark unmarked⟩
        · next unquoted =>
          split at read
          · cases read
          · next solid =>
            cases read
            refine ⟨rest.dropWhile (!isSpace ·), ?_, .word ?_ ?_ ?_⟩
            · rw [List.cons_append, List.takeWhile_append_dropWhile]
            · rwa [List.takeWhile_append_dropWhile]
            · intro char inside
              rcases List.mem_cons.mp inside with rfl | inside
              · exact Bool.eq_false_iff.mpr solid
              · have taken := List.all_eq_true.mp List.all_takeWhile char inside
                simpa using taken
            · intro char inside
              have stops := dropWhile_head char inside
              simpa using stops
  · rintro ⟨behind, rfl, isValue⟩
    cases isValue with
    | @quoted mark inner _ isMark unmarked =>
        have others : ∀ char ∈ inner, (char != mark) = true := by
          intro char inside
          exact bne_iff_ne.mpr fun same => unmarked (same ▸ inside)
        rw [List.cons_append, clauseValue, if_pos ⟨isMark, by simp⟩, List.append_assoc,
          List.takeWhile_append_of_pos others]
        simp
    | @word first rest _ unquoted solid ends =>
        have solidRest : ∀ char ∈ rest, (!isSpace char) = true := by
          intro char inside
          rw [solid char (List.mem_cons_of_mem _ inside)]
          rfl
        have stops : behind.takeWhile (!isSpace ·) = [] := by
          cases behind with
          | nil => rfl
          | cons char behind => simp [ends char rfl]
        rw [List.cons_append, clauseValue, if_neg unquoted,
          if_neg (by simp [solid first List.mem_cons_self]),
          List.takeWhile_append_of_pos solidRest, stops, List.append_nil]

/-- A value is quoted, or it goes to the next blank. -/
theorem clauseValue_eq {text value : List Char} (read : clauseValue text = some value) :
    ∃ behind, text = value ++ behind ∧
      ((∃ mark inner, (mark = '\'' ∨ mark = '"') ∧ mark ∉ inner ∧
          value = mark :: (inner ++ [mark])) ∨
        value ≠ [] ∧ (∀ char ∈ value, isSpace char = false) ∧
          ∀ char ∈ behind.head?, isSpace char = true) := by
  obtain ⟨behind, split, isValue⟩ := clauseValue_iff.mp read
  refine ⟨behind, split, ?_⟩
  cases isValue with
  | quoted isMark unmarked => exact .inl ⟨_, _, isMark, unmarked, rfl⟩
  | word _ solid ends => exact .inr ⟨List.cons_ne_nil _ _, solid, ends⟩

/-- A clause: a keyword, blanks, and a value. -/
theorem passwordClause_eq {isAlnum : Char → Bool} {before : Option Char}
    {text replacement found : List Char}
    (matched : passwordClause isAlnum before text = some (replacement, found)) :
    atBoundary isAlnum before text = true ∧ ∃ keyword rest value,
      clauseKeyword text = some (keyword, rest) ∧ rest.takeWhile isSpace ≠ [] ∧
        clauseValue (rest.dropWhile isSpace) = some value ∧
        replacement = keyword ++ ' ' :: redactedWord ∧
        found = keyword ++ (rest.takeWhile isSpace ++ value) := by
  unfold passwordClause at matched
  split at matched
  · next boundary =>
    obtain ⟨⟨keyword, rest⟩, readKeyword, readRest⟩ := Option.bind_eq_some_iff.mp matched
    dsimp only at readRest
    split at readRest
    · cases readRest
    · next gapped =>
      obtain ⟨value, readValue, readEnd⟩ := Option.bind_eq_some_iff.mp readRest
      cases readEnd
      exact ⟨boundary, keyword, rest, value, readKeyword, gapped, readValue, rfl, rfl⟩
  · cases matched

theorem clauseKeyword_ne_nil {text keyword rest : List Char}
    (read : clauseKeyword text = some (keyword, rest)) : keyword ≠ [] := by
  rintro rfl
  obtain ⟨-, folded | ⟨identified, gap, by_, same, folded, -, -, -⟩⟩ := clauseKeyword_eq read
  · cases folded
  · obtain ⟨rfl, -⟩ := List.append_eq_nil_iff.mp same.symm
    cases folded

theorem passwordClause_proper (isAlnum : Char → Bool) : (passwordClause isAlnum).Proper := by
  intro before text replacement found matched
  obtain ⟨-, keyword, rest, value, readKeyword, -, readValue, -, rfl⟩ := passwordClause_eq matched
  obtain ⟨rfl, -⟩ := clauseKeyword_eq readKeyword
  obtain ⟨behind, split, -⟩ := clauseValue_eq readValue
  refine ⟨by simp [clauseKeyword_ne_nil readKeyword], behind, ?_⟩
  rw [List.append_assoc, List.append_assoc, ← split, List.takeWhile_append_dropWhile]

/-- Credentials: a scheme, a user and a password that ends at an `@`. -/
theorem credentials_eq {text front password : List Char}
    (read : credentials text = some (front, password)) :
    ∃ scheme user rest, front = scheme ++ ':' :: '/' :: '/' :: (user ++ [':']) ∧
      text = front ++ (password ++ '@' :: rest) ∧
      (∀ char ∈ scheme, isSchemePart char = true) ∧
      user ≠ [] ∧ (∀ char ∈ user, isUserPart char = true) ∧
      password ≠ [] ∧ ∀ char ∈ password, isPasswordPart char = true := by
  unfold credentials at read
  split at read
  · next rest afterScheme =>
    split at read
    · next behind afterUser =>
      split at read
      · next parts =>
        obtain ⟨closed, someUser, somePassword⟩ := parts
        cases read
        obtain ⟨later, afterPassword⟩ : ∃ later, behind.dropWhile isPasswordPart = '@' :: later := by
          cases left : behind.dropWhile isPasswordPart with
          | nil => simp [left] at closed
          | cons first later =>
              rw [left] at closed
              cases closed
              exact ⟨later, rfl⟩
        refine ⟨text.takeWhile isSchemePart, rest.takeWhile isUserPart, later, rfl, ?_,
          List.all_eq_true.mp List.all_takeWhile, someUser,
          List.all_eq_true.mp List.all_takeWhile, somePassword,
          List.all_eq_true.mp List.all_takeWhile⟩
        conv_lhs => rw [← List.takeWhile_append_dropWhile (p := isSchemePart) (l := text),
          afterScheme, ← List.takeWhile_append_dropWhile (p := isUserPart) (l := rest), afterUser,
          ← List.takeWhile_append_dropWhile (p := isPasswordPart) (l := behind), afterPassword]
        simp
      · cases read
    · cases read
  · cases read

end SqlSafetyProxy.Runtime

import SqlSafetyProxy.MySql.Course
import SqlSafetyProxy.MySql.ResponseTracking
import SqlSafetyProxy.MySql.SessionInvariant

/-!
# Executable comments

A server executes the body of `/*! ... */`.  A prepared text with such a comment
cannot be reconstructed and its execution is refused; the text of a query is
only seen by the parser library, which drops comments.
-/

namespace SqlSafetyProxy.MySql

open SqlSafetyProxy.Sql SqlSafetyProxy.Policy SqlSafetyProxy.Wire SqlSafetyProxy.Runtime
open SqlSafetyProxy.Coroutine Proc

variable {Γ : Type}

/-! ## Texts without their comments -/

/-- Drop the bodies of all comments, of executable ones too; their delimiters stay. -/
def eraseComments : ScanState → Bool → List Char → List Char
  | _, _, [] => []
  | state, true, char :: rest => char :: eraseComments state false rest
  | .sql, false, char :: rest =>
      if isQuote char then char :: eraseComments (.quoted char) false rest
      else if char = '#' then char :: eraseComments .lineComment false rest
      else if char = '-' ∧ opensLineComment rest = true then
        char :: eraseComments .lineComment true rest
      else if char = '/' ∧ rest.head? = some '*' then char :: eraseComments .blockComment true rest
      else char :: eraseComments .sql false rest
  | .quoted mark, false, char :: rest =>
      if char = '\\' then char :: eraseComments (.quoted mark) true rest
      else if char ≠ mark then char :: eraseComments (.quoted mark) false rest
      else if rest.head? = some mark then char :: eraseComments (.quoted mark) true rest
      else char :: eraseComments .sql false rest
  | .lineComment, false, char :: rest =>
      if char = '\n' ∨ char = '\r' then char :: eraseComments .sql false rest
      else eraseComments .lineComment false rest
  | .blockComment, false, char :: rest =>
      if char = '*' ∧ rest.head? = some '/' then char :: eraseComments .sql true rest
      else eraseComments .blockComment false rest

def withoutComments (sql : String) : String :=
  String.ofList (eraseComments .sql false sql.toList)

/-- The trees of the text do not depend on the bodies of its comments. -/
def IgnoresComments (glot : Sqlglot) (dialect : Dialect) (sql : String) : Prop :=
  glot.parse sql dialect = glot.parse (withoutComments sql) dialect

theorem IgnoresComments.classify_eq {glot : Sqlglot} {dialect : Dialect} {sql : String}
    (ignores : IgnoresComments glot dialect sql) :
    classify glot sql dialect = classify glot (withoutComments sql) dialect := by
  rw [IgnoresComments] at ignores
  simp only [classify, statements, ignores]

/-! ## Surrounding white space -/

/-- The failure of a text with an executable comment. -/
def executableComment : Exn :=
  .protocol ("Prepared SQL contains an executable comment and " ++ "cannot be reconstructed safely")

section Strip

variable {char : Char} {rest space : List Char} {literals : List String} {state : ScanState}

theorem space_ne {other : Char} (isBlank : isSpace char = true) (solid : isSpace other = false) :
    char ≠ other := by
  rintro rfl
  rw [solid] at isBlank
  cases isBlank

theorem space_noQuote (isBlank : isSpace char = true) : isQuote char = false := by
  have noMark : char.toNat ≠ 0x60 := by
    intro same
    simp [isSpace, same] at isBlank
  simp [isQuote, space_ne isBlank (show isSpace '\'' = false by decide),
    space_ne isBlank (show isSpace '"' = false by decide), noMark]

/-- White space outside quotes and comments is plain text. -/
theorem scanStep_space (isBlank : isSpace char = true) :
    scanStep .sql char rest = .ok (.text .sql false) := by
  simp [scanStep, space_noQuote isBlank, space_ne isBlank (show isSpace '?' = false by decide),
    space_ne isBlank (show isSpace '#' = false by decide),
    space_ne isBlank (show isSpace '-' = false by decide),
    space_ne isBlank (show isSpace '/' = false by decide)]

/-- The scan is not inside a quotation that white space could close. -/
def ScanState.Solid : ScanState → Prop
  | .quoted mark => isSpace mark = false
  | _ => True

/-- White space does not complete a token. -/
theorem solid_prefix {token : List Char} (solid : ∀ char ∈ token, isSpace char = false)
    (blank : ∀ char ∈ space, isSpace char = true) :
    token <+: rest ++ space ↔ token <+: rest := by
  induction token generalizing rest with
  | nil => simp
  | cons first others ih =>
      cases rest with
      | nil =>
          cases space with
          | nil => simp
          | cons char later =>
              have differs := space_ne (blank char List.mem_cons_self)
                (solid first List.mem_cons_self)
              simp [List.cons_prefix_cons, differs.symm]
      | cons char later =>
          have tail := @ih later fun char inside => solid char (List.mem_cons_of_mem _ inside)
          rw [List.cons_append, List.cons_prefix_cons, List.cons_prefix_cons, tail]

theorem head?_space {other : Char} (blank : ∀ char ∈ space, isSpace char = true)
    (solid : isSpace other = false) :
    (rest ++ space).head? = some other ↔ rest.head? = some other := by
  have head : ∀ text : List Char, text.head? = some other ↔ [other] <+: text := by
    intro text
    cases text with
    | nil => simp
    | cons first others => simp [List.cons_prefix_cons, eq_comm]
  rw [head, head, solid_prefix (by simpa using solid) blank]

theorem opensLineComment_space (blank : ∀ char ∈ space, isSpace char = true) :
    opensLineComment (rest ++ space) = opensLineComment rest := by
  cases space with
  | nil => simp
  | cons first others =>
      have isBlank := blank first List.mem_cons_self
      have differs := space_ne isBlank (show isSpace '-' = false by decide)
      match rest with
      | [] => simp [opensLineComment, differs]
      | [second] =>
          by_cases dash : second = '-'
          · simp [opensLineComment, dash, isBlank]
          · simp [opensLineComment, dash]
      | second :: third :: later =>
          by_cases dash : second = '-'
          · simp [opensLineComment, dash]
          · simp [opensLineComment, dash]

theorem opensExecutableComment_space (blank : ∀ char ∈ space, isSpace char = true) :
    opensExecutableComment (rest ++ space) = opensExecutableComment rest := by
  have solid : ∀ char ∈ ['*', '!', 'M', 'm'], isSpace char = false := by
    simp [isSpace]
  have grows : ∀ token ⊆ ['*', '!', 'M', 'm'], token <+: rest ++ space ↔ token <+: rest :=
    fun token within => solid_prefix (fun char inside => solid char (within inside)) blank
  rw [Bool.eq_iff_iff, opensExecutableComment_iff, opensExecutableComment_iff,
    grows ['*', '!'] (by simp), grows ['*', 'M', '!'] (by simp), grows ['*', 'm', '!'] (by simp)]

/-- White space at the end of a text changes no step of the scan. -/
theorem scanStep_append_space (solid : state.Solid) (blank : ∀ char ∈ space, isSpace char = true) :
    scanStep state char (rest ++ space) = scanStep state char rest := by
  cases state with
  | sql =>
      simp only [scanStep, opensLineComment_space blank, opensExecutableComment_space blank,
        head?_space blank (show isSpace '*' = false by decide)]
  | quoted mark =>
      have closes : (rest ++ space).head? = some mark ↔ rest.head? = some mark :=
        head?_space blank solid
      simp only [scanStep, closes]
  | lineComment => rfl
  | blockComment =>
      simp only [scanStep, head?_space blank (show isSpace '/' = false by decide)]

theorem scanStep_solid {next : ScanState} {withFollowing : Bool} (solid : state.Solid)
    (scanned : scanStep state char rest = .ok (.text next withFollowing)) : next.Solid := by
  have quoteSolid : isQuote char = true → isSpace char = false := by
    intro quote
    cases blank : isSpace char with
    | false => rfl
    | true =>
        rw [space_noQuote blank] at quote
        cases quote
  unfold scanStep at scanned
  cases state with
  | sql =>
      simp only at scanned
      split_ifs at scanned with mark quote <;> cases scanned
      · exact quoteSolid quote
      all_goals trivial
  | quoted mark =>
      simp only at scanned
      split_ifs at scanned <;> cases scanned
      · exact solid
      · exact solid
      · trivial
  | lineComment =>
      cases scanned
      split <;> trivial
  | blockComment =>
      simp only at scanned
      split_ifs at scanned <;> cases scanned <;> trivial

theorem scanStep_blank (isBlank : isSpace char = true) :
    scanStep state char rest ≠ .error executableComment := by
  have noSlash := space_ne isBlank (show isSpace '/' = false by decide)
  have noEscape := space_ne isBlank (show isSpace '\\' = false by decide)
  intro scanned
  cases state with
  | sql =>
      rw [scanStep_space isBlank] at scanned
      cases scanned
  | quoted mark =>
      simp only [scanStep, if_neg noEscape] at scanned
      split_ifs at scanned
  | lineComment => cases scanned
  | blockComment =>
      simp only [scanStep] at scanned
      split_ifs at scanned

theorem error_of_bind {α β : Type} {first : Except Exn α} {later : α → β} {error : Exn}
    (failed : (do let value ← first; return later value) = .error error) :
    first = .error error := by
  cases first with
  | error other => exact congrArg Except.error (Except.error.inj failed)
  | ok value => cases failed

theorem endOfTemplate_ne : endOfTemplate state literals ≠ .error executableComment := by
  intro failed
  unfold endOfTemplate at failed
  split at failed
  · exact absurd (Except.error.inj failed) (by decide)
  · exact absurd (Except.error.inj failed) (by decide)
  · split at failed
    · exact absurd (Except.error.inj failed) (by decide)
    · cases failed
  · split at failed
    · exact absurd (Except.error.inj failed) (by decide)
    · cases failed

/-- The scan meets an executable comment here or later. -/
theorem substitute_fails_iff :
    substituteLiterals state false literals (char :: rest) = .error executableComment ↔
      scanStep state char rest = .error executableComment ∨
      (∃ literal others, scanStep state char rest = .ok .placeholder ∧
        literals = literal :: others ∧
        substituteLiterals .sql false others rest = .error executableComment) ∨
      ∃ next withFollowing, scanStep state char rest = .ok (.text next withFollowing) ∧
        substituteLiterals next withFollowing literals rest = .error executableComment := by
  cases scanned : scanStep state char rest with
  | error error =>
      have fails : substituteLiterals state false literals (char :: rest) = .error error := by
        simp only [substituteLiterals, scanned, bind, Except.bind]
      simp [fails]
  | ok step =>
      cases step with
      | placeholder =>
          cases literals with
          | nil =>
              have fails : substituteLiterals state false [] (char :: rest) =
                  .error (.protocol ("Prepared SQL contains more placeholders than " ++
                    "COM_STMT_PREPARE reported")) := by
                simp only [substituteLiterals, scanned, bind, Except.bind]
              have other : executableComment ≠ .protocol
                  ("Prepared SQL contains more placeholders than " ++
                    "COM_STMT_PREPARE reported") := by decide
              rw [fails]
              refine iff_of_false (fun same => other (Except.error.inj same).symm) ?_
              rintro (⟨⟨⟩⟩ | ⟨_, _, -, ⟨⟩, _⟩ | ⟨_, _, ⟨⟩, _⟩)
          | cons literal others =>
              have same : substituteLiterals state false (literal :: others) (char :: rest) = (do
                  let output ← substituteLiterals .sql false others rest
                  return literal.toList ++ output) := by
                simp only [substituteLiterals, scanned, bind, Except.bind]
              rw [same]
              constructor
              · intro failed
                exact .inr (.inl ⟨literal, others, rfl, rfl, error_of_bind failed⟩)
              · rintro (⟨⟨⟩⟩ | ⟨_, _, -, ⟨⟩, failed⟩ | ⟨_, _, ⟨⟩, _⟩)
                rw [failed]
                rfl
      | text next withFollowing =>
          have same : substituteLiterals state false literals (char :: rest) = (do
              let output ← substituteLiterals next withFollowing literals rest
              return char :: output) := by
            simp only [substituteLiterals, scanned, bind, Except.bind]
          rw [same]
          constructor
          · intro failed
            exact .inr (.inr ⟨next, withFollowing, rfl, error_of_bind failed⟩)
          · rintro (⟨⟨⟩⟩ | ⟨_, _, ⟨⟩, _⟩ | ⟨_, _, ⟨⟩, failed⟩)
            rw [failed]
            rfl

theorem substitute_following_iff :
    substituteLiterals state true literals (char :: rest) = .error executableComment ↔
      substituteLiterals state false literals rest = .error executableComment := by
  have same : substituteLiterals state true literals (char :: rest) = (do
      let output ← substituteLiterals state false literals rest
      return char :: output) := by
    simp only [substituteLiterals]
  rw [same]
  constructor
  · exact error_of_bind
  · intro failed
    rw [failed]
    rfl

theorem substitute_nil_ne {skip : Bool} :
    substituteLiterals state skip literals [] ≠ .error executableComment := by
  rw [substituteLiterals]
  exact endOfTemplate_ne

/-- There is no executable comment in white space. -/
theorem substitute_blank {skip : Bool} (blank : ∀ char ∈ space, isSpace char = true) :
    substituteLiterals state skip literals space ≠ .error executableComment := by
  induction space generalizing state skip literals with
  | nil => exact substitute_nil_ne
  | cons char rest ih =>
      have later : ∀ char ∈ rest, isSpace char = true :=
        fun char inside => blank char (List.mem_cons_of_mem _ inside)
      intro failed
      cases skip with
      | true => exact ih later (substitute_following_iff.mp failed)
      | false =>
          obtain here | ⟨_, _, -, -, failed⟩ | ⟨_, _, -, failed⟩ := substitute_fails_iff.mp failed
          · exact scanStep_blank (blank char List.mem_cons_self) here
          · exact ih later failed
          · exact ih later failed

/-- White space at the end hides no executable comment. -/
theorem substitute_append_space {skip : Bool} {text : List Char} (solid : state.Solid)
    (blank : ∀ char ∈ space, isSpace char = true)
    (failed : substituteLiterals state skip literals (text ++ space) = .error executableComment) :
    substituteLiterals state skip literals text = .error executableComment := by
  induction text generalizing state skip literals with
  | nil => exact absurd failed (substitute_blank blank)
  | cons char rest ih =>
      cases skip with
      | true => exact substitute_following_iff.mpr (ih solid (substitute_following_iff.mp failed))
      | false =>
          rw [List.cons_append, substitute_fails_iff, scanStep_append_space solid blank] at failed
          rw [substitute_fails_iff]
          obtain here | ⟨literal, others, scanned, used, failed⟩ |
            ⟨next, withFollowing, scanned, failed⟩ := failed
          · exact .inl here
          · exact .inr (.inl ⟨literal, others, scanned, used, ih trivial failed⟩)
          · exact .inr (.inr ⟨next, withFollowing, scanned,
              ih (scanStep_solid solid scanned) failed⟩)

theorem substitute_dropSpace {text : List Char}
    (failed : substituteLiterals .sql false literals text = .error executableComment) :
    substituteLiterals .sql false literals (text.dropWhile isSpace) = .error executableComment := by
  induction text with
  | nil => exact failed
  | cons char rest ih =>
      cases isBlank : isSpace char with
      | false => rwa [List.dropWhile_cons_of_neg (by simp [isBlank])]
      | true =>
          rw [List.dropWhile_cons_of_pos isBlank]
          refine ih ?_
          rw [substitute_fails_iff, scanStep_space isBlank] at failed
          obtain ⟨⟨⟩⟩ | ⟨_, _, ⟨⟩, _⟩ | ⟨_, _, ⟨⟩, failed⟩ := failed
          exact failed

/-- A prepared text is kept without surrounding white space; that hides no executable comment. -/
theorem reconstruct_strip {sql : String}
    (failed : reconstructStmtExecuteSql sql [] = .error executableComment) :
    reconstructStmtExecuteSql (strip sql) [] = .error executableComment := by
  have scanned := substitute_dropSpace (error_of_bind failed)
  obtain ⟨space, split, blank⟩ : ∃ space, sql.toList.dropWhile isSpace =
      ((sql.toList.dropWhile isSpace).reverse.dropWhile isSpace).reverse ++ space ∧
      ∀ char ∈ space, isSpace char = true := by
    refine ⟨((sql.toList.dropWhile isSpace).reverse.takeWhile isSpace).reverse, ?_, ?_⟩
    · rw [← List.reverse_append, List.takeWhile_append_dropWhile, List.reverse_reverse]
    · intro char inside
      exact List.all_eq_true.mp List.all_takeWhile char (List.mem_reverse.mp inside)
  rw [split] at scanned
  have kept := substitute_append_space (show ScanState.Solid .sql from trivial) blank scanned
  unfold reconstructStmtExecuteSql strip
  rw [String.toList_ofList]
  rw [show List.map DecodedParameter.sqlLiteral [] = [] from rfl] at kept ⊢
  rw [kept]
  rfl

end Strip

/-! ## Statements that are allowed without asking -/

/--
The policy may allow a statement of the given class without a confirmation: it
is read-only, its kind is configured to be allowed, or its rows are counted and
the count may lie below the threshold.
-/
def AutoAllowable (config : PolicyConfig) (classification : Classification) : Prop :=
  if classification.risk = .safe then True
  else if classification.impactKind = .batch then config.multiStatementAction = .allow
  else if classification.risk = .unknown then config.unknownAction = .allow
  else if classification.impactKind = .schema then config.structuralAction = .allow
  else if classification.hasWhere = some false then config.noWhereAction = .allow
  else truthyText classification.previewQuery = true ∨ config.estimationFailureAction = .allow

instance (config : PolicyConfig) (classification : Classification) :
    Decidable (AutoAllowable config classification) := by
  unfold AutoAllowable
  infer_instance

/-- What an estimate of a statement can come to. -/
inductive Estimated (classification : Classification) : Option Int × Option String → Prop where
  | unasked : truthyText classification.previewQuery = false →
      Estimated classification (none, none)
  | counted (rows : Int) : truthyText classification.previewQuery = true →
      Estimated classification (some rows, none)
  | failed (text : String) : truthyText classification.previewQuery = true →
      Estimated classification (none, some text)

section Policy

variable {config : PolicyConfig} {classification : Classification}

/-- Whatever is estimated, the policy allows only what may be allowed automatically. -/
theorem autoAllowable_of_allow {estimated : Option Int × Option String}
    (possible : Estimated classification estimated)
    (allowed : (evaluatePolicy classification estimated.1 estimated.2 config).action = .allow) :
    AutoAllowable config classification := by
  unfold AutoAllowable
  unfold evaluatePolicy at allowed
  split_ifs at allowed ⊢ with safe batch unknown schema noWhere
  · exact allowed
  · exact allowed
  · exact allowed
  · exact allowed
  · cases possible with
    | unasked hidden =>
        simp only [truthyText] at allowed
        exact .inr allowed
    | counted rows asked => exact .inl asked
    | failed text asked => exact .inl asked

/-- The estimate that takes a statement to the threshold. -/
def boundaryEstimate (config : PolicyConfig) (classification : Classification) :
    Option Int × Option String :=
  if truthyText classification.previewQuery then (some config.autoAllowMaxRows, none)
  else (none, none)

theorem allow_of_autoAllowable (allowable : AutoAllowable config classification) :
    (evaluatePolicy classification (boundaryEstimate config classification).1
      (boundaryEstimate config classification).2 config).action = .allow := by
  unfold AutoAllowable at allowable
  unfold evaluatePolicy
  have below : ¬ config.blockAtRows ≤ config.autoAllowMaxRows :=
    Int.not_le.mpr config.autoAllow_lt_block
  split_ifs at allowable ⊢ with safe batch unknown schema noWhere
  · rfl
  · exact allowable
  · exact allowable
  · exact allowable
  · exact allowable
  · cases asked : truthyText classification.previewQuery with
    | true =>
        simp only [boundaryEstimate, asked, if_true, show truthyText none = false from rfl,
          if_neg below, if_pos (le_refl config.autoAllowMaxRows)]
    | false =>
        simp only [boundaryEstimate, asked, Bool.false_eq_true, if_false]
        rw [asked] at allowable
        exact allowable.resolve_left (by decide)

end Policy

/-! ## What a dispatch records -/

section Traced

variable {base : List (Event adapter)} {fine : Event adapter → Prop}
  {C : Proc.Contract awaits (World adapter Γ)} {tools : Tools} {opts : ProxyOptions}
  {message : LogicalMessage} {command : Command}
  {env : (q : Request) → World adapter Γ → q.Answer → World adapter Γ → Prop}

theorem traced_updateSession (change : SessionState → SessionState) :
    Keeps C (Traced base fine) (updateSession change : Handler adapter Γ Unit) :=
  keeps_update fun _ holds => holds

theorem traced_changeSession (change : SessionState → Except Exn SessionState) :
    Keeps C (Traced base fine) (changeSession change : Handler adapter Γ Unit) :=
  keeps_bind keeps_sessionState fun _ => keeps_bind (keeps_ofExcept _) fun _ =>
    traced_updateSession _

theorem traced_forward (guards : Guards C (Traced base fine))
    (isFine : fine (writeOf message)) :
    Keeps C (Traced base fine) (forward message : Handler adapter Γ Bool) :=
  keeps_bind (traced_record isFine) fun _ => keeps_bind (keeps_drain guards) fun _ =>
    keeps_pure true

theorem traced_refuse (guards : Guards C (Traced base fine)) (tolerant : Tolerant fine)
    (text : String) (errorCode : Nat) (sqlState : String) :
    Keeps C (Traced base fine) (refuse message text errorCode sqlState : Handler adapter Γ Bool) :=
  keeps_bind (keeps_ofExcept _) fun _ => keeps_bind (traced_record (tolerant.noted _)) fun _ =>
    keeps_bind (traced_writeClient _) fun _ => keeps_bind (keeps_drain guards) fun _ =>
      keeps_pure false

/-- In a closed mode an uninspectable message is only refused. -/
theorem traced_gap (guards : Guards C (Traced base fine)) (tolerant : Tolerant fine)
    (closed : opts.failSafeMode ≠ .permissive) (reason : String) (commandCode : Option UInt8)
    (database : String) :
    Keeps C (Traced base fine) (handleMysqlProtocolGap tools opts reason commandCode message
      database : Handler adapter Γ Bool) := by
  refine keeps_bind (traced_writeAuditEvent guards tolerant _ _ _ _ _ _ _ _ _) ?_
  intro _
  rw [evaluateProtocolGap_blocks reason closed]
  exact traced_refuse guards tolerant _ _ _

theorem traced_commandGap (guards : Guards C (Traced base fine)) (tolerant : Tolerant fine)
    (closed : opts.failSafeMode ≠ .permissive) (reason : String) :
    Keeps C (Traced base fine)
      (commandGap tools opts message command reason : Handler adapter Γ Bool) :=
  keeps_bind keeps_sessionState fun _ => traced_gap guards tolerant closed _ _ _

theorem wp_estimate_possible {condition : World adapter Γ → Prop} (guards : Guards C condition)
    (classification : Classification) (database : String) {start w : World adapter Γ}
    (holds : condition w) :
    Proc.wp C (estimate classification database : Handler adapter Γ _)
      (fun estimated _ w => condition w ∧ Estimated classification estimated)
      (fun _ _ w => condition w) start w := by
  unfold estimate
  cases preview : classification.previewQuery with
  | none => exact ⟨holds, .unasked (by rw [preview]; rfl)⟩
  | some query =>
      by_cases empty : query = ""
      · simp only [if_pos empty, Proc.wp_pure]
        exact ⟨holds, .unasked (by rw [preview, empty]; rfl)⟩
      · have asked : truthyText classification.previewQuery = true := by
          rw [preview]
          simpa [truthyText] using empty
        simp only [if_neg empty, Proc.wp_bind]
        refine ⟨guards.pauses _ _ _ holds, ?_⟩
        intro result w' relied
        have later := guards.resumes _ _ _ _ holds relied
        cases result with
        | ok rows => exact ⟨later, .counted rows asked⟩
        | error exception => exact ⟨later, .failed _ asked⟩

end Traced

/-! ## Queries -/

section Queries

variable {base : List (Event adapter)} {C : Proc.Contract awaits (World adapter Γ)}
  {tools : Tools} {opts : ProxyOptions} {message : LogicalMessage} {command : Command}

theorem traced_carryOut (guards : Guards C (Traced base Unallowed))
    (classification : Classification) (estimatedRows : Option Int)
    (outcome : Bool × PolicyDecision) :
    Keeps C (Traced base Unallowed) (carryOut message classification estimatedRows outcome :
      Handler adapter Γ Bool) := by
  unfold carryOut
  split
  · exact traced_forward guards (by rintro _ ⟨⟩)
  · exact traced_refuse guards tolerant_unallowed _ _ _

theorem traced_handleMysqlQuery (guards : Guards C (Traced base Unallowed)) {payload : Bytes}
    {sql database : String} (parsed : parseQuery payload = .ok sql)
    (asked : ¬ AutoAllowable opts.policyConfig (classify tools.glot sql opts.dialect)) :
    Keeps C (Traced base Unallowed) (handleMysqlQuery tools opts message payload database :
      Handler adapter Γ Bool) := by
  intro start w holds
  simp only [handleMysqlQuery, parsed, Proc.wp_bind, Proc.wp_ofExcept_ok, wp_classifySql]
  have classified := @traced_record adapter Γ base Unallowed C
    (.classified sql (classify tools.glot sql opts.dialect))
    (tolerant_unallowed.classified _ _) start w holds
  refine Proc.wp_mono (wp_estimate_possible guards _ database classified) ?_ ?_
  · rintro estimated start w ⟨holds, possible⟩
    refine Proc.wp_mono (traced_evaluateAndDecide guards tolerant_unallowed ?_ start w holds) ?_ ?_
    · rintro decision ⟨⟩ allowed
      exact asked (autoAllowable_of_allow possible allowed)
    · intro outcome start w holds
      exact traced_carryOut guards _ _ outcome start w holds
    · exact fun _ _ _ holds => holds
  · exact fun _ _ _ holds => holds

theorem traced_dispatchQuery (guards : Guards C (Traced base Unallowed))
    (closed : opts.failSafeMode ≠ .permissive) {sql : String}
    (parsed : parseQuery command.payload = .ok sql)
    (asked : ¬ AutoAllowable opts.policyConfig (classify tools.glot sql opts.dialect)) :
    Keeps C (Traced base Unallowed) (dispatchQuery tools opts message command :
      Handler adapter Γ Bool) := by
  refine keeps_bind (keeps_attempt (traced_changeSession _)) ?_
  intro begun
  cases begun with
  | error reason => exact traced_refuse guards tolerant_unallowed _ _ _
  | ok _ =>
      refine keeps_bind keeps_sessionState fun state => ?_
      refine keeps_bind (keeps_onRaise (keeps_attempt (traced_handleMysqlQuery guards parsed asked))
        (traced_updateSession _)) ?_
      intro handled
      cases handled with
      | error reason =>
          exact keeps_bind (traced_updateSession _) fun _ =>
            traced_commandGap guards tolerant_unallowed closed _
      | ok forwarded =>
          dsimp only [settleResponse]
          split
          · exact keeps_pure _
          · exact keeps_bind (traced_updateSession _) fun _ => keeps_pure _

/-- A query that may not be allowed automatically is never allowed so. -/
theorem traced_dispatch (guards : Guards C (Traced base Unallowed))
    (closed : opts.failSafeMode ≠ .permissive) {sql : String} {payload : Bytes}
    (sent : message.payload = 0x03 :: payload) (parsed : parseQuery payload = .ok sql)
    (asked : ¬ AutoAllowable opts.policyConfig (classify tools.glot sql opts.dialect)) :
    Keeps C (Traced base Unallowed) (dispatchAuthenticatedCommand tools opts message :
      Handler adapter Γ Bool) := by
  unfold dispatchAuthenticatedCommand
  rw [parseLogicalCommand, sent]
  refine keeps_bind keeps_sessionState fun state => ?_
  split
  · exact traced_refuse guards tolerant_unallowed _ _ _
  · exact traced_dispatchQuery guards closed parsed asked

end Queries

/-! ### A query that is allowed -/

/-- Every write drains and an estimate comes back at the threshold. -/
def thresholdAnswers (config : PolicyConfig) : (q : Request) → q.Answer
  | .drain => true
  | .estimate _ _ => .ok config.autoAllowMaxRows
  | .confirm _ => .ok false
  | .auditLog _ => true
  | .prepareEvent => ()

section Allowed

variable {tools : Tools} {opts : ProxyOptions} {message : LogicalMessage} {command : Command}
  {answer : (q : Request) → q.Answer} {w w' : World adapter Γ}

theorem run_attempt_ok {α : Type} {body : Handler adapter Γ α} {value : α}
    (returned : body.run (fun q w => (answer q, w)) w = (.ok value, w')) :
    (attempt body).run (fun q w => (answer q, w)) w = (.ok (.ok value), w') := by
  rw [attempt, Proc.run_handle, Proc.run_bind, returned]
  rfl

theorem run_onRaise_ok {α : Type} {body : Handler adapter Γ α} {cleanup : Handler adapter Γ Unit}
    {value : α} (returned : body.run (fun q w => (answer q, w)) w = (.ok value, w')) :
    (onRaise body cleanup).run (fun q w => (answer q, w)) w = (.ok value, w') := by
  rw [onRaise, Proc.run_handle, returned]

theorem run_estimate (classification : Classification) (database : String) :
    (estimate classification database : Handler adapter Γ _).run
        (fun q w => (thresholdAnswers opts.policyConfig q, w)) w =
      (.ok (boundaryEstimate opts.policyConfig classification), w) := by
  unfold estimate boundaryEstimate
  cases classification.previewQuery with
  | none => rfl
  | some query =>
      by_cases empty : query = ""
      · simp only [empty, if_true]
        rfl
      · have asked : truthyText (some query) = true := by simpa [truthyText] using empty
        simp only [if_neg empty, asked, if_true]
        rfl

theorem run_writeAuditEvent (sql protocol : String) (classification : Classification)
    (decision : PolicyDecision) (finalDecision : FinalDecision) (estimatedRows : Option Int)
    (estimateError : Option String) (approximate : Bool) (database : String) :
    ∃ audit, (writeAuditEvent tools opts sql protocol classification decision finalDecision
      estimatedRows estimateError approximate database : Handler adapter Γ Unit).run
        (fun q w => (answer q, w)) w = (.ok (), { w with trace := w.trace ++ audit }) := by
  unfold writeAuditEvent
  cases opts.auditing with
  | true => exact ⟨[.audited (buildAuditEvent tools sql protocol classification decision
      finalDecision estimatedRows estimateError approximate database)], rfl⟩
  | false =>
      refine ⟨[], ?_⟩
      rw [List.append_nil]
      rfl

/-- What an allowed decision records, the audit event last. -/
theorem run_evaluateAndDecide {sql protocol database : String} {classification : Classification}
    {estimatedRows : Option Int} {estimateError : Option String} {approximate : Bool}
    (allowed : (evaluatePolicy classification estimatedRows estimateError
      opts.policyConfig).action = .allow) :
    ∃ decision audit, decision.action = .allow ∧
      (evaluateAndDecide tools opts sql protocol classification estimatedRows estimateError
        approximate database : Handler adapter Γ _).run (fun q w => (answer q, w)) w =
          (.ok (true, decision), { w with trace := w.trace ++ .decided decision :: audit }) := by
  obtain ⟨audit, audited⟩ := @run_writeAuditEvent Γ tools opts answer
    (w.log (.decided (evaluatePolicy classification estimatedRows estimateError
      opts.policyConfig))) (tools.sanitizeSql sql 2048) protocol classification
    (evaluatePolicy classification estimatedRows estimateError opts.policyConfig) .allowed
    estimatedRows estimateError approximate database
  refine ⟨evaluatePolicy classification estimatedRows estimateError opts.policyConfig, audit,
    allowed, ?_⟩
  unfold evaluateAndDecide Runtime.settle
  simp only [allowed]
  rw [Proc.run_bind]
  change (writeAuditEvent tools opts _ _ _ _ _ _ _ _ _ >>= fun _ => pure _ :
    Handler adapter Γ _).run _ _ = _
  rw [Proc.run_bind, audited]
  change (Except.ok _, _) = _
  simp only [World.log, List.append_assoc, List.singleton_append]

theorem run_handleMysqlQuery {payload : Bytes} {sql database : String}
    (parsed : parseQuery payload = .ok sql)
    (allowable : AutoAllowable opts.policyConfig (classify tools.glot sql opts.dialect)) :
    ∃ decision before after, decision.action = .allow ∧
      (handleMysqlQuery tools opts message payload database : Handler adapter Γ Bool).run
          (fun q w => (thresholdAnswers opts.policyConfig q, w)) w =
        (.ok true, { w with trace := w.trace ++
          (before ++ .decided decision :: (after ++ [writeOf message])) }) := by
  obtain ⟨decision, audit, allowed, decided⟩ := @run_evaluateAndDecide Γ tools opts
    (thresholdAnswers opts.policyConfig)
    (w.log (.classified sql (classify tools.glot sql opts.dialect))) sql "mysql-com-query" database
    (classify tools.glot sql opts.dialect) _ _ false (allow_of_autoAllowable allowable)
  refine ⟨decision, [.classified sql (classify tools.glot sql opts.dialect)], audit, allowed, ?_⟩
  unfold handleMysqlQuery
  rw [parsed]
  change (estimate _ _ >>= fun _ => _ : Handler adapter Γ _).run _ _ = _
  rw [Proc.run_bind, run_estimate]
  simp only
  rw [Proc.run_bind, decided]
  change (Except.ok _, _) = _
  simp only [World.log, List.append_assoc, List.cons_append]

theorem run_dispatchQuery {sql : String}
    (free : w.session.session.hasPendingLifecycleOperation = false)
    (parsed : parseQuery command.payload = .ok sql)
    (allowable : AutoAllowable opts.policyConfig (classify tools.glot sql opts.dialect)) :
    ∃ decision before after w', decision.action = .allow ∧
      (dispatchQuery tools opts message command : Handler adapter Γ Bool).run
          (fun q w => (thresholdAnswers opts.policyConfig q, w)) w = (.ok true, w') ∧
      w'.trace = w.trace ++ (before ++ .decided decision :: (after ++ [writeOf message])) := by
  have begun : w.session.session.beginCommandResponse .query =
      .ok (w.session.session.awaitingResponse .query) := by
    simp only [SessionState.beginCommandResponse, SessionState.requireNoPendingLifecycleOperation,
      free, Bool.false_eq_true, if_false]
    rfl
  have begins : (changeSession fun state => state.beginCommandResponse .query :
      Handler adapter Γ Unit).run (fun q w => (thresholdAnswers opts.policyConfig q, w)) w =
        (.ok (), withState w (w.session.session.awaitingResponse .query)) := by
    change (Proc.ofExcept (w.session.session.beginCommandResponse .query) >>= fun changed =>
      updateSession fun _ => changed : Handler adapter Γ Unit).run _ w = _
    rw [begun]
    rfl
  obtain ⟨decision, before, after, allowed, handled⟩ := @run_handleMysqlQuery Γ tools opts message
    (withState w (w.session.session.awaitingResponse .query)) command.payload sql
    w.session.session.database parsed allowable
  refine ⟨decision, before, after, { withState w (w.session.session.awaitingResponse .query) with
    trace := w.trace ++ (before ++ .decided decision :: (after ++ [writeOf message])) }, allowed,
    ?_, rfl⟩
  unfold dispatchQuery
  rw [Proc.run_bind, run_attempt_ok begins]
  change (onRaise (attempt (handleMysqlQuery tools opts message command.payload
    w.session.session.database)) _ >>= fun _ => _ : Handler adapter Γ Bool).run _ _ = _
  rw [Proc.run_bind, run_onRaise_ok (run_attempt_ok handled)]
  rfl

theorem run_dispatch {sql : String} {payload : Bytes}
    (free : w.session.session.hasPendingLifecycleOperation = false)
    (sent : message.payload = 0x03 :: payload) (parsed : parseQuery payload = .ok sql)
    (allowable : AutoAllowable opts.policyConfig (classify tools.glot sql opts.dialect)) :
    ∃ decision before after w', decision.action = .allow ∧
      (dispatchAuthenticatedCommand tools opts message : Handler adapter Γ Bool).run
          (fun q w => (thresholdAnswers opts.policyConfig q, w)) w = (.ok true, w') ∧
      w'.trace = w.trace ++ (before ++ .decided decision :: (after ++ [writeOf message])) := by
  obtain ⟨decision, before, after, w', allowed, ran, recorded⟩ := @run_dispatchQuery Γ tools opts
    message (classifyCommand 0x03 payload) w sql free parsed allowable
  refine ⟨decision, before, after, w', allowed, ?_, recorded⟩
  rw [← ran]
  unfold dispatchAuthenticatedCommand
  rw [parseLogicalCommand, sent]
  change (if w.session.session.hasPendingLifecycleOperation = true ∧ _ ∧ _ then _
    else routeCommand tools opts message (classifyCommand 0x03 payload) :
      Handler adapter Γ Bool).run _ w = _
  rw [if_neg (by rw [free]; rintro ⟨⟨⟩, -⟩)]
  rfl

end Allowed

/-! ## Executions -/

section Executions

variable {base : List (Event adapter)} {C : Proc.Contract awaits (World adapter Γ)}
  {tools : Tools} {opts : ProxyOptions} {message : LogicalMessage} {command : Command}
  {execution : StmtExecute} {statement : PreparedStatement} {start w : World adapter Γ}

/-- The statement that an execution names is found at once when no prepare is in flight. -/
theorem wp_executedStatement {fail : Exn → World adapter Γ → World adapter Γ → Prop}
    {post : Option PreparedStatement → World adapter Γ → World adapter Γ → Prop}
    (free : w.session.session.hasPendingLifecycleOperation = false)
    (names : Names w.session.session execution.statementId statement)
    (finish : post (some statement) start w) :
    Proc.wp C (executedStatement execution) post fail start w := by
  obtain ⟨-, preparing, -, -, -⟩ := hasPending_eq_false.mp free
  unfold Names at names
  unfold executedStatement
  split at names
  · next isLast =>
      obtain ⟨last, isLastId, found⟩ := names
      rw [if_pos isLast]
      simp only [lastStatement, Proc.wp_bind, wp_sessionState, preparing, Option.isSome_none,
        Bool.false_eq_true, if_false, SessionState.getLastPreparedStatement, isLastId,
        SessionState.getPreparedStatement, found, Proc.wp_ofExcept_ok, Proc.wp_pure]
      exact finish
  · next other =>
      rw [if_neg other]
      simp only [Proc.wp_bind, wp_sessionState, SessionState.getPreparedStatement, names,
        Proc.wp_ofExcept_ok, Proc.wp_pure]
      exact finish

/-- A statement with an executable comment is never resolved. -/
theorem wp_resolveExecution_raises
    (parsed : parseStmtExecute command.payload = .ok execution)
    (free : w.session.session.hasPendingLifecycleOperation = false)
    (names : Names w.session.session execution.statementId statement)
    (plain : statement.parameterCount = 0)
    (raises : reconstructStmtExecuteSql statement.sql [] = .error executableComment)
    (holds : Traced base Unwritten w) :
    Proc.wp C (resolveExecution tools command : Handler adapter Γ _) (fun _ _ _ => False)
      (fun _ _ w => Traced base Unwritten w) start w := by
  unfold resolveExecution
  simp only [parsed, Proc.wp_bind, Proc.wp_ofExcept_ok]
  refine wp_executedStatement free names ?_
  simp only [Proc.wp_bind, reconstructExecution]
  split
  · exact holds
  · simp only [Proc.wp_bind]
    apply Proc.wp_ofExcept
    · intro decoded read
      have none_ : decoded.parameters = [] := by
        unfold parseStmtExecuteParameters at read
        rw [plain] at read
        split_ifs at read with iterations flags none_
        · cases read
          rfl
        · exact absurd rfl none_
      rw [none_, raises]
      exact @traced_record adapter Γ base Unwritten C _ (tolerant_unwritten.noted _) start w holds
    · intro error failed
      exact holds

/-- An execution of a statement with an executable comment is not written. -/
theorem wp_execute_unwritten (guards : Guards C (Traced base Unwritten))
    (closed : opts.failSafeMode ≠ .permissive)
    (parsed : parseStmtExecute command.payload = .ok execution)
    (free : w.session.session.hasPendingLifecycleOperation = false)
    (names : Names w.session.session execution.statementId statement)
    (plain : statement.parameterCount = 0)
    (raises : reconstructStmtExecuteSql statement.sql [] = .error executableComment)
    (holds : Traced base Unwritten w) :
    Proc.wp C (dispatchStmtExecute tools opts message command : Handler adapter Γ Bool)
      (fun _ _ w => Traced base Unwritten w) (fun _ _ w => Traced base Unwritten w) start w := by
  unfold dispatchStmtExecute
  rw [Proc.wp_bind]
  apply wp_attempt
  refine Proc.wp_mono (wp_resolveExecution_raises parsed free names plain raises holds) ?_ ?_
  · intro _ _ _ impossible
    exact impossible.elim
  · intro error start w holds
    cases error with
    | protocol reason =>
        exact traced_commandGap guards tolerant_unwritten closed reason start w holds
    | connectionLost => exact holds
    | failure exception => exact holds

theorem wp_dispatch_unwritten (guards : Guards C (Traced base Unwritten))
    (closed : opts.failSafeMode ≠ .permissive) {payload : Bytes}
    (sent : message.payload = 0x17 :: payload)
    (parsed : parseStmtExecute payload = .ok execution)
    (free : w.session.session.hasPendingLifecycleOperation = false)
    (names : Names w.session.session execution.statementId statement)
    (plain : statement.parameterCount = 0)
    (raises : reconstructStmtExecuteSql statement.sql [] = .error executableComment)
    (holds : Traced base Unwritten w) :
    Proc.wp C (dispatchAuthenticatedCommand tools opts message : Handler adapter Γ Bool)
      (fun _ _ w => Traced base Unwritten w) (fun _ _ w => Traced base Unwritten w) start w := by
  unfold dispatchAuthenticatedCommand
  rw [parseLogicalCommand, sent]
  simp only [Proc.wp_bind, wp_sessionState]
  rw [if_neg (by rw [free]; rintro ⟨⟨⟩, -⟩)]
  exact @wp_execute_unwritten Γ base C tools opts message (classifyCommand 0x17 payload) execution
    statement start w guards closed parsed free names plain raises holds

end Executions

/-! ## Both paths -/

/-- In some run a query is written although only the policy has allowed it. -/
def ForwardedAutomatically
    (env : (q : Request) → World adapter Γ → q.Answer → World adapter Γ → Prop) (tools : Tools)
    (opts : ProxyOptions) (message : LogicalMessage) (w : World adapter Γ) : Prop :=
  ∃ outcome w' events decision source raw,
    Proc.Exec env (dispatchAuthenticatedCommand tools opts message) w outcome w' ∧
      w'.trace = w.trace ++ events ∧ Event.decided decision ∈ events ∧
      decision.action = .allow ∧ Event.forwarded source raw ∈ events

/-- No execution of the statement that was prepared from a text is ever written. -/
def ExecutionRefused
    (env : (q : Request) → World adapter Γ → q.Answer → World adapter Γ → Prop) (tools : Tools)
    (opts : ProxyOptions) (sql : String) (w : World adapter Γ) : Prop :=
  ∀ message payload execution statement, message.payload = 0x17 :: payload →
    parseStmtExecute payload = .ok execution →
    Names w.session.session execution.statementId statement →
    statement.sql = strip sql → statement.parameterCount = 0 →
    ∀ outcome w', Proc.Exec env (dispatchAuthenticatedCommand tools opts message) w outcome w' →
      ∃ events, w'.trace = w.trace ++ events ∧ ∀ source raw, Event.forwarded source raw ∉ events

section Paths

variable {env : (q : Request) → World adapter Γ → q.Answer → World adapter Γ → Prop}
  {tools : Tools} {opts : ProxyOptions} {sql : String} {w : World adapter Γ}

theorem executionRefused (leaves : LeavesTrace env) (closed : opts.failSafeMode ≠ .permissive)
    (free : w.session.session.hasPendingLifecycleOperation = false)
    (raises : reconstructStmtExecuteSql sql [] = .error executableComment) :
    ExecutionRefused env tools opts sql w := by
  intro message payload execution statement sent parsed names prepared plain outcome w' ran
  have refused : reconstructStmtExecuteSql statement.sql [] = .error executableComment := by
    rw [prepared]
    exact reconstruct_strip raises
  obtain ⟨events, recorded, unwritten⟩ := keeping_sound
    (wp_dispatch_unwritten (guards_traced leaves) closed sent parsed free names plain refused
      (traced_self Unwritten w)) ran
  refine ⟨events, recorded, ?_⟩
  intro source raw inside
  exact unwritten _ inside source raw rfl

theorem notForwarded (leaves : LeavesTrace env) (closed : opts.failSafeMode ≠ .permissive)
    {message : LogicalMessage} {payload : Bytes} (sent : message.payload = 0x03 :: payload)
    (parsed : parseQuery payload = .ok sql)
    (asked : ¬ AutoAllowable opts.policyConfig (classify tools.glot sql opts.dialect)) :
    ¬ ForwardedAutomatically env tools opts message w := by
  rintro ⟨outcome, w', events, decision, source, raw, ran, recorded, decided, allowed, -⟩
  obtain ⟨others, recordedToo, unallowed⟩ := keeping_sound
    (traced_dispatch (guards_traced leaves) closed sent parsed asked w w (traced_self Unallowed w))
    ran
  have same : events = others := List.append_cancel_left (recorded.symm.trans recordedToo)
  rw [same] at decided
  exact unallowed _ decided decision rfl allowed

theorem forwarded (quiet : ∀ q (w : World adapter Γ) answer, env q w answer w)
    (free : w.session.session.hasPendingLifecycleOperation = false) {message : LogicalMessage}
    {payload : Bytes} (sent : message.payload = 0x03 :: payload)
    (parsed : parseQuery payload = .ok sql)
    (allowable : AutoAllowable opts.policyConfig (classify tools.glot sql opts.dialect)) :
    ForwardedAutomatically env tools opts message w := by
  obtain ⟨decision, before, after, w', allowed, ran, recorded⟩ :=
    run_dispatch free sent parsed allowable
  have execution := Proc.exec_run (fun q w _ => quiet q w _)
    (dispatchAuthenticatedCommand tools opts message)
    (Proc.asksOnly_any (fun q w => (thresholdAnswers opts.policyConfig q, w)) _ w)
  rw [ran] at execution
  exact ⟨_, w', _, decision, .command message, message.rawPackets, execution, recorded, by simp,
    allowed, by simp⟩

end Paths

/--
Executions of a text with an executable comment are refused.  A query with the
same text is kept from being forwarded automatically exactly when what is left
of it without comments may not be allowed automatically.
-/
theorem comment_paths_agree_iff
    {env : (q : Request) → World adapter Γ → q.Answer → World adapter Γ → Prop}
    (leaves : LeavesTrace env) (quiet : ∀ q (w : World adapter Γ) answer, env q w answer w)
    {tools : Tools} {opts : ProxyOptions} (closed : opts.failSafeMode ≠ .permissive)
    {sql : String} (ignores : IgnoresComments tools.glot opts.dialect sql)
    (raises : reconstructStmtExecuteSql sql [] = .error executableComment)
    {w : World adapter Γ} (free : w.session.session.hasPendingLifecycleOperation = false)
    {message : LogicalMessage} (sent : message.payload = 0x03 :: encodeUtf8 sql) :
    ExecutionRefused env tools opts sql w ∧
      (¬ ForwardedAutomatically env tools opts message w ↔
        ¬ AutoAllowable opts.policyConfig
          (classify tools.glot (withoutComments sql) opts.dialect)) := by
  have some_ : sql ≠ "" := by
    rintro rfl
    exact absurd raises (by decide)
  have parsed : parseQuery (encodeUtf8 sql) = .ok sql := by
    simp only [parseQuery, parseText, if_neg (encodeUtf8_ne_nil some_), decodeUtf8_encodeUtf8]
  refine ⟨executionRefused leaves closed free raises, ?_⟩
  rw [← ignores.classify_eq]
  constructor
  · intro kept allowable
    exact kept (forwarded quiet free sent parsed allowable)
  · intro asked
    exact notForwarded leaves closed sent parsed asked

/-- A parser library that reads a text with comments as the given statement. -/
def readingAs (statement : Expression) : Tools :=
  { plainTools with glot := { plainTools.glot with parse := fun _ _ => .ok [some statement] } }

def mysqlOptions : ProxyOptions := { strictOptions with dialect := "mysql" }

theorem ignores_readingAs (statement : Expression) (sql : String) :
    IgnoresComments (readingAs statement).glot mysqlOptions.dialect sql := rfl

/-- Any answer may be given while nothing else happens. -/
def undisturbedAnswers (q : Request) (w : World adapter Unit) (_ : q.Answer)
    (w' : World adapter Unit) : Prop := w' = w

theorem leaves_undisturbed : LeavesTrace undisturbedAnswers := by
  rintro q w answer w' rfl
  rfl

theorem quiet_undisturbed (q : Request) (w : World adapter Unit) (answer : q.Answer) :
    undisturbedAnswers q w answer w := rfl

/-- Nothing is awaited. -/
def idleConnection : World adapter Unit := commandPhase clientProtocol41 { database := "shop" } ()

/-- `DELETE` without `WHERE` is held back whatever its comment says. -/
theorem commentedDeletion_asked :
    ExecutionRefused undisturbedAnswers
        (readingAs (Expression.build .delete [(.this, Expression.build .table [])])) mysqlOptions
        "DELETE FROM users /*! LIMIT 1 */" idleConnection ∧
      ¬ ForwardedAutomatically undisturbedAnswers
        (readingAs (Expression.build .delete [(.this, Expression.build .table [])])) mysqlOptions
        (messageOf (0x03 :: encodeUtf8 "DELETE FROM users /*! LIMIT 1 */")) idleConnection := by
  have agree := comment_paths_agree_iff leaves_undisturbed quiet_undisturbed
    (show mysqlOptions.failSafeMode ≠ .permissive by decide)
    (ignores_readingAs (Expression.build .delete [(.this, Expression.build .table [])])
      "DELETE FROM users /*! LIMIT 1 */")
    (show reconstructStmtExecuteSql "DELETE FROM users /*! LIMIT 1 */" [] =
      .error executableComment by decide +kernel)
    (show idleConnection.session.session.hasPendingLifecycleOperation = false by decide)
    (show (messageOf (0x03 :: encodeUtf8 "DELETE FROM users /*! LIMIT 1 */")).payload =
      0x03 :: encodeUtf8 "DELETE FROM users /*! LIMIT 1 */" from rfl)
  exact ⟨agree.1, agree.2.mpr (by decide +kernel)⟩

/-- A `SELECT` is forwarded as read-only with a comment that makes the server write a file. -/
theorem commentedSelect_forwarded :
    reconstructStmtExecuteSql "SELECT * FROM users /*! INTO OUTFILE '/tmp/users' */" [] =
        .error executableComment ∧
      IgnoresComments (readingAs (Expression.build .select [])).glot mysqlOptions.dialect
        "SELECT * FROM users /*! INTO OUTFILE '/tmp/users' */" ∧
      ForwardedAutomatically undisturbedAnswers (readingAs (Expression.build .select []))
        mysqlOptions
        (messageOf (0x03 :: encodeUtf8 "SELECT * FROM users /*! INTO OUTFILE '/tmp/users' */"))
        idleConnection := by
  refine ⟨by decide +kernel, ignores_readingAs _ _, ?_⟩
  have parsed : parseQuery (encodeUtf8 "SELECT * FROM users /*! INTO OUTFILE '/tmp/users' */") =
      .ok "SELECT * FROM users /*! INTO OUTFILE '/tmp/users' */" := by decide +kernel
  have sent : (messageOf (0x03 :: encodeUtf8
      "SELECT * FROM users /*! INTO OUTFILE '/tmp/users' */")).payload =
        0x03 :: encodeUtf8 "SELECT * FROM users /*! INTO OUTFILE '/tmp/users' */" := rfl
  refine forwarded quiet_undisturbed ?_ sent parsed ?_
  · decide
  · decide +kernel

end SqlSafetyProxy.MySql

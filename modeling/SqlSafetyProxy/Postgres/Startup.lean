import SqlSafetyProxy.Postgres.MessageFormat
import SqlSafetyProxy.Collections.Dict

/-!
# The startup phase of a PostgreSQL connection

Before its startup message a client may ask for encryption.  Each of these
packets has a length but no type, and the proxy takes one only when it ends
where a read ends.
-/

namespace SqlSafetyProxy.Postgres

open SqlSafetyProxy.Wire SqlSafetyProxy.Runtime SqlSafetyProxy.Collections

/-! ## Framing -/

def sslRequestCode : Int := 80877103

def gssencRequestCode : Int := 80877104

def isNegotiationRequest (buf : Bytes) : Bool :=
  if buf.length < 8 then false
  else
    let length := beInt (buf.take 4)
    let code := beInt ((buf.drop 4).take 4)
    length == 8 && (code == sslRequestCode || code == gssencRequestCode)

/-- The framer of the startup phase; the constructor rejects bounds below the header size. -/
structure StartupFramer where
  buffer : Bytes := []
  maxMessageBytes : Nat
  header_le_max : 8 ≤ maxMessageBytes := by decide

/-- The startup packet, once all of it has arrived. -/
def StartupFramer.push (framer : StartupFramer) (chunk : Bytes) :
    Except Exn (Option Bytes × StartupFramer) :=
  let buffer := framer.buffer ++ chunk
  if buffer.length < 4 then .ok (none, { framer with buffer := buffer })
  else
    let declaredLength := beInt (buffer.take 4)
    if declaredLength < 8 then
      .error (.protocol
        s!"invalid PostgreSQL startup length {declaredLength}; minimum is 8")
    else if framer.maxMessageBytes < declaredLength then
      .error (.protocol (s!"PostgreSQL startup size {declaredLength} exceeds configured " ++
        s!"maximum {framer.maxMessageBytes}"))
    else if buffer.length < declaredLength then .ok (none, { framer with buffer := buffer })
    else if buffer.length ≠ declaredLength then
      .error (.protocol "PostgreSQL startup packet has trailing bytes")
    else .ok (some buffer, { framer with buffer := [] })

/-! ## Parameters -/

/-- The parameters in the rest of the message; the fuel bounds their number. -/
def readStartupParams : Nat → Dict String String → Bytes → Except Exn (Dict String String)
  | 0, _, _ => .error (.protocol "StartupMessage is missing final terminator")
  | fuel + 1, params, rest =>
      match rest with
      | [] => .error (.protocol "StartupMessage is missing final terminator")
      | byte :: tail =>
          match splitAtNul (byte :: tail) with
          | none => .error (.protocol "StartupMessage key is not terminated")
          | some (keyBytes, afterKey) =>
              if keyBytes = [] then .ok params
              else
                match splitAtNul afterKey with
                | none => .error (.protocol "StartupMessage value is not terminated")
                | some (valueBytes, afterValue) =>
                    match decodeUtf8 keyBytes, decodeUtf8 valueBytes with
                    | some key, some value =>
                        readStartupParams fuel (params.insert key value) afterValue
                    | _, _ => .error (.protocol "StartupMessage contains invalid UTF-8")

def parseStartupParams (startupMessageRaw : Bytes) : Except Exn (Dict String String) :=
  if startupMessageRaw.length < 9 then .error (.protocol "StartupMessage is too short")
  else if beInt (startupMessageRaw.take 4) ≠ startupMessageRaw.length then
    .error (.protocol "StartupMessage declared length does not match received bytes")
  else readStartupParams startupMessageRaw.length ∅ (startupMessageRaw.drop 8)

/-- A text that is there and not empty. -/
def nonEmpty (text : Option String) : Option String := text.filter fun text => text != ""

/-- `params.get("database") or params.get("user") or "postgres"`. -/
def startupDatabase (params : Dict String String) : String :=
  ((nonEmpty (params.lookup "database")).or (nonEmpty (params.lookup "user"))).getD "postgres"

/-! ## What the framer takes -/

/-- A whole packet of the startup phase. -/
structure StartupPacket (maxMessageBytes : Nat) (raw : Bytes) : Prop where
  enough : 8 ≤ raw.length
  bounded : raw.length ≤ maxMessageBytes
  declared : beInt (raw.take 4) = raw.length

/-- The beginning of a packet that has not arrived yet. -/
def Unfinished (maxMessageBytes : Nat) (buffer : Bytes) : Prop :=
  4 ≤ buffer.length → 8 ≤ beInt (buffer.take 4) ∧
    beInt (buffer.take 4) ≤ (maxMessageBytes : Int) ∧ (buffer.length : Int) < beInt (buffer.take 4)

/-- The framer with other bytes waiting. -/
def StartupFramer.holding (framer : StartupFramer) (buffer : Bytes) : StartupFramer :=
  { framer with buffer := buffer }

/-- What one push returns. -/
theorem StartupFramer.push_ok {framer framer' : StartupFramer} {chunk : Bytes}
    {found : Option Bytes} :
    framer.push chunk = .ok (found, framer') ↔
      (found = none ∧ framer' = framer.holding (framer.buffer ++ chunk) ∧
        Unfinished framer.maxMessageBytes (framer.buffer ++ chunk)) ∨
      (found = some (framer.buffer ++ chunk) ∧ framer' = framer.holding [] ∧
        StartupPacket framer.maxMessageBytes (framer.buffer ++ chunk)) := by
  unfold push
  generalize framer.buffer ++ chunk = buffer
  dsimp only
  split
  · next short =>
      constructor
      · rintro ⟨⟩
        exact .inl ⟨rfl, rfl, fun long => absurd short (Nat.not_lt.mpr long)⟩
      · rintro (⟨rfl, rfl, -⟩ | ⟨-, -, whole⟩)
        · rfl
        · exact absurd whole.enough (by omega)
  · next long =>
      split
      · next small =>
          refine iff_of_false (by rintro ⟨⟩) ?_
          rintro (⟨-, -, unfinished⟩ | ⟨-, -, whole⟩)
          · have := (unfinished (by omega)).1
            omega
          · have := whole.declared
            have := whole.enough
            omega
      · split
        · next large =>
            refine iff_of_false (by rintro ⟨⟩) ?_
            rintro (⟨-, -, unfinished⟩ | ⟨-, -, whole⟩)
            · have := (unfinished (by omega)).2.1
              omega
            · have := whole.declared
              have := whole.bounded
              omega
        · split
          · next partial_ =>
              constructor
              · rintro ⟨⟩
                exact .inl ⟨rfl, rfl, fun _ => ⟨by omega, by omega, partial_⟩⟩
              · rintro (⟨rfl, rfl, -⟩ | ⟨-, -, whole⟩)
                · rfl
                · have := whole.declared
                  omega
          · split
            · next trailing =>
                refine iff_of_false (by rintro ⟨⟩) ?_
                rintro (⟨-, -, unfinished⟩ | ⟨-, -, whole⟩)
                · have := (unfinished (by omega)).2.2
                  omega
                · exact trailing whole.declared.symm
            · next exactly =>
                have declared : beInt (buffer.take 4) = buffer.length := by omega
                constructor
                · rintro ⟨⟩
                  exact .inr ⟨rfl, rfl, ⟨by omega, by omega, declared⟩⟩
                · rintro (⟨-, -, unfinished⟩ | ⟨rfl, rfl, -⟩)
                  · have := (unfinished (by omega)).2.2
                    omega
                  · rfl

theorem StartupFramer.raisesProtocol_push (framer : StartupFramer) (chunk : Bytes) :
    RaisesProtocol (framer.push chunk) :=
  .ite (.ok _) (.ite (.protocol _) (.ite (.protocol _)
    (.ite (.ok _) (.ite (.protocol _) (.ok _)))))

/-! ## Every chunking -/

/-- Push chunk after chunk, collecting the packets. -/
def StartupFramer.pushAll : StartupFramer → List Bytes → Except Exn (List Bytes × StartupFramer)
  | framer, [] => .ok ([], framer)
  | framer, chunk :: chunks => do
      let first ← framer.push chunk
      let later ← first.2.pushAll chunks
      return (first.1.toList ++ later.1, later.2)

/-- Some of the chunks make up a packet, some others the next one, and the last ones none yet. -/
inductive Packed (maxMessageBytes : Nat) : List Bytes → List Bytes → Bytes → Prop
  | rest {chunks : List Bytes} : Unfinished maxMessageBytes chunks.flatten →
      Packed maxMessageBytes chunks [] chunks.flatten
  | packet {group chunks packets : List Bytes} {buffer : Bytes} :
      StartupPacket maxMessageBytes group.flatten → Packed maxMessageBytes chunks packets buffer →
      Packed maxMessageBytes (group ++ chunks) (group.flatten :: packets) buffer

theorem unfinished_nil (maxMessageBytes : Nat) : Unfinished maxMessageBytes [] := by
  intro long
  simp at long

/-- A packet is unfinished as long as some of it is missing. -/
theorem StartupPacket.unfinished {maxMessageBytes : Nat} {front back : Bytes}
    (whole : StartupPacket maxMessageBytes (front ++ back)) (missing : back ≠ []) :
    Unfinished maxMessageBytes front := by
  intro long
  have declared := whole.declared
  have enough := whole.enough
  have bounded := whole.bounded
  have positive := List.length_pos_of_ne_nil missing
  rw [List.take_append_of_le_length long] at declared
  simp only [List.length_append] at declared enough bounded
  omega

theorem Unfinished.front {maxMessageBytes : Nat} {front back : Bytes}
    (unfinished : Unfinished maxMessageBytes (front ++ back)) : Unfinished maxMessageBytes front := by
  intro long
  have later := unfinished (by simp only [List.length_append]; omega)
  rw [List.take_append_of_le_length long, List.length_append] at later
  omega

/-- What is unfinished is not a packet. -/
theorem Unfinished.not_packet {maxMessageBytes : Nat} {buffer : Bytes}
    (unfinished : Unfinished maxMessageBytes buffer) : ¬ StartupPacket maxMessageBytes buffer := by
  intro whole
  have enough := whole.enough
  have declared := whole.declared
  have later := unfinished (by omega)
  omega

section Chunks

variable (framer : StartupFramer)

theorem StartupFramer.pushAll_append (chunks more : List Bytes) :
    framer.pushAll (chunks ++ more) = do
      let first ← framer.pushAll chunks
      let later ← first.2.pushAll more
      return (first.1 ++ later.1, later.2) := by
  induction chunks generalizing framer with
  | nil =>
      rw [List.nil_append, pushAll]
      change _ = (framer.pushAll more >>= fun later => pure ([] ++ later.1, later.2))
      cases framer.pushAll more <;> rfl
  | cons chunk chunks ih =>
      rw [List.cons_append, pushAll, pushAll]
      cases framer.push chunk with
      | error error => rfl
      | ok first =>
          change (first.2.pushAll (chunks ++ more) >>= _) =
            ((first.2.pushAll chunks >>= _) >>= _)
          rw [ih]
          cases first.2.pushAll chunks with
          | error error => rfl
          | ok later =>
              change ((later.2.pushAll more >>= _) >>= _) = (later.2.pushAll more >>= _)
              cases later.2.pushAll more with
              | error error => rfl
              | ok last =>
                  change Except.ok (_, _) = Except.ok (_, _)
                  simp only [List.append_assoc]

/-- Chunks that do not complete a packet wait. -/
theorem StartupFramer.pushAll_unfinished (buffer : Bytes) (chunks : List Bytes)
    (unfinished : Unfinished framer.maxMessageBytes (buffer ++ chunks.flatten)) :
    (framer.holding buffer).pushAll chunks =
      .ok ([], framer.holding (buffer ++ chunks.flatten)) := by
  induction chunks generalizing buffer with
  | nil => rw [List.flatten_nil, List.append_nil, pushAll]
  | cons chunk chunks ih =>
      rw [List.flatten_cons, ← List.append_assoc] at unfinished ⊢
      have waits : (framer.holding buffer).push chunk =
          .ok (none, framer.holding (buffer ++ chunk)) :=
        push_ok.mpr (.inl ⟨rfl, rfl, unfinished.front⟩)
      rw [pushAll, waits]
      change ((framer.holding (buffer ++ chunk)).pushAll chunks >>= _) = _
      rw [ih _ unfinished]
      rfl

/-- The chunks of a packet give that packet. -/
theorem StartupFramer.pushAll_packet (buffer : Bytes) (chunks : List Bytes)
    (unfinished : Unfinished framer.maxMessageBytes buffer)
    (whole : StartupPacket framer.maxMessageBytes (buffer ++ chunks.flatten)) :
    (framer.holding buffer).pushAll chunks =
      .ok ([buffer ++ chunks.flatten], framer.holding []) := by
  induction chunks generalizing buffer with
  | nil =>
      rw [List.flatten_nil, List.append_nil] at whole
      exact absurd whole unfinished.not_packet
  | cons chunk chunks ih =>
      rw [List.flatten_cons, ← List.append_assoc] at whole ⊢
      by_cases complete : chunks.flatten = []
      · rw [complete, List.append_nil] at whole ⊢
        have taken : (framer.holding buffer).push chunk =
            .ok (some (buffer ++ chunk), framer.holding []) :=
          push_ok.mpr (.inr ⟨rfl, rfl, whole⟩)
        have empty := framer.pushAll_unfinished [] chunks
          (by rw [complete]; exact unfinished_nil _)
        rw [complete] at empty
        rw [pushAll, taken]
        change ((framer.holding []).pushAll chunks >>= _) = _
        rw [empty]
        rfl
      · have later := whole.unfinished complete
        have waits : (framer.holding buffer).push chunk =
            .ok (none, framer.holding (buffer ++ chunk)) :=
          push_ok.mpr (.inl ⟨rfl, rfl, later⟩)
        rw [pushAll, waits]
        change ((framer.holding (buffer ++ chunk)).pushAll chunks >>= _) = _
        rw [ih _ later whole]
        rfl

/-- What was pushed before and what is pushed now make up packets. -/
theorem StartupFramer.packed_of_pushAll (before : List Bytes) {chunks packets : List Bytes}
    {framer' : StartupFramer} (unfinished : Unfinished framer.maxMessageBytes before.flatten)
    (pushed : (framer.holding before.flatten).pushAll chunks = .ok (packets, framer')) :
    framer' = framer.holding framer'.buffer ∧
      Packed framer.maxMessageBytes (before ++ chunks) packets framer'.buffer := by
  induction chunks generalizing before packets with
  | nil =>
      rw [pushAll] at pushed
      cases pushed
      rw [List.append_nil]
      exact ⟨rfl, .rest unfinished⟩
  | cons chunk chunks ih =>
      rw [pushAll] at pushed
      obtain ⟨⟨found, middle⟩, first, pushed⟩ := bind_ok pushed
      obtain ⟨⟨more, last⟩, later, same⟩ := bind_ok pushed
      cases same
      have flat : before.flatten ++ chunk = (before ++ [chunk]).flatten := by simp
      have split : before ++ chunk :: chunks = (before ++ [chunk]) ++ chunks := by simp
      rcases push_ok.mp first with ⟨rfl, rfl, waits⟩ | ⟨rfl, rfl, whole⟩
      · rw [split]
        change Unfinished framer.maxMessageBytes (before.flatten ++ chunk) at waits
        change (framer.holding (before.flatten ++ chunk)).pushAll chunks = _ at later
        rw [flat] at waits later
        exact ih _ waits later
      · change StartupPacket framer.maxMessageBytes (before.flatten ++ chunk) at whole
        change (framer.holding ([] : List Bytes).flatten).pushAll chunks = _ at later
        obtain ⟨holds, packed⟩ := ih [] (unfinished_nil _) later
        refine ⟨holds, ?_⟩
        rw [split]
        change Packed _ _ ((before.flatten ++ chunk) :: more) _
        rw [flat] at whole ⊢
        exact .packet whole packed

theorem StartupFramer.pushAll_of_packed {chunks packets : List Bytes} {buffer : Bytes}
    (packed : Packed framer.maxMessageBytes chunks packets buffer) :
    (framer.holding []).pushAll chunks = .ok (packets, framer.holding buffer) := by
  induction packed with
  | rest unfinished => exact framer.pushAll_unfinished [] _ unfinished
  | packet whole _ ih =>
      rw [pushAll_append, framer.pushAll_packet [] _ (unfinished_nil _) whole]
      change ((framer.holding []).pushAll _ >>= _) = _
      rw [ih]
      rfl

end Chunks

/--
However the startup phase is read, the framer raises nothing but protocol errors,
and it raises none exactly when every packet ends where a read ends; then it
returns these packets, and what it keeps is the beginning of the next one.
-/
theorem startup_framing (framer : StartupFramer) (chunks : List Bytes) :
    RaisesProtocol ((framer.holding []).pushAll chunks) ∧
      ∀ packets buffer, (framer.holding []).pushAll chunks = .ok (packets, framer.holding buffer) ↔
        Packed framer.maxMessageBytes chunks packets buffer := by
  refine ⟨?_, fun packets buffer => ⟨?_, framer.pushAll_of_packed⟩⟩
  · generalize framer.holding [] = framer
    induction chunks generalizing framer with
    | nil => exact .ok _
    | cons chunk chunks ih =>
        exact .bind (framer.raisesProtocol_push chunk) fun first => .bind (ih first.2) fun _ => .ok _
  · intro pushed
    exact (framer.packed_of_pushAll [] (unfinished_nil _) pushed).2

/-! ## What the parameters are read from -/

/-- A parameter that can be sent: its name is not empty, and neither text holds a NUL. -/
structure IsParam (param : String × String) : Prop where
  named : param.1 ≠ ""
  name_clean : NulFree param.1
  value_clean : NulFree param.2

def encodeParam (param : String × String) : Bytes :=
  encodeCString param.1 ++ encodeCString param.2

/-- A protocol version, the parameters and an empty name; what follows that is not looked at. -/
inductive StartupFormat : List (String × String) → Bytes → Prop
  | mk {params : List (String × String)} {version unread : Bytes} : version.length = 4 →
      (∀ param ∈ params, IsParam param) →
      8 + (params.flatMap encodeParam ++ 0 :: unread).length < 2 ^ 31 →
      StartupFormat params (bePack 4 (8 + (params.flatMap encodeParam ++ 0 :: unread).length) ++
        (version ++ (params.flatMap encodeParam ++ 0 :: unread)))

/-- Where a name is sent twice, the later value counts. -/
def collect (params : List (String × String)) (known : Dict String String) : Dict String String :=
  params.foldl (fun known param => known.insert param.1 param.2) known

theorem splitAtNul_encodeCString {text : String} (clean : NulFree text) (rest : Bytes) :
    splitAtNul (encodeCString text ++ rest) = some (encodeUtf8 text, rest) := by
  refine splitAtNul_eq_some.mpr ⟨clean, ?_⟩
  rw [encodeCString, List.append_assoc]
  rfl

theorem cons_of_encodeCString (text : String) (rest : Bytes) :
    ∃ byte tail, encodeCString text ++ rest = byte :: tail := by
  cases encoded : encodeUtf8 text with
  | nil => exact ⟨0, rest, by simp [encodeCString, encoded]⟩
  | cons byte tail => exact ⟨byte, tail ++ [0] ++ rest, by simp [encodeCString, encoded]⟩

/-- The parameters are read back. -/
theorem readStartupParams_encoded (params : List (String × String)) {unread : Bytes} {fuel : Nat}
    (known : Dict String String) (are : ∀ param ∈ params, IsParam param)
    (enough : (params.flatMap encodeParam ++ 0 :: unread).length ≤ fuel) :
    readStartupParams fuel known (params.flatMap encodeParam ++ 0 :: unread) =
      .ok (collect params known) := by
  induction params generalizing fuel known with
  | nil =>
      cases fuel with
      | zero => simp at enough
      | succ fuel => rfl
  | cons param params ih =>
      have first := are param List.mem_cons_self
      have name := encodeUtf8_ne_nil first.named
      simp only [List.flatMap_cons, encodeParam, List.append_assoc] at enough ⊢
      cases fuel with
      | zero => simp [encodeCString] at enough
      | succ fuel =>
          obtain ⟨byte, tail, whole⟩ := cons_of_encodeCString param.1
            (encodeCString param.2 ++ (params.flatMap encodeParam ++ 0 :: unread))
          have later : (params.flatMap encodeParam ++ 0 :: unread).length ≤ fuel := by
            simp only [encodeCString, List.length_append, List.length_cons, List.length_nil] at enough ⊢
            omega
          rw [whole, readStartupParams, ← whole, splitAtNul_encodeCString first.name_clean]
          simp only [if_neg name, splitAtNul_encodeCString first.value_clean,
            decodeUtf8_encodeUtf8]
          exact ih _ (fun other inside => are other (List.mem_cons_of_mem _ inside)) later

/-- What is read are parameters. -/
theorem readStartupParams_ok {fuel : Nat} {known result : Dict String String} {rest : Bytes}
    (done : readStartupParams fuel known rest = .ok result) :
    ∃ params unread, (∀ param ∈ params, IsParam param) ∧
      rest = params.flatMap encodeParam ++ 0 :: unread ∧ result = collect params known := by
  induction fuel generalizing known rest with
  | zero => cases done
  | succ fuel ih =>
      unfold readStartupParams at done
      split at done
      · cases done
      split at done
      · cases done
      next keyBytes afterKey key =>
        obtain ⟨keyClean, keySplit⟩ := splitAtNul_eq_some.mp key
        split at done
        · next ended =>
            cases done
            refine ⟨[], afterKey, by simp, ?_, rfl⟩
            rw [keySplit, ended]
            rfl
        next named =>
          split at done
          · cases done
          next valueBytes afterValue value =>
            obtain ⟨valueClean, valueSplit⟩ := splitAtNul_eq_some.mp value
            split at done
            · next name content isName isContent =>
                rw [decodeUtf8_eq_some] at isName isContent
                obtain ⟨params, unread, are, split, collected⟩ := ih done
                refine ⟨(name, content) :: params, unread, ?_, ?_, collected⟩
                · intro param inside
                  rcases List.mem_cons.mp inside with rfl | inside
                  · rw [isName] at keyClean named
                    rw [isContent] at valueClean
                    refine ⟨?_, keyClean, valueClean⟩
                    rintro rfl
                    exact named rfl
                  · exact are param inside
                · rw [keySplit, valueSplit, split, isName, isContent]
                  simp [encodeParam, encodeCString]
            · cases done

theorem raisesProtocol_readStartupParams (fuel : Nat) (known : Dict String String) (rest : Bytes) :
    RaisesProtocol (readStartupParams fuel known rest) := by
  induction fuel generalizing known rest with
  | zero => exact .protocol _
  | succ fuel ih =>
      unfold readStartupParams
      split
      · exact .protocol _
      split
      · exact .protocol _
      refine .ite (.ok _) ?_
      split
      · exact .protocol _
      split
      · exact ih _ _
      · exact .protocol _

/--
The parser of startup messages accepts exactly its format, returns the
parameters that were sent, and fails with a protocol error only.
-/
theorem startupParams_exact (raw : Bytes) :
    RaisesProtocol (parseStartupParams raw) ∧
      ∀ result, parseStartupParams raw = .ok result ↔
        ∃ params, StartupFormat params raw ∧ result = collect params ∅ := by
  refine ⟨.ite (.protocol _) (.ite (.protocol _) (raisesProtocol_readStartupParams _ _ _)), ?_⟩
  intro result
  constructor
  · intro done
    unfold parseStartupParams at done
    split at done
    · cases done
    next long =>
      split at done
      · cases done
      next declared =>
        obtain ⟨params, unread, are, split, rfl⟩ := readStartupParams_ok done
        rw [Classical.not_not] at declared
        obtain ⟨fits, packed⟩ := beInt_eq_natCast.mp declared
        have four : (raw.take 4).length = 4 := by
          rw [List.length_take]
          omega
        rw [four] at fits packed
        have size : raw.length = 8 + (params.flatMap encodeParam ++ 0 :: unread).length := by
          rw [← split, List.length_drop]
          omega
        have parts : raw = raw.take 4 ++ ((raw.drop 4).take 4 ++ raw.drop 8) := by
          have tail : (raw.drop 4).drop 4 = raw.drop 8 := by rw [List.drop_drop]
          rw [← tail, List.take_append_drop, List.take_append_drop]
        refine ⟨params, ?_, rfl⟩
        rw [parts, packed, split, size]
        refine .mk ?_ are ?_
        · rw [List.length_take, List.length_drop]
          omega
        · rw [← size]
          exact fits
  · rintro ⟨params, ⟨four, are, fits⟩, rfl⟩
    rename_i version unread
    generalize body : params.flatMap encodeParam ++ 0 :: unread = rest at fits ⊢
    have nonempty : 0 < rest.length := by
      rw [← body]
      simp
    have declared : beInt (bePack 4 (8 + rest.length)) = (8 + rest.length : Nat) :=
      beInt_bePack fits
    have front : (bePack 4 (8 + rest.length) ++ (version ++ rest)).take 4 =
        bePack 4 (8 + rest.length) := List.take_left' (length_bePack _ _)
    have back : (bePack 4 (8 + rest.length) ++ (version ++ rest)).drop 8 = rest := by
      rw [← List.append_assoc]
      exact List.drop_left' (by simp [four])
    have size : (bePack 4 (8 + rest.length) ++ (version ++ rest)).length = 8 + rest.length := by
      simp only [List.length_append, length_bePack, four]
      omega
    unfold parseStartupParams
    rw [front, back, size, declared, if_neg (by omega), if_neg (by simp), ← body]
    exact readStartupParams_encoded params ∅ are (by rw [body]; omega)

/-- The database named first by the message, its user, or the default one. -/
theorem startupDatabase_ne_empty (params : Dict String String) : startupDatabase params ≠ "" := by
  unfold startupDatabase
  have named : ∀ {text value}, nonEmpty text = some value → value ≠ "" := by
    intro text value known
    have passes := (Option.filter_eq_some_iff.mp known).2
    simpa using passes
  cases database : nonEmpty (params.lookup "database") with
  | some name => exact named database
  | none =>
      cases user : nonEmpty (params.lookup "user") with
      | some name => exact named user
      | none => decide

end SqlSafetyProxy.Postgres

import SqlSafetyProxy.MySql.Grammar
import SqlSafetyProxy.Wire.Reader

/-!
# Handshake responses

What a client's handshake response consists of.  The fields behind the header
depend on the capabilities in it; the parser returns what the client has sent.
-/

namespace SqlSafetyProxy.MySql

open SqlSafetyProxy.Wire SqlSafetyProxy.Runtime

/-! ## The format -/

/-- Capabilities in the extended bytes of the header, which only a MariaDB client has. -/
def Capabilities (flags : Nat) : Prop :=
  flags < 2 ^ 64 ∧ (hasFlag flags clientMysql = true → flags < 2 ^ 32)

/--
The lower capabilities, 24 bytes that are not read, and the extended
capabilities or, where there are none, four bytes that are not read either.
-/
inductive HeaderFormat (flags : Nat) : Bytes → Prop
  | basic {unread reserved : Bytes} : hasFlag flags clientMysql = true → unread.length = 24 →
      reserved.length = 4 → HeaderFormat flags (lePack 4 flags ++ (unread ++ reserved))
  | extended {unread : Bytes} : hasFlag flags clientMysql = false → unread.length = 24 →
      HeaderFormat flags (lePack 4 flags ++ (unread ++ lePack 4 (flags / 2 ^ 32)))

def NulFree (text : String) : Prop := 0 ∉ encodeUtf8 text

def encodeNulTerminated (text : Bytes) : Bytes := text ++ [0]

/-- The authentication data in the encoding that the capabilities ask for. -/
inductive AuthDataFormat (flags : Nat) (data : Bytes) : Bytes → Prop
  | lenenc {length : Bytes} : hasFlag flags clientPluginAuthLenencClientData = true →
      Lenenc data.length length → AuthDataFormat flags data (length ++ data)
  | oneByte {length : UInt8} : hasFlag flags clientPluginAuthLenencClientData = false →
      hasFlag flags clientSecureConnection = true → length.toNat = data.length →
      AuthDataFormat flags data (length :: data)
  | terminated : hasFlag flags clientPluginAuthLenencClientData = false →
      hasFlag flags clientSecureConnection = false → 0 ∉ data →
      AuthDataFormat flags data (encodeNulTerminated data)

inductive DatabaseFormat (flags : Nat) : Option String → Bytes → Prop
  | sent {name : String} : hasFlag flags clientConnectWithDb = true → NulFree name →
      DatabaseFormat flags (some name) (encodeNulTerminated (encodeUtf8 name))
  | none : hasFlag flags clientConnectWithDb = false → DatabaseFormat flags none []

def encodeAscii (text : String) : Bytes := text.toList.map fun char => UInt8.ofNat char.toNat

def IsAscii (text : String) : Prop := ∀ char ∈ text.toList, 0 < char.toNat ∧ char.toNat < 128

/-- A plugin name and the connection attributes behind it. -/
inductive PluginFormat (flags : Nat) : Option String → Bytes → Prop
  | sent {name : String} {attributes : Bytes} : hasFlag flags clientPluginAuth = true →
      IsAscii name →
      PluginFormat flags (some name) (encodeNulTerminated (encodeAscii name) ++ attributes)
  | none : PluginFormat flags none []

inductive HandshakeFormat : HandshakeResponse → Bytes → Prop
  | mk {flags : Nat} {username : String} {database plugin : Option String}
      {header data authData name behind : Bytes} :
      Capabilities flags → HeaderFormat flags header → NulFree username →
      AuthDataFormat flags data authData → DatabaseFormat flags database name →
      PluginFormat flags plugin behind →
      HandshakeFormat ⟨flags, username, database, plugin, false⟩
        (header ++ (encodeNulTerminated (encodeUtf8 username) ++ (authData ++ (name ++ behind))))

/-! ## The fields are read -/

section Fields

variable {flags : Nat} {data raw rest : Bytes}

theorem readNullTerminated_eq_ok {fieldName : String} {input text : Bytes} :
    readNullTerminated fieldName input = .ok (text, rest) ↔
      0 ∉ text ∧ input = encodeNulTerminated text ++ rest := by
  have split : text ++ 0 :: rest = encodeNulTerminated text ++ rest := by
    rw [encodeNulTerminated, List.append_assoc]
    rfl
  rw [← split, ← splitAtNul_eq_some, readNullTerminated]
  cases splitAtNul input with
  | none => exact iff_of_false (by rintro ⟨⟩) (by rintro ⟨⟩)
  | some parts => exact ⟨by rintro ⟨⟩; rfl, by rintro ⟨⟩; rfl⟩

theorem skipAuthData_append (data rest : Bytes) :
    skipAuthData data.length (data ++ rest) = .ok rest := by
  rw [skipAuthData, List.length_append, if_neg (by omega), List.drop_left]

theorem skipAuthResponse_append (format : AuthDataFormat flags data raw) (rest : Bytes) :
    skipAuthResponse flags (raw ++ rest) = .ok rest := by
  unfold skipAuthResponse
  cases format with
  | lenenc isLenenc length =>
      rw [if_pos isLenenc, List.append_assoc]
      refine bind_eq_ok.mpr ⟨_, readLenenc_append length _ _ _ (data ++ rest), ?_⟩
      exact skipAuthData_append data rest
  | @oneByte length noLenenc isSecure size =>
      rw [noLenenc, isSecure, if_neg Bool.false_ne_true, if_pos rfl, List.cons_append]
      dsimp only
      rw [size]
      exact skipAuthData_append data rest
  | terminated noLenenc noSecure clean =>
      rw [noLenenc, noSecure, if_neg Bool.false_ne_true, if_neg Bool.false_ne_true]
      exact bind_eq_ok.mpr ⟨_, readNullTerminated_eq_ok.mpr ⟨clean, rfl⟩, rfl⟩

theorem readDatabase_append {database : Option String}
    (format : DatabaseFormat flags database raw) (rest : Bytes) :
    readDatabase flags (raw ++ rest) = .ok (database, rest) := by
  unfold readDatabase
  cases format with
  | @sent name isSent clean =>
      rw [if_pos isSent]
      refine bind_eq_ok.mpr ⟨_, readNullTerminated_eq_ok.mpr ⟨clean, rfl⟩, ?_⟩
      dsimp only
      rw [decodeUtf8_encodeUtf8]
      rfl
  | none notSent =>
      rw [if_neg (by rw [notSent]; exact Bool.false_ne_true)]
      rfl

theorem isAscii_bytes {text : String} (ascii : IsAscii text) :
    ∀ byte ∈ encodeAscii text, ∃ char ∈ text.toList, byte.toNat = char.toNat := by
  intro byte inside
  obtain ⟨char, isChar, rfl⟩ := List.mem_map.mp inside
  have small := (ascii char isChar).2
  exact ⟨char, isChar, by rw [toNat_ofNat_byte]; omega⟩

theorem decodeAscii_encodeAscii {text : String} (ascii : IsAscii text) :
    decodeAscii (encodeAscii text) = some text := by
  have small : (encodeAscii text).all (fun byte => byte < 128) = true := by
    rw [List.all_eq_true]
    intro byte inside
    obtain ⟨char, isChar, same⟩ := isAscii_bytes ascii byte inside
    rw [decide_eq_true_eq, UInt8.lt_iff_toNat_lt, same]
    exact (ascii char isChar).2
  have chars : (encodeAscii text).map (fun byte => Char.ofNat byte.toNat) = text.toList := by
    rw [encodeAscii, List.map_map]
    refine (List.map_congr_left fun char isChar => ?_).trans (List.map_id _)
    have bound := (ascii char isChar).2
    change Char.ofNat (UInt8.ofNat char.toNat).toNat = char
    rw [toNat_ofNat_byte, Nat.mod_eq_of_lt (by omega), Char.ofNat_toNat]
  rw [decodeAscii, if_pos small, chars, String.ofList_toList]

theorem readAuthPlugin_of_format {plugin : Option String}
    (format : PluginFormat flags plugin raw) : readAuthPlugin flags raw = .ok plugin := by
  unfold readAuthPlugin
  cases format with
  | @sent name attributes isSent ascii =>
      have clean : 0 ∉ encodeAscii name := by
        intro inside
        obtain ⟨char, isChar, same⟩ := isAscii_bytes ascii 0 inside
        have positive := (ascii char isChar).1
        rw [← same] at positive
        exact absurd positive (by decide)
      have some_ : encodeNulTerminated (encodeAscii name) ++ attributes ≠ [] := by
        simp [encodeNulTerminated]
      rw [if_pos ⟨isSent, some_⟩]
      refine bind_eq_ok.mpr ⟨_, readNullTerminated_eq_ok.mpr ⟨clean, rfl⟩, ?_⟩
      dsimp only
      rw [decodeAscii_encodeAscii ascii]
      rfl
  | none =>
      rw [if_neg fun both => both.2 rfl]
      rfl

end Fields

/-! ## The capabilities are read -/

theorem hasFlag_clientMysql (flags : Nat) :
    hasFlag flags clientMysql = decide (flags % 2 = 1) := by
  unfold hasFlag clientMysql
  rw [Nat.and_one_is_mod]
  rcases Nat.mod_two_eq_zero_or_one flags with even | odd
  · rw [even]
    rfl
  · rw [odd]
    rfl

theorem handshakeCapabilities_append {flags : Nat} {header : Bytes} (capable : Capabilities flags)
    (format : HeaderFormat flags header) (rest : Bytes) :
    header.length = 32 ∧ handshakeCapabilities (header ++ rest) = flags := by
  have low : ∀ others, leNat ((lePack 4 flags ++ others).take 4) = flags % 2 ^ 32 := by
    intro others
    have packed := leNat_lePack 4 flags
    rw [pow_256] at packed
    rw [List.take_left' (length_lePack 4 flags)]
    exact packed
  have same : hasFlag (flags % 2 ^ 32) clientMysql = hasFlag flags clientMysql := by
    rw [hasFlag_clientMysql, hasFlag_clientMysql]
    congr 1
    have reduced : flags % 2 ^ 32 % 2 = flags % 2 := Nat.mod_mod_of_dvd flags (by decide)
    rw [reduced]
  unfold handshakeCapabilities
  cases format with
  | basic isMysql unread reserved =>
      refine ⟨by simp [unread, reserved], ?_⟩
      rw [List.append_assoc, low]
      dsimp only
      rw [same, if_pos isMysql, Nat.mod_eq_of_lt (capable.2 isMysql)]
  | @extended unread noMysql size =>
      refine ⟨by simp [size], ?_⟩
      have high : leNat (((lePack 4 flags ++ (unread ++ lePack 4 (flags / 2 ^ 32)) ++ rest).drop
          28).take 4) = flags / 2 ^ 32 := by
        have front : (lePack 4 flags ++ unread).length = 28 := by simp [size]
        rw [← List.append_assoc (lePack 4 flags), List.append_assoc, List.drop_left' front,
          List.take_left' (length_lePack _ _), leNat_lePack, pow_256, Nat.mod_eq_of_lt]
        have bound := capable.1
        omega
      rw [high, List.append_assoc, low]
      dsimp only
      rw [same, if_neg (by rw [noMysql]; exact Bool.false_ne_true)]
      omega

/-! ## The whole response -/

theorem parseHandshakeResponse_of_format {response : HandshakeResponse} {payload : Bytes}
    (format : HandshakeFormat response payload) :
    parseHandshakeResponse payload = .ok response := by
  cases format with
  | @mk flags username database plugin header data authData name behind capable isHeader
      cleanUser auth isDatabase isPlugin =>
      obtain ⟨size, isFlags⟩ := handshakeCapabilities_append capable isHeader
        (encodeNulTerminated (encodeUtf8 username) ++ (authData ++ (name ++ behind)))
      have long : 32 < (header ++ (encodeNulTerminated (encodeUtf8 username) ++
          (authData ++ (name ++ behind)))).length := by
        simp only [List.length_append, size, encodeNulTerminated, List.length_singleton]
        omega
      unfold parseHandshakeResponse
      rw [if_neg (by omega), isFlags]
      dsimp only
      rw [if_neg fun both => by omega, List.drop_left' size]
      refine bind_eq_ok.mpr ⟨_, readNullTerminated_eq_ok.mpr ⟨cleanUser, rfl⟩, ?_⟩
      refine bind_eq_ok.mpr ⟨username, by rw [decodeUtf8_encodeUtf8]; rfl, ?_⟩
      refine bind_eq_ok.mpr ⟨_, skipAuthResponse_append auth (name ++ behind), ?_⟩
      refine bind_eq_ok.mpr ⟨_, readDatabase_append isDatabase behind, ?_⟩
      exact bind_eq_ok.mpr ⟨_, readAuthPlugin_of_format isPlugin, rfl⟩

/-! ## Exactly what is accepted -/

section Whole

variable {flags : Nat} {input rest : Bytes}

end Whole

/-! ## Malformed responses -/

open RaisesProtocol

theorem raisesProtocol_readNullTerminated (fieldName : String) (rest : Bytes) :
    RaisesProtocol (readNullTerminated fieldName rest) := by
  unfold readNullTerminated
  split
  · exact .ok _
  · exact .protocol _

theorem raisesProtocol_handshakeText (decoded : Option String) (failure : String) :
    RaisesProtocol (handshakeText decoded failure) := by
  unfold handshakeText
  split
  · exact .ok _
  · exact .protocol _

theorem raisesProtocol_readLenenc (missing null truncated : String) (rest : Bytes) :
    RaisesProtocol (readLenenc missing null truncated rest) := by
  unfold readLenenc
  split
  · exact .protocol _
  · split
    · exact .protocol _
    · exact .ok _
    · split
      · exact .protocol _
      · exact .ok _

theorem raisesProtocol_skipAuthResponse (capabilityFlags : Nat) (rest : Bytes) :
    RaisesProtocol (skipAuthResponse capabilityFlags rest) := by
  have skips : ∀ count rest, RaisesProtocol (skipAuthData count rest) := fun _ _ =>
    .ite (.protocol _) (.ok _)
  refine .ite (.bind (raisesProtocol_readLenenc _ _ _ _) fun _ => skips _ _) (.ite ?_ ?_)
  · split
    · exact .protocol _
    · exact skips _ _
  · exact .bind (raisesProtocol_readNullTerminated _ _) fun _ => .ok _

theorem raisesProtocol_parseHandshakeResponse (payload : Bytes) :
    RaisesProtocol (parseHandshakeResponse payload) := by
  refine .ite (.protocol _) (.ite (.ok _) ?_)
  refine .bind (raisesProtocol_readNullTerminated _ _) fun _ => ?_
  refine .bind (raisesProtocol_handshakeText _ _) fun _ => ?_
  refine .bind (raisesProtocol_skipAuthResponse _ _) fun _ => ?_
  refine .bind (.ite ?_ (.ok _)) fun _ => .bind (.ite ?_ (.ok _)) fun _ => .ok _
  · exact .bind (raisesProtocol_readNullTerminated _ _) fun _ =>
      .bind (raisesProtocol_handshakeText _ _) fun _ => .ok _
  · exact .bind (raisesProtocol_readNullTerminated _ _) fun _ =>
      .bind (raisesProtocol_handshakeText _ _) fun _ => .ok _

/-- A handshake response gives back its fields, and other bytes are a protocol error at worst. -/
theorem handshakeResponse_roundTrip :
    (∀ response payload, HandshakeFormat response payload →
      parseHandshakeResponse payload = .ok response) ∧
    ∀ payload, RaisesProtocol (parseHandshakeResponse payload) :=
  ⟨fun _ _ format => parseHandshakeResponse_of_format format,
    raisesProtocol_parseHandshakeResponse⟩

/-- A user and a schema, with 6 bytes of authentication data and a plugin name. -/
def appHandshake : HandshakeResponse where
  capabilityFlags := 0x00088009
  username := "app"
  database := some "shop"
  authPlugin := some "caching_sha2_password"
  isSslRequest := false

def appHandshakePayload : Bytes :=
  lePack 4 0x00088009 ++ (List.replicate 24 0 ++ List.replicate 4 0) ++
    (encodeNulTerminated (encodeUtf8 "app") ++ ((6 :: [1, 2, 3, 4, 5, 6]) ++
      (encodeNulTerminated (encodeUtf8 "shop") ++
        (encodeNulTerminated (encodeAscii "caching_sha2_password") ++ []))))

theorem appHandshake_parsed : parseHandshakeResponse appHandshakePayload = .ok appHandshake :=
  handshakeResponse_roundTrip.1 appHandshake appHandshakePayload
    (.mk ⟨by decide, fun _ => by decide⟩ (.basic (by decide) rfl rfl)
      (show 0 ∉ encodeUtf8 "app" by decide +kernel)
      (.oneByte (by decide) (by decide) rfl)
      (.sent (by decide) (show 0 ∉ encodeUtf8 "shop" by decide +kernel))
      (.sent (by decide) (by simp [IsAscii])))

end SqlSafetyProxy.MySql

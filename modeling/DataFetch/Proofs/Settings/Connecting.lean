import DataFetch.Connection.Operation
import DataFetch.Proofs.Decimal.Whole
import DataFetch.Proofs.Outcome
import DataFetch.Proofs.Validation.Lenient
import DataFetch.Settings.Basic

/-! # Connections that accepted settings stand for

Settings are accepted exactly when three of their numbers are within bounds. Main statement: what
accepted settings stand for is a connection that is not open yet, unless they name a server without a
database, or an SQLite database with a number of seconds that no floating point number is near to.
-/
namespace DataFetch

/-! ## Connections of the initial directory -/

/-- The kind of connection that a backend has from the start. -/
def Backend.kind : Backend → ConnectionKind
  | sqlite => .sqlite
  | mysql => .mysql

theorem Directory.createFromConfig_initial {c : Config} {b : Backend} (h : c.backend = .backend b) :
    initial.createFromConfig c = (Connection.ofConfig b.kind c).mapError .misuse := by
  rw [createFromConfig, h]
  cases b <;> rfl

theorem Connection.ofConfig_sqlite {c : Config} (h : c.options = .object []) :
    ofConfig .sqlite c = (seconds c.connectTimeout).map fun timeout =>
      { kind := .sqlite
        backend := .sqlite
        config :=
          { backend := .backend .sqlite
            path := Config.openPath c.path
            readonly := c.readonly }
        timeout } := by
  have hmade : ofConfig .sqlite c = ofSqliteConfig .sqlite c := rfl
  rw [hmade, ofSqliteConfig, sqliteArguments, h]
  cases seconds c.connectTimeout <;> rfl

theorem Connection.seconds_int (n : Int) :
    seconds (.int n) = match Binary64.ofInt? n with
      | some x => .ok (.float x)
      | none => .error .floatTooLarge := by
  have hseconds : seconds (.int n) = (Value.asFloat n).map .float := rfl
  rw [hseconds, Value.asFloat]
  cases Binary64.ofInt? n <;> rfl

namespace Settings

open Validation Outcome

variable {s : Settings}

/-! ## Accepted settings -/

/-- The bounds that are tested when settings are read. -/
structure InBounds (s : Settings) : Prop where
  port : 1 ≤ s.port ∧ s.port ≤ 65535
  poolSize : 1 ≤ s.poolSize ∧ s.poolSize ≤ 32
  connectTimeout : 1 ≤ s.connectTimeout

/-- Some sources state these settings. -/
def Accepted (s : Settings) : Prop :=
  ∃ sources, read sources = .ok s

theorem read_eq_ok_iff {sources : SettingsSources} :
    read sources = .ok s ↔
      readField sources "backend" .sqlite (readWord backendVocabulary normalizeBackend) =
          .ok s.backend ∧
        readField sources "path" ":memory:" readText = .ok s.path ∧
        readField sources "readonly" false readTruth = .ok s.readonly ∧
        readField sources "host" "localhost" readText = .ok s.host ∧
        readField sources "port" 3306 (readBounded 1 (some 65535)) = .ok s.port ∧
        readField sources "database" "" readText = .ok s.database ∧
        readField sources "username" none (readNullable readText) = .ok s.username ∧
        readField sources "password" none (readNullable readText) = .ok s.password ∧
        readField sources "pool_size" 5 (readBounded 1 (some 32)) = .ok s.poolSize ∧
        readField sources "connect_timeout" 10 (readBounded 1 none) = .ok s.connectTimeout := by
  simp only [read, map_eq_ok_iff, Checked.both_eq_ok_iff]
  constructor
  · rintro ⟨fields, h, rfl⟩
    exact h
  · intro h
    exact ⟨⟨_, _, _, _, _, _, _, _, _, _⟩, h, rfl⟩

theorem readField_of_argument {α : Type} {sources : SettingsSources} {field : String} {v : Value}
    (h : sources.arguments.get? field = some v) {default a : α} {readValue : Value → Checked α}
    (hv : readValue v = .ok a) : readField sources field default readValue = .ok a := by
  rw [readField, SettingsSources.value?, SettingsSources.argument?, h]
  exact Checked.under_eq_ok_iff.mpr hv

theorem bounds_of_readField {sources : SettingsSources} {field : String} {default n least : Int}
    {most : Option Int} (h : readField sources field default (readBounded least most) = .ok n)
    (hl : least ≤ default) (hm : ∀ m ∈ most, default ≤ m) : least ≤ n ∧ ∀ m ∈ most, n ≤ m := by
  rw [readField] at h
  split at h
  · cases h
    exact ⟨hl, hm⟩
  · exact (readBounded_eq_ok_iff.mp (Checked.under_eq_ok_iff.mp h)).2

theorem inBounds_of_read {sources : SettingsSources} (h : read sources = .ok s) : s.InBounds := by
  obtain ⟨-, -, -, -, hport, -, -, -, hsize, htimeout⟩ := read_eq_ok_iff.mp h
  have hp := bounds_of_readField hport (by decide) (by simp)
  have hn := bounds_of_readField hsize (by decide) (by simp)
  have ht := bounds_of_readField htimeout (by decide) (by simp)
  exact ⟨⟨hp.1, hp.2 _ rfl⟩, ⟨hn.1, hn.2 _ rfl⟩, ht.1⟩

/-- The arguments that state settings in full. -/
def arguments (s : Settings) : Record :=
  [("backend", .backend s.backend), ("path", .text s.path), ("readonly", .bool s.readonly),
    ("host", .text s.host), ("port", .int s.port), ("database", .text s.database),
    ("username", textOrNull s.username), ("password", textOrNull s.password),
    ("pool_size", .int s.poolSize), ("connect_timeout", .int s.connectTimeout)]

theorem readNullable_textOrNull (t : Option String) :
    readNullable readText (textOrNull t) = .ok t := by
  cases t <;> rfl

theorem read_arguments (h : s.InBounds) : read { arguments := s.arguments } = .ok s := by
  have hbackend : readWord backendVocabulary normalizeBackend (.backend s.backend) =
      .ok s.backend := by
    cases s.backend <;> rfl
  have hreadonly : readTruth (.bool s.readonly) = .ok s.readonly := rfl
  have hport : readBounded 1 (some 65535) (.int s.port) = .ok s.port :=
    readBounded_eq_ok_iff.mpr ⟨rfl, h.port.1, by simpa using h.port.2⟩
  have hsize : readBounded 1 (some 32) (.int s.poolSize) = .ok s.poolSize :=
    readBounded_eq_ok_iff.mpr ⟨rfl, h.poolSize.1, by simpa using h.poolSize.2⟩
  have htimeout : readBounded 1 none (.int s.connectTimeout) = .ok s.connectTimeout :=
    readBounded_eq_ok_iff.mpr ⟨rfl, h.connectTimeout, by simp⟩
  exact read_eq_ok_iff.mpr
    ⟨readField_of_argument rfl hbackend, readField_of_argument rfl rfl,
      readField_of_argument rfl hreadonly, readField_of_argument rfl rfl,
      readField_of_argument rfl hport, readField_of_argument rfl rfl,
      readField_of_argument rfl (readNullable_textOrNull s.username),
      readField_of_argument rfl (readNullable_textOrNull s.password),
      readField_of_argument rfl hsize, readField_of_argument rfl htimeout⟩

theorem accepted_iff : s.Accepted ↔ s.InBounds := by
  constructor
  · rintro ⟨sources, h⟩
    exact inBounds_of_read h
  · intro h
    exact ⟨_, read_arguments h⟩

/-! ## What settings stand for -/

/-- The SQLite connection with this number of seconds to wait. -/
def sqliteConnection (s : Settings) (timeout : Binary64) : Connection :=
  { kind := .sqlite
    backend := .sqlite
    config :=
      { backend := .backend .sqlite
        path := Config.openPath (.text s.path)
        readonly := .bool s.readonly }
    timeout := .float timeout }

def mysqlConnection (s : Settings) : Connection :=
  { kind := .mysql
    backend := .mysql
    config :=
      { backend := .backend .mysql
        host := .text s.host
        port := .int s.port
        database := .text s.database
        username := textOrNull s.username
        password := textOrNull s.secret
        poolSize := .int s.poolSize
        connectTimeout := .int s.connectTimeout
        options := .object [("charset", .text "utf8mb4")] }
    timeout := .null }

/-- The fault of settings that name a server without a database. -/
def missingDatabase : DirectoryError :=
  .fault (Fault.missingConfig (.text "QUARRY_DB_DATABASE"))

theorem connect_of_sqlite (h : s.backend = .sqlite) :
    s.connect = match Binary64.ofInt? s.connectTimeout with
      | some timeout => .ok (s.sqliteConnection timeout)
      | none => .error (.misuse .floatTooLarge) := by
  obtain ⟨c, hc⟩ : ∃ c, s.toConfig = .ok c := by
    rw [toConfig, h]
    exact ⟨_, rfl⟩
  have hmade : s.connect = Directory.initial.createFromConfig c := by
    rw [connect, hc]
    rfl
  rw [toConfig, h] at hc
  cases hc
  rw [hmade, Directory.createFromConfig_initial rfl, Backend.kind, Connection.ofConfig_sqlite rfl,
    Connection.seconds_int]
  cases Binary64.ofInt? s.connectTimeout <;> rfl

theorem connect_of_mysql (h : s.backend = .mysql) :
    s.connect = if s.database = "" then .error missingDatabase else .ok s.mysqlConnection := by
  rw [connect, toConfig, h]
  by_cases hd : s.database = ""
  · rw [if_pos hd, hd]
    rfl
  · have he : s.database.isEmpty = false := by simpa using hd
    rw [if_neg hd, he]
    rfl

theorem ofInt?_connectTimeout_eq_none_iff (h : s.InBounds) :
    Binary64.ofInt? s.connectTimeout = none ↔ 2 ^ 1024 - 2 ^ 970 ≤ s.connectTimeout := by
  have hleast := h.connectTimeout
  obtain ⟨n, hn⟩ := Int.eq_ofNat_of_zero_le (a := s.connectTimeout) (by omega)
  have hlarge := Binary64.ofInt?_eq_none_iff (n := n) (by omega)
  rw [hn]
  exact hlarge.trans (by omega)

/-- Settings within the bounds are the accepted ones. Two faults may come of them, each for just the
settings that are named here, and for all others there is a connection that is not open. -/
theorem connect_of_accepted (s : Settings) :
    (s.Accepted ↔ s.InBounds) ∧
      (s.Accepted →
        (s.connect = .error missingDatabase ↔ s.backend = .mysql ∧ s.database = "") ∧
        (s.connect = .error (.misuse .floatTooLarge) ↔
          s.backend = .sqlite ∧ 2 ^ 1024 - 2 ^ 970 ≤ s.connectTimeout) ∧
        (s.connect = .error missingDatabase ∨ s.connect = .error (.misuse .floatTooLarge) ∨
          ∃ cn, s.connect = .ok cn ∧ cn.kind = s.backend.kind ∧ cn.backend = s.backend ∧
            ∀ script context,
              (cn.perform .describe).onSession { script, context } =
                  (.ok (.value (.text (cn.summary false))), { script, context }) ∧
                (cn.perform .close).onSession { script, context } =
                  (.ok .nothing, { script, context }))) := by
  refine ⟨accepted_iff, fun h => ?_⟩
  have hlarge := ofInt?_connectTimeout_eq_none_iff (accepted_iff.mp h)
  cases hb : s.backend with
  | sqlite =>
    rw [connect_of_sqlite hb]
    cases hx : Binary64.ofInt? s.connectTimeout with
    | none => exact ⟨⟨nofun, nofun⟩, ⟨fun _ => ⟨rfl, hlarge.mp hx⟩, fun _ => rfl⟩, .inr (.inl rfl)⟩
    | some x =>
      rw [hx] at hlarge
      refine ⟨⟨nofun, nofun⟩, ⟨nofun, fun h => ?_⟩, ?_⟩
      · cases hlarge.mpr h.2
      · exact .inr (.inr ⟨_, rfl, rfl, rfl, fun _ _ => ⟨rfl, rfl⟩⟩)
  | mysql =>
    rw [connect_of_mysql hb]
    by_cases hd : s.database = ""
    · rw [if_pos hd]
      exact ⟨⟨fun _ => ⟨rfl, hd⟩, fun _ => rfl⟩, ⟨nofun, nofun⟩, .inl rfl⟩
    · rw [if_neg hd]
      refine ⟨⟨nofun, fun h => absurd h.2 hd⟩, ⟨nofun, nofun⟩, ?_⟩
      exact .inr (.inr ⟨_, rfl, rfl, rfl, fun _ _ => ⟨rfl, rfl⟩⟩)

/-- A server without a database, and the longest time that an SQLite connection can be told to wait. -/
theorem connect_of_accepted_at_limits :
    let unnamed : Settings := { backend := .mysql, port := 65535, poolSize := 32 }
    let patient : Settings := { path := "shop.db", connectTimeout := 2 ^ 1024 - 2 ^ 970 - 1 }
    unnamed.Accepted ∧ unnamed.connect = .error missingDatabase ∧
      patient.Accepted ∧ ∃ cn, patient.connect = .ok cn ∧ cn.kind = .sqlite := by
  intro unnamed patient
  have hunnamed : unnamed.Accepted :=
    (connect_of_accepted unnamed).1.mpr ⟨by decide, by decide, by decide⟩
  have hpatient : patient.Accepted := by
    refine (connect_of_accepted patient).1.mpr ⟨by decide, by decide, ?_⟩
    dsimp only [patient]
    omega
  refine ⟨hunnamed, ((connect_of_accepted unnamed).2 hunnamed).1.mpr ⟨rfl, rfl⟩, hpatient, ?_⟩
  obtain ⟨hmissing, hlarge, h | h | ⟨cn, hcn, hkind, -⟩⟩ := (connect_of_accepted patient).2 hpatient
  · cases (hmissing.mp h).1
  · have hle := (hlarge.mp h).2
    dsimp only [patient] at hle
    omega
  · exact ⟨cn, hcn, hkind⟩

/-- Settings with a database in memory are accepted with a time to wait that makes connecting fail. -/
theorem connect_refuses_accepted_timeout :
    let s : Settings := { connectTimeout := 2 ^ 1024 }
    s.Accepted ∧ ¬ (s.backend = .mysql ∧ s.database = "") ∧
      s.connect = .error (.misuse .floatTooLarge) ∧ ¬ ∃ cn, s.connect = .ok cn := by
  intro s
  have hbounds : s.InBounds := by
    refine ⟨by decide, by decide, ?_⟩
    dsimp only [s]
    omega
  have hlarge : Binary64.ofInt? s.connectTimeout = none := by
    rw [ofInt?_connectTimeout_eq_none_iff hbounds]
    dsimp only [s]
    omega
  have hconnect : s.connect = .error (.misuse .floatTooLarge) := by
    rw [connect_of_sqlite rfl, hlarge]
  refine ⟨accepted_iff.mpr hbounds, nofun, hconnect, ?_⟩
  rintro ⟨cn, hcn⟩
  rw [hconnect] at hcn
  cases hcn

end Settings

end DataFetch

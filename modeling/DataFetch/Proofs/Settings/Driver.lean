import DataFetch.Proofs.Connection.Opening
import DataFetch.Proofs.Settings.Connecting

/-! # What reaches the driver

Settings become a configuration, the configuration arguments, the arguments a connection with a
configuration of its own, and this one the keywords of a driver call. Main statement: on a driver that
accepts every call, opening a connection makes just the calls that its settings say, each value in its
place and each further option once.
-/
namespace DataFetch

/-! ## Connections that settings stand for -/

theorem Sqlite.isAddress_iff (path : String) :
    isAddress path = true ↔ "file:".toList <+: path.toList ∨ '?' ∈ path.toList := by
  simp [isAddress, hasQuery, List.isPrefixOf_iff_prefix]

theorem Config.openPath_text (path : String) :
    openPath (.text path) = .text (if path = "" then ":memory:" else path) := by
  rw [openPath, Value.isTruthy]
  by_cases h : path = "" <;> simp [h, memoryPath]

namespace Settings

variable {s : Settings}

theorem opens_sqliteConnection (s : Settings) (timeout : Binary64) :
    ∃ address, (address = true ↔ "file:".toList <+: s.path.toList ∨ '?' ∈ s.path.toList) ∧
      (s.sqliteConnection timeout).Opens
        (Connection.sqliteCalls (.text (if s.path = "" then ":memory:" else s.path))
          (.float timeout) address s.readonly) := by
  have hpath : Config.openPath (s.sqliteConnection timeout).config.path =
      .text (if s.path = "" then ":memory:" else s.path) := by
    rw [sqliteConnection, Config.openPath_text, Config.openPath_text]
    by_cases h : s.path = "" <;> simp [h]
  refine ⟨Sqlite.isAddress (if s.path = "" then ":memory:" else s.path), ?_, ?_⟩
  · by_cases h : s.path = ""
    · rw [if_pos h, h]
      decide
    · rw [if_neg h, Sqlite.isAddress_iff]
  · rw [← hpath]
    refine Connection.opens_sqlite ⟨rfl, rfl⟩ rfl ?_
    rw [hpath]
    rfl

theorem opens_mysqlConnection (s : Settings) :
    s.mysqlConnection.Opens
      [.pool [("pool_size", .int s.poolSize), ("host", .text s.host), ("port", .int s.port),
        ("database", .text s.database), ("user", textOrNull s.username),
        ("password", textOrNull s.secret), ("charset", .text "utf8mb4"),
        ("connection_timeout", .int s.connectTimeout), ("autocommit", .bool true)]] :=
  Connection.opens_mysql ⟨rfl, rfl⟩ rfl rfl

theorem exists_timeout (h : s.Accepted) (hb : s.backend = .sqlite) {cn : Connection}
    (hc : s.connect = .ok cn) :
    ∃ timeout, Binary64.ofInt? s.connectTimeout = some timeout ∧
      timeout.IsNearest s.connectTimeout.toNat ∧ cn = s.sqliteConnection timeout := by
  have hleast := (accepted_iff.mp h).connectTimeout
  obtain ⟨n, hn⟩ := Int.eq_ofNat_of_zero_le (a := s.connectTimeout) (by omega)
  rw [connect_of_sqlite hb, hn] at hc
  cases hx : Binary64.ofInt? (n : Int) with
  | none =>
    rw [hx] at hc
    cases hc
  | some timeout =>
    rw [hx] at hc
    cases hc
    rw [hn]
    exact ⟨timeout, hx, Binary64.isNearest_of_ofInt? (by omega) hx, rfl⟩

theorem eq_mysqlConnection (hb : s.backend = .mysql) {cn : Connection} (hc : s.connect = .ok cn) :
    cn = s.mysqlConnection := by
  rw [connect_of_mysql hb] at hc
  split at hc
  · cases hc
  · cases hc
    rfl

theorem secret_eq_none (h : s.password = none ∨ s.password = some "") : s.secret = none := by
  rcases h with h | h <;> rw [secret, h] <;> rfl

theorem secret_eq_some {p : String} (h : s.password = some p) (hp : p ≠ "") : s.secret = some p := by
  rw [secret, h]
  simp [Option.filter, hp]

end Settings

open Connection in
/-- Opening a connection that settings stand for makes just the calls that they say, and opening one of
a configuration with further options passes each of them on once. -/
theorem Settings.reach_driver_unchanged :
    (∀ (s : Settings) (cn : Connection), s.Accepted → s.connect = .ok cn →
      (s.backend = .sqlite →
        ∃ timeout address,
          Binary64.ofInt? s.connectTimeout = some timeout ∧
          timeout.IsNearest s.connectTimeout.toNat ∧
          (address = true ↔ "file:".toList <+: s.path.toList ∨ '?' ∈ s.path.toList) ∧
          cn.Opens
            (.connect (.text (if s.path = "" then ":memory:" else s.path))
                [("timeout", .float timeout), ("check_same_thread", .bool false),
                  ("isolation_level", .null), ("uri", .bool address)] ::
              .pragma "PRAGMA foreign_keys = ON" ::
                if s.readonly then [.pragma "PRAGMA query_only = ON"] else [])) ∧
      (s.backend = .mysql →
        ∃ password,
          (s.password = none ∨ s.password = some "" → password = .null) ∧
          (∀ p, s.password = some p → p ≠ "" → password = .text p) ∧
          cn.Opens
            [.pool
              [("pool_size", .int s.poolSize), ("host", .text s.host), ("port", .int s.port),
                ("database", .text s.database), ("user", textOrNull s.username),
                ("password", password), ("charset", .text "utf8mb4"),
                ("connection_timeout", .int s.connectTimeout), ("autocommit", .bool true)]])) ∧
      ∀ (c : Config) (options : Record), c.backend = .backend .mysql → c.options = .object options →
        options.keys.Nodup → (∀ k ∈ options.keys, k ∉ usedNames) →
        ∃ (cn : Connection) (kept keywords : Record),
          Directory.initial.createFromConfig c = .ok cn ∧
          cn.config.options = .object kept ∧
          cn.Opens [.pool keywords] ∧
          keywords =
            [("pool_size", c.poolSize), ("host", c.host), ("port", c.port), ("database", c.database),
              ("user", c.username), ("password", c.password),
              ("charset", options.getD "charset" (.text "utf8mb4")),
              ("connection_timeout", c.connectTimeout), ("autocommit", .bool true)] ++
              options.erase "charset" ∧
          ∀ entry ∈ options, kept.HasOnce entry ∧ keywords.HasOnce entry := by
  refine ⟨fun s cn hs hc => ⟨fun hb => ?_, fun hb => ?_⟩, fun c options hb ho hn hfree => ?_⟩
  · obtain ⟨timeout, htimeout, hnear, rfl⟩ := exists_timeout hs hb hc
    obtain ⟨address, haddress, hopens⟩ := opens_sqliteConnection s timeout
    exact ⟨timeout, address, htimeout, hnear, haddress, hopens⟩
  · rw [eq_mysqlConnection hb hc]
    refine ⟨textOrNull s.secret, fun h => ?_, fun p hp hne => ?_, opens_mysqlConnection s⟩
    · rw [secret_eq_none h]
      rfl
    · rw [secret_eq_some hp hne]
      rfl
  · have hmade : Directory.initial.createFromConfig c = .ok (serverConnection c options) := by
      rw [Directory.createFromConfig_initial hb, Backend.kind, ofConfig_mysql ho hn hfree]
      rfl
    exact ⟨serverConnection c options, keptOptions options, serverKeywords c options, hmade, rfl,
      opens_mysql ⟨rfl, rfl⟩ rfl (poolKeywords_serverConnection hfree), rfl,
      fun entry he => ⟨once_keptOptions hn hfree he, once_serverKeywords hn hfree he⟩⟩

/-- A database file that is opened by an address and only read, and a server with two options. -/
theorem Settings.reach_driver_unchanged_with_options :
    let s : Settings := { path := "file:shop.db?mode=ro", readonly := true, connectTimeout := 7 }
    let c : Config :=
      { backend := .backend .mysql
        host := .text "db"
        database := .text "shop"
        options := .object [("charset", .text "latin1"), ("ssl_ca", .text "ca.pem")] }
    (∃ cn, s.Accepted ∧ s.connect = .ok cn ∧
      ∃ timeout, Binary64.ofInt? 7 = some timeout ∧ cn.Opens
        [.connect (.text "file:shop.db?mode=ro")
            [("timeout", .float timeout), ("check_same_thread", .bool false),
              ("isolation_level", .null), ("uri", .bool true)],
          .pragma "PRAGMA foreign_keys = ON", .pragma "PRAGMA query_only = ON"]) ∧
      ∃ cn, Directory.initial.createFromConfig c = .ok cn ∧ cn.Opens
        [.pool
          [("pool_size", .int 5), ("host", .text "db"), ("port", .int 3306), ("database", .text "shop"),
            ("user", .null), ("password", .null), ("charset", .text "latin1"),
            ("connection_timeout", .int 10), ("autocommit", .bool true), ("ssl_ca", .text "ca.pem")]] := by
  intro s c
  constructor
  · have hs : s.Accepted := accepted_iff.mpr ⟨by decide, by decide, by decide⟩
    have hseven : Binary64.ofInt? s.connectTimeout = some ⟨0x401c000000000000⟩ := by
      decide +kernel
    have hc : s.connect = .ok (s.sqliteConnection ⟨0x401c000000000000⟩) := by
      rw [connect_of_sqlite rfl, hseven]
    obtain ⟨timeout, address, htimeout, -, haddress, hopens⟩ :=
      (reach_driver_unchanged.1 s _ hs hc).1 rfl
    rw [haddress.mpr (.inl (by decide))] at hopens
    exact ⟨_, hs, hc, timeout, htimeout, hopens⟩
  · obtain ⟨cn, kept, keywords, hc, -, hopens, hkeywords, -⟩ :=
      reach_driver_unchanged.2 c [("charset", .text "latin1"), ("ssl_ca", .text "ca.pem")] rfl rfl
        (by decide) (by decide)
    rw [hkeywords] at hopens
    exact ⟨cn, hc, hopens⟩

end DataFetch

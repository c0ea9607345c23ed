import DataFetch.Proofs.Connection.Steps
import DataFetch.Proofs.Engine.Mysql
import DataFetch.Proofs.Engine.Sqlite
import DataFetch.Proofs.Log.Context

/-! # Opening on a driver that accepts every call

Which calls open a connection when none of them fails. A server connection made from a configuration
with further options keeps each of them and passes it on once, as long as no option has the name of
something that the calls say themselves.
-/
namespace DataFetch

/-! ## Entries that a record has once -/

namespace Record

variable {r : Record}

/-- The entry is in the record, and there is no other with its name. -/
def HasOnce (r : Record) (entry : String × Value) : Prop :=
  r.filter (fun e => e.1 = entry.1) = [entry]

theorem hasOnce_of_mem (h : r.keys.Nodup) {entry : String × Value} (hm : entry ∈ r) :
    r.HasOnce entry := by
  rw [HasOnce]
  induction r with
  | nil => cases hm
  | cons first rest ih =>
    rw [keys, List.map_cons, List.nodup_cons] at h
    rcases List.mem_cons.mp hm with rfl | hm
    · have hrest : rest.filter (fun e => e.1 = entry.1) = [] := by
        rw [List.filter_eq_nil_iff]
        intro e he hk
        have hmem := mem_keys_of_mem he
        rw [of_decide_eq_true hk] at hmem
        exact h.1 hmem
      rw [List.filter_cons_of_pos (by simp), hrest]
    · have hk : first.1 ≠ entry.1 := by
        intro hk
        have hmem := mem_keys_of_mem hm
        rw [← hk] at hmem
        exact h.1 hmem
      rw [List.filter_cons_of_neg (by simpa using hk), ih h.2 hm]

end Record

/-! ## Drivers that accept every call -/

/-- The driver is there and nothing is raised any more. -/
def Script.Accepting (sc : Script) : Prop :=
  sc.installed = true ∧ sc.raises = []

theorem Script.Accepting.opening {sc : Script} (h : sc.Accepting) :
    sc.opening.opening = none ∧ sc.opening.foreignKeys = none ∧ sc.opening.queryOnly = none := by
  have hnone : sc.opening.raises = [] := by
    refine List.eq_nil_iff_forall_not_mem.mpr fun e he => ?_
    have hraises := mem_raises_of_opening he
    rw [h.2] at hraises
    cases hraises
  simpa [OpenReply.raises, ← Option.isNone_iff_eq_none, List.filterMap_eq_nil_iff] using hnone

namespace Connection

variable {cn : Connection}

/-- Opened for the first time on a driver that accepts every call, the connection makes just these
calls. -/
def Opens (cn : Connection) (calls : List Call) : Prop :=
  ∀ script context, script.Accepting →
    let (outcome, t) := cn.connect.onSession { script, context }
    outcome = .ok () ∧ t.connected = true ∧ t.transcript = calls.map fun call => ⟨1, call, none⟩

/-- The calls that open an SQLite connection. -/
def sqliteCalls (path timeout : Value) (address readonly : Bool) : List Call :=
  .connect path (Sqlite.openKeywords timeout address) :: .pragma Sqlite.foreignKeysPragma ::
    if readonly then [.pragma Sqlite.queryOnlyPragma] else []

theorem opens_sqlite (hn : cn.Native) (hb : cn.backend = .sqlite) {address : Bool}
    (ha : Sqlite.addressFlag (Config.openPath cn.config.path) = .ok address) :
    cn.Opens (sqliteCalls (Config.openPath cn.config.path) cn.timeout address
      cn.config.readonly.isTruthy) := by
  intro script context h
  obtain ⟨hopening, hkeys, hquery⟩ := h.opening
  have hengine : cn.openEngine = Sqlite.openEngine cn := by
    rw [openEngine, hn.engine, hb]
    rfl
  rw [onSession_connect hn, hengine, Sqlite.onSession_openEngine, ha]
  dsimp only
  rw [hopening]
  cases hr : cn.config.readonly.isTruthy <;>
    simp [Sqlite.setUpError?, Sqlite.setUpCalls, Sqlite.setUpOutcome, hkeys, hquery, sqliteCalls,
      openedIn, Session.logged]

theorem opens_mysql (hn : cn.Native) (hb : cn.backend = .mysql) {keywords : Record}
    (hk : Mysql.poolKeywords cn.config = .ok keywords) : cn.Opens [.pool keywords] := by
  intro script context h
  have hengine : cn.openEngine = Mysql.openEngine cn := by
    rw [openEngine, hn.engine, hb]
    rfl
  rw [onSession_connect hn, hengine, Mysql.onSession_openEngine, hk]
  dsimp only
  rw [h.1, h.opening.1]
  simp [openedIn, Session.logged]

/-! ## Further options of a server connection -/

/-- The names that the calls which make a server connection and open its pool use themselves, but for
the character set, which may be among the options. -/
def usedNames : List String :=
  ["self", "host", "port", "database", "username", "password", "pool_size", "connect_timeout",
    "pool_name", "user", "connection_timeout", "autocommit"]

/-- The character set among the options, or the usual one. -/
def charsetOf (options : Record) : Value :=
  options.getD "charset" (.text "utf8mb4")

/-- The options with the character set behind them. -/
def keptOptions (options : Record) : Record :=
  options.erase "charset" ++ [("charset", charsetOf options)]

/-- The keywords of the pool of a configuration with these options. -/
def serverKeywords (c : Config) (options : Record) : Record :=
  [("pool_size", c.poolSize), ("host", c.host), ("port", c.port), ("database", c.database),
    ("user", c.username), ("password", c.password), ("charset", charsetOf options),
    ("connection_timeout", c.connectTimeout), ("autocommit", .bool true)] ++
    options.erase "charset"

def serverConnection (c : Config) (options : Record) : Connection :=
  { kind := .mysql
    backend := .mysql
    config :=
      { backend := .backend .mysql
        host := c.host
        port := c.port
        database := c.database
        username := c.username
        password := c.password
        poolSize := c.poolSize
        connectTimeout := c.connectTimeout
        options := .object (keptOptions options) }
    timeout := .null }

section Options

variable {c : Config} {options : Record}

theorem charset_not_mem (options : Record) : "charset" ∉ (options.erase "charset").keys :=
  fun h => (Record.mem_keys_erase_iff.mp h).2 rfl

theorem put_charset (options : Record) :
    Record.put (options.erase "charset") "charset" (charsetOf options) = keptOptions options :=
  Record.put_of_not_mem (charset_not_mem options) _

theorem not_mem_of_mem_keys_erase (hfree : ∀ k ∈ options.keys, k ∉ usedNames) {k : String}
    (hk : k ∈ (options.erase "charset").keys) : k ∉ "charset" :: usedNames := by
  obtain ⟨hmem, hcharset⟩ := Record.mem_keys_erase_iff.mp hk
  exact List.not_mem_cons_of_ne_of_not_mem hcharset (hfree k hmem)

/-- A record whose names are all used has none of the further options. -/
theorem find?_erase_eq_none (hfree : ∀ k ∈ options.keys, k ∉ usedNames) {r : Record}
    (hr : r.keys ⊆ "charset" :: usedNames) :
    (options.erase "charset").keys.find? (fun k => r.has k) = none := by
  refine List.find?_eq_none.mpr fun k hk => ?_
  rw [Bool.not_eq_true, Record.has_eq_false_iff]
  exact fun hmem => not_mem_of_mem_keys_erase hfree hk (hr hmem)

theorem ofArguments_of_not_mem {arguments : Record} (h : "self" ∉ arguments.keys) :
    ofArguments .mysql arguments = .ok (ofMysqlArguments .mysql arguments) := by
  have hnames : arguments.keys.findSome? (mysqlSignature.refuseName? 1) = none := by
    refine List.findSome?_eq_none_iff.mpr fun k hk => ?_
    have hself : k ≠ "self" := fun he => h (he ▸ hk)
    simp [Signature.refuseName?, mysqlSignature, openSignature, hself]
  have hcheck : mysqlSignature.check 1 arguments.keys = .ok () := by
    rw [Signature.check, Signature.refuse?, hnames]
    rfl
  have hmade : ofArguments .mysql arguments = (do
      mysqlSignature.check 1 arguments.keys
      return ofMysqlArguments .mysql arguments) := rfl
  rw [hmade, hcheck]
  rfl

theorem optionsOf_append_erase (hfree : ∀ k ∈ options.keys, k ∉ usedNames) :
    optionsOf mysqlNames (mysqlArguments c options ++ options.erase "charset") =
      options.erase "charset" := by
  have hnames : optionsOf mysqlNames (mysqlArguments c options) = [] := by
    simp [optionsOf, mysqlNames, mysqlArguments]
  have hsubset : mysqlNames ⊆ "charset" :: usedNames := by decide
  have hextra : optionsOf mysqlNames (options.erase "charset") = options.erase "charset" := by
    refine List.filter_eq_self.mpr fun entry he => ?_
    have hk := not_mem_of_mem_keys_erase hfree (Record.mem_keys_of_mem he)
    simpa using fun hmem => hk (hsubset hmem)
  rw [optionsOf, List.filter_append]
  rw [optionsOf] at hnames hextra
  rw [hnames, hextra, List.nil_append]

theorem ofConfig_mysql (ho : c.options = .object options) (hn : options.keys.Nodup)
    (hfree : ∀ k ∈ options.keys, k ∉ usedNames) :
    ofConfig .mysql c = .ok (serverConnection c options) := by
  have hentries : c.options.entries =
      .ok (options.map fun entry => (Value.text entry.1, entry.2)) := by
    rw [ho]
    rfl
  have hoptions : Record.ofEntries ((options.map fun entry => (Value.text entry.1, entry.2)).map
      fun entry => (entry.1.nameText, entry.2)) = options := by
    rw [List.map_map]
    exact (congrArg Record.ofEntries (List.map_id options)).trans (Record.ofEntries_of_nodup hn)
  have hwith : withOptions .mysql (mysqlArguments c options) (options.erase "charset") =
      .ok (mysqlArguments c options ++ options.erase "charset") := by
    rw [withOptions, find?_erase_eq_none hfree (by simp [mysqlArguments, Record.keys, usedNames])]
  have hself : "self" ∉ (mysqlArguments c options ++ options.erase "charset").keys := by
    rw [Record.keys, List.map_append, List.mem_append, not_or]
    exact ⟨by simp [mysqlArguments], fun hk => not_mem_of_mem_keys_erase hfree hk (by decide)⟩
  have hmade : ofConfig .mysql c = ofMysqlConfig .mysql c := rfl
  rw [hmade, ofMysqlConfig, hentries]
  dsimp only [bind, Except.bind]
  rw [hoptions, hwith]
  dsimp only
  rw [if_pos (by simp [Value.asText?]), ofArguments_of_not_mem hself, ofMysqlArguments,
    optionsOf_append_erase hfree, serverConnection, ← put_charset]
  rfl

theorem getD_keptOptions (options : Record) (default : Value) :
    (keptOptions options).getD "charset" default = charsetOf options := by
  rw [← put_charset, Record.getD, Record.get?_put, if_pos rfl]
  rfl

theorem erase_keptOptions (options : Record) :
    (keptOptions options).erase "charset" = options.erase "charset" := by
  have hextra := Record.erase_of_not_mem (charset_not_mem options)
  rw [keptOptions]
  rw [Record.erase] at hextra ⊢
  rw [List.filter_append, hextra]
  simp

/-- The pool is told every option but the character set behind what the adapter says itself. -/
theorem poolKeywords_serverConnection (hfree : ∀ k ∈ options.keys, k ∉ usedNames) :
    Mysql.poolKeywords (serverConnection c options).config = .ok (serverKeywords c options) := by
  have hextra : Mysql.extraKeywords (serverConnection c options).config = options.erase "charset" :=
    erase_keptOptions options
  have hown : Mysql.ownKeywords (serverConnection c options).config ++ options.erase "charset" =
      serverKeywords c options := by
    have hget := getD_keptOptions options defaultCharset
    rw [serverKeywords, ← hget]
    rfl
  have hfind : (options.erase "charset").keys.find? (fun k => k = "pool_name" ||
      (Mysql.ownKeywords (serverConnection c options).config).has k) = none := by
    have hsubset : (Mysql.ownKeywords (serverConnection c options).config).keys ⊆
        "charset" :: usedNames := by
      simp [Mysql.ownKeywords, Record.keys, usedNames]
    refine List.find?_eq_none.mpr fun k hk => ?_
    have hk := not_mem_of_mem_keys_erase hfree hk
    rw [Bool.not_eq_true, Bool.or_eq_false_iff, decide_eq_false_iff_not, Record.has_eq_false_iff]
    constructor
    · rintro rfl
      exact hk (by decide)
    · exact fun hmem => hk (hsubset hmem)
  rw [Mysql.poolKeywords, hextra, hfind]
  dsimp only
  rw [hown]

theorem nodup_keys_append_erase (hn : options.keys.Nodup) (hfree : ∀ k ∈ options.keys, k ∉ usedNames)
    {own : Record} (hown : own.keys.Nodup) (hused : own.keys ⊆ "charset" :: usedNames) :
    (Record.keys (own ++ options.erase "charset")).Nodup := by
  rw [Record.keys, List.map_append, List.nodup_append]
  refine ⟨hown, Record.nodup_keys_erase hn "charset", fun k hk other ho => ?_⟩
  rintro rfl
  exact not_mem_of_mem_keys_erase hfree ho (hused hk)

theorem mem_of_mem_options (hn : options.keys.Nodup) {own : Record}
    (hcharset : ("charset", charsetOf options) ∈ own) {entry : String × Value} (he : entry ∈ options) :
    entry ∈ own ++ options.erase "charset" := by
  obtain ⟨k, v⟩ := entry
  by_cases hk : k = "charset"
  · subst hk
    have hv : charsetOf options = v := by
      rw [charsetOf, Record.getD, Record.get?_of_mem hn he]
      rfl
    rw [hv] at hcharset
    exact List.mem_append_left _ hcharset
  · exact List.mem_append_right _ (List.mem_filter.mpr ⟨he, decide_eq_true hk⟩)

theorem once_serverKeywords (hn : options.keys.Nodup) (hfree : ∀ k ∈ options.keys, k ∉ usedNames)
    {entry : String × Value} (he : entry ∈ options) :
    (serverKeywords c options).HasOnce entry := by
  refine Record.hasOnce_of_mem (nodup_keys_append_erase hn hfree ?_ ?_) (mem_of_mem_options hn ?_ he)
  · simp [Record.keys]
  · simp [Record.keys, usedNames]
  · simp

theorem once_keptOptions (hn : options.keys.Nodup) (hfree : ∀ k ∈ options.keys, k ∉ usedNames)
    {entry : String × Value} (he : entry ∈ options) : (keptOptions options).HasOnce entry := by
  have horder : (keptOptions options).Perm ([("charset", charsetOf options)] ++ options.erase "charset") :=
    List.perm_append_comm
  refine Record.hasOnce_of_mem ?_ ?_
  · refine (horder.map Prod.fst).nodup_iff.mpr (nodup_keys_append_erase hn hfree ?_ ?_)
    · simp [Record.keys]
    · simp [Record.keys]
  · exact horder.mem_iff.mpr (mem_of_mem_options hn (by simp) he)

end Options

end Connection

end DataFetch

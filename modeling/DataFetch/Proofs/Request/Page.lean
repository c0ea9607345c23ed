import DataFetch.Proofs.Request.RoundTrip
import DataFetch.Proofs.Statement.Elision
import DataFetch.Proofs.Statement.Recovery
import DataFetch.Request.Draft

/-! # Pages

A page is a window of the result. The pages of one size start one after another at the multiples of
that size, so a row lies on the page that its position divided by the size tells. Main statement: every
row lies on exactly one page, whatever window the draft had before, and the statement of that page ends
in its window; a bound that has too many digits to be written is refused when it is compiled, and not
before.
-/
namespace DataFetch

/-! ## Windows -/

namespace FetchRequest

variable {r : FetchRequest} {before size row : Nat}

/-- Is a row in the window? Without an offset the window opens at the first row, and without a limit it
does not close. -/
def InWindow (r : FetchRequest) (row : Nat) : Prop :=
  r.offset.getD 0 ≤ row ∧ ∀ limit ∈ r.limit, row < r.offset.getD 0 + limit

/-- The request for `size` rows after as many pages of that size. -/
def pageAfter (r : FetchRequest) (before size : Nat) : FetchRequest :=
  { r with limit := some size, offset := some (before * size) }

theorem inWindow_pageAfter_iff (hsize : 0 < size) :
    (r.pageAfter before size).InWindow row ↔ row / size = before := by
  rw [Nat.div_eq_iff hsize]
  constructor
  · rintro ⟨hopen, hclose⟩
    have hlast : row < before * size + size := hclose size rfl
    exact ⟨hopen, by omega⟩
  · rintro ⟨hopen, hclose⟩
    refine ⟨hopen, fun limit hlimit => ?_⟩
    cases hlimit
    change row < before * size + size
    omega

/-- The page of a row is told by division. -/
theorem existsUnique_page (r : FetchRequest) (hsize : 0 < size) (row : Nat) :
    ∃! n : Int, 1 ≤ n ∧ (r.pageAfter (n - 1).toNat size).InWindow row := by
  have hfirst : ((row / size : Nat) + 1 - 1 : Int).toNat = row / size := by
    rw [Int.add_sub_cancel, Int.toNat_natCast]
  refine ⟨(row / size : Nat) + 1, ⟨by omega, ?_⟩, ?_⟩
  · exact (inWindow_pageAfter_iff hsize).mpr hfirst.symm
  · rintro n ⟨hn, hin⟩
    have hpage := (inWindow_pageAfter_iff hsize).mp hin
    omega

end FetchRequest

namespace Layout

variable {layout : Layout} {r : FetchRequest} {limit offset : Nat}

/-- Both bounds of a window in decimal, as a statement ends in them. -/
def windowText (layout : Layout) (limit offset : Int) : String :=
  layout.separator ++ "LIMIT " ++ limit.repr ++ layout.separator ++ "OFFSET " ++ offset.repr

theorem numeral_eq_repr (n : Nat) : numeral n = n.repr := by
  rw [← String.toList_inj, toList_numeral, Nat.toList_repr]

/-- The number of digits is at most `k` below the power of ten, which stays unevaluated. -/
theorem lt_pow_iff_length_repr_le {n k : Nat} (hk : 0 < k) : n < Nat.pow 10 k ↔ n.repr.length ≤ k :=
  (Nat.length_repr_le_iff hk).symm

theorem isWritable_some_iff {n : Nat} : isWritable (some n) = true ↔ n.repr.length ≤ digitLimit := by
  rw [isWritable, Option.all_some, decide_eq_true_iff]
  exact lt_pow_iff_length_repr_le (by decide)

theorem lines_window (hl : r.limit = some limit) (ho : r.offset = some offset) :
    layout.lines r = layout.lines { r with limit := none, offset := none } ++
      ["LIMIT " ++ limit.repr, "OFFSET " ++ offset.repr] := by
  have hwindow : layout.windowLines (some (numeral limit)) (some (numeral offset)) =
      ["LIMIT " ++ limit.repr, "OFFSET " ++ offset.repr] := by
    rw [numeral_eq_repr, numeral_eq_repr]
    rfl
  have hwhole : layout.closingLines { r with limit := none, offset := none } = orderLines r.sort :=
    List.append_nil _
  rw [lines, lines, hwhole, closingLines, hl, ho, Option.map_some, Option.map_some, hwindow,
    List.cons_append, List.append_assoc]

/-- A statement with both bounds is the one without them, followed by the two. -/
theorem text_write_window (layout : Layout) (hl : r.limit = some limit)
    (ho : r.offset = some offset) :
    (layout.write r).text = (layout.write { r with limit := none, offset := none }).text ++
      layout.windowText limit offset := by
  have hne : layout.lines { r with limit := none, offset := none } ≠ [] := List.cons_ne_nil _ _
  have hrepr : ∀ n : Nat, (n : Int).repr = n.repr := fun _ => rfl
  rw [write, write, lines_window hl ho, String.intercalate_append_of_ne_nil hne (List.cons_ne_nil _ _),
    String.intercalate_cons_cons, String.intercalate_singleton, windowText, hrepr, hrepr]
  simp only [String.append_assoc]

end Layout

/-! ## Calls that set the window -/

/-- Calls that write the window and nothing else. -/
def DraftStep.setsWindow : DraftStep → Bool
  | limit _ | offset _ | page _ _ => true
  | _ => false

namespace Draft

variable {layout : Layout} {d : Draft} {s : DraftStep} {steps : List DraftStep} {table : String}

theorem fst_page (d : Draft) (number size : Value) :
    ∃ offset, (d.page number size).1 = { d with limit := size, offset } := by
  rw [page]
  cases Value.pageOffset number size with
  | ok before => exact ⟨before, rfl⟩
  | error m => exact ⟨d.offset, rfl⟩

theorem apply_of_setsWindow (layout : Layout) (d : Draft) (h : s.setsWindow = true) :
    ∃ limit offset, (d.apply layout s).1 = { d with limit, offset } := by
  cases s with
  | limit count => exact ⟨count, d.offset, rfl⟩
  | offset count => exact ⟨d.limit, count, rfl⟩
  | page number size =>
    obtain ⟨offset, hpage⟩ := fst_page d number size
    exact ⟨size, offset, hpage⟩
  | condition | group | orderBy | build | compile | refused => cases h

theorem applyAll_of_setsWindow (layout : Layout) (d : Draft)
    (h : ∀ s ∈ steps, s.setsWindow = true) :
    ∃ limit offset, d.applyAll layout steps = { d with limit, offset } := by
  induction steps generalizing d with
  | nil => exact ⟨d.limit, d.offset, rfl⟩
  | cons s rest ih =>
    obtain ⟨hs, hrest⟩ := List.forall_mem_cons.mp h
    obtain ⟨l, o, hstep⟩ := apply_of_setsWindow layout d hs
    obtain ⟨limit, offset, hrun⟩ := ih { d with limit := l, offset := o } hrest
    refine ⟨limit, offset, ?_⟩
    rw [applyAll, List.foldl_cons, hstep]
    exact hrun

/-! ## Pages of a draft -/

theorem page_int (d : Draft) (n size : Int) :
    d.page (.int n) (.int size) =
      ({ d with limit := .int size, offset := .int (max (n - 1) 0 * size) }, .ok ()) := by
  rw [page, Value.pageOffset_int]

/-- The request for all rows that a draft asks for. -/
def whole (d : Draft) (table : String) : FetchRequest :=
  { table, predicates := d.predicates, sort := d.sort }

theorem build_window (htable : Validation.readText d.table = .ok table) (limit offset : Nat) :
    ({ d with limit := .int limit, offset := .int offset } : Draft).build =
      .ok { d.whole table with limit := some limit, offset := some offset } := by
  have hlimit := FetchRequest.readNullable_dumpCount (some limit)
  have hoffset := FetchRequest.readNullable_dumpCount (some offset)
  rw [FetchRequest.dumpCount] at hlimit hoffset
  rw [build, htable, hlimit, hoffset]
  rfl

/-- A page is built as the window after the pages before it; before the first page there are none. -/
theorem build_page (htable : Validation.readText d.table = .ok table) (n : Int) (size : Nat) :
    (d.page (.int n) (.int size)).1.build =
      .ok ((d.whole table).pageAfter (n - 1).toNat size) := by
  have hoffset : max (n - 1) 0 * (size : Int) = ((n - 1).toNat * size : Nat) := by
    rw [Int.natCast_mul, Int.toNat_eq_max]
  rw [page_int, hoffset]
  exact build_window htable size ((n - 1).toNat * size)

theorem compile_of_build (layout : Layout) {r : FetchRequest} (h : d.build = .ok r) :
    d.compile layout = (layout.compile r).mapError .misuse := by
  rw [compile, h]
  rfl

end Draft

/-! ## The statement of a page -/

namespace Layout

variable {layout : Layout} {before size : Nat}

theorem compile_pageAfter (hjoin : layout.joinFault = none) (r : FetchRequest)
    (hsize : size.repr.length ≤ digitLimit) (hoffset : (before * size).repr.length ≤ digitLimit) :
    layout.compile (r.pageAfter before size) =
      .ok ⟨(layout.write { r with limit := none, offset := none }).text ++
        layout.windowText size (before * size : Nat), r.leaves.flatMap (·.2)⟩ := by
  have htext := text_write_window layout (r := r.pageAfter before size) rfl rfl
  have hparams := params_write layout (r.pageAfter before size)
  refine compile_eq_ok_iff.mpr
    ⟨⟨isWritable_some_iff.mpr hsize, isWritable_some_iff.mpr hoffset, hjoin⟩, ?_⟩
  exact (congrArg₂ Command.mk htext hparams).symm

theorem compile_pageAfter_of_long (r : FetchRequest)
    (h : digitLimit < size.repr.length ∨ digitLimit < (before * size).repr.length) :
    layout.compile (r.pageAfter before size) = .error (.numeralTooLong digitLimit) := by
  have hlong : ¬ (isWritable (some size) && isWritable (some (before * size))) = true := by
    rw [Bool.and_eq_true, isWritable_some_iff, isWritable_some_iff]
    omega
  exact if_neg hlong

end Layout

namespace Draft

variable {layout : Layout} {d : Draft} {table : String}

theorem compile_page (htable : Validation.readText d.table = .ok table)
    (hjoin : layout.joinFault = none) {n : Int} (hn : 1 ≤ n) (size : Nat) :
    let before := (n - 1) * size
    let out := (d.page (.int n) (.int size)).1.compile layout
    (size.repr.length ≤ Layout.digitLimit → before.repr.length ≤ Layout.digitLimit →
      out = .ok ⟨(layout.write (d.whole table)).text ++ layout.windowText size before,
        (d.whole table).leaves.flatMap (·.2)⟩) ∧
    (Layout.digitLimit < size.repr.length ∨ Layout.digitLimit < before.repr.length →
      out = .error (.misuse (.numeralTooLong Layout.digitLimit))) := by
  intro before out
  obtain ⟨k, hk⟩ := Int.eq_ofNat_of_zero_le (a := n - 1) (by omega)
  have hbefore : before = (k * size : Nat) := by
    change (n - 1) * (size : Int) = _
    rw [hk, Int.natCast_mul]
  have hbuild := build_page htable n size
  rw [hk, Int.toNat_natCast] at hbuild
  have hout : out = (layout.compile ((d.whole table).pageAfter k size)).mapError .misuse :=
    compile_of_build layout hbuild
  rw [hout, hbefore]
  constructor
  · intro hsize hoffset
    rw [Layout.compile_pageAfter hjoin (d.whole table) hsize hoffset]
    rfl
  · intro hlong
    rw [Layout.compile_pageAfter_of_long (d.whole table) hlong]
    rfl

/-- Whatever calls have set the window before, a page of whole numbers is taken, is built as the window
after the pages before it, and is the first page for every number below 1. Every row is in the window of
exactly one page. The statement of a page is the one for all rows, with the same values, followed by both
bounds in decimal, unless one of them has more digits than can be written. -/
theorem pages_tile_rows (layout : Layout)
    (htable : Validation.readText d.table = .ok table) {steps : List DraftStep}
    (hsteps : ∀ s ∈ steps, s.setsWindow = true) {size : Int} (hsize : 1 ≤ size) :
    let whole := d.whole table
    let request (n : Int) : FetchRequest := whole.pageAfter (n - 1).toNat size.toNat
    let paged (n : Int) := (d.applyAll layout steps).page (.int n) (.int size)
    (∀ n, (paged n).2 = .ok () ∧ (paged n).1.build = .ok (request n)) ∧
    (∀ row, ∃! n, 1 ≤ n ∧ (request n).InWindow row) ∧
    (∀ n < 1, paged n = paged 1) ∧
    (∀ n, paged n = d.page (.int n) (.int size)) ∧
    (layout.joinFault = none → ∀ n, 1 ≤ n →
      let before := (n - 1) * size
      (size.repr.length ≤ Layout.digitLimit → before.repr.length ≤ Layout.digitLimit →
        (paged n).1.compile layout =
          .ok ⟨(layout.write whole).text ++ layout.windowText size before,
            whole.leaves.flatMap (·.2)⟩) ∧
      (Layout.digitLimit < size.repr.length ∨ Layout.digitLimit < before.repr.length →
        (paged n).1.compile layout = .error (.misuse (.numeralTooLong Layout.digitLimit)))) := by
  intro whole request paged
  obtain ⟨limit, offset, hrun⟩ := applyAll_of_setsWindow layout d hsteps
  have hpaged : ∀ n, paged n = d.page (.int n) (.int size) := by
    intro n
    change (d.applyAll layout steps).page (.int n) (.int size) = _
    rw [hrun, page_int, page_int]
  obtain ⟨m, rfl⟩ := Int.eq_ofNat_of_zero_le (a := size) (by omega)
  refine ⟨fun n => ?_, fun row => ?_, fun n hn => ?_, hpaged, fun hjoin n hn => ?_⟩
  · rw [hpaged, page_int]
    refine ⟨rfl, ?_⟩
    rw [← page_int]
    exact build_page htable n m
  · exact FetchRequest.existsUnique_page whole (by omega) row
  · have hclip : max (n - 1) 0 = max (1 - 1) 0 := by omega
    rw [hpaged, hpaged, page_int, page_int, hclip]
  · rw [hpaged]
    exact compile_page htable hjoin hn m

/-- Rows 20 to 29 are the third page of ten, whatever window was asked for before. -/
theorem pages_tile_rows_by_tens :
    let d := (start (.text "t")).addPredicate (.simple "a = ?" [.int 1])
    let calls : List DraftStep := [.limit (.int 3), .page (.text "x") (.int 5), .offset .null]
    let paged := ((d.applyAll {} calls).page (.int 3) (.int 10)).1
    paged.compile {} =
      .ok ⟨"SELECT * FROM t\nWHERE (a = ?)" ++ "\nLIMIT 10\nOFFSET 20", [.int 1]⟩ ∧
    ∃! n : Int, 1 ≤ n ∧ ((d.whole "t").pageAfter (n - 1).toNat 10).InWindow 25 := by
  intro d calls paged
  have htable : Validation.readText d.table = .ok "t" := rfl
  have hcalls : ∀ s ∈ calls, s.setsWindow = true := by decide
  have hsize : (1 : Int) ≤ 10 := by decide
  obtain ⟨-, hrows, -, -, hcompile⟩ := pages_tile_rows {} htable hcalls hsize
  have htext := (hcompile rfl 3 (by decide)).1 (by decide) (by decide)
  exact ⟨htext, hrows 25⟩

/-- A page of so many rows, after as many pages, that the request for it is built and its offset cannot
be written. -/
theorem page_of_long_offset_cannot_be_written :
    let size : Nat := Nat.pow 10 2200
    let paged := ((start (.text "t")).page (.int (size + 1)) (.int size)).1
    (∃ r, paged.build = .ok r) ∧
      paged.compile {} = .error (.misuse (.numeralTooLong Layout.digitLimit)) := by
  intro size paged
  have htable : Validation.readText (start (.text "t")).table = .ok "t" := rfl
  have hbuild := build_page htable (size + 1) size
  rw [Int.add_sub_cancel, Int.toNat_natCast] at hbuild
  -- the bounds stay powers: their digits are never worked out
  have hlong : Layout.digitLimit < (size * size).repr.length := by
    rw [← Nat.not_le, ← Layout.lt_pow_iff_length_repr_le (by decide)]
    decide +kernel
  refine ⟨⟨_, hbuild⟩, ?_⟩
  rw [compile_of_build {} hbuild, Layout.compile_pageAfter_of_long _ (.inr hlong)]
  rfl

end Draft

end DataFetch

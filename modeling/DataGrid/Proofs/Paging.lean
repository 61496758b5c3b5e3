import DataGrid.Database
import DataGrid.Paging
import DataGrid.Proofs.Outcome
import Mathlib.Data.Int.DivMod

/-!
# Pages one after another

A position beyond sixty-four bits is taken as the greatest one there is, so a
page far behind the last row may begin before its due.  No row can stand there:
the pages of a size divide the rows of every list between them, each row on the
page that dividing its position by the size gives.
-/

namespace DataGrid.Page

/-- The row at a position stands on the page. -/
def Holds (page : Page) (position : Int) : Prop :=
  page.offset ≤ position ∧ position < page.offset + page.limit

/-- The rows of a list that stand on the page. -/
def window {α : Type} (page : Page) (rows : List α) : List α :=
  (rows.drop page.offset.toNat).take page.limit.toNat

theorem of_eq_ok_iff {index size : Int} {page : Page} :
    Page.of index size = .ok page ↔
      0 ≤ index ∧ 0 < size ∧ page = { index, size } := by
  unfold Page.of
  split
  · simp only [reduceCtorEq, false_iff]
    omega
  split
  · simp only [reduceCtorEq, false_iff]
    omega
  · simp only [Except.ok.injEq, eq_comm]
    constructor
    · intro same
      exact ⟨by omega, by omega, same⟩
    · exact fun paged => paged.2.2

section Offset

variable {page : Page}

/-- A page begins at the greatest position when it is due behind it. -/
theorem offset_eq_min (index : 0 ≤ page.index) (size : 0 ≤ page.size) :
    page.offset = min Decimal.greatest (page.index * page.size) := by
  have due : 0 ≤ page.index * page.size := Int.mul_nonneg index size
  unfold offset Decimal.saturate Decimal.least Decimal.greatest
  omega

/-- Below the greatest position a page holds the rows that it is due. -/
theorem holds_iff (index : 0 ≤ page.index) (size : 0 < page.size)
    {position : Int} (below : position < Decimal.greatest) :
    page.Holds position ↔ page.index = position / page.size := by
  rw [eq_comm, Int.ediv_eq_iff_of_pos size, Holds, limit,
    offset_eq_min index (Int.le_of_lt size)]
  omega

/-- A list that ends below the greatest position is cut where its pages are
due. -/
theorem window_eq {α : Type} (index : 0 ≤ page.index) (size : 0 ≤ page.size)
    {rows : List α} (below : rows.length < Decimal.greatest) :
    page.window rows =
      (rows.drop (page.index.toNat * page.size.toNat)).take
        page.size.toNat := by
  have due : (page.index * page.size).toNat =
      page.index.toNat * page.size.toNat :=
    Int.toNat_mul index size
  rw [window, offset_eq_min index size, limit, ← due]
  by_cases beyond : Decimal.greatest ≤ page.index * page.size
  · -- The page is due behind the last row, and it begins there in any case.
    rw [Int.min_eq_left beyond, List.drop_eq_nil_of_le (by omega),
      List.drop_eq_nil_of_le (by omega)]
  · rw [Int.min_eq_right (by omega)]

end Offset

section Windows

variable {α : Type} {size : Int} {rows : List α}

/-- The rows on the first pages of a size, one page after another. -/
def windows (size : Int) (count : Nat) (rows : List α) : List α :=
  (List.range count).flatMap fun index : Nat =>
    Page.window { index, size } rows

/-- The first pages hold as many of the first rows as there is room for. -/
theorem windows_eq_take (positive : 0 ≤ size)
    (below : rows.length < Decimal.greatest) (count : Nat) :
    windows size count rows = rows.take (count * size.toNat) := by
  induction count with
  | zero => simp [windows]
  | succ count ih =>
      have last : Page.window { index := count, size } rows =
          (rows.drop ((count : Int).toNat * size.toNat)).take size.toNat :=
        window_eq (Int.natCast_nonneg count) positive below
      calc
        windows size (count + 1) rows =
            windows size count rows ++
              Page.window { index := count, size } rows := by
          simp [windows, List.range_succ]
        _ = rows.take (count * size.toNat) ++
              (rows.drop (count * size.toNat)).take size.toNat := by
          rw [ih, last, Int.toNat_natCast]
        _ = rows.take ((count + 1) * size.toNat) := by
          rw [Nat.succ_mul, List.take_add]

end Windows

end DataGrid.Page

namespace DataGrid.Database

/-- A database that is asked for a page answers with what stands on that page of
all the rows. -/
theorem fetch_eq_map_window (database : Database) (statement : Sql.Statement)
    {page : Page} (size : 0 ≤ page.limit) :
    database.fetch statement page.offset (some page.limit) =
      (database.fetch statement 0 none).map page.window := by
  have limited : (some page.limit).filter (0 ≤ ·) = some page.limit := by
    simpa using size
  unfold fetch
  rw [limited]
  cases database.prepareQuery statement.sql "failed to prepare page query" with
  | error failure => rfl
  | ok prepared =>
      obtain ⟨prepared, placeholders⟩ := prepared
      cases bound : database.scope placeholders statement.params with
      | error failure => simp [bound, Except.map]
      | ok scope =>
          simp [bound, Except.map, Page.window, List.map_take, List.map_drop]

end DataGrid.Database

namespace DataGrid.Page

/-- The pages of a size divide the rows between them.  The row at a position
stands on the page that dividing by the size gives, and on no other one, also
where a page is due beyond sixty-four bits.  The pages of a list, taken one
after another, give its rows in order and each of them once, and the pages
behind them are empty.  What a database answers when it is asked for a page is
what stands on it. -/
theorem pages_partition {size : Int} (positive : 0 < size) :
    (∀ index, 0 ≤ index → ∃ page, Page.of index size = .ok page ∧
      (∀ position, position < Decimal.greatest →
        (page.Holds position ↔ index = position / size)) ∧
      ∀ (database : Database) (statement : Sql.Statement),
        database.fetch statement page.offset (some page.limit) =
          (database.fetch statement 0 none).map page.window) ∧
    ∀ {α : Type} (rows : List α), rows.length < Decimal.greatest →
      ∀ count : Nat, rows.length ≤ count * size →
        windows size count rows = rows ∧
          ∀ index : Nat, count ≤ index →
            Page.window { index, size } rows = [] := by
  have nonneg : 0 ≤ size := Int.le_of_lt positive
  constructor
  · intro index first
    refine ⟨{ index, size }, of_eq_ok_iff.mpr ⟨first, positive, rfl⟩, ?_, ?_⟩
    · intro position below
      exact holds_iff first positive below
    · intro database statement
      exact database.fetch_eq_map_window statement nonneg
  · intro α rows below count enough
    have room : rows.length ≤ count * size.toNat := by
      have := Int.toNat_of_nonneg nonneg
      rw [← this] at enough
      exact_mod_cast enough
    constructor
    · rw [windows_eq_take nonneg below, List.take_of_length_le room]
    · intro index behind
      have later : rows.length ≤ index * size.toNat :=
        Nat.le_trans room (Nat.mul_le_mul_right _ behind)
      rw [window_eq (Int.natCast_nonneg index) nonneg below,
        Int.toNat_natCast, List.drop_eq_nil_of_le later, List.take_nil]

/-- Two pages of this size reach behind the greatest position, and the sixth is
due far beyond it.  It holds no row, and two people stand on the first page. -/
theorem wide_pages_partition :
    let size : Int := 0x4000000000000000
    0 < size ∧
      (∃ page, Page.of 5 size = .ok page ∧
        page.offset = Decimal.greatest ∧
        (page.Holds (Decimal.greatest - 1) ↔
          5 = (Decimal.greatest - 1) / size)) ∧
      windows size 1 ["Ann", "Bob"] = ["Ann", "Bob"] ∧
      Page.window { index := (5 : Nat), size } ["Ann", "Bob"] = [] := by
  intro size
  have positive : 0 < size := by decide
  obtain ⟨places, divides⟩ := pages_partition positive
  obtain ⟨page, paged, holds, -⟩ := places 5 (by decide)
  obtain ⟨whole, behind⟩ := divides ["Ann", "Bob"] (by decide) 1 (by decide)
  refine ⟨positive, ⟨page, paged, ?_, holds _ (by decide)⟩, whole,
    behind 5 (by decide)⟩
  obtain ⟨-, -, rfl⟩ := of_eq_ok_iff.mp paged
  decide

end DataGrid.Page

import FormLogic.Context.Grid
import FormLogic.Proofs.Number.Addition
import FormLogic.Proofs.Value.Readings

/-!
# Aggregates and the cells without a number

A cell that is not read as a number (`Numberless`) is left out of every aggregate of its column.  An
unfilled cell, `null` or blank text, is not: it is read as zero (`Unfilled`).  That makes no
difference to a sum, but the zero counts in a mean, and it is chosen where the least number of a
column is positive or the greatest one negative (`Aggregate.apply_insertRow`).
-/

namespace FormLogic

/-! ## 1. The place in the order -/

namespace Binary64

/-- The place of a number in the order. -/
def rank (a : Binary64) : ℤ := a.rank?.getD 0

theorem rank?_eq {a : Binary64} (ha : a ≠ .nan) : a.rank? = some a.rank := by
  cases a with
  | nan => exact absurd rfl ha
  | infinite s => rfl
  | finite s m => rfl

theorem eq_iff_rank {a b : Binary64} (ha : a ≠ .nan) (hb : b ≠ .nan) :
    a.eq b = true ↔ a.rank = b.rank := by
  rw [eq, rank?_eq ha, rank?_eq hb, beq_iff_eq]

theorem lt_iff_rank {a b : Binary64} (ha : a ≠ .nan) (hb : b ≠ .nan) :
    a.lt b = true ↔ a.rank < b.rank := by
  rw [lt, rank?_eq ha, rank?_eq hb, decide_eq_true_iff]

theorem isNaN_eq_false {a : Binary64} : a.isNaN = false ↔ a ≠ .nan := by
  cases a <;> simp [isNaN]

/-- **A choice between two numbers** that goes by their places in the order. -/
def Chooses (pick : Binary64 → Binary64 → Binary64) (op : ℤ → ℤ → ℤ) : Prop :=
  ∀ a b : Binary64, a ≠ .nan → b ≠ .nan → pick a b ≠ .nan ∧ (pick a b).rank = op a.rank b.rank

theorem chooses_min : Chooses .min (· ⊓ ·) := by
  intro a b ha hb
  rw [Binary64.min, isNaN_eq_false.mpr ha, isNaN_eq_false.mpr hb, if_neg Bool.false_ne_true,
    if_neg Bool.false_ne_true]
  split
  · next hlt => exact ⟨hb, (inf_of_le_right ((lt_iff_rank hb ha).mp hlt).le).symm⟩
  · next hge => exact ⟨ha, (inf_of_le_left (not_lt.mp (mt (lt_iff_rank hb ha).mpr hge))).symm⟩

theorem chooses_max : Chooses .max (· ⊔ ·) := by
  intro a b ha hb
  rw [Binary64.max, isNaN_eq_false.mpr ha, isNaN_eq_false.mpr hb, if_neg Bool.false_ne_true,
    if_neg Bool.false_ne_true]
  split
  · next hlt => exact ⟨hb, (sup_of_le_right ((lt_iff_rank ha hb).mp hlt).le).symm⟩
  · next hge => exact ⟨ha, (sup_of_le_left (not_lt.mp (mt (lt_iff_rank ha hb).mpr hge))).symm⟩

namespace Chooses

variable {pick : Binary64 → Binary64 → Binary64} {op : ℤ → ℤ → ℤ}

theorem foldl (h : Chooses pick op) {xs : List Binary64} (hxs : ∀ x ∈ xs, x ≠ .nan)
    {a : Binary64} (ha : a ≠ .nan) :
    xs.foldl pick a ≠ .nan ∧ (xs.foldl pick a).rank = (xs.map rank).foldl op a.rank := by
  induction xs generalizing a with
  | nil => exact ⟨ha, rfl⟩
  | cons x xs ih =>
    obtain ⟨hx, hxs⟩ := List.forall_mem_cons.mp hxs
    obtain ⟨hne, hrank⟩ := h a x ha hx
    rw [List.foldl_cons, List.map_cons, List.foldl_cons, ← hrank]
    exact ih hxs hne

variable [Std.Associative op] [Std.Commutative op]

/-- A choice between the start and a number may as well be made last. -/
theorem foldl_op (rs : List ℤ) (r s : ℤ) : rs.foldl op (op r s) = op (rs.foldl op r) s := by
  have hcomm : ∀ r s, op r s = op s r := Std.Commutative.comm
  rw [hcomm r s, List.foldl_assoc, hcomm s]

/-- **A zero among the numbers**: the extremum is chosen of that of the others and zero. -/
theorem extremum_insert_zero [Std.IdempotentOp op] (h : Chooses pick op)
    {above below : List Binary64} (hne : ∀ x ∈ above ++ below, x ≠ .nan) :
    (Aggregate.extremum pick (above ++ .zero :: below)).eq
      (pick (Aggregate.extremum pick (above ++ below)) .zero) = true := by
  obtain ⟨habove, hbelow⟩ := List.forall_mem_append.mp hne
  have hzero : Binary64.zero ≠ .nan := nofun
  cases above with
  | nil =>
    cases below with
    | nil =>
      obtain ⟨hpick, hrank⟩ := h _ _ hzero hzero
      refine (eq_iff_rank hzero hpick).mpr ?_
      exact (hrank.trans (Std.IdempotentOp.idempotent _)).symm
    | cons x below =>
      -- the zero comes first of all and the choice starts with it
      obtain ⟨hx, hbelow⟩ := List.forall_mem_cons.mp hbelow
      obtain ⟨hstart, hstartRank⟩ := h _ _ hzero hx
      obtain ⟨hnew, hnewRank⟩ := h.foldl hbelow hstart
      obtain ⟨hold, holdRank⟩ := h.foldl hbelow hx
      obtain ⟨hpick, hrank⟩ := h _ _ hold hzero
      have hcomm : op zero.rank x.rank = op x.rank zero.rank := Std.Commutative.comm _ _
      refine (eq_iff_rank hnew hpick).mpr ?_
      rw [hnewRank, hstartRank, hrank, holdRank, hcomm, foldl_op]
  | cons x above =>
    obtain ⟨hx, habove⟩ := List.forall_mem_cons.mp habove
    have hwith : ∀ y ∈ above ++ .zero :: below, y ≠ .nan :=
      List.forall_mem_append.mpr ⟨habove, List.forall_mem_cons.mpr ⟨hzero, hbelow⟩⟩
    have hwithout : ∀ y ∈ above ++ below, y ≠ .nan := List.forall_mem_append.mpr ⟨habove, hbelow⟩
    obtain ⟨hnew, hnewRank⟩ := h.foldl hwith hx
    obtain ⟨hold, holdRank⟩ := h.foldl hwithout hx
    obtain ⟨hpick, hrank⟩ := h _ _ hold hzero
    refine (eq_iff_rank hnew hpick).mpr ?_
    rw [hnewRank, hrank, holdRank, List.map_append, List.map_append, List.map_cons,
      List.foldl_append, List.foldl_append, List.foldl_cons, foldl_op]

end Chooses

end Binary64

/-! ## 2. Cells without a number -/

/-- **A cell that is not read as a number**: there is none, or a map, or text that spells none. -/
inductive Numberless : Resolved → Prop where
  | missing : Numberless none
  | map (entries : List (String × Value)) : Numberless (some (.map entries))
  | text {s : String} (h : Number.strict s.toList = .nan) : Numberless (some (.string s))

/-- **A cell that is not filled in**: `null` or blank text. -/
inductive Unfilled : Resolved → Prop where
  | null : Unfilled (some .null)
  | text {s : String} (h : Text.Blank s.toList) : Unfilled (some (.string s))

theorem Numberless.strictNumber_eq {cell : Resolved} (h : Numberless cell) :
    cell.strictNumber = .nan := by
  cases h with
  | missing => rfl
  | map _ => rfl
  | text h => exact h

theorem Unfilled.strictNumber_eq {cell : Resolved} (h : Unfilled cell) :
    cell.strictNumber = .zero := by
  cases h with
  | null => rfl
  | text h => exact Number.strict_of_blank (Text.trim_eq_nil_iff.mpr h)

namespace Grid

variable (g : Grid) (column : String) (i : ℕ) (row : Row)

/-- The grid with one more row, after its first `i` ones. -/
def insertRow : Grid := { g with rows := g.rows.take i ++ row :: g.rows.drop i }

theorem ne_nan_of_mem_numbers {x : Binary64} (h : x ∈ g.numbers column) : x ≠ .nan := by
  have hnumber : (!x.isNaN) = true := (List.mem_filter.mp h).2
  exact Binary64.isNaN_eq_false.mp (by simpa using hnumber)

/-- **The numbers of a column with one more row** are the former ones and, among them, what the new
cell is read as, unless that is `nan`. -/
theorem exists_numbers_insertRow : ∃ above below, g.numbers column = above ++ below ∧
    (g.insertRow i row).numbers column =
      above ++ ([Resolved.strictNumber (Dict.get? row column)].filter (!·.isNaN) ++ below) := by
  refine ⟨numbers { rows := g.rows.take i } column, numbers { rows := g.rows.drop i } column,
    ?_, ?_⟩
  · simp only [numbers]
    rw [← List.filter_append, ← List.map_append, List.take_append_drop]
  · simp only [numbers, insertRow]
    rw [List.append_cons, List.map_append, List.map_append, List.filter_append, List.filter_append,
      List.append_assoc]
    rfl

variable {column i row}

theorem numbers_insertRow_of_numberless (h : Numberless (Dict.get? row column)) :
    (g.insertRow i row).numbers column = g.numbers column := by
  obtain ⟨above, below, hformer, hnew⟩ := g.exists_numbers_insertRow column i row
  rw [hnew, hformer, h.strictNumber_eq]
  rfl

theorem numbers_insertRow_of_unfilled (h : Unfilled (Dict.get? row column)) :
    ∃ above below, g.numbers column = above ++ below ∧
      (g.insertRow i row).numbers column = above ++ .zero :: below := by
  obtain ⟨above, below, hformer, hnew⟩ := g.exists_numbers_insertRow column i row
  rw [h.strictNumber_eq] at hnew
  exact ⟨above, below, hformer, hnew⟩

/-- A column without numbers has zeros at most. -/
theorem numbers_eq_replicate
    (h : ∀ row ∈ g.rows, Numberless (Dict.get? row column) ∨ Unfilled (Dict.get? row column)) :
    ∃ n, g.numbers column = List.replicate n .zero := by
  refine ⟨_, List.eq_replicate_of_mem fun x hx => ?_⟩
  obtain ⟨row, hrow, rfl⟩ := List.mem_map.mp (List.mem_filter.mp hx).1
  rcases h row hrow with hcell | hcell
  · exact absurd hcell.strictNumber_eq (g.ne_nan_of_mem_numbers column hx)
  · exact hcell.strictNumber_eq

end Grid

/-! ## 3. Aggregates -/

namespace Aggregate

variable (g : Grid) {column : String} {i : ℕ} {row : Row}

/-- An aggregate goes by the numbers of its column. -/
theorem apply_congr (a : Aggregate) {g g' : Grid} (h : g'.numbers column = g.numbers column) :
    a.apply g' column = a.apply g column := by
  cases a <;> simp only [apply, Grid.sum, h]

theorem sum_insertRow_of_unfilled (h : Unfilled (Dict.get? row column)) :
    sum.apply (g.insertRow i row) column = sum.apply g column := by
  obtain ⟨above, below, hformer, hnew⟩ := g.numbers_insertRow_of_unfilled (i := i) h
  simp only [apply, Grid.sum]
  rw [hnew, hformer, Binary64.foldl_add_insert_zero, Binary64.zero_add_zero]

/-- **An unfilled cell counts in a mean.** -/
theorem avg_insertRow_of_unfilled (h : Unfilled (Dict.get? row column)) :
    avg.apply (g.insertRow i row) column =
      (sum.apply g column).div (.ofNat ((g.numbers column).length + 1)) := by
  obtain ⟨above, below, hformer, hnew⟩ := g.numbers_insertRow_of_unfilled (i := i) h
  have hlength : (above ++ Binary64.zero :: below).length = (above ++ below).length + 1 := by
    simp [Nat.add_assoc]
  have hne : (above ++ Binary64.zero :: below).isEmpty = false := by
    cases above <;> rfl
  simp only [apply, Grid.sum]
  rw [hnew, hformer, mean, hne, if_neg Bool.false_ne_true, Binary64.foldl_add_insert_zero,
    Binary64.neg_zero_add_zero, hlength]

/-- **An unfilled cell is chosen like a zero.** -/
theorem extremum_insertRow_of_unfilled {pick : Binary64 → Binary64 → Binary64} {op : ℤ → ℤ → ℤ}
    [Std.Associative op] [Std.Commutative op] [Std.IdempotentOp op]
    (hpick : Binary64.Chooses pick op) (h : Unfilled (Dict.get? row column)) :
    (extremum pick ((g.insertRow i row).numbers column)).eq
      (pick (extremum pick (g.numbers column)) .zero) = true := by
  obtain ⟨above, below, hformer, hnew⟩ := g.numbers_insertRow_of_unfilled (i := i) h
  rw [hnew, hformer]
  exact hpick.extremum_insert_zero fun x hx => g.ne_nan_of_mem_numbers column (hformer ▸ hx)

theorem foldl_replicate_zero {f : Binary64 → Binary64 → Binary64} (h : f .zero .zero = .zero)
    (n : ℕ) : (List.replicate n Binary64.zero).foldl f .zero = .zero := by
  induction n with
  | zero => rfl
  | succ n ih => rw [List.replicate_succ, List.foldl_cons, h, ih]

/-- **Every aggregate of zeros is zero.** -/
theorem apply_of_zeros (a : Aggregate) {n : ℕ} (h : g.numbers column = List.replicate n .zero) :
    a.apply g column = .zero := by
  have hmin : Binary64.zero.min .zero = .zero := by decide
  have hmax : Binary64.zero.max .zero = .zero := by decide
  simp only [apply, Grid.sum, h]
  cases n with
  | zero => cases a <;> rfl
  | succ n =>
    cases a with
    | sum => exact foldl_replicate_zero Binary64.zero_add_zero _
    | avg =>
      simp only [mean, List.replicate_succ, List.isEmpty_cons, List.foldl_cons, List.length_cons,
        List.length_replicate, Binary64.neg_zero_add_zero, Binary64.zero_div_ofNat,
        foldl_replicate_zero Binary64.zero_add_zero, if_neg Bool.false_ne_true]
    | min => exact foldl_replicate_zero hmin n
    | max => exact foldl_replicate_zero hmax n

/-- **What a further row does to the aggregates of a column.**  If its cell is not read as a number,
they stay as they are.  If it is not filled in, the sum stays, the mean is taken over one number
more, and the least and the greatest number are those of the former ones and zero.  A column of such
cells has zero aggregates. -/
theorem apply_insertRow (column : String) :
    (∀ i row, Numberless (Dict.get? row column) →
      ∀ a : Aggregate, a.apply (g.insertRow i row) column = a.apply g column) ∧
    (∀ i row, Unfilled (Dict.get? row column) →
      sum.apply (g.insertRow i row) column = sum.apply g column ∧
      avg.apply (g.insertRow i row) column =
        (sum.apply g column).div (.ofNat ((g.numbers column).length + 1)) ∧
      (min.apply (g.insertRow i row) column).eq ((min.apply g column).min .zero) = true ∧
      (max.apply (g.insertRow i row) column).eq ((max.apply g column).max .zero) = true) ∧
    ((∀ row ∈ g.rows, Numberless (Dict.get? row column) ∨ Unfilled (Dict.get? row column)) →
      ∀ a : Aggregate, a.apply g column = .zero) := by
  refine ⟨fun i row h a => ?_, fun i row h => ⟨?_, ?_, ?_, ?_⟩, fun h a => ?_⟩
  · exact a.apply_congr (g.numbers_insertRow_of_numberless h)
  · exact sum_insertRow_of_unfilled g h
  · exact avg_insertRow_of_unfilled g h
  · exact extremum_insertRow_of_unfilled g Binary64.chooses_min h
  · exact extremum_insertRow_of_unfilled g Binary64.chooses_max h
  · obtain ⟨n, hzeros⟩ := g.numbers_eq_replicate h
    exact a.apply_of_zeros g hzeros

/-- One row with a four in the column `x`. -/
def fourOnly : Grid := { rows := [[("x", .number (.ofNat 4))]] }

/-- Text that is no number leaves the four alone, `null` halves the mean and is the least, and blank
text leaves the greatest; the column `y` is empty. -/
theorem apply_insertRow_of_four :
    (∀ a : Aggregate, a.apply (fourOnly.insertRow 0 [("x", .string "4 kg")]) "x" =
      a.apply fourOnly "x") ∧
    avg.apply (fourOnly.insertRow 1 [("x", .null)]) "x" = .ofNat 2 ∧
    (min.apply (fourOnly.insertRow 1 [("x", .null)]) "x").isZero = true ∧
    (max.apply (fourOnly.insertRow 0 [("x", .string " \t")]) "x").eq (.ofNat 4) = true ∧
    ∀ a : Aggregate, a.apply fourOnly "y" = .zero := by
  have hblank : Text.Blank " \t".toList := by decide
  obtain ⟨hnumberless, hunfilled, -⟩ := apply_insertRow fourOnly "x"
  obtain ⟨-, -, hempty⟩ := apply_insertRow fourOnly "y"
  obtain ⟨-, havg, hmin, -⟩ := hunfilled 1 [("x", .null)] .null
  obtain ⟨-, -, -, hmax⟩ := hunfilled 0 [("x", .string " \t")] (.text hblank)
  refine ⟨hnumberless 0 _ (.text (by decide +kernel)), havg.trans (by decide +kernel), ?_, ?_, ?_⟩
  · exact (Binary64.eq_congr_left hmin .zero).trans (by decide +kernel)
  · exact (Binary64.eq_congr_left hmax _).trans (by decide +kernel)
  · exact hempty fun row hrow => .inl (List.mem_singleton.mp hrow ▸ .missing)

/-- A cell that is not filled in does influence an aggregate. -/
theorem not_apply_insertRow_of_unfilled :
    ¬ ∀ (g : Grid) (column : String) (i : ℕ) (row : Row),
      Numberless (Dict.get? row column) ∨ Unfilled (Dict.get? row column) →
        ∀ a : Aggregate, a.apply (g.insertRow i row) column = a.apply g column := by
  intro h
  have hleast := h fourOnly "x" 1 [("x", .null)] (.inr .null) .min
  have hne : Aggregate.min.apply (fourOnly.insertRow 1 [("x", .null)]) "x" ≠
      Aggregate.min.apply fourOnly "x" := by decide +kernel
  exact hne hleast

end Aggregate

end FormLogic

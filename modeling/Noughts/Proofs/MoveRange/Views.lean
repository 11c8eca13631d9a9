import Mathlib.Data.List.Nodup
import Noughts.MoveRange
import Noughts.Proofs.Word

/-!
# The views of a range

A range is tested by its bounds, listed cell by cell and counted by its corners. The list is
strictly ascending, column by column: `MoveRange.pairwise_cells`. It holds the points within the
bounds once and no others, `MoveRange.count_cells`, and the count is its length unless the area
takes more than 64 bits: `MoveRange.toNat_cellCount`. The count is made of 64-bit words, and all of
its steps fit into them exactly if the corners are ordered and the area fits:
`MoveRange.cellCountInWords_eq_some_iff`. `MoveRange.views_agree` puts the three views together, for
corners of every kind.
-/

namespace Noughts

/-- A point comes before another one if its column does, or in the same column its row. -/
def ColumnMajor (p q : Point) : Prop :=
  p.1 < q.1 ∨ p.1 = q.1 ∧ p.2 < q.2

/-- A point does not come before itself. -/
theorem ColumnMajor.ne {p q : Point} (h : ColumnMajor p q) : p ≠ q := by
  rintro rfl
  rcases h with hlt | ⟨_, hlt⟩
  · exact UInt64.lt_irrefl _ hlt
  · exact UInt64.lt_irrefl _ hlt

/-- If columns and rows ascend in their orders, then so does the list of their pairs, column by
column, in every order that looks at the column first. -/
theorem pairwise_columns {α β γ : Type} {r : α → α → Prop} {s : β → β → Prop} {t : γ → γ → Prop}
    {pair : α → β → γ} {columns : List α} {rows : List β} (hcolumns : columns.Pairwise r)
    (hrows : rows.Pairwise s)
    (hcolumn : ∀ {x x' : α} {y y' : β}, r x x' → t (pair x y) (pair x' y'))
    (hrow : ∀ {x : α} {y y' : β}, s y y' → t (pair x y) (pair x y')) :
    (columns.flatMap fun x => rows.map (pair x)).Pairwise t := by
  rw [List.pairwise_flatMap]
  refine ⟨fun x _ => List.pairwise_map.2 (hrows.imp hrow), hcolumns.imp ?_⟩
  intro x x' hlt p hp q hq
  obtain ⟨y, _, rfl⟩ := List.mem_map.1 hp
  obtain ⟨y', _, rfl⟩ := List.mem_map.1 hq
  exact hcolumn hlt

namespace MoveRange

/-- An interval has the numbers between its bounds, which are included. -/
theorem mem_interval {low high n : UInt64} : n ∈ interval low high ↔ low ≤ n ∧ n ≤ high := by
  have hhigh := high.toNat_lt
  simp only [interval, List.mem_map, List.mem_range'_1, UInt64.le_iff_toNat_le]
  constructor
  · rintro ⟨k, ⟨hlow, hlt⟩, rfl⟩
    have hk : (UInt64.ofNat k).toNat = k := by
      rw [UInt64.toNat_ofNat']
      exact Nat.mod_eq_of_lt (by omega)
    omega
  · rintro ⟨hlow, hle⟩
    exact ⟨n.toNat, by omega, UInt64.ofNat_toNat⟩

/-- An interval has one number more than the distance of its bounds, and none if they are
inverted. -/
theorem length_interval (low high : UInt64) :
    (interval low high).length = high.toNat + 1 - low.toNat := by
  rw [interval, List.length_map, List.length_range']

/-- The numbers of an interval ascend. -/
theorem pairwise_interval (low high : UInt64) : (interval low high).Pairwise (· < ·) := by
  have hhigh := high.toNat_lt
  rw [interval, List.pairwise_map]
  refine (List.pairwise_lt_range' 1).imp_of_mem fun {j k} hj hk hlt => ?_
  rw [List.mem_range'_1] at hj hk
  rw [UInt64.lt_iff_toNat_lt, UInt64.toNat_ofNat', UInt64.toNat_ofNat',
    Nat.mod_eq_of_lt (by omega), Nat.mod_eq_of_lt (by omega)]
  exact hlt

variable {r : MoveRange} {p : Point}

/-- A range lists what it contains. -/
theorem mem_cells_iff : p ∈ r.cells ↔ r.contains p = true := by
  obtain ⟨x, y⟩ := p
  simp [cells, contains, mem_interval]

/-- The cells of a range come column by column, from top to bottom in each. -/
theorem pairwise_cells (r : MoveRange) : r.cells.Pairwise ColumnMajor :=
  pairwise_columns (pairwise_interval _ _) (pairwise_interval _ _) (fun hlt => Or.inl hlt)
    (fun hlt => Or.inr ⟨rfl, hlt⟩)

/-- No cell of a range is listed twice. -/
theorem nodup_cells (r : MoveRange) : r.cells.Nodup :=
  r.pairwise_cells.imp ColumnMajor.ne

/-- A range lists a point once if it contains it. -/
theorem count_cells (r : MoveRange) (p : Point) :
    r.cells.count p = if r.contains p = true then 1 else 0 := by
  rw [r.nodup_cells.count]
  simp only [mem_cells_iff]

/-- A range has as many cells as its width times its height. -/
theorem length_cells (r : MoveRange) : r.cells.length = r.width * r.height := by
  simp [cells, length_interval, width, height, List.length_flatMap]

/-- Nothing is listed exactly if the corners are inverted. -/
theorem cells_eq_nil_iff :
    r.cells = [] ↔ r.corners.toX < r.corners.fromX ∨ r.corners.toY < r.corners.fromY := by
  rw [← List.length_eq_zero_iff, length_cells, Nat.mul_eq_zero, width, height,
    UInt64.lt_iff_toNat_lt, UInt64.lt_iff_toNat_lt]
  omega

/-- What a range lists depends on its corners alone. -/
theorem cells_congr {r r' : MoveRange} (h : r.corners = r'.corners) : r.cells = r'.cells := by
  simp only [cells, h]

/-- What a range contains depends on its corners alone. -/
theorem contains_congr {r r' : MoveRange} (h : r.corners = r'.corners) :
    r.contains p = r'.contains p := by
  simp only [contains, h]

/-- Between ordered corners the area is computed without loss, if it fits into 64 bits. -/
theorem toNat_cellCount (hx : r.corners.fromX ≤ r.corners.toX)
    (hy : r.corners.fromY ≤ r.corners.toY)
    (harea : r.cells.length < UInt64.size) : r.cellCount.toNat = r.cells.length := by
  have hspan {low high : UInt64} (h : low ≤ high) :
      (high - low + 1).toNat = (high.toNat + 1 - low.toNat) % UInt64.size := by
    have hle := UInt64.le_iff_toNat_le.1 h
    rw [UInt64.toNat_add, UInt64.toNat_sub_of_le _ _ h, UInt64.toNat_one]
    congr 1
    omega
  rw [length_cells, width, height] at harea ⊢
  rw [cellCount, UInt64.toNat_mul, hspan hx, hspan hy]
  exact (Nat.mul_mod _ _ _).symm.trans (Nat.mod_eq_of_lt harea)

/-- The corners are ordered and the area fits into 64 bits. -/
structure CountFits (r : MoveRange) : Prop where
  ordered_x : r.corners.fromX ≤ r.corners.toX
  ordered_y : r.corners.fromY ≤ r.corners.toY
  area_lt : r.width * r.height < UInt64.size

/-- How many numbers lie from `low` to `high`, by way of 64-bit words: one more than the
difference. -/
def spanInWords (low high : UInt64) : Option UInt64 := do
  let steps ← Word.sub? high low
  Word.add? steps 1

/-- The span of two bounds can be counted in words exactly if they are in order and it fits. -/
theorem spanInWords_eq_some_iff {low high n : UInt64} :
    spanInWords low high = some n ↔ low ≤ high ∧ n.toNat = high.toNat + 1 - low.toNat := by
  simp only [spanInWords, Option.bind_eq_bind, Option.bind_eq_some_iff, Word.sub?_eq_some_iff,
    Word.add?_eq_some_iff, UInt64.toNat_one, UInt64.le_iff_toNat_le]
  constructor
  · rintro ⟨steps, hsteps, hn⟩
    omega
  · rintro ⟨hle, hn⟩
    have hsteps := UInt64.toNat_sub_of_le _ _ (UInt64.le_iff_toNat_le.2 hle)
    exact ⟨high - low, by omega, by omega⟩

/-- Bounds in order have a span of at least one. -/
theorem span_pos {low high : UInt64} (h : low ≤ high) : 0 < high.toNat + 1 - low.toNat := by
  have hle := UInt64.le_iff_toNat_le.1 h
  omega

/-- The number of points covered by way of 64-bit words, every step of which has to fit. -/
def cellCountInWords (r : MoveRange) : Option UInt64 := do
  let columns ← spanInWords r.corners.fromX r.corners.toX
  let rows ← spanInWords r.corners.fromY r.corners.toY
  Word.mul? columns rows

/-- All steps fit exactly if the corners are ordered and the product of the two spans fits: between
ordered corners neither span is larger than the product. -/
theorem cellCountInWords_eq_some_iff {n : UInt64} : r.cellCountInWords = some n ↔
    r.corners.fromX ≤ r.corners.toX ∧ r.corners.fromY ≤ r.corners.toY ∧
      n.toNat = r.cells.length := by
  simp only [cellCountInWords, Option.bind_eq_bind, Option.bind_eq_some_iff,
    spanInWords_eq_some_iff, Word.mul?_eq_some_iff, length_cells]
  constructor
  · rintro ⟨columns, ⟨hx, hcolumns⟩, rows, ⟨hy, hrows⟩, hn⟩
    exact ⟨hx, hy, by rw [hn, hcolumns, hrows, width, height]⟩
  · rintro ⟨hx, hy, hn⟩
    have hcolumns : r.width ≤ n.toNat := hn ▸ Nat.le_mul_of_pos_right r.width (span_pos hy)
    have hrows : r.height ≤ n.toNat := hn ▸ Nat.le_mul_of_pos_left r.height (span_pos hx)
    have hword {m : Nat} (hm : m ≤ n.toNat) : (UInt64.ofNat m).toNat = m :=
      UInt64.toNat_ofNat_of_lt' (Nat.lt_of_le_of_lt hm n.toNat_lt_size)
    refine ⟨UInt64.ofNat r.width, ⟨hx, hword hcolumns⟩, UInt64.ofNat r.height,
      ⟨hy, hword hrows⟩, ?_⟩
    rw [hword hcolumns, hword hrows, hn]

/-- Where the count fits, no word overflows, and it is the number of the cells. -/
theorem cellCountInWords_of_countFits (h : r.CountFits) :
    r.cellCountInWords = some r.cellCount ∧ r.cellCount.toNat = r.cells.length := by
  have hexact := toNat_cellCount h.ordered_x h.ordered_y (r.length_cells ▸ h.area_lt)
  exact ⟨cellCountInWords_eq_some_iff.2 ⟨h.ordered_x, h.ordered_y, hexact⟩, hexact⟩

/-- Where no word overflows, the count fits. -/
theorem countFits_of_cellCountInWords {n : UInt64} (h : r.cellCountInWords = some n) :
    r.CountFits := by
  obtain ⟨hx, hy, hn⟩ := cellCountInWords_eq_some_iff.1 h
  have hfits := n.toNat_lt_size
  rw [hn, length_cells] at hfits
  exact ⟨hx, hy, hfits⟩

/-- The views of a range agree, whatever its corners are. It lists what it contains, column by
column in ascending order and so each point once, and it lists nothing exactly if the corners are
inverted. The range between its corners has the same corners, and it lists and contains the same.
The count is computed without a step that leaves 64 bits exactly if the corners are ordered and the
area fits, and then it is the length of the list. -/
theorem views_agree (r : MoveRange) :
    (∀ p, r.contains p = true ↔ p ∈ r.cells) ∧
    (r.cells.Pairwise ColumnMajor ∧ r.cells.Nodup) ∧
    (r.cells = [] ↔ r.corners.toX < r.corners.fromX ∨ r.corners.toY < r.corners.fromY) ∧
    ((ofCorners r.corners).corners = r.corners ∧ (ofCorners r.corners).cells = r.cells ∧
      ∀ p, (ofCorners r.corners).contains p = r.contains p) ∧
    (r.CountFits → r.cellCountInWords = some r.cellCount ∧ r.cellCount.toNat = r.cells.length) ∧
    (¬ r.CountFits → r.cellCountInWords = none) := by
  have hcorners := corners_ofCorners r.corners
  refine ⟨fun p => mem_cells_iff.symm, ⟨r.pairwise_cells, r.nodup_cells⟩, cells_eq_nil_iff,
    ⟨hcorners, cells_congr hcorners, fun p => contains_congr hcorners⟩,
    cellCountInWords_of_countFits, fun hfails => ?_⟩
  rw [Option.eq_none_iff_forall_ne_some]
  intro n hn
  exact hfails (countFits_of_cellCountInWords hn)

/-- A row without its first point has the largest area that a word can count; with that point the
count fails. -/
theorem views_agree_row :
    (rectangle 1 0 18446744073709551615 0).CountFits ∧
    (rectangle 1 0 18446744073709551615 0).cells.length = 18446744073709551615 ∧
    (18446744073709551615, 0) ∈ (rectangle 1 0 18446744073709551615 0).cells ∧
    ¬ (rectangle 0 0 18446744073709551615 0).CountFits ∧
    (rectangle 0 0 18446744073709551615 0).cellCountInWords = none := by
  have hfits : (rectangle 1 0 18446744073709551615 0).CountFits :=
    ⟨by decide, by decide, by decide⟩
  have hfails : ¬ (rectangle 0 0 18446744073709551615 0).CountFits := fun h =>
    absurd h.area_lt (by decide)
  obtain ⟨hmem, -, -, -, hcount, -⟩ := views_agree (rectangle 1 0 18446744073709551615 0)
  obtain ⟨-, -, -, -, -, hnone⟩ := views_agree (rectangle 0 0 18446744073709551615 0)
  exact ⟨hfits, (hcount hfits).2.symm.trans (by decide), (hmem _).1 (by decide), hfails,
    hnone hfails⟩

end MoveRange

end Noughts

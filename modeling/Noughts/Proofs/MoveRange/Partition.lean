import Mathlib.Algebra.Group.Nat.Units
import Mathlib.Algebra.Group.Units.Basic
import Mathlib.Algebra.GroupWithZero.Nat
import Noughts.Proofs.MoveRange.Greedy
import Noughts.Proofs.Session.Marks

/-!
# The valid moves of a session

The ranges that a session offers are a partition of its empty cells: every empty cell is in one of
them and nothing else is in any. `Grid.Partition` collects what is known of them besides, of which
the greedy choice of each range, `MoveRange.Greedy`, is the part that names the ranges themselves.

`Session.validMoves_partition` says so for every session that submitted moves can reach, and adds
that the counts of the ranges and the moves are nine together.
-/

namespace Noughts

namespace Cell

/-- The coordinates of a cell. -/
def point (c : Cell) : Point := (UInt64.ofNat c.x.val, UInt64.ofNat c.y.val)

/-- Coordinates are those of a cell exactly if they are its point. -/
theorem on?_eq_some_iff_point {x y : UInt64} {c : Cell} : on? x y = some c ↔ c.point = (x, y) := by
  rw [on?_eq_some_iff, point, Prod.mk.injEq, ← UInt64.toNat_inj, ← UInt64.toNat_inj,
    toNat_coordinate, toNat_coordinate]
  exact and_congr eq_comm eq_comm

/-- Different cells have different points. -/
theorem point_injective : Function.Injective point := by
  intro c d h
  have hc := on?_eq_some_iff_point.2 (rfl : c.point = (c.point.1, c.point.2))
  have hd := on?_eq_some_iff_point.2 (h.symm : d.point = (c.point.1, c.point.2))
  exact Option.some.inj (hc.symm.trans hd)

end Cell

/-- A point is an empty cell of the grid, and none of the ranges contains it. -/
def Grid.Uncovered (g : Grid) (ranges : List MoveRange) (p : Point) : Prop :=
  (∃ c, Cell.on? p.1 p.2 = some c ∧ g.get c = .empty) ∧ ∀ r ∈ ranges, r.contains p = false

/-- A range takes uncovered cells only. It goes down from its top left corner for as long as the
cells below are uncovered, and to the right for as long as all its rows are. -/
structure MoveRange.Greedy (g : Grid) (earlier : List MoveRange) (r : MoveRange) : Prop where
  within : ∀ p, r.contains p = true → g.Uncovered earlier p
  is_tall : ¬ g.Uncovered earlier (r.corners.fromX, r.corners.toY + 1)
  is_wide : ∃ y, (r.corners.fromY ≤ y ∧ y ≤ r.corners.toY) ∧
    ¬ g.Uncovered earlier (r.corners.toX + 1, y)

/-- The ranges divide the empty cells of a grid among them, column by column and each as large as
the greedy choice makes it. -/
structure Grid.Partition (g : Grid) (ranges : List MoveRange) : Prop where
  count_of_empty : ∀ x y c, Cell.on? x y = some c → g.get c = .empty →
    ranges.countP (fun r => r.contains (x, y)) = 1
  count_of_not_empty : ∀ x y, (∀ c, Cell.on? x y = some c → g.get c ≠ .empty) →
    ranges.countP (fun r => r.contains (x, y)) = 0
  cells_perm : (ranges.flatMap MoveRange.cells).Perm (g.freeCells.map Cell.point)
  nodup : (ranges.flatMap MoveRange.cells).Nodup
  ordered : ∀ r ∈ ranges, r.corners.fromX ≤ r.corners.toX ∧ r.corners.fromY ≤ r.corners.toY
  cell_iff : ∀ r ∈ ranges, (∃ x y, r = .cell x y) ↔ r.cells.length = 1
  ascending : ranges.Pairwise fun r r' =>
    ColumnMajor (r.corners.fromX, r.corners.fromY) (r'.corners.fromX, r'.corners.fromY)
  greedy : ∀ earlier r later, ranges = earlier ++ r :: later → r.Greedy g earlier

namespace MoveRange

/-- The points that ranges list are those that they contain, as often as they do. -/
theorem count_flatMap_cells (ranges : List MoveRange) (p : Point) :
    (ranges.flatMap cells).count p = ranges.countP fun r => r.contains p := by
  induction ranges with
  | nil => rfl
  | cons r rest ih => rw [List.flatMap_cons, List.count_append, count_cells, ih, List.countP_cons,
      Nat.add_comm]

/-- Corners make a single cell exactly if they coincide. -/
theorem ofCorners_eq_cell_iff {c : Corners} :
    (∃ x y, ofCorners c = .cell x y) ↔ c.fromX = c.toX ∧ c.fromY = c.toY := by
  unfold ofCorners
  split
  · next hsame => exact iff_of_true ⟨_, _, rfl⟩ hsame
  · next hdiffer => exact iff_of_false nofun hdiffer

/-- Ordered corners coincide if there is a single cell between them. -/
theorem length_cells_eq_one_iff {r : MoveRange} (hx : r.corners.fromX ≤ r.corners.toX)
    (hy : r.corners.fromY ≤ r.corners.toY) :
    r.cells.length = 1 ↔ r.corners.fromX = r.corners.toX ∧ r.corners.fromY = r.corners.toY := by
  have hx := UInt64.le_iff_toNat_le.1 hx
  have hy := UInt64.le_iff_toNat_le.1 hy
  rw [length_cells, mul_eq_one, width, height, ← UInt64.toNat_inj, ← UInt64.toNat_inj]
  omega

/-- A range between ordered corners is a single cell if it lists a single point. -/
theorem ofCorners_eq_cell_iff_length {c : Corners} (hx : c.fromX ≤ c.toX) (hy : c.fromY ≤ c.toY) :
    (∃ x y, ofCorners c = .cell x y) ↔ (ofCorners c).cells.length = 1 := by
  rw [ofCorners_eq_cell_iff, length_cells_eq_one_iff, corners_ofCorners]
  · rwa [corners_ofCorners]
  · rwa [corners_ofCorners]

end MoveRange

namespace Block

variable {b : Block} {g : Grid} {taken : List Block}

/-- The corners of the range of a block are the corners of the block as words. -/
theorem corners_toRange (b : Block) : b.toRange.corners =
    ⟨UInt64.ofNat b.left.val, UInt64.ofNat b.top.val, UInt64.ofNat b.right.val,
      UInt64.ofNat b.bottom.val⟩ :=
  MoveRange.corners_ofCorners _

/-- The range of a block has at most nine cells. -/
theorem length_cells_le (b : Block) : b.toRange.cells.length ≤ 3 * 3 := by
  have hwidth : b.toRange.width ≤ 3 := by
    rw [MoveRange.width, corners_toRange, Cell.toNat_coordinate]
    omega
  have hheight : b.toRange.height ≤ 3 := by
    rw [MoveRange.height, corners_toRange, Cell.toNat_coordinate]
    omega
  rw [MoveRange.length_cells]
  exact Nat.mul_le_mul hwidth hheight

/-- On the grid a block contains the coordinates of what it covers. -/
theorem contains_toRange {x y : UInt64} {c : Cell} (h : Cell.on? x y = some c) :
    b.toRange.contains (x, y) = b.covers c := by
  rw [Bool.eq_iff_iff, toRange_contains_iff]
  constructor
  · rintro ⟨d, hd, hcovers⟩
    exact Option.some.inj (hd.symm.trans h) ▸ hcovers
  · exact fun hcovers => ⟨c, h, hcovers⟩

/-- What the ranges of blocks leave uncovered is what the blocks leave of the empty cells. -/
theorem uncovered_iff {p : Point} : g.Uncovered (taken.map toRange) p ↔
    ∃ c, Cell.on? p.1 p.2 = some c ∧ (g.freeSet.beyond taken).contains c = true := by
  have hbeyond {c : Cell} (h : Cell.on? p.1 p.2 = some c) :
      (g.freeSet.beyond taken).contains c = true ↔
        g.get c = .empty ∧ ∀ r ∈ taken.map toRange, r.contains p = false := by
    simp [CellSet.contains_beyond, Grid.contains_freeSet, Grid.isFree, contains_toRange h]
  constructor
  · rintro ⟨⟨c, hc, hempty⟩, hnone⟩
    exact ⟨c, hc, (hbeyond hc).2 ⟨hempty, hnone⟩⟩
  · rintro ⟨c, hc, hleft⟩
    obtain ⟨hempty, hnone⟩ := (hbeyond hc).1 hleft
    exact ⟨⟨c, hc, hempty⟩, hnone⟩

/-- A block that cannot be made larger is chosen greedily. -/
theorem Maximal.greedy (h : b.Maximal (g.freeSet.beyond taken)) :
    b.toRange.Greedy g (taken.map toRange) := by
  have hnext (i : Fin 3) : (UInt64.ofNat i.val + 1).toNat = i.val + 1 := by
    rw [UInt64.toNat_add, Cell.toNat_coordinate, UInt64.toNat_one]
    omega
  constructor
  case within =>
    intro p hp
    obtain ⟨c, hc, hcovers⟩ := (toRange_contains_iff b p.1 p.2).1 hp
    exact uncovered_iff.2 ⟨c, hc, h.within c hcovers⟩
  case is_tall =>
    rw [uncovered_iff, corners_toRange]
    rintro ⟨c, hc, hleft⟩
    obtain ⟨hx, hy⟩ := Cell.on?_eq_some_iff.1 hc
    rw [Cell.toNat_coordinate] at hx
    rw [hnext] at hy
    cases hleft.symm.trans (h.is_tall c (Fin.ext hx.symm) hy.symm)
  case is_wide =>
    simp only [corners_toRange, uncovered_iff]
    by_cases hedge : b.right.val + 1 < 3
    · obtain ⟨y, hrows, htaken⟩ := h.is_wide ⟨b.right.val + 1, hedge⟩ rfl
      have hcell : Cell.on? (UInt64.ofNat b.right.val + 1) (UInt64.ofNat y.val) =
          some ⟨⟨b.right.val + 1, hedge⟩, y⟩ :=
        Cell.on?_eq_some_iff.2 ⟨hnext b.right, Cell.toNat_coordinate y⟩
      refine ⟨UInt64.ofNat y.val, hrows.imp Cell.coordinate_le_iff.2 Cell.coordinate_le_iff.2, ?_⟩
      rintro ⟨c, hc, hleft⟩
      obtain rfl := Option.some.inj (hc.symm.trans hcell)
      cases hleft.symm.trans htaken
    · -- To the right of the grid there is no cell at all.
      refine ⟨UInt64.ofNat b.top.val, ⟨UInt64.le_refl _, Cell.coordinate_le_iff.2 h.top_le⟩, ?_⟩
      rintro ⟨c, hc, -⟩
      obtain ⟨hx, -⟩ := Cell.on?_eq_some_iff.1 hc
      rw [hnext] at hx
      omega

end Block

namespace Grid

variable {g : Grid} {r : MoveRange}

/-- The ranges of a grid contain the coordinates of an empty cell once. -/
theorem countP_contains_freeRanges {x y : UInt64} {c : Cell} (h : Cell.on? x y = some c) :
    g.freeRanges.countP (fun r => r.contains (x, y)) = if g.get c = .empty then 1 else 0 := by
  have hblocks : g.freeRanges.countP (fun r => r.contains (x, y)) =
      g.freeSet.blocks.countP fun b => b.covers c := by
    rw [freeRanges, List.countP_map]
    exact List.countP_congr fun b _ => by rw [Function.comp_apply, Block.contains_toRange h]
  rw [hblocks, CellSet.countP_covers_blocks, contains_freeSet, isFree]
  simp only [beq_iff_eq]

/-- Coordinates that name no empty cell are in no range. -/
theorem countP_contains_of_not_empty {x y : UInt64}
    (h : ∀ c, Cell.on? x y = some c → g.get c ≠ .empty) :
    g.freeRanges.countP (fun r => r.contains (x, y)) = 0 := by
  rw [List.countP_eq_zero]
  intro r hr hcontains
  obtain ⟨c, hc, hempty⟩ := (g.exists_freeRanges_contains_iff x y).1 ⟨r, hr, hcontains⟩
  exact h c hc hempty

/-- No point occurs twice among the cells of the ranges. -/
theorem nodup_flatMap_cells (g : Grid) : (g.freeRanges.flatMap MoveRange.cells).Nodup := by
  rw [List.nodup_iff_count_le_one]
  rintro ⟨x, y⟩
  rw [MoveRange.count_flatMap_cells]
  cases hc : Cell.on? x y with
  | some c =>
      rw [countP_contains_freeRanges hc]
      split <;> omega
  | none => rw [countP_contains_of_not_empty fun c h => nomatch hc.symm.trans h]; omega

/-- Together the ranges list the empty cells. -/
theorem flatMap_cells_perm (g : Grid) :
    (g.freeRanges.flatMap MoveRange.cells).Perm (g.freeCells.map Cell.point) := by
  have hcells : g.freeCells.Nodup := List.Nodup.filter _ (by decide)
  rw [List.perm_ext_iff_of_nodup g.nodup_flatMap_cells (hcells.map Cell.point_injective)]
  rintro ⟨x, y⟩
  simp only [List.mem_flatMap, List.mem_map, MoveRange.mem_cells_iff, mem_freeCells,
    exists_freeRanges_contains_iff, Cell.on?_eq_some_iff_point, and_comm]

/-- Every range is that of a maximal block. -/
theorem exists_maximal_of_mem_freeRanges (h : r ∈ g.freeRanges) :
    ∃ (b : Block) (free : CellSet), b.Maximal free ∧ r = b.toRange := by
  obtain ⟨b, hb, rfl⟩ := List.mem_map.1 h
  obtain ⟨earlier, hmaximal⟩ := CellSet.maximal_of_mem_blocks hb
  exact ⟨b, _, hmaximal, rfl⟩

/-- The corners of each range are in order. -/
theorem ordered_of_mem_freeRanges (h : r ∈ g.freeRanges) :
    r.corners.fromX ≤ r.corners.toX ∧ r.corners.fromY ≤ r.corners.toY := by
  obtain ⟨b, free, hmaximal, rfl⟩ := exists_maximal_of_mem_freeRanges h
  rw [Block.corners_toRange]
  exact ⟨Cell.coordinate_le_iff.2 hmaximal.left_le, Cell.coordinate_le_iff.2 hmaximal.top_le⟩

/-- The ranges of every grid are a partition of its empty cells. -/
theorem partition_freeRanges (g : Grid) : g.Partition g.freeRanges where
  count_of_empty x y c hc hempty := (countP_contains_freeRanges hc).trans (if_pos hempty)
  count_of_not_empty x y h := countP_contains_of_not_empty h
  cells_perm := g.flatMap_cells_perm
  nodup := g.nodup_flatMap_cells
  ordered r hr := ordered_of_mem_freeRanges hr
  cell_iff r hr := by
    obtain ⟨hx, hy⟩ := ordered_of_mem_freeRanges hr
    obtain ⟨b, free, -, rfl⟩ := exists_maximal_of_mem_freeRanges hr
    rw [Block.corners_toRange] at hx hy
    exact MoveRange.ofCorners_eq_cell_iff_length hx hy
  ascending := by
    rw [freeRanges, List.pairwise_map]
    refine g.freeSet.pairwise_anchors.imp fun {b b'} hbefore => ?_
    simp only [ColumnMajor, Block.corners_toRange, UInt64.lt_iff_toNat_lt, ← UInt64.toNat_inj,
      Cell.toNat_coordinate]
    exact hbefore.imp id (And.imp (congrArg Fin.val) id)
  greedy earlier r later h := by
    obtain ⟨taken, rest, hblocks, rfl, hrest⟩ := List.map_eq_append_iff.1 h
    obtain ⟨b, left, rfl, rfl, -⟩ := List.map_eq_cons_iff.1 hrest
    exact (CellSet.maximal_of_blocksFrom hblocks).greedy

/-- Around a mark in the middle: the left column, then what is left of the other two. -/
example : (Grid.blank.set ⟨1, 1⟩ .first).freeRanges =
    [.rectangle 0 0 0 2, .rectangle 1 0 2 0, .rectangle 1 2 2 2, .cell 2 1] := by
  decide

/-- The counts of the ranges add up to the number of empty cells. -/
theorem sum_cellCount_freeRanges (g : Grid) :
    (g.freeRanges.map fun r => r.cellCount.toNat).sum = g.count .empty := by
  have htotal : (g.freeRanges.flatMap MoveRange.cells).length = g.count .empty := by
    rw [g.flatMap_cells_perm.length_eq, List.length_map, count, List.countP_eq_length_filter]
    rfl
  have hexact : g.freeRanges.map (fun r => r.cellCount.toNat) =
      g.freeRanges.map fun r => r.cells.length := by
    apply List.map_congr_left
    intro r hr
    obtain ⟨hx, hy⟩ := ordered_of_mem_freeRanges hr
    refine MoveRange.toNat_cellCount hx hy ?_
    obtain ⟨b, free, -, rfl⟩ := exists_maximal_of_mem_freeRanges hr
    exact Nat.lt_of_le_of_lt b.length_cells_le (by decide)
  rw [hexact, ← List.length_flatMap, htotal]

end Grid

namespace Session

/-- Whatever moves are submitted by whomever: the valid moves of the session are a partition of its
empty cells, and as many as the moves leave of the nine. -/
theorem validMoves_partition (id : SessionId) (players : Players) (moves : List Submission) :
    let s := (start id players).play moves
    s.grid.Partition s.validMoves ∧
    (s.validMoves.map fun r => r.cellCount.toNat).sum + s.turnCount = 9 := by
  intro s
  have hreached : s.Reached := ⟨id, players, moves, rfl⟩
  have hnine := hreached.turnCount_add_free
  have hsum : (s.validMoves.map fun r => r.cellCount.toNat).sum = s.grid.count .empty :=
    s.grid.sum_cellCount_freeRanges
  exact ⟨s.grid.partition_freeRanges, by omega⟩

end Session

end Noughts

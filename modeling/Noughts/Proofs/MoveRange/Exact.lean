import Mathlib.Data.List.TakeWhile
import Noughts.MoveRange.Cover

/-!
# The cover is exact

The blocks of `CellSet.blocks` cover every free cell once and no other cell,
`CellSet.countP_covers_blocks`. A block is a run of free cells downward, and every column of it is
free over the rows of that run; what the scan leaves for the later blocks is what the block did not
cover. As ranges the blocks contain the raw coordinates of the free cells and no others:
`Grid.exists_freeRanges_contains_iff`.
-/

namespace Noughts

namespace CellSet

/-- The last of the numbers from `i` upward to which a test holds without a gap; `i` itself if it
fails at once. -/
def lastWhile (p : Fin 3 → Bool) (i : Fin 3) : Fin 3 :=
  ((onward i).takeWhile p).getLastD i

/-- The numbers onward from one are those that are not less. -/
theorem mem_onward {i j : Fin 3} : j ∈ onward i ↔ i ≤ j := by
  simp [onward]

/-- The last number is the first one or one that passed the test. -/
theorem lastWhile_eq_or_mem (p : Fin 3 → Bool) (i : Fin 3) :
    lastWhile p i = i ∨ lastWhile p i ∈ (onward i).takeWhile p :=
  List.mem_cons.1 List.getLastD_mem_cons

/-- The last number is not before the first one. -/
theorem le_lastWhile (p : Fin 3 → Bool) (i : Fin 3) : i ≤ lastWhile p i := by
  rcases lastWhile_eq_or_mem p i with hsame | hmem
  · exact Nat.le_of_eq (congrArg Fin.val hsame.symm)
  · exact mem_onward.1 ((List.takeWhile_prefix p).subset hmem)

/-- From `i` up to the last number the test holds. -/
theorem holds_of_le_lastWhile {p : Fin 3 → Bool} {i j : Fin 3} (hi : p i = true) (hij : i ≤ j)
    (hj : j ≤ lastWhile p i) : p j = true := by
  rcases lastWhile_eq_or_mem p i with hsame | hlast
  · rw [hsame] at hj
    exact Fin.le_antisymm hij hj ▸ hi
  · have hmem := mem_onward.2 hij
    have hsorted : (onward i).Pairwise (· < ·) := (List.pairwise_lt_finRange 3).filter _
    -- The numbers ascend, so whatever is dropped is greater than the last one that is taken.
    rw [← List.takeWhile_append_dropWhile (p := p) (l := onward i)] at hmem hsorted
    rcases List.mem_append.1 hmem with htaken | hdropped
    · exact List.mem_takeWhile_imp htaken
    · have hlt := (List.pairwise_append.1 hsorted).2.2 _ hlast _ hdropped
      exact absurd hlt (Fin.not_lt.2 hj)

variable {free : CellSet} {c d : Cell}

/-- A block covers the cells between its corners. -/
theorem covers_iff {b : Block} :
    b.covers d = true ↔ (b.left ≤ d.x ∧ d.x ≤ b.right) ∧ b.top ≤ d.y ∧ d.y ≤ b.bottom := by
  simp [Block.covers]

/-- A block covers its anchor. -/
theorem blockAt_covers_self (free : CellSet) (c : Cell) : (free.blockAt c).covers c = true :=
  covers_iff.2 ⟨⟨Fin.le_refl c.x, le_lastWhile _ _⟩, Fin.le_refl c.y, le_lastWhile _ _⟩

/-- Whether a column is free in all rows of the run that goes down from `c`. -/
def columnFree (free : CellSet) (c : Cell) (x : Fin 3) : Bool :=
  ((onward c.y).filter (· ≤ free.runEnd c)).all fun row => free.contains ⟨x, row⟩

/-- A column is free if its cell in each row of the run is. -/
theorem columnFree_iff {x : Fin 3} : free.columnFree c x = true ↔
    ∀ row, c.y ≤ row ∧ row ≤ free.runEnd c → free.contains ⟨x, row⟩ = true := by
  simp only [columnFree, List.all_eq_true, List.mem_filter, mem_onward, decide_eq_true_eq]

/-- The run itself is free. -/
theorem columnFree_self (hc : free.contains c = true) : free.columnFree c c.x = true := by
  rw [columnFree_iff]
  rintro row ⟨htop, hbottom⟩
  exact holds_of_le_lastWhile (p := fun row => free.contains ⟨c.x, row⟩) hc htop hbottom

/-- A block that is anchored at a free cell covers free cells only. -/
theorem contains_of_blockAt_covers (hc : free.contains c = true)
    (hd : (free.blockAt c).covers d = true) : free.contains d = true := by
  obtain ⟨⟨hleft, hright⟩, hrows⟩ := covers_iff.1 hd
  have hcolumn : free.columnFree c d.x = true :=
    holds_of_le_lastWhile (columnFree_self hc) hleft hright
  exact columnFree_iff.1 hcolumn d.y hrows

/-- A free cell is the anchor of a block, and the scan goes on without the cells of that block. -/
theorem blocksFrom_cons_of_contains (rest : List Cell) (hc : free.contains c = true) :
    free.blocksFrom (c :: rest) =
      free.blockAt c :: (free.without (free.blockAt c).covers).blocksFrom rest :=
  if_pos hc

/-- The scan passes over a cell that is not free. -/
theorem blocksFrom_cons_of_not_contains (rest : List Cell) (hc : free.contains c = false) :
    free.blocksFrom (c :: rest) = free.blocksFrom rest :=
  if_neg (Bool.not_eq_true _ ▸ hc)

/-- No block covers a cell that is not free. -/
theorem countP_covers_of_not_contains (cells : List Cell) (hd : free.contains d = false) :
    (free.blocksFrom cells).countP (fun b => b.covers d) = 0 := by
  induction cells generalizing free with
  | nil => rfl
  | cons c rest ih =>
      cases hc : free.contains c with
      | false =>
          rw [blocksFrom_cons_of_not_contains rest hc]
          exact ih hd
      | true =>
          have hleft : (free.without (free.blockAt c).covers).contains d = false := by
            rw [contains_without, hd, Bool.false_and]
          have hhead : ¬ (free.blockAt c).covers d = true := by
            intro hcovers
            cases hd.symm.trans (contains_of_blockAt_covers hc hcovers)
          rw [blocksFrom_cons_of_contains rest hc, List.countP_cons, if_neg hhead, ih hleft]

/-- A free cell among the scanned ones is covered by one block. -/
theorem countP_covers_of_contains {cells : List Cell} (hd : free.contains d = true)
    (hmem : d ∈ cells) : (free.blocksFrom cells).countP (fun b => b.covers d) = 1 := by
  induction cells generalizing free with
  | nil => cases hmem
  | cons c rest ih =>
      cases hc : free.contains c with
      | false =>
          have hne : d ≠ c := by
            rintro rfl
            cases hd.symm.trans hc
          rw [blocksFrom_cons_of_not_contains rest hc]
          exact ih hd ((List.mem_cons.1 hmem).resolve_left hne)
      | true =>
          have hleft := contains_without free (free.blockAt c).covers d
          rw [blocksFrom_cons_of_contains rest hc, List.countP_cons]
          cases hcovers : (free.blockAt c).covers d with
          | true =>
              -- The block takes `d` out of the set, so no later block covers it again.
              rw [hd, hcovers, Bool.not_true, Bool.and_false] at hleft
              rw [if_pos rfl, countP_covers_of_not_contains rest hleft]
          | false =>
              have hne : d ≠ c := by
                rintro rfl
                cases hcovers.symm.trans (free.blockAt_covers_self d)
              rw [hd, hcovers, Bool.not_false, Bool.and_true] at hleft
              rw [if_neg Bool.false_ne_true]
              exact ih hleft ((List.mem_cons.1 hmem).resolve_left hne)

/-- The blocks cover every free cell once, and no other cell. -/
theorem countP_covers_blocks (free : CellSet) (d : Cell) :
    free.blocks.countP (fun b => b.covers d) = if free.contains d then 1 else 0 := by
  cases hd : free.contains d with
  | true => exact countP_covers_of_contains hd (Cell.mem_columnMajor d)
  | false => exact countP_covers_of_not_contains _ hd

/-- A cell is free exactly if some block covers it. -/
theorem exists_blocks_covers_iff (free : CellSet) (d : Cell) :
    (∃ b ∈ free.blocks, b.covers d = true) ↔ free.contains d = true := by
  rw [← List.countP_pos_iff, countP_covers_blocks]
  cases free.contains d <;> simp

end CellSet

/-- A coordinate of the grid is kept by 64 bits. -/
theorem Cell.toNat_coordinate (i : Fin 3) : (UInt64.ofNat i.val).toNat = i.val := by
  rw [UInt64.toNat_ofNat']
  omega

/-- Coordinates on the grid are in the same order as words of 64 bits. -/
theorem Cell.coordinate_le_iff {i j : Fin 3} :
    UInt64.ofNat i.val ≤ UInt64.ofNat j.val ↔ i ≤ j := by
  rw [UInt64.le_iff_toNat_le, toNat_coordinate, toNat_coordinate, Fin.le_def]

/-- A block contains the coordinates of the cells that it covers, and no others. -/
theorem Block.toRange_contains_iff (b : Block) (x y : UInt64) :
    b.toRange.contains (x, y) = true ↔ ∃ c, Cell.on? x y = some c ∧ b.covers c = true := by
  simp only [MoveRange.contains, Block.toRange, MoveRange.corners_ofCorners, Bool.and_eq_true,
    decide_eq_true_eq, UInt64.le_iff_toNat_le, Cell.toNat_coordinate, CellSet.covers_iff,
    Cell.on?_eq_some_iff]
  constructor
  · rintro ⟨⟨hleft, hright⟩, htop, hbottom⟩
    refine ⟨⟨⟨x.toNat, by omega⟩, ⟨y.toNat, by omega⟩⟩, ⟨rfl, rfl⟩, ?_⟩
    exact ⟨⟨hleft, hright⟩, htop, hbottom⟩
  · rintro ⟨c, ⟨hx, hy⟩, ⟨hleft, hright⟩, htop, hbottom⟩
    rw [hx, hy]
    exact ⟨⟨hleft, hright⟩, htop, hbottom⟩

/-- The ranges of a grid contain the coordinates of its empty cells, and no others. -/
theorem Grid.exists_freeRanges_contains_iff (g : Grid) (x y : UInt64) :
    (∃ r ∈ g.freeRanges, r.contains (x, y) = true) ↔
      ∃ c, Cell.on? x y = some c ∧ g.get c = .empty := by
  have hfree (c : Cell) : (∃ b ∈ g.freeSet.blocks, b.covers c = true) ↔ g.get c = .empty := by
    rw [CellSet.exists_blocks_covers_iff, Grid.contains_freeSet, Grid.isFree, beq_iff_eq]
  simp only [Grid.freeRanges, List.mem_map, exists_exists_and_eq_and, Block.toRange_contains_iff,
    ← hfree]
  constructor
  · rintro ⟨b, hb, c, hcell, hcovers⟩
    exact ⟨c, hcell, b, hb, hcovers⟩
  · rintro ⟨c, hcell, b, hb, hcovers⟩
    exact ⟨b, hb, c, hcell, hcovers⟩

end Noughts

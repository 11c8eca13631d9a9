import Noughts.MoveRange

/-!
# Covering the empty cells with rectangles

Rather than naming every empty cell, a short list of disjoint rectangles names them all. The cells
are scanned column by column from the top; each free cell that no earlier rectangle took anchors
the next one. Its height is the run of free cells below the anchor, and it grows to the right for
as long as every row of it is free. The cover is exact and disjoint, but it need not be the
shortest one.

Only which cells are free matters, so the scan works on a `CellSet`, one flag per cell. There are
no more than 512 of those, and a law of the scan can be decided by going through them.
-/

namespace Noughts

/-- A set of cells, one flag per cell in row-major order. -/
structure CellSet where
  flags : Vector Bool 9
deriving DecidableEq, Repr

namespace CellSet

/-- Whether a cell belongs to the set. -/
def contains (s : CellSet) (c : Cell) : Bool := s.flags.get c.index

/-- The set of the cells that satisfy a test. -/
def ofTest (p : Cell → Bool) : CellSet := ⟨Vector.ofFn fun i => p (Cell.ofIndex i)⟩

/-- The cells of such a set are those that satisfy the test. -/
theorem contains_ofTest (p : Cell → Bool) (c : Cell) : (ofTest p).contains c = p c := by
  show (Vector.ofFn fun i => p (Cell.ofIndex i))[c.index] = p c
  simp [Cell.ofIndex_index]

/-- The set without the cells that satisfy a test. -/
def without (s : CellSet) (p : Cell → Bool) : CellSet :=
  ofTest fun c => s.contains c && !p c

/-- A cell is left if it was in the set and does not satisfy the test. -/
theorem contains_without (s : CellSet) (p : Cell → Bool) (c : Cell) :
    (s.without p).contains c = (s.contains c && !p c) :=
  contains_ofTest _ c

end CellSet

/-- The empty cells of a grid as a set. -/
def Grid.freeSet (g : Grid) : CellSet := CellSet.ofTest g.isFree

/-- A cell belongs to this set exactly if it is free. -/
theorem Grid.contains_freeSet (g : Grid) (c : Cell) : g.freeSet.contains c = g.isFree c :=
  CellSet.contains_ofTest _ c

/-- A rectangle of cells of the grid, by its inclusive corners. -/
structure Block where
  left : Fin 3
  top : Fin 3
  right : Fin 3
  bottom : Fin 3
deriving DecidableEq, Repr

namespace Block

/-- Whether a cell lies in the rectangle. -/
def covers (b : Block) (c : Cell) : Bool :=
  (b.left ≤ c.x && c.x ≤ b.right) && (b.top ≤ c.y && c.y ≤ b.bottom)

/-- The rectangle as a range. -/
def toRange (b : Block) : MoveRange :=
  let coordinate (i : Fin 3) : UInt64 := UInt64.ofNat i.val
  .ofCorners ⟨coordinate b.left, coordinate b.top, coordinate b.right, coordinate b.bottom⟩

end Block

namespace CellSet

/-- The numbers from `i` up to two. -/
def onward (i : Fin 3) : List (Fin 3) := (List.finRange 3).filter (i ≤ ·)

/-- The last row of the run of free cells that starts at `c` and goes down. -/
def runEnd (free : CellSet) (c : Cell) : Fin 3 :=
  ((onward c.y).takeWhile fun row => free.contains ⟨c.x, row⟩).getLastD c.y

/-- The last column to which the rows from `c` down to `bottom` are free without a gap. -/
def extent (free : CellSet) (c : Cell) (bottom : Fin 3) : Fin 3 :=
  let rows := (onward c.y).filter (· ≤ bottom)
  ((onward c.x).takeWhile fun column =>
    rows.all fun row => free.contains ⟨column, row⟩).getLastD c.x

/-- The rectangle anchored at `c`: as high as the free run below `c`, then as wide as it can be. -/
def blockAt (free : CellSet) (c : Cell) : Block :=
  let bottom := free.runEnd c
  ⟨c.x, c.y, free.extent c bottom, bottom⟩

/-- The rectangles anchored at the listed cells, each taken from what the earlier ones left. -/
def blocksFrom (free : CellSet) : List Cell → List Block
  | [] => []
  | c :: rest =>
    if free.contains c then
      let block := free.blockAt c
      block :: (free.without block.covers).blocksFrom rest
    else
      free.blocksFrom rest

/-- The rectangles that cover a set of cells, in the order of their anchors. -/
def blocks (free : CellSet) : List Block := free.blocksFrom Cell.columnMajor

end CellSet

/-- The ranges that cover exactly the empty cells of a grid. -/
def Grid.freeRanges (g : Grid) : List MoveRange := g.freeSet.blocks.map Block.toRange

end Noughts

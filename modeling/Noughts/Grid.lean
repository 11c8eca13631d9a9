/-!
# The playing grid

A grid is three by three cells, each empty or carrying one player's mark. Cells are addressed by
column `x` and row `y`, both counted from zero. A `Cell` is on the grid by its type; coordinates
that come from outside pass through `Cell.on?` once, and from there on no operation can fail.

Marks are kept in row-major order. `Grid.get_set` says that writing a cell changes that cell and
no other.
-/

namespace Noughts

/-- What a cell carries: nothing, or the mark of the player who moves first or second. -/
inductive Mark where
  | empty
  | first
  | second
deriving DecidableEq, Repr, Inhabited

namespace Mark

/-- The name of a mark as it is shown to people. -/
def label : Mark → String
  | empty => "Empty"
  | first => "First"
  | second => "Second"

/-- The letter that stands for a mark on a drawn board. -/
def letter : Mark → Char
  | empty => '.'
  | first => 'X'
  | second => 'O'

end Mark

/-- The refusal of coordinates that lie outside the grid. -/
structure OutsideGrid where
  x : UInt64
  y : UInt64
deriving DecidableEq, Repr

/-- The wording of the refusal, which names the coordinates. -/
def OutsideGrid.message (e : OutsideGrid) : String :=
  s!"cell ({e.x}, {e.y}) is outside the grid"

/-- A cell of the grid: column `x` and row `y`. -/
structure Cell where
  x : Fin 3
  y : Fin 3
deriving DecidableEq, Repr

namespace Cell

/-- The cell at raw coordinates, if they lie on the grid. -/
def on? (x y : UInt64) : Option Cell :=
  if h : x.toNat < 3 ∧ y.toNat < 3 then some ⟨⟨x.toNat, h.1⟩, ⟨y.toNat, h.2⟩⟩ else none

/-- Raw coordinates lead to the cell with these coordinates. -/
theorem on?_eq_some_iff {x y : UInt64} {c : Cell} :
    on? x y = some c ↔ x.toNat = c.x.val ∧ y.toNat = c.y.val := by
  obtain ⟨⟨cx, hcx⟩, ⟨cy, hcy⟩⟩ := c
  unfold on?
  split
  · simp
  · next hoff =>
    simp only [reduceCtorEq, false_iff]
    rintro ⟨rfl, rfl⟩
    exact hoff ⟨hcx, hcy⟩

/-- The cell at raw coordinates, or the refusal that names them. -/
def on (x y : UInt64) : Except OutsideGrid Cell :=
  match on? x y with
  | some cell => .ok cell
  | none => .error ⟨x, y⟩

/-- The place of a cell in row-major order. -/
def index (c : Cell) : Fin 9 :=
  ⟨3 * c.y.val + c.x.val, by omega⟩

/-- The cell at a place in row-major order. -/
def ofIndex (i : Fin 9) : Cell :=
  ⟨⟨i.val % 3, by omega⟩, ⟨i.val / 3, by omega⟩⟩

/-- The place of a cell in row-major order leads back to the cell. -/
theorem ofIndex_index (c : Cell) : ofIndex c.index = c := by
  obtain ⟨⟨x, hx⟩, ⟨y, hy⟩⟩ := c
  simp only [ofIndex, index, Cell.mk.injEq, Fin.mk.injEq]
  omega

/-- The cell at a place in row-major order has that place. -/
theorem index_ofIndex (i : Fin 9) : (ofIndex i).index = i := by
  simp only [ofIndex, index, Fin.ext_iff]
  omega

/-- Two cells at the same place are the same cell. -/
theorem index_inj {c d : Cell} : c.index = d.index ↔ c = d :=
  ⟨fun h => by rw [← ofIndex_index c, h, ofIndex_index], fun h => h ▸ rfl⟩

/-- Every cell, row by row and from left to right within a row. -/
def rowMajor : List Cell :=
  (List.finRange 3).flatMap fun y => (List.finRange 3).map fun x => ⟨x, y⟩

/-- Every cell, column by column and from top to bottom within a column. -/
def columnMajor : List Cell :=
  (List.finRange 3).flatMap fun x => (List.finRange 3).map fun y => ⟨x, y⟩

/-- Every cell is among the cells row by row. -/
theorem mem_rowMajor (c : Cell) : c ∈ rowMajor := by
  simp only [rowMajor, List.mem_flatMap, List.mem_map, List.mem_finRange, true_and]
  exact ⟨c.y, c.x, rfl⟩

/-- Every cell is among the cells column by column. -/
theorem mem_columnMajor (c : Cell) : c ∈ columnMajor := by
  simp only [columnMajor, List.mem_flatMap, List.mem_map, List.mem_finRange, true_and]
  exact ⟨c.x, c.y, rfl⟩

end Cell

/-- The grid: nine marks in row-major order. -/
structure Grid where
  marks : Vector Mark 9
deriving DecidableEq, Repr

namespace Grid

/-- The grid on which nobody has played. -/
def blank : Grid := ⟨Vector.replicate 9 .empty⟩

/-- The mark in a cell. -/
def get (g : Grid) (c : Cell) : Mark := g.marks[c.index]

/-- The grid with the mark of one cell replaced. -/
def set (g : Grid) (c : Cell) (m : Mark) : Grid := ⟨g.marks.set c.index m⟩

/-- Whether nobody has played in a cell. -/
def isFree (g : Grid) (c : Cell) : Bool := g.get c == .empty

/-- A cell that was written holds what was written, and every other cell is as it was. -/
theorem get_set (g : Grid) (c d : Cell) (m : Mark) :
    (g.set c m).get d = if c = d then m else g.get d := by
  have hval : c.index.val = d.index.val ↔ c = d := by
    rw [← Cell.index_inj, Fin.ext_iff]
  simp only [get, set, Fin.getElem_fin, Vector.getElem_set, hval]

/-- Every cell of a blank grid is empty. -/
theorem get_blank (c : Cell) : blank.get c = .empty := by
  simp [get, blank]

/-- Whether three cells carry one and the same mark, and are not empty. -/
def sameMark (g : Grid) (a b c : Cell) : Bool :=
  g.get a != .empty && g.get a == g.get b && g.get a == g.get c

/-- Whether row `y` carries one player's mark three times. -/
def rowFilled (g : Grid) (y : Fin 3) : Bool := g.sameMark ⟨0, y⟩ ⟨1, y⟩ ⟨2, y⟩

/-- Whether column `x` carries one player's mark three times. -/
def columnFilled (g : Grid) (x : Fin 3) : Bool := g.sameMark ⟨x, 0⟩ ⟨x, 1⟩ ⟨x, 2⟩

/-- Whether the diagonal from the top left to the bottom right carries one player's mark. -/
def diagonalDownFilled (g : Grid) : Bool := g.sameMark ⟨0, 0⟩ ⟨1, 1⟩ ⟨2, 2⟩

/-- Whether the diagonal from the bottom left to the top right carries one player's mark. -/
def diagonalUpFilled (g : Grid) : Bool := g.sameMark ⟨0, 2⟩ ⟨1, 1⟩ ⟨2, 0⟩

/-- `rowFilled` at a raw row number; the first cell looked at is in column zero. -/
def rowFilledAt (g : Grid) (y : UInt64) : Except OutsideGrid Bool :=
  (Cell.on 0 y).map fun cell => g.rowFilled cell.y

/-- `columnFilled` at a raw column number; the first cell looked at is in row zero. -/
def columnFilledAt (g : Grid) (x : UInt64) : Except OutsideGrid Bool :=
  (Cell.on x 0).map fun cell => g.columnFilled cell.x

/-- The empty cells in row-major order. -/
def freeCells (g : Grid) : List Cell := Cell.rowMajor.filter g.isFree

/-- Whether no empty cell is left. -/
def isFull (g : Grid) : Bool := g.freeCells.isEmpty

/-- The free cells of a grid are its empty ones. -/
theorem mem_freeCells {g : Grid} {c : Cell} : c ∈ g.freeCells ↔ g.get c = .empty := by
  simp [freeCells, isFree, Cell.mem_rowMajor]

/-- One row as three letters. -/
def rowText (g : Grid) (y : Fin 3) : String :=
  String.ofList ((List.finRange 3).map fun x => (g.get ⟨x, y⟩).letter)

/-- The grid drawn as three lines of letters, without a line break at the end. -/
def render (g : Grid) : String :=
  "\n".intercalate ((List.finRange 3).map g.rowText)

end Grid

end Noughts

import Noughts.Session

/-!
# The eight lines of the grid

A `Line` is a row, a column or a diagonal, and `Line.scan` lists all eight in the order in which a
whole board is read. `Grid.firstLine?` is the first complete line of that scan.

A move is judged by four lines only: its own row, its own column and the two diagonals.
`Grid.lineThrough?_eq` says that this finds the first complete line of the whole board, provided
that every complete line passes through the cell of the move.
-/

namespace Noughts

/-- A line of three cells. -/
inductive Line where
  | row (y : Fin 3)
  | column (x : Fin 3)
  /-- From the bottom left to the top right. -/
  | diagonalUp
  /-- From the top left to the bottom right. -/
  | diagonalDown
deriving DecidableEq, Repr

namespace Line

/-- The cells of a line, by their place on it. -/
def cell : Line → Fin 3 → Cell
  | row y, i => ⟨i, y⟩
  | column x, i => ⟨x, i⟩
  | diagonalUp, i => ⟨i, i.rev⟩
  | diagonalDown, i => ⟨i, i⟩

/-- A line as it is recorded in a result; the index of a diagonal is zero. -/
def record : Line → WinningLine
  | row y => ⟨.row, UInt64.ofNat y.val⟩
  | column x => ⟨.column, UInt64.ofNat x.val⟩
  | diagonalUp => ⟨.diagonalUp, 0⟩
  | diagonalDown => ⟨.diagonalDown, 0⟩

/-- Every line, in the order in which a whole board is scanned. -/
def scan : List Line :=
  (List.finRange 3).map row ++ (List.finRange 3).map column ++ [diagonalUp, diagonalDown]

/-- The scan of the board comes past every line. -/
theorem mem_scan (l : Line) : l ∈ scan := by
  cases l <;> simp [scan]

/-- The line carries the mark `m` three times. -/
def Carries (l : Line) (g : Grid) (m : Mark) : Prop :=
  ∀ i, g.get (l.cell i) = m

/-- The line carries one player's mark three times. -/
def Complete (l : Line) (g : Grid) : Prop :=
  ∃ m, m ≠ .empty ∧ l.Carries g m

/-- The line passes through the cell `c`. -/
def Through (l : Line) (c : Cell) : Prop :=
  ∃ i, l.cell i = c

/-- The three-cell test of the grid decides whether a line is complete. -/
theorem sameMark_iff {l : Line} {g : Grid} :
    g.sameMark (l.cell 0) (l.cell 1) (l.cell 2) = true ↔ l.Complete g := by
  simp only [Grid.sameMark, Bool.and_eq_true, bne_iff_ne, ne_eq, beq_iff_eq]
  constructor
  · rintro ⟨⟨hmarked, hsecond⟩, hthird⟩
    refine ⟨g.get (l.cell 0), hmarked, fun i => ?_⟩
    match i with
    | 0 => rfl
    | 1 => exact hsecond.symm
    | 2 => exact hthird.symm
  · rintro ⟨m, hmarked, hall⟩
    rw [hall 0, hall 1, hall 2]
    exact ⟨⟨hmarked, rfl⟩, rfl⟩

/-- The test of the grid that belongs to a line. -/
def filled (g : Grid) : Line → Bool
  | row y => g.rowFilled y
  | column x => g.columnFilled x
  | diagonalUp => g.diagonalUpFilled
  | diagonalDown => g.diagonalDownFilled

/-- The tests of the grid tell which lines are complete. -/
theorem filled_iff {l : Line} {g : Grid} : l.filled g = true ↔ l.Complete g := by
  cases l with
  | row y => exact sameMark_iff (l := row y)
  | column x => exact sameMark_iff (l := column x)
  | diagonalUp => exact sameMark_iff (l := diagonalUp)
  | diagonalDown => exact sameMark_iff (l := diagonalDown)

/-- Comparing the marks on a line decides whether it is complete. -/
instance (l : Line) (g : Grid) : Decidable (l.Complete g) :=
  decidable_of_iff _ filled_iff

/-- A row goes through the cells that have its number. -/
theorem row_through_iff {y : Fin 3} {c : Cell} : (row y).Through c ↔ y = c.y := by
  constructor
  · rintro ⟨i, rfl⟩
    rfl
  · rintro rfl
    exact ⟨c.x, rfl⟩

/-- A column goes through the cells that have its number. -/
theorem column_through_iff {x : Fin 3} {c : Cell} : (column x).Through c ↔ x = c.x := by
  constructor
  · rintro ⟨i, rfl⟩
    rfl
  · rintro rfl
    exact ⟨c.y, rfl⟩

/-- On a blank grid no line is complete. -/
theorem not_complete_blank (l : Line) : ¬ l.Complete .blank := by
  rintro ⟨m, hmarked, hall⟩
  exact hmarked ((hall 0).symm.trans (Grid.get_blank _))

/-- A line that writing a cell made complete passes through that cell. -/
theorem Complete.through {l : Line} {g : Grid} {c : Cell} {m : Mark}
    (h : l.Complete (g.set c m)) (hbefore : ¬ l.Complete g) : l.Through c := by
  obtain ⟨k, hmarked, hall⟩ := h
  apply Classical.byContradiction
  intro haway
  refine hbefore ⟨k, hmarked, fun i => ?_⟩
  have hcell := hall i
  rwa [Grid.get_set, if_neg (fun hc => haway ⟨i, hc.symm⟩)] at hcell

/-- A complete line through a cell that was just written carries the mark written there. -/
theorem Complete.carries_of_through {l : Line} {g : Grid} {c : Cell} {m : Mark}
    (h : l.Complete (g.set c m)) (hthrough : l.Through c) : l.Carries (g.set c m) m := by
  obtain ⟨k, _, hall⟩ := h
  obtain ⟨i, hi⟩ := hthrough
  have hwritten := hall i
  rw [hi, Grid.get_set, if_pos rfl] at hwritten
  exact fun j => (hall j).trans hwritten.symm

end Line

/-- Where only one entry of a list can pass a test, a search looks at that entry alone. -/
theorem find?_eq_ite {α : Type} {p : α → Bool} {entries : List α} {a : α} (ha : a ∈ entries)
    (honly : ∀ b, p b = true → b = a) : entries.find? p = if p a then some a else none := by
  cases hfound : entries.find? p with
  | none =>
      have hfails : ¬ p a = true := List.find?_eq_none.1 hfound a ha
      rw [if_neg hfails]
  | some b =>
      have hpass := List.find?_some hfound
      cases honly b hpass
      rw [if_pos hpass]

namespace Grid

/-- Nobody can play any more. -/
def Full (g : Grid) : Prop := ∀ c, g.get c ≠ .empty

/-- The grid is found full exactly if no cell is empty. -/
theorem isFull_iff {g : Grid} : g.isFull = true ↔ g.Full := by
  rw [isFull, List.isEmpty_iff, List.eq_nil_iff_forall_not_mem]
  exact forall_congr' fun c => not_congr mem_freeCells

/-- The first complete line of the whole board, in the order of `Line.scan`. -/
def firstLine? (g : Grid) : Option Line :=
  Line.scan.find? fun l => decide (l.Complete g)

/-- The scan finds nothing exactly if no line is complete. -/
theorem firstLine?_eq_none_iff {g : Grid} :
    g.firstLine? = none ↔ ∀ l : Line, ¬ l.Complete g := by
  simp [firstLine?, Line.mem_scan]

/-- If every complete line passes through `c`, then the row and the column of `c` and the two
diagonals tell the first complete line of the whole board. -/
theorem lineThrough?_eq {g : Grid} {c : Cell} (h : ∀ l : Line, l.Complete g → l.Through c) :
    g.lineThrough? c = g.firstLine?.map Line.record := by
  have hrows : (List.finRange 3).find? (fun y => decide ((Line.row y).Complete g)) =
      if g.rowFilled c.y then some c.y else none := by
    rw [find?_eq_ite (List.mem_finRange c.y)
      fun y hy => Line.row_through_iff.1 (h _ (of_decide_eq_true hy))]
    simp [← Line.filled_iff, Line.filled]
  have hcolumns : (List.finRange 3).find? (fun x => decide ((Line.column x).Complete g)) =
      if g.columnFilled c.x then some c.x else none := by
    rw [find?_eq_ite (List.mem_finRange c.x)
      fun x hx => Line.column_through_iff.1 (h _ (of_decide_eq_true hx))]
    simp [← Line.filled_iff, Line.filled]
  simp only [firstLine?, Line.scan, List.find?_append, List.find?_map, Function.comp_def, hrows,
    hcolumns, List.find?_cons, List.find?_nil, lineThrough?]
  simp only [← Line.filled_iff, Line.filled]
  cases g.rowFilled c.y with
  | true => rfl
  | false =>
      cases g.columnFilled c.x with
      | true => rfl
      | false => cases g.diagonalUpFilled <;> cases g.diagonalDownFilled <;> rfl

end Grid

end Noughts

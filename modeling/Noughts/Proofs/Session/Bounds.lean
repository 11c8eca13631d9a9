import Noughts.Proofs.Session.Play

/-!
# Moves at raw coordinates

`Session.placeAt` judges a move on raw coordinates throughout: it reads, writes and checks the grid
by operations that refuse coordinates outside the grid, and asks whether they lie inside only where
the order of the refusals has come to the cell. `Session.placeAt_eq` says that it is `Session.place`
and that no operation of the grid ever refuses its coordinates, also where the move is refused.
-/

namespace Noughts

namespace Cell

variable {x y : UInt64} {c : Cell}

/-- Coordinates of a cell pass the check of the bounds. -/
theorem on_eq_ok (h : on? x y = some c) : on x y = .ok c := by
  rw [on, h]

/-- The raw coordinates of a cell of the grid are its own. -/
theorem coordinates_of_on? (h : on? x y = some c) :
    x = UInt64.ofNat c.x.val ∧ y = UInt64.ofNat c.y.val := by
  obtain ⟨hx, hy⟩ := on?_eq_some_iff.1 h
  rw [← hx, ← hy]
  simp

/-- Coordinates are on the grid if both are below three. -/
theorem lt_three_iff : x < 3 ∧ y < 3 ↔ ∃ c, on? x y = some c := by
  have hthree : (3 : UInt64).toNat = 3 := rfl
  simp only [UInt64.lt_iff_toNat_lt, hthree, on?_eq_some_iff]
  constructor
  · rintro ⟨hx, hy⟩
    exact ⟨⟨⟨x.toNat, hx⟩, ⟨y.toNat, hy⟩⟩, rfl, rfl⟩
  · rintro ⟨c, hx, hy⟩
    omega

/-- Coordinates of no cell are not both below three. -/
theorem not_lt_three_of_off (h : on? x y = none) : ¬ (x < 3 ∧ y < 3) := by
  rw [lt_three_iff, h]
  rintro ⟨c, hc⟩
  cases hc

end Cell

namespace Grid

/-- The mark at raw coordinates. -/
def markAt (g : Grid) (x y : UInt64) : Except OutsideGrid Mark :=
  (Cell.on x y).map g.get

/-- The grid with the mark at raw coordinates replaced. -/
def setAt (g : Grid) (x y : UInt64) (m : Mark) : Except OutsideGrid Grid :=
  (Cell.on x y).map fun c => g.set c m

/-- The line that a mark at raw coordinates completed. -/
def lineAt (g : Grid) (x y : UInt64) : Except OutsideGrid (Option WinningLine) := do
  if ← g.rowFilledAt y then pure (some ⟨.row, y⟩)
  else if ← g.columnFilledAt x then pure (some ⟨.column, x⟩)
  else if g.diagonalUpFilled then pure (some ⟨.diagonalUp, 0⟩)
  else if g.diagonalDownFilled then pure (some ⟨.diagonalDown, 0⟩)
  else pure none

/-- The result after `player` marked the cell at raw coordinates. -/
def outcomeAt (g : Grid) (player : PlayerId) (x y : UInt64) :
    Except OutsideGrid (Option Outcome) := do
  match ← g.lineAt x y with
  | some line => pure (some (.win player [line]))
  | none => pure (if g.isFull then some .draw else none)

variable {g : Grid} {x y : UInt64} {c : Cell}

/-- On the grid the mark is read without a failure. -/
theorem markAt_eq (h : Cell.on? x y = some c) : g.markAt x y = .ok (g.get c) := by
  rw [markAt, Cell.on_eq_ok h]
  rfl

/-- On the grid a mark is set without a failure. -/
theorem setAt_eq (m : Mark) (h : Cell.on? x y = some c) : g.setAt x y m = .ok (g.set c m) := by
  rw [setAt, Cell.on_eq_ok h]
  rfl

/-- On the grid the lines through a cell can be checked by its coordinates. -/
theorem lineAt_eq (h : Cell.on? x y = some c) : g.lineAt x y = .ok (g.lineThrough? c) := by
  obtain ⟨hx, hy⟩ := Cell.on?_eq_some_iff.1 h
  have hrow : g.rowFilledAt y = .ok (g.rowFilled c.y) := by
    have hcell : Cell.on? 0 y = some ⟨0, c.y⟩ := Cell.on?_eq_some_iff.2 ⟨rfl, hy⟩
    rw [rowFilledAt, Cell.on_eq_ok hcell]
    rfl
  have hcolumn : g.columnFilledAt x = .ok (g.columnFilled c.x) := by
    have hcell : Cell.on? x 0 = some ⟨c.x, 0⟩ := Cell.on?_eq_some_iff.2 ⟨hx, rfl⟩
    rw [columnFilledAt, Cell.on_eq_ok hcell]
    rfl
  obtain ⟨hx, hy⟩ := Cell.coordinates_of_on? h
  rw [lineAt, hrow, hcolumn, lineThrough?, ← hx, ← hy]
  cases g.rowFilled c.y with
  | true => rfl
  | false =>
      cases g.columnFilled c.x with
      | true => rfl
      | false => cases g.diagonalUpFilled <;> cases g.diagonalDownFilled <;> rfl

/-- On the grid the result of a move is found without a failure. -/
theorem outcomeAt_eq (player : PlayerId) (h : Cell.on? x y = some c) :
    g.outcomeAt player x y = .ok (g.outcomeAfter player c) := by
  rw [outcomeAt, lineAt_eq h, outcomeAfter]
  cases g.lineThrough? c <;> rfl

end Grid

namespace Session

/-- Judge a move on raw coordinates. An error is a refusal of the grid, not of the move. -/
def placeAt (s : Session) (now : Int64) (player : PlayerId) (moveId : MoveId) (x y : UInt64) :
    Except OutsideGrid (Except PlaceError Session) := do
  if s.activePlayer? ≠ some player then pure (.error .notActivePlayer)
  else if moveId ≠ s.expectedMoveId then pure (.error .invalidMoveId)
  else if ¬ (x < 3 ∧ y < 3) then pure (.error .invalidMove)
  else if (← s.grid.markAt x y) ≠ .empty then pure (.error .invalidMove)
  else
    match s.markOf? player with
    | none => pure (.error .notActivePlayer)
    | some mark =>
        let grid ← s.grid.setAt x y mark
        let outcome ← grid.outcomeAt player x y
        pure (.ok { s with
          grid := grid
          outcome := outcome
          current := ⟨(s.current.val + 1) % 2, Nat.mod_lt _ Nat.two_pos⟩
          turnCount := s.turnCount + 1
          lastMoveAt := now })

/-- Off the grid there is no free cell. -/
theorem freeCell?_of_off {s : Session} {x y : UInt64} (h : Cell.on? x y = none) :
    s.freeCell? x y = none := by
  rw [freeCell?, h]
  rfl

/-- On the grid a cell is free if it is empty. -/
theorem freeCell?_of_on {s : Session} {x y : UInt64} {c : Cell} (h : Cell.on? x y = some c) :
    s.freeCell? x y = if s.grid.get c = .empty then some c else none := by
  rw [freeCell?, h]
  simp [Option.filter, Grid.isFree]

/-- No cell is given for coordinates outside the grid and for those of a taken cell. -/
theorem freeCell?_eq_none_iff {s : Session} {x y : UInt64} : s.freeCell? x y = none ↔
    3 ≤ x.toNat ∨ 3 ≤ y.toNat ∨ ∃ c, Cell.on? x y = some c ∧ s.grid.get c ≠ .empty := by
  cases hc : Cell.on? x y with
  | none =>
      have hthree : (3 : UInt64).toNat = 3 := rfl
      have hoff := Cell.not_lt_three_of_off hc
      rw [UInt64.lt_iff_toNat_lt, UInt64.lt_iff_toNat_lt, hthree] at hoff
      rw [freeCell?_of_off hc]
      simp only [reduceCtorEq, false_and, exists_false, or_false, true_iff]
      omega
  | some c =>
      obtain ⟨hx, hy⟩ := Cell.on?_eq_some_iff.1 hc
      have hon : ¬ 3 ≤ x.toNat ∧ ¬ 3 ≤ y.toNat := by omega
      rw [freeCell?_of_on hc]
      simp [hon]

/-- No coordinates are refused by the grid when a move is judged. -/
theorem placeAt_eq (s : Session) (now : Int64) (player : PlayerId) (moveId : MoveId)
    (x y : UInt64) : s.placeAt now player moveId x y = .ok (s.place now player moveId x y) := by
  unfold placeAt place
  split
  · rfl
  · split
    · rfl
    · cases hc : Cell.on? x y with
      | none =>
          -- Off the grid the move is refused before the grid is asked about the cell.
          rw [if_pos (Cell.not_lt_three_of_off hc), freeCell?_of_off hc]
          rfl
      | some c =>
          have hon := Cell.lt_three_iff.2 ⟨c, hc⟩
          rw [if_neg (not_not_intro hon), Grid.markAt_eq hc, freeCell?_of_on hc]
          by_cases hfree : s.grid.get c = .empty
          · rw [if_pos hfree]
            cases hmark : s.markOf? player with
            | none => simp only [bind, Except.bind, hfree, ne_eq, not_true_eq_false, if_false]; rfl
            | some mark =>
                simp only [bind, Except.bind, hfree, ne_eq, not_true_eq_false, if_false,
                  Grid.setAt_eq mark hc, Grid.outcomeAt_eq player hc]
                rfl
          · simp only [bind, Except.bind, hfree, ne_eq, not_false_eq_true, if_true, if_false]
            rfl

end Session

end Noughts

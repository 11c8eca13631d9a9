import Noughts.MoveRange.Cover
import Noughts.Outcome

/-!
# One game between two players

A session is a value: `Session.start` makes it and `Session.place` answers with the session after a
move, or with the reason why the move is refused. Refusals have a fixed order: first whether it is
the player's turn, then whether the move identifier is the expected one, then whether the cell is
on the grid and free. Once a session has an outcome nobody may move.

The current turn index flips on every move, also on the last one, and the number of accepted moves
is the identifier that the next move has to carry.
-/

namespace Noughts

/-- Why a move is refused. The client can correct each of these, and none changes a session. -/
inductive PlaceError where
  /-- It is another player's turn, or the game is over. -/
  | notActivePlayer
  /-- The move was made for another state of the game. -/
  | invalidMoveId
  /-- The cell is off the grid or taken. -/
  | invalidMove
deriving DecidableEq, Repr

/-- The wording of a refusal. -/
def PlaceError.message : PlaceError → String
  | notActivePlayer => "Not the active player"
  | invalidMoveId => "Move id does not match the current turn"
  | invalidMove => "Invalid move"

/-- The two players in turn order. -/
structure Players where
  first : PlayerId
  second : PlayerId
deriving DecidableEq, Repr

namespace Players

/-- The player at a turn index. -/
def seat (p : Players) : Fin 2 → PlayerId
  | 0 => p.first
  | 1 => p.second

/-- Both players in turn order. -/
def toList (p : Players) : List PlayerId := [p.first, p.second]

/-- The mark of a player. Somebody who plays against themselves has the first mark throughout. -/
def markOf? (p : Players) (player : PlayerId) : Option Mark :=
  if p.first = player then some .first
  else if p.second = player then some .second
  else none

end Players

/-- A game: who plays, what is on the grid, whose turn it is and how it ended. -/
structure Session where
  id : SessionId
  grid : Grid
  players : Players
  /-- The turn index of the player who moves next. -/
  current : Fin 2
  /-- The number of accepted moves. -/
  turnCount : Nat
  /-- When the last move was accepted, in nanoseconds of Unix time; zero before the first. -/
  lastMoveAt : Int64
  outcome : Option Outcome
deriving DecidableEq, Repr

namespace Session

/-- A game on a blank grid; `players.first` moves first. -/
def start (id : SessionId) (players : Players) : Session where
  id := id
  grid := .blank
  players := players
  current := 0
  turnCount := 0
  lastMoveAt := 0
  outcome := none

/-- Whether the game has a result. -/
def isFinished (s : Session) : Bool := s.outcome.isSome

/-- The player at the turn index, whether or not the game is over. -/
def currentPlayer (s : Session) : PlayerId := s.players.seat s.current

/-- The player who may move; nobody may once the game is over. -/
def activePlayer? (s : Session) : Option PlayerId :=
  if s.isFinished then none else some s.currentPlayer

/-- The mark of a player, if they take part. -/
def markOf? (s : Session) (player : PlayerId) : Option Mark := s.players.markOf? player

/-- The identifier that the next move has to carry. -/
def expectedMoveId (s : Session) : MoveId := ⟨UInt64.ofNat s.turnCount⟩

/-- The empty cells as ranges. -/
def validMoves (s : Session) : List MoveRange := s.grid.freeRanges

/-- The cell at raw coordinates, if it is on the grid and free. -/
def freeCell? (s : Session) (x y : UInt64) : Option Cell :=
  (Cell.on? x y).filter s.grid.isFree

end Session

/-- The line that a mark in cell `c` completed: its row, else its column, else the diagonal upward,
else the diagonal downward. -/
def Grid.lineThrough? (g : Grid) (c : Cell) : Option WinningLine :=
  if g.rowFilled c.y then some ⟨.row, UInt64.ofNat c.y.val⟩
  else if g.columnFilled c.x then some ⟨.column, UInt64.ofNat c.x.val⟩
  else if g.diagonalUpFilled then some ⟨.diagonalUp, 0⟩
  else if g.diagonalDownFilled then some ⟨.diagonalDown, 0⟩
  else none

/-- The result after `player` marked cell `c`, if that ended the game. -/
def Grid.outcomeAfter (g : Grid) (player : PlayerId) (c : Cell) : Option Outcome :=
  match g.lineThrough? c with
  | some line => some (.win player [line])
  | none => if g.isFull then some .draw else none

namespace Session

/-- The session after `player` put `mark` into the free cell `c` at time `now`. -/
def marked (s : Session) (now : Int64) (player : PlayerId) (c : Cell) (mark : Mark) : Session :=
  let grid := s.grid.set c mark
  { s with
    grid := grid
    outcome := grid.outcomeAfter player c
    current := s.current + 1
    turnCount := s.turnCount + 1
    lastMoveAt := now }

/-- The session after a move, or the first reason to refuse it. -/
def place (s : Session) (now : Int64) (player : PlayerId) (moveId : MoveId) (x y : UInt64) :
    Except PlaceError Session :=
  if s.activePlayer? ≠ some player then .error .notActivePlayer
  else if moveId ≠ s.expectedMoveId then .error .invalidMoveId
  else
    match s.freeCell? x y with
    | none => .error .invalidMove
    | some cell =>
      match s.markOf? player with
      | none => .error .notActivePlayer
      | some mark => .ok (s.marked now player cell mark)

end Session

end Noughts

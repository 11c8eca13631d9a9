import Noughts.Identity

/-!
# Results of a game

A game ends with a winner, who completed a line, or in a draw. `Outcome.record` is the flat form
in which a result travels with an event; there the winner of a draw is the empty text.
-/

namespace Noughts

/-- The orientation of a completed line. -/
inductive Direction where
  /-- A row; the index is its number. -/
  | row
  /-- A column; the index is its number. -/
  | column
  /-- The diagonal from the bottom left to the top right. -/
  | diagonalUp
  /-- The diagonal from the top left to the bottom right. -/
  | diagonalDown
deriving DecidableEq, Repr

/-- The name of a direction, shown to people and written on the wire alike. -/
def Direction.label : Direction → String
  | row => "row"
  | column => "column"
  | diagonalUp => "diag_up"
  | diagonalDown => "diag_down"

/-- A line of three equal marks. The index of a diagonal is zero. -/
structure WinningLine where
  direction : Direction
  index : UInt64
deriving DecidableEq, Repr

/-- The result of a finished game. -/
inductive Outcome where
  /-- A player completed a line; a game records the first line it finds and no other. -/
  | win (player : PlayerId) (lines : List WinningLine)
  /-- The grid filled up without a line. -/
  | draw
deriving DecidableEq, Repr

/-- A result as readers of the event stream see it. -/
structure WinnerRecord where
  winningPlayerId : String
  isDraw : Bool
  lines : List WinningLine
deriving DecidableEq, Repr

namespace Outcome

/-- The winning player, if there is one. -/
def winner? : Outcome → Option PlayerId
  | win player _ => some player
  | draw => none

/-- Whether nobody won. -/
def isDraw : Outcome → Bool
  | win _ _ => false
  | draw => true

/-- The completed lines; a draw has none. -/
def lines : Outcome → List WinningLine
  | win _ lines => lines
  | draw => []

/-- The flat form of a result. -/
def record (o : Outcome) : WinnerRecord where
  winningPlayerId := (o.winner?.map PlayerId.text).getD ""
  isDraw := o.isDraw
  lines := o.lines

/-- A result in words, naming the first completed line. -/
def describe : Outcome → String
  | win player [] => s!"{player.text} wins"
  | win player (line :: _) => s!"{player.text} wins on {line.direction.label} {line.index}"
  | draw => "Draw"

end Outcome

end Noughts

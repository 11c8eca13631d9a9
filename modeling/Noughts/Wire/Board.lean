import Noughts.Json.Reader
import Noughts.Outcome
import Noughts.MoveRange

/-!
# The written forms of the board and of what happens on it

Marks, grids, coordinates, ranges, lines and results. Each type has a writer and a reader; the
reader of a record takes its fields in any order.
-/

namespace Noughts

/-- The written form of a number. -/
instance : WireWritable UInt64 where
  toJson := .natural

/-- The reader of a number. -/
instance : WireReadable UInt64 where
  reader := .natural

/-- The name of a mark on the wire. -/
def Mark.wireName : Mark → String
  | empty => "empty"
  | first => "first"
  | second => "second"

/-- The written form of a mark. -/
instance : WireWritable Mark where
  toJson m := .text m.wireName

/-- The reader of a mark. -/
instance : WireReadable Mark where
  reader := .choice [("empty", .empty), ("first", .first), ("second", .second)]

/-- The written form of a grid. -/
instance : WireWritable Grid where
  toJson g := .record [("cells", .ofList toJson g.marks.toList)]

/-- The reader of a grid. -/
instance : WireReadable Grid where
  reader := (Fields.cons "cells" (.vector 9 (WireReadable.reader (α := Mark))) none .nil).reader.map
    fun (marks, ()) => ⟨marks⟩

/-- The written form of the name of a session. -/
instance : WireWritable SessionId where
  toJson id := .text id.text

/-- The reader of the name of a session. -/
instance : WireReadable SessionId where
  reader := Reader.text.map SessionId.mk

/-- The written form of the name of a player. -/
instance : WireWritable PlayerId where
  toJson id := .text id.text

/-- The reader of the name of a player. -/
instance : WireReadable PlayerId where
  reader := Reader.text.map PlayerId.mk

/-- The written form of a move identifier. -/
instance : WireWritable MoveId where
  toJson id := .natural id.value

/-- The reader of a move identifier. -/
instance : WireReadable MoveId where
  reader := Reader.natural.map MoveId.mk

/-- The written form of a range. -/
instance : WireWritable MoveRange where
  toJson
    | .cell x y => .record [("kind", .text "cell"), ("x", toJson x), ("y", toJson y)]
    | .rectangle fromX fromY toX toY => .record [
        ("kind", .text "rectangle"), ("from_x", toJson fromX), ("from_y", toJson fromY),
        ("to_x", toJson toX), ("to_y", toJson toY)]

namespace MoveRange

/-- The fields of a single cell. -/
def cellFields : Fields [UInt64, UInt64] :=
  .cons "x" .natural none <| .cons "y" .natural none .nil

/-- The fields of a rectangle. -/
def rectangleFields : Fields [UInt64, UInt64, UInt64, UInt64] :=
  .cons "from_x" .natural none <| .cons "from_y" .natural none <|
  .cons "to_x" .natural none <| .cons "to_y" .natural none .nil

end MoveRange

/-- The reader of a range. -/
instance : WireReadable MoveRange where
  reader := .tagged "kind" [
    ("cell", MoveRange.cellFields.reader.map fun (x, y, ()) => .cell x y),
    ("rectangle", MoveRange.rectangleFields.reader.map
      fun (fromX, fromY, toX, toY, ()) => .rectangle fromX fromY toX toY)]

/-- The written form of a direction. -/
instance : WireWritable Direction where
  toJson d := .text d.label

/-- The reader of a direction. -/
instance : WireReadable Direction where
  reader := .choice [("row", .row), ("column", .column), ("diag_up", .diagonalUp),
    ("diag_down", .diagonalDown)]

/-- The written form of a completed line. -/
instance : WireWritable WinningLine where
  toJson l := .record [("direction", toJson l.direction), ("index", toJson l.index)]

namespace WinningLine

/-- The fields of a completed line. -/
def fields : Fields [Direction, UInt64] :=
  .cons "direction" WireReadable.reader none <| .cons "index" .natural none .nil

end WinningLine

/-- The reader of a completed line. -/
instance : WireReadable WinningLine where
  reader := WinningLine.fields.reader.map fun (direction, index, ()) => ⟨direction, index⟩

/-- The written form of a result. -/
instance : WireWritable Outcome where
  toJson
    | .win player lines => .record [
        ("result", .text "win"), ("player", toJson player), ("lines", .ofList toJson lines)]
    | .draw => .record [("result", .text "draw")]

namespace Outcome

/-- The fields of a win. -/
def winFields : Fields [PlayerId, List WinningLine] :=
  .cons "player" WireReadable.reader none <|
  .cons "lines" (.list WireReadable.reader) none .nil

end Outcome

/-- The reader of a result. -/
instance : WireReadable Outcome where
  reader := .tagged "result" [
    ("win", Outcome.winFields.reader.map fun (player, lines, ()) => .win player lines),
    ("draw", .tagAlone .draw)]

/-- The written form of a flat result. -/
instance : WireWritable WinnerRecord where
  toJson r := .record [
    ("winning_player_id", .text r.winningPlayerId), ("is_draw", .bool r.isDraw),
    ("lines", .ofList toJson r.lines)]

namespace WinnerRecord

/-- The fields of a flat result. -/
def fields : Fields [String, Bool, List WinningLine] :=
  .cons "winning_player_id" .text none <| .cons "is_draw" .bool none <|
  .cons "lines" (.list WireReadable.reader) none .nil

end WinnerRecord

/-- The reader of a flat result. -/
instance : WireReadable WinnerRecord where
  reader := WinnerRecord.fields.reader.map
    fun (winner, isDraw, lines, ()) => ⟨winner, isDraw, lines⟩

end Noughts

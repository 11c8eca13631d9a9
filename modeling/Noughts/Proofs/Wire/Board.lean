import Noughts.Proofs.Json.Reads
import Noughts.Wire.Board

/-!
# The board is read back

`WireLawful` says of a type that each of its values is read back from its written form, together
with what is needed to use the type as a part of others: how deep its values nest, and that none of
them is written as `null`. `ofWireText_wireText` is the law for texts. The instances for the parts
of a board follow the definitions of their readers.
-/

namespace Noughts

/-- A type whose written values are read back. None is `null`, and none is deeper than `depth`. -/
class WireLawful (α : Type) [WireWritable α] [WireReadable α] where
  depth : Nat
  depth_le (a : α) : (toJson a).depth ≤ depth
  ne_null (a : α) : (toJson a).node ≠ .null
  reads (a : α) : (WireReadable.reader (α := α)).Reads (toJson a) a

namespace WireLawful

variable {α : Type} [WireWritable α] [WireReadable α] [WireLawful α]

/-- A value of a type that does not nest too deep is read back from its text. -/
theorem ofWireText_wireText (hdepth : depth α ≤ maxDepth) (a : α) :
    ofWireText (wireText a) = .ok a :=
  ofWireText_render (reads a) (Nat.le_trans (depth_le a) hdepth)

/-- A list of such values is read back. -/
theorem reads_ofList (as : List α) :
    (Reader.list (WireReadable.reader (α := α))).Reads (.ofList toJson as) as :=
  Reader.reads_list fun a _ => reads a

/-- A list of such values is deeper by one than they are. -/
theorem depth_ofList_le (as : List α) : (Json.ofList toJson as).depth ≤ depth α + 1 :=
  Json.depth_ofList_le fun a _ => depth_le a

end WireLawful

/-! ## The parts of a board -/

/-- A number is read back from its written form. -/
instance : WireLawful UInt64 where
  depth := 0
  depth_le _ := Nat.le_refl 0
  ne_null _ := nofun
  reads := Reader.reads_natural

/-- The name of a session is read back from its written form. -/
instance : WireLawful SessionId where
  depth := 0
  depth_le _ := Nat.le_refl 0
  ne_null _ := nofun
  reads id := (Reader.reads_text id.text).map SessionId.mk

/-- The name of a player is read back from its written form. -/
instance : WireLawful PlayerId where
  depth := 0
  depth_le _ := Nat.le_refl 0
  ne_null _ := nofun
  reads id := (Reader.reads_text id.text).map PlayerId.mk

/-- A move identifier is read back from its written form. -/
instance : WireLawful MoveId where
  depth := 0
  depth_le _ := Nat.le_refl 0
  ne_null _ := nofun
  reads id := (Reader.reads_natural id.value).map MoveId.mk

/-- A mark is read back from its written form. -/
instance : WireLawful Mark where
  depth := 0
  depth_le _ := Nat.le_refl 0
  ne_null _ := nofun
  reads m := by
    refine Reader.reads_choice ?_
    cases m <;> rfl

/-- A grid is read back from its written form. -/
instance : WireLawful Grid where
  depth := 2
  depth_le g := by
    have hmarks : (Json.ofList toJson g.marks.toList).depth ≤ 1 :=
      WireLawful.depth_ofList_le g.marks.toList
    exact Json.depth_record_le (by simpa using hmarks)
  ne_null _ := nofun
  reads g := by
    have hfields : Fields.Written []
        (.cons "cells" (.vector 9 (WireReadable.reader (α := Mark))) none .nil) (g.marks, ())
        [("cells", .ofList toJson g.marks.toList)] :=
      .present (Reader.reads_vector fun m _ => WireLawful.reads m) .nil
    exact (hfields.reads (by decide) nofun).map _

/-- A direction is read back from its written form. -/
instance : WireLawful Direction where
  depth := 0
  depth_le _ := Nat.le_refl 0
  ne_null _ := nofun
  reads d := by
    refine Reader.reads_choice ?_
    cases d <;> rfl

namespace MoveRange

/-- A range of one cell is read back. -/
theorem reads_cell (x y : UInt64) :
    (WireReadable.reader (α := MoveRange)).Reads (toJson (cell x y)) (cell x y) := by
  have hfields : Fields.Written [] cellFields (x, y, ()) [("x", toJson x), ("y", toJson y)] :=
    .present (Reader.reads_natural x) (.present (Reader.reads_natural y) .nil)
  exact Reader.reads_tagged rfl (by simp) ((hfields.reads (by decide) nofun).map _)

/-- A range by its corners is read back. -/
theorem reads_rectangle (fromX fromY toX toY : UInt64) :
    (WireReadable.reader (α := MoveRange)).Reads (toJson (rectangle fromX fromY toX toY))
      (rectangle fromX fromY toX toY) := by
  have hfields : Fields.Written [] rectangleFields (fromX, fromY, toX, toY, ())
      [("from_x", toJson fromX), ("from_y", toJson fromY), ("to_x", toJson toX),
        ("to_y", toJson toY)] :=
    .present (Reader.reads_natural fromX) (.present (Reader.reads_natural fromY)
      (.present (Reader.reads_natural toX) (.present (Reader.reads_natural toY) .nil)))
  exact Reader.reads_tagged rfl (by simp) ((hfields.reads (by decide) nofun).map _)

end MoveRange

/-- A range is read back from its written form. -/
instance : WireLawful MoveRange where
  depth := 1
  depth_le
    | .cell _ _ | .rectangle _ _ _ _ => Json.depth_record_le (by simp [Json.depth, toJson])
  ne_null
    | .cell _ _ | .rectangle _ _ _ _ => nofun
  reads
    | .cell x y => MoveRange.reads_cell x y
    | .rectangle fromX fromY toX toY => MoveRange.reads_rectangle fromX fromY toX toY

/-- A completed line is read back from its written form. -/
instance : WireLawful WinningLine where
  depth := 1
  depth_le l := Json.depth_record_le (by simp [Json.depth, toJson])
  ne_null _ := nofun
  reads l := by
    have hfields : Fields.Written [] WinningLine.fields (l.direction, l.index, ())
        [("direction", toJson l.direction), ("index", toJson l.index)] :=
      .present (WireLawful.reads l.direction) (.present (Reader.reads_natural l.index) .nil)
    exact (hfields.reads (by decide) nofun).map _

namespace Outcome

/-- A win is read back. -/
theorem reads_win (player : PlayerId) (lines : List WinningLine) :
    (WireReadable.reader (α := Outcome)).Reads (toJson (win player lines)) (win player lines) := by
  have hfields : Fields.Written [] winFields (player, lines, ())
      [("player", toJson player), ("lines", .ofList toJson lines)] :=
    .present (WireLawful.reads player) (.present (WireLawful.reads_ofList lines) .nil)
  exact Reader.reads_tagged rfl (by simp) ((hfields.reads (by decide) nofun).map _)

/-- A draw is read back. -/
theorem reads_draw :
    (WireReadable.reader (α := Outcome)).Reads (toJson draw) draw :=
  Reader.reads_tagged rfl nofun (Reader.reads_tagAlone _ _)

end Outcome

/-- A result is read back from its written form. -/
instance : WireLawful Outcome where
  depth := 3
  depth_le
    | .win _ lines =>
        have hlines : (Json.ofList toJson lines).depth ≤ 2 := WireLawful.depth_ofList_le lines
        Json.depth_record_le (by simpa [Json.depth, toJson] using hlines)
    | .draw => Json.depth_record_le (by simp [Json.depth])
  ne_null
    | .win _ _ | .draw => nofun
  reads
    | .win player lines => Outcome.reads_win player lines
    | .draw => Outcome.reads_draw

/-- A flat result is read back from its written form. -/
instance : WireLawful WinnerRecord where
  depth := 3
  depth_le r :=
    have hlines : (Json.ofList toJson r.lines).depth ≤ 2 := WireLawful.depth_ofList_le r.lines
    Json.depth_record_le (by simpa [Json.depth] using hlines)
  ne_null _ := nofun
  reads r := by
    have hfields : Fields.Written [] WinnerRecord.fields (r.winningPlayerId, r.isDraw, r.lines, ())
        [("winning_player_id", .text r.winningPlayerId), ("is_draw", .bool r.isDraw),
          ("lines", .ofList toJson r.lines)] :=
      .present (Reader.reads_text r.winningPlayerId) (.present (Reader.reads_bool r.isDraw)
        (.present (WireLawful.reads_ofList r.lines) .nil))
    exact (hfields.reads (by decide) nofun).map _

end Noughts

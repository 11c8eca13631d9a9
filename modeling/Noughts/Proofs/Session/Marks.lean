import Noughts.Proofs.Session.Play

/-!
# The marks on the board

`Grid.count_set` says how writing a cell changes the number of cells that hold a mark. In a session
that submitted moves can reach, the moves and the free cells are nine together, so there are never
more than nine moves and a move identifier is the number of moves without any loss.
-/

namespace Noughts

namespace Grid

/-- The number of cells that hold the mark `m`. -/
def count (g : Grid) (m : Mark) : Nat :=
  Cell.rowMajor.countP fun c => g.get c == m

/-- All nine cells of a blank grid are empty. -/
theorem count_blank_empty : blank.count .empty = 9 := by
  decide

/-- Writing `m` over the mark of a cell takes one from the count of the old mark and adds one to
the count of `m`. -/
theorem count_set (g : Grid) (c : Cell) (m k : Mark) :
    (g.set c m).count k + (if g.get c = k then 1 else 0) =
      g.count k + (if m = k then 1 else 0) := by
  -- The written cell is counted apart; the others read alike before and after.
  have hsplit (h : Grid) : h.count k =
      (Cell.rowMajor.erase c).countP (fun d => h.get d == k) + if h.get c = k then 1 else 0 := by
    rw [count, (List.perm_cons_erase (Cell.mem_rowMajor c)).countP_eq, List.countP_cons]
    simp
  have hnodup : Cell.rowMajor.Nodup := by decide
  have hrest : (Cell.rowMajor.erase c).countP (fun d => (g.set c m).get d == k) =
      (Cell.rowMajor.erase c).countP fun d => g.get d == k := by
    apply List.countP_congr
    intro d hd
    have hne : c ≠ d := (hnodup.mem_erase_iff.1 hd).1.symm
    rw [get_set, if_neg hne]
  rw [hsplit, hsplit, hrest, get_set, if_pos rfl]
  omega

end Grid

namespace Session

/-- In a reached session the moves and the free cells are nine together. -/
theorem Reached.turnCount_add_free {s : Session} (h : s.Reached) :
    s.turnCount + s.grid.count .empty = 9 := by
  obtain ⟨id, players, moves, rfl⟩ := h
  apply play_induction (P := fun s _ => s.turnCount + s.grid.count .empty = 9)
  · exact (Nat.zero_add _).trans Grid.count_blank_empty
  · intro t before m next ht hm
    obtain ⟨c, mark, hadmits, rfl⟩ := submit_eq_ok_iff.1 hm
    have hcount := t.grid.count_set c mark .empty
    rw [if_pos hadmits.is_free, if_neg (mark_ne_empty hadmits.is_seated)] at hcount
    show t.turnCount + 1 + (t.grid.set c mark).count .empty = 9
    omega

/-- There are at most nine moves, one for each cell. -/
theorem Reached.turnCount_le {s : Session} (h : s.Reached) : s.turnCount ≤ 9 := by
  have hsum := h.turnCount_add_free
  omega

/-- The move identifier that a reached session expects is the number of its moves. -/
theorem Reached.expectedMoveId_toNat {s : Session} (h : s.Reached) :
    s.expectedMoveId.value.toNat = s.turnCount := by
  have hle := h.turnCount_le
  show (UInt64.ofNat s.turnCount).toNat = s.turnCount
  rw [UInt64.toNat_ofNat']
  omega

/-- A move identifier is the expected one exactly if its number is that of the moves so far. -/
theorem Reached.eq_expectedMoveId_iff {s : Session} (h : s.Reached) (id : MoveId) :
    id = s.expectedMoveId ↔ id.value.toNat = s.turnCount := by
  rw [← h.expectedMoveId_toNat, UInt64.toNat_inj]
  exact ⟨congrArg MoveId.value, congrArg MoveId.mk⟩

end Session

end Noughts

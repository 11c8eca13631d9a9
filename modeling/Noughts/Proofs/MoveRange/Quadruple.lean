import Noughts.Proofs.MoveRange.Partition

/-!
# Ranges as quadruples

Older readers know a range as four numbers of 32 bits and take zeros in the place of the far corner
as a sign that the range is the single cell at the near one. `MoveRange.ofQuadruple` reads a
quadruple in that way. A rectangle never gives the sign by accident: ordered corners that end at the
origin begin there, and then the range is a single cell. So the reader gets back what was written,
`MoveRange.ofQuadruple_quadruple`, and `MoveRange.quadruples_unambiguous` says so for lists of
ranges, those of the valid moves among them.
-/

namespace Noughts

/-- The corners are ordered, and the far one fits into 32 bits; then so does the near one. -/
structure Corners.FitQuadruple (c : Corners) : Prop where
  ordered_x : c.fromX ≤ c.toX
  ordered_y : c.fromY ≤ c.toY
  toX_lt : c.toX.toNat < 2 ^ 32
  toY_lt : c.toY.toNat < 2 ^ 32

namespace MoveRange

/-- The range was made from corners that a quadruple can hold. -/
def FitsQuadruple (r : MoveRange) : Prop := ∃ c : Corners, c.FitQuadruple ∧ r = ofCorners c

/-- What a quadruple stands for: a single cell if its far corner is all zeros, else a rectangle. -/
def ofQuadruple : UInt32 × UInt32 × UInt32 × UInt32 → MoveRange
  | (fromX, fromY, toX, toY) =>
    if toX = 0 ∧ toY = 0 then .cell fromX.toUInt64 fromY.toUInt64
    else .rectangle fromX.toUInt64 fromY.toUInt64 toX.toUInt64 toY.toUInt64

/-- A number below 2 ^ 32 is recovered after it was narrowed to 32 bits. -/
theorem toUInt64_toUInt32 {n : UInt64} (h : n.toNat < 2 ^ 32) : n.toUInt32.toUInt64 = n := by
  rw [← UInt64.toNat_inj, UInt32.toNat_toUInt64, UInt64.toNat_toUInt32, Nat.mod_eq_of_lt h]

/-- Only zero among the numbers below 2 ^ 32 is narrowed to zero. -/
theorem toUInt32_eq_zero_iff {n : UInt64} (h : n.toNat < 2 ^ 32) : n.toUInt32 = 0 ↔ n = 0 := by
  constructor
  · intro hzero
    rw [← toUInt64_toUInt32 h, hzero]
    rfl
  · rintro rfl
    rfl

variable {r : MoveRange} {c : Corners}

/-- The far corner of a rectangle is not the origin, for the near one would be there as well. -/
theorem far_ne_origin (h : c.FitQuadruple) (hdiffer : ¬ (c.fromX = c.toX ∧ c.fromY = c.toY)) :
    ¬ (c.toX.toUInt32 = 0 ∧ c.toY.toUInt32 = 0) := by
  rw [toUInt32_eq_zero_iff h.toX_lt, toUInt32_eq_zero_iff h.toY_lt]
  rintro ⟨hx, hy⟩
  have hfromX : c.fromX = 0 := UInt64.le_zero_iff.1 (hx ▸ h.ordered_x)
  have hfromY : c.fromY = 0 := UInt64.le_zero_iff.1 (hy ▸ h.ordered_y)
  exact hdiffer ⟨hfromX.trans hx.symm, hfromY.trans hy.symm⟩

/-- A quadruple is read back as the range that it was written for. -/
theorem ofQuadruple_quadruple (h : r.FitsQuadruple) : ofQuadruple r.quadruple = r := by
  obtain ⟨c, hc, rfl⟩ := h
  have hfromX : c.fromX.toNat < 2 ^ 32 :=
    Nat.lt_of_le_of_lt (UInt64.le_iff_toNat_le.1 hc.ordered_x) hc.toX_lt
  have hfromY : c.fromY.toNat < 2 ^ 32 :=
    Nat.lt_of_le_of_lt (UInt64.le_iff_toNat_le.1 hc.ordered_y) hc.toY_lt
  by_cases hsame : c.fromX = c.toX ∧ c.fromY = c.toY
  · simp [ofCorners, hsame, quadruple, ofQuadruple, toUInt64_toUInt32 hc.toX_lt,
      toUInt64_toUInt32 hc.toY_lt]
  · rw [ofCorners, if_neg hsame, quadruple, ofQuadruple, if_neg (far_ne_origin hc hsame),
      toUInt64_toUInt32 hfromX, toUInt64_toUInt32 hfromY, toUInt64_toUInt32 hc.toX_lt,
      toUInt64_toUInt32 hc.toY_lt]

/-- The zeros in the place of the far corner stand for a single cell and for nothing else. -/
theorem quadruple_far_eq_zero_iff (h : r.FitsQuadruple) :
    r.quadruple.2.2 = (0, 0) ↔ ∃ x y, r = .cell x y := by
  obtain ⟨c, hc, rfl⟩ := h
  rw [ofCorners_eq_cell_iff]
  by_cases hsame : c.fromX = c.toX ∧ c.fromY = c.toY
  · rw [ofCorners, if_pos hsame]
    exact iff_of_true rfl hsame
  · rw [ofCorners, if_neg hsame, quadruple, Prod.mk.injEq]
    exact iff_of_false (far_ne_origin hc hsame) hsame

/-- A list of ranges is read back from its quadruples. -/
theorem map_ofQuadruple_map_quadruple {ranges : List MoveRange}
    (hfits : ∀ r ∈ ranges, r.FitsQuadruple) :
    (ranges.map quadruple).map ofQuadruple = ranges := by
  rw [List.map_map]
  exact (List.map_congr_left fun r hr => ofQuadruple_quadruple (hfits r hr)).trans
    (List.map_id' ranges)

/-- The ranges of a grid fit into quadruples. -/
theorem fitsQuadruple_of_mem_freeRanges {g : Grid} (h : r ∈ g.freeRanges) : r.FitsQuadruple := by
  obtain ⟨hx, hy⟩ := Grid.ordered_of_mem_freeRanges h
  obtain ⟨b, free, -, rfl⟩ := Grid.exists_maximal_of_mem_freeRanges h
  rw [Block.corners_toRange] at hx hy
  refine ⟨_, ⟨hx, hy, ?_, ?_⟩, rfl⟩
  · rw [Cell.toNat_coordinate]
    omega
  · rw [Cell.toNat_coordinate]
    omega

/-- A quadruple is read as a single cell if its far corner is all zeros and as a rectangle
otherwise. A list of ranges that were made from ordered corners of 32 bits is read back from its
quadruples, with all the points that it covers, and zeros stand in the far corner exactly if a range
covers a single point. No two such lists have the same quadruples, and the ranges of every grid make
one. -/
theorem quadruples_unambiguous :
    (∀ fromX fromY, ofQuadruple (fromX, fromY, 0, 0) = .cell fromX.toUInt64 fromY.toUInt64) ∧
    (∀ fromX fromY toX toY, ¬ (toX = 0 ∧ toY = 0) → ofQuadruple (fromX, fromY, toX, toY) =
      .rectangle fromX.toUInt64 fromY.toUInt64 toX.toUInt64 toY.toUInt64) ∧
    (∀ ranges : List MoveRange, (∀ r ∈ ranges, r.FitsQuadruple) →
      (ranges.map quadruple).map ofQuadruple = ranges ∧
      ((ranges.map quadruple).flatMap fun q => (ofQuadruple q).cells) = ranges.flatMap cells ∧
      ∀ r ∈ ranges, (r.quadruple.2.2 = (0, 0) ↔ ∃ x y, r = .cell x y) ∧
        (r.quadruple.2.2 = (0, 0) ↔ r.cells.length = 1)) ∧
    (∀ ranges others : List MoveRange, (∀ r ∈ ranges, r.FitsQuadruple) →
      (∀ r ∈ others, r.FitsQuadruple) → ranges.map quadruple = others.map quadruple →
      ranges = others) ∧
    (∀ (g : Grid), ∀ r ∈ g.freeRanges, r.FitsQuadruple) := by
  refine ⟨fun _ _ => rfl, fun _ _ _ _ hfar => if_neg hfar, fun ranges hfits => ⟨?_, ?_, ?_⟩,
    fun ranges others hfits hothers hsame => ?_, fun g r hr => fitsQuadruple_of_mem_freeRanges hr⟩
  · exact map_ofQuadruple_map_quadruple hfits
  · rw [← List.flatMap_map ofQuadruple cells, map_ofQuadruple_map_quadruple hfits]
  · intro r hr
    have hzero := quadruple_far_eq_zero_iff (hfits r hr)
    obtain ⟨c, hc, rfl⟩ := hfits r hr
    exact ⟨hzero, hzero.trans (ofCorners_eq_cell_iff_length hc.ordered_x hc.ordered_y)⟩
  · calc ranges = (ranges.map quadruple).map ofQuadruple :=
          (map_ofQuadruple_map_quadruple hfits).symm
      _ = (others.map quadruple).map ofQuadruple := by rw [hsame]
      _ = others := map_ofQuadruple_map_quadruple hothers

/-- The cell at the origin, a row that begins there, and the last cell that fits. -/
def originRanges : List MoveRange :=
  [.ofCorners ⟨0, 0, 0, 0⟩, .ofCorners ⟨0, 0, 2, 0⟩, .ofCorners ⟨4294967295, 7, 4294967295, 7⟩]

/-- A rectangle that begins at the origin is told apart from the cell there, and so is a cell at the
end of the 32-bit numbers. -/
theorem quadruples_unambiguous_origin :
    (∀ r ∈ originRanges, r.FitsQuadruple) ∧
    originRanges.map quadruple = [(0, 0, 0, 0), (0, 0, 2, 0), (4294967295, 7, 0, 0)] ∧
    (originRanges.map quadruple).map ofQuadruple = originRanges ∧
    ∀ r ∈ originRanges, (r.quadruple.2.2 = (0, 0) ↔ r.cells.length = 1) := by
  have hfits : ∀ r ∈ originRanges, r.FitsQuadruple := by
    simp only [originRanges, List.forall_mem_cons]
    refine ⟨⟨_, ⟨?_, ?_, ?_, ?_⟩, rfl⟩, ⟨_, ⟨?_, ?_, ?_, ?_⟩, rfl⟩,
      ⟨_, ⟨?_, ?_, ?_, ?_⟩, rfl⟩, nofun⟩
    all_goals decide
  obtain ⟨-, -, hread, -, -⟩ := quadruples_unambiguous
  obtain ⟨hback, -, hzero⟩ := hread originRanges hfits
  exact ⟨hfits, by decide, hback, fun r hr => (hzero r hr).2⟩

end MoveRange

end Noughts

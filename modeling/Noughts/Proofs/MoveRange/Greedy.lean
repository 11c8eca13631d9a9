import Mathlib.Data.List.Pairwise
import Noughts.Proofs.MoveRange.Exact
import Noughts.Proofs.MoveRange.Views

/-!
# The cover is greedy

The scan goes through the cells once and anchors a block where it finds a free cell, so the anchors
come in the order of the scan, `CellSet.anchors_sublist`. Each block is as high and then as wide as
what the earlier blocks left free allows: `CellSet.maximal_of_blocksFrom`.
-/

namespace Noughts

/-- The top left cell of a block. -/
def Block.anchor (b : Block) : Cell := ⟨b.left, b.top⟩

/-- A block lies within a set, and neither the cell below its first column nor the whole of the
column to its right does. -/
structure Block.Maximal (b : Block) (free : CellSet) : Prop where
  left_le : b.left ≤ b.right
  top_le : b.top ≤ b.bottom
  within : ∀ d, b.covers d = true → free.contains d = true
  is_tall : ∀ d : Cell, d.x = b.left → d.y.val = b.bottom.val + 1 → free.contains d = false
  is_wide : ∀ x : Fin 3, x.val = b.right.val + 1 →
    ∃ y, (b.top ≤ y ∧ y ≤ b.bottom) ∧ free.contains ⟨x, y⟩ = false

namespace CellSet

/-- Two sets with the same cells are the same set. -/
theorem ext_contains {s t : CellSet} (same : ∀ c, s.contains c = t.contains c) : s = t := by
  obtain ⟨a⟩ := s
  obtain ⟨b⟩ := t
  congr 1
  apply Vector.ext
  intro i hi
  have hcell := same (Cell.ofIndex ⟨i, hi⟩)
  rwa [contains, contains, Cell.index_ofIndex] at hcell

/-- What blocks leave of a set. -/
def beyond (free : CellSet) (taken : List Block) : CellSet :=
  free.without fun c => taken.any fun b => b.covers c

/-- A cell is left if it was in the set and no block covers it. -/
theorem contains_beyond (free : CellSet) (taken : List Block) (d : Cell) :
    (free.beyond taken).contains d = (free.contains d && !taken.any fun b => b.covers d) :=
  contains_without free _ d

/-- No block takes nothing away. -/
theorem beyond_nil (free : CellSet) : free.beyond [] = free := by
  apply ext_contains
  intro d
  simp [contains_beyond]

/-- The blocks take their cells away one after another. -/
theorem beyond_cons (free : CellSet) (b : Block) (taken : List Block) :
    free.beyond (b :: taken) = (free.without b.covers).beyond taken := by
  apply ext_contains
  intro d
  simp [contains_beyond, contains_without, Bool.and_assoc]

/-- The numbers to which a test holds without a gap go no further than the last of them. -/
theorem le_lastWhile_of_mem {p : Fin 3 → Bool} {i j : Fin 3} (h : j ∈ (onward i).takeWhile p) :
    j ≤ lastWhile p i := by
  have hsorted : ((onward i).takeWhile p).Pairwise (· ≤ ·) :=
    (((List.pairwise_lt_finRange 3).filter _).imp Fin.le_of_lt).sublist (List.takeWhile_sublist p)
  have hlast : lastWhile p i = ((onward i).takeWhile p).getLast (List.ne_nil_of_mem h) := by
    rw [lastWhile, List.getLastD_eq_getLast?, List.getLast?_eq_getLast_of_ne_nil, Option.getD_some]
  rw [hlast]
  exact hsorted.rel_getLast h

/-- The test fails for the number after the last one. -/
theorem not_holds_after_lastWhile {p : Fin 3 → Bool} {i j : Fin 3} (hi : p i = true)
    (hj : j.val = (lastWhile p i).val + 1) : p j = false := by
  have hfrom := le_lastWhile p i
  have hij : i ≤ j := by omega
  have hmem := mem_onward.2 hij
  have hsorted : (onward i).Pairwise (· < ·) := (List.pairwise_lt_finRange 3).filter _
  rw [← List.takeWhile_append_dropWhile (p := p) (l := onward i)] at hmem hsorted
  rcases List.mem_append.1 hmem with htaken | hdropped
  · have hle := le_lastWhile_of_mem htaken
    omega
  · cases hrest : (onward i).dropWhile p with
    | nil =>
        rw [hrest] at hdropped
        cases hdropped
    | cons first rest =>
        have hfails : p first = false := by
          have hhead := List.head_dropWhile_not p (List.ne_nil_of_mem hdropped)
          simpa only [hrest, List.head_cons] using hhead
        rw [hrest] at hdropped hsorted
        rcases List.mem_cons.1 hdropped with rfl | hlater
        · exact hfails
        · -- The first number that is dropped would come before `j`, and there the test holds.
          have hlt := List.rel_of_pairwise_cons (List.pairwise_append.1 hsorted).2.1 hlater
          have hfirst : first ∈ onward i :=
            (List.dropWhile_suffix p).subset (hrest ▸ List.mem_cons_self)
          have hholds := holds_of_le_lastWhile hi (mem_onward.1 hfirst) (by omega)
          cases hfails.symm.trans hholds

variable {free : CellSet} {c : Cell} {b : Block} {cells : List Cell}

/-- A block that is anchored at a free cell cannot be made higher or wider. -/
theorem maximal_blockAt (hc : free.contains c = true) : (free.blockAt c).Maximal free where
  left_le := le_lastWhile _ _
  top_le := le_lastWhile _ _
  within _ hd := contains_of_blockAt_covers hc hd
  is_tall := by
    rintro ⟨x, y⟩ rfl hy
    exact not_holds_after_lastWhile (p := fun row => free.contains ⟨c.x, row⟩) hc hy
  is_wide x hx := by
    have hnext : free.columnFree c x = false := not_holds_after_lastWhile (columnFree_self hc) hx
    rw [← Bool.not_eq_true, columnFree_iff] at hnext
    obtain ⟨row, htaken⟩ := Classical.not_forall.1 hnext
    obtain ⟨hrows, htaken⟩ := Classical.not_imp.1 htaken
    exact ⟨row, hrows, Bool.not_eq_true _ ▸ htaken⟩

/-- Every block is maximal in what the blocks before it left of the set. -/
theorem maximal_of_blocksFrom {earlier later : List Block}
    (h : free.blocksFrom cells = earlier ++ b :: later) : b.Maximal (free.beyond earlier) := by
  induction cells generalizing free earlier with
  | nil => cases earlier <;> cases h
  | cons c rest ih =>
      cases hc : free.contains c with
      | false =>
          rw [blocksFrom_cons_of_not_contains rest hc] at h
          exact ih h
      | true =>
          rw [blocksFrom_cons_of_contains rest hc] at h
          cases earlier with
          | nil =>
              rw [List.nil_append, List.cons.injEq] at h
              rw [beyond_nil, ← h.1]
              exact maximal_blockAt hc
          | cons first earlier =>
              rw [List.cons_append, List.cons.injEq] at h
              rw [beyond_cons, ← h.1]
              exact ih h.2

/-- The anchors of the blocks come in the order in which the cells are scanned. -/
theorem anchors_sublist (free : CellSet) (cells : List Cell) :
    ((free.blocksFrom cells).map Block.anchor).Sublist cells := by
  induction cells generalizing free with
  | nil => exact List.Sublist.refl []
  | cons c rest ih =>
      cases hc : free.contains c with
      | false =>
          rw [blocksFrom_cons_of_not_contains rest hc]
          exact (ih free).cons c
      | true =>
          rw [blocksFrom_cons_of_contains rest hc]
          exact (ih _).cons_cons c

/-- Each block of the scan is as large as the blocks before it allow. -/
theorem maximal_of_mem_blocks (h : b ∈ free.blocks) :
    ∃ earlier, b.Maximal (free.beyond earlier) := by
  obtain ⟨earlier, later, hblocks⟩ := List.append_of_mem h
  exact ⟨earlier, maximal_of_blocksFrom hblocks⟩

/-- The anchors of the blocks ascend column by column. -/
theorem pairwise_anchors (free : CellSet) : free.blocks.Pairwise fun b b' =>
    b.left < b'.left ∨ b.left = b'.left ∧ b.top < b'.top := by
  have hscan : Cell.columnMajor.Pairwise fun c d => c.x < d.x ∨ c.x = d.x ∧ c.y < d.y :=
    pairwise_columns (List.pairwise_lt_finRange 3) (List.pairwise_lt_finRange 3) Or.inl
      fun hlt => Or.inr ⟨rfl, hlt⟩
  exact List.pairwise_map.1 (hscan.sublist (free.anchors_sublist Cell.columnMajor))

end CellSet

end Noughts

import Noughts.Proofs.Grid.Line
import Noughts.Proofs.Session.Play

/-!
# The result of a game and the whole board

A session judges a move by the lines through its cell and names the mover as the winner without
looking at a mark. `Grid.verdict` judges a whole board from scratch. In every session that submitted
moves can reach the two agree, and every complete line carries the mark of the player who moved
last: `Session.outcome_eq_whole_board`. The reason is the invariant `Session.Judged`: a game in
progress has no complete line, so the lines that a move completes all pass through its cell.
-/

namespace Noughts

namespace Grid

/-- The result that a whole board shows when `player` moved last: a win by the first complete line
of the scan, else a draw if the board is full. -/
def verdict (g : Grid) (player : PlayerId) : Option Outcome :=
  match g.firstLine? with
  | some line => some (.win player [line.record])
  | none => if g.isFull then some .draw else none

/-- There is no verdict exactly if no line is complete and the board is not full. -/
theorem verdict_eq_none_iff {g : Grid} {player : PlayerId} :
    g.verdict player = none ↔ (∀ l : Line, ¬ l.Complete g) ∧ ¬ g.Full := by
  rw [← firstLine?_eq_none_iff, ← isFull_iff, verdict]
  cases g.firstLine? with
  | none => simp
  | some line => simp

/-- The verdict is a draw exactly if no line is complete and the board is full. -/
theorem verdict_eq_draw_iff {g : Grid} {player : PlayerId} :
    g.verdict player = some .draw ↔ (∀ l : Line, ¬ l.Complete g) ∧ g.Full := by
  rw [← firstLine?_eq_none_iff, ← isFull_iff, verdict]
  cases g.firstLine? with
  | none => simp
  | some line => simp

/-- A result that is no draw is a win by the first complete line. -/
theorem verdict_cases {g : Grid} {player : PlayerId} (hsome : g.verdict player ≠ none)
    (hwin : g.verdict player ≠ some .draw) :
    ∃ line, g.firstLine? = some line ∧ g.verdict player = some (.win player [line.record]) := by
  unfold verdict at hsome hwin ⊢
  cases hline : g.firstLine? with
  | some line => exact ⟨line, rfl, rfl⟩
  | none =>
      rw [hline] at hsome hwin
      by_cases hfull : g.isFull = true
      · simp [hfull] at hwin
      · simp [hfull] at hsome

/-- If every complete line passes through the cell of the last move, then judging that move alone
gives the verdict on the whole board. -/
theorem outcomeAfter_eq_verdict {g : Grid} {c : Cell} (player : PlayerId)
    (h : ∀ l : Line, l.Complete g → l.Through c) : g.outcomeAfter player c = g.verdict player := by
  rw [outcomeAfter, verdict, lineThrough?_eq h]
  cases g.firstLine? with
  | none => rfl
  | some line => rfl

end Grid

namespace Session

/-- A session whose accepted moves are `made` is judged rightly: while the game goes on no line is
complete, before the first move it goes on, and after a last move the result is the verdict on the
whole board, all of whose complete lines carry the mark of the player who made that move. -/
structure Judged (s : Session) (made : List Submission) : Prop where
  no_line : s.outcome = none → ∀ l : Line, ¬ l.Complete s.grid
  at_start : made = [] → s.outcome = none ∧ ¬ s.grid.Full
  by_last : ∀ last, made.getLast? = some last →
    s.outcome = s.grid.verdict last.player ∧
      ∃ mark, s.markOf? last.player = some mark ∧
        ∀ l : Line, l.Complete s.grid → l.Carries s.grid mark

/-- On a blank board the game goes on, rightly. -/
theorem judged_start (id : SessionId) (players : Players) : (start id players).Judged [] where
  no_line _ l := l.not_complete_blank
  at_start _ := ⟨rfl, fun hfull => hfull ⟨0, 0⟩ (Grid.get_blank _)⟩
  by_last last hlast := by cases hlast

/-- An accepted move keeps a session rightly judged. -/
theorem Judged.submit {s next : Session} {made : List Submission} {m : Submission}
    (h : s.Judged made) (hm : s.submit m = .ok next) : next.Judged (made ++ [m]) := by
  obtain ⟨c, mark, hadmits, rfl⟩ := submit_eq_ok_iff.1 hm
  -- No line was complete before the move, so whatever is complete now was completed by it.
  have hbefore := h.no_line hadmits.in_progress
  have hthrough : ∀ l : Line, l.Complete (s.grid.set c mark) → l.Through c :=
    fun l hl => hl.through (hbefore l)
  have houtcome : (s.marked m.now m.player c mark).outcome =
      (s.grid.set c mark).verdict m.player :=
    Grid.outcomeAfter_eq_verdict m.player hthrough
  refine ⟨fun hnone => ?_, fun hempty => ?_, fun last hlast => ?_⟩
  · rw [houtcome] at hnone
    exact (Grid.verdict_eq_none_iff.1 hnone).1
  · simp at hempty
  · obtain rfl : m = last := by simpa using hlast
    exact ⟨houtcome, mark, hadmits.is_seated, fun l hl => hl.carries_of_through (hthrough l hl)⟩

/-- Every course of a game is rightly judged. -/
theorem judged_play (id : SessionId) (players : Players) (moves : List Submission) :
    ((start id players).play moves).Judged ((start id players).accepted moves) :=
  play_induction (judged_start id players) Judged.submit moves

/-- Whatever moves are submitted by whomever: a session is without a result exactly if the board
has no complete line and is not full, it is a draw exactly if the board is full without a complete
line, and otherwise the player of the last accepted move wins by the first complete line of the
whole board, on which there is no complete line of the other mark. -/
theorem outcome_eq_whole_board (id : SessionId) (players : Players) (moves : List Submission) :
    let s := (start id players).play moves
    let made := (start id players).accepted moves
    (s.outcome = none ↔ (∀ l : Line, ¬ l.Complete s.grid) ∧ ¬ s.grid.Full) ∧
    (s.outcome = some .draw ↔ (∀ l : Line, ¬ l.Complete s.grid) ∧ s.grid.Full) ∧
    (s.outcome ≠ none → s.outcome ≠ some .draw →
      ∃ last line mark, made.getLast? = some last ∧ s.grid.firstLine? = some line ∧
        s.outcome = some (.win last.player [line.record]) ∧
        s.markOf? last.player = some mark ∧
        ∀ l : Line, l.Complete s.grid → l.Carries s.grid mark) := by
  intro s made
  have h : s.Judged made := judged_play id players moves
  cases hlast : made.getLast? with
  | none =>
      obtain ⟨hnone, hopen⟩ := h.at_start (List.getLast?_eq_none_iff.1 hlast)
      refine ⟨⟨fun _ => ⟨h.no_line hnone, hopen⟩, fun _ => hnone⟩, ?_, fun hsome => ?_⟩
      · rw [hnone]
        exact iff_of_false nofun fun hfull => hopen hfull.2
      · exact absurd hnone hsome
  | some last =>
      obtain ⟨hverdict, mark, hmark, hlines⟩ := h.by_last last hlast
      rw [hverdict]
      refine ⟨Grid.verdict_eq_none_iff, Grid.verdict_eq_draw_iff, fun hsome hwin => ?_⟩
      obtain ⟨line, hline, hresult⟩ := Grid.verdict_cases hsome hwin
      exact ⟨last, line, mark, rfl, hline, hresult, hmark, hlines⟩

end Session

end Noughts

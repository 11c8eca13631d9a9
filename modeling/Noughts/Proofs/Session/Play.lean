import Noughts.Session

/-!
# Playing a game

A `Submission` is one call of `Session.place` with everything it is given. `Session.play` makes any
number of them one after another and passes over the refused ones, and `Session.accepted` lists the
others.

`Session.ruling_submit` takes a move through its checks, `Session.submit_eq_ok_iff` says all that an
accepted move requires and does, and `Session.play_induction` is the one induction over the course
of a game. Last, the time of a move has no part in any later decision:
`Session.submit_of_untimed_eq`.
-/

namespace Noughts

/-- A submitted move and the reading of the clock at which it is made. -/
structure Submission where
  now : Int64
  player : PlayerId
  moveId : MoveId
  x : UInt64
  y : UInt64
deriving DecidableEq, Repr

namespace Session

/-- The session after a submitted move, or the reason to refuse it. -/
def submit (s : Session) (m : Submission) : Except PlaceError Session :=
  s.place m.now m.player m.moveId m.x m.y

/-- The session after a submitted move, which is the same session if the move is refused. -/
def after (s : Session) (m : Submission) : Session :=
  match s.submit m with
  | .ok next => next
  | .error _ => s

/-- The session after any number of submitted moves. -/
def play (s : Session) (moves : List Submission) : Session :=
  moves.foldl after s

/-- Those of the submitted moves that are accepted, in order. -/
def accepted : Session → List Submission → List Submission
  | _, [] => []
  | s, m :: rest =>
      match s.submit m with
      | .ok next => m :: next.accepted rest
      | .error _ => s.accepted rest

/-- What an accepted move requires: the game goes on, it is the player's turn, the move
identifier is the expected one, and the cell `c` it names is on the grid and free. The player then
has the mark `mark`. -/
structure Admits (s : Session) (m : Submission) (c : Cell) (mark : Mark) : Prop where
  in_progress : s.outcome = none
  is_turn : s.currentPlayer = m.player
  expected : m.moveId = s.expectedMoveId
  on_grid : Cell.on? m.x m.y = some c
  is_free : s.grid.get c = .empty
  is_seated : s.markOf? m.player = some mark

/-- A player is to move exactly if the game goes on and the turn index points to them. -/
theorem activePlayer?_eq_some_iff {s : Session} {player : PlayerId} :
    s.activePlayer? = some player ↔ s.outcome = none ∧ s.currentPlayer = player := by
  unfold activePlayer? isFinished
  cases s.outcome <;> simp

/-- Coordinates name a free cell exactly if they are on the grid and nobody has played there. -/
theorem freeCell?_eq_some_iff {s : Session} {x y : UInt64} {c : Cell} :
    s.freeCell? x y = some c ↔ Cell.on? x y = some c ∧ s.grid.get c = .empty := by
  simp [freeCell?, Option.filter_eq_some_iff, Grid.isFree]

namespace Admits

variable {s : Session} {m : Submission} {c : Cell} {mark : Mark}

/-- The player of a move that is admitted is to move. -/
theorem activePlayer?_eq (h : s.Admits m c mark) : s.activePlayer? = some m.player :=
  activePlayer?_eq_some_iff.2 ⟨h.in_progress, h.is_turn⟩

/-- The cell of a move that is admitted is free. -/
theorem freeCell?_eq (h : s.Admits m c mark) : s.freeCell? m.x m.y = some c :=
  freeCell?_eq_some_iff.2 ⟨h.on_grid, h.is_free⟩

end Admits

/-- The mark of a player is never the empty one. -/
theorem mark_ne_empty {players : Players} {player : PlayerId} {mark : Mark}
    (h : players.markOf? player = some mark) : mark ≠ .empty := by
  rintro rfl
  unfold Players.markOf? at h
  split at h
  · cases h
  · split at h <;> cases h

/-- Whoever takes part has a mark. -/
theorem exists_markOf?_seat (p : Players) (i : Fin 2) :
    ∃ mark, p.markOf? (p.seat i) = some mark := by
  unfold Players.markOf?
  match i with
  | 0 => exact ⟨.first, if_pos rfl⟩
  | 1 =>
      by_cases hsame : p.first = p.second
      · exact ⟨.first, if_pos hsame⟩
      · exact ⟨.second, (if_neg hsame).trans (if_pos rfl)⟩

/-- The verdicts on a move, each with the check that leads to it and the checks before. -/
inductive Ruling (s : Session) (m : Submission) : Except PlaceError Session → Prop
  | notActivePlayer (hturn : s.activePlayer? ≠ some m.player) :
      Ruling s m (.error .notActivePlayer)
  | invalidMoveId (hturn : s.activePlayer? = some m.player) (hid : m.moveId ≠ s.expectedMoveId) :
      Ruling s m (.error .invalidMoveId)
  | invalidMove (hturn : s.activePlayer? = some m.player) (hid : m.moveId = s.expectedMoveId)
      (hcell : s.freeCell? m.x m.y = none) :
      Ruling s m (.error .invalidMove)
  | accepted {c : Cell} {mark : Mark} (h : s.Admits m c mark) :
      Ruling s m (.ok (s.marked m.now m.player c mark))

/-- A move is never refused for want of a mark: whoever may move has one. -/
theorem ruling_submit (s : Session) (m : Submission) : s.Ruling m (s.submit m) := by
  unfold submit place
  split
  · next hturn => exact .notActivePlayer hturn
  · next hturn =>
    have hturn := Decidable.not_not.1 hturn
    split
    · next hid => exact .invalidMoveId hturn hid
    · next hid =>
      have hid := Decidable.not_not.1 hid
      split
      · next hcell => exact .invalidMove hturn hid hcell
      · next c hcell =>
        obtain ⟨hprogress, hplayer⟩ := activePlayer?_eq_some_iff.1 hturn
        obtain ⟨hgrid, hfree⟩ := freeCell?_eq_some_iff.1 hcell
        obtain ⟨mark, hmark⟩ := exists_markOf?_seat s.players s.current
        have hmark : s.markOf? m.player = some mark := hplayer ▸ hmark
        rw [hmark]
        exact .accepted ⟨hprogress, hplayer, hid, hgrid, hfree, hmark⟩

/-- An accepted move puts the player's mark into a free cell, and nothing else is accepted. -/
theorem submit_eq_ok_iff {s next : Session} {m : Submission} :
    s.submit m = .ok next ↔
      ∃ c mark, s.Admits m c mark ∧ next = s.marked m.now m.player c mark := by
  constructor
  · intro h
    have hruling := s.ruling_submit m
    rw [h] at hruling
    cases hruling with
    | accepted hadmits => exact ⟨_, _, hadmits, rfl⟩
  · rintro ⟨c, mark, h, rfl⟩
    simp [submit, place, h.activePlayer?_eq, h.expected, h.freeCell?_eq, h.is_seated]

/-- The first check refuses the moves of everybody who is not to move. -/
theorem submit_eq_notActivePlayer_iff {s : Session} {m : Submission} :
    s.submit m = .error .notActivePlayer ↔ s.activePlayer? ≠ some m.player := by
  have hruling := s.ruling_submit m
  generalize s.submit m = verdict at hruling ⊢
  cases hruling with
  | notActivePlayer hturn => simp [hturn]
  | invalidMoveId hturn => simp [hturn]
  | invalidMove hturn => simp [hturn]
  | accepted h => simp [h.activePlayer?_eq]

/-- The second check refuses the move of the right player under another identifier. -/
theorem submit_eq_invalidMoveId_iff {s : Session} {m : Submission} :
    s.submit m = .error .invalidMoveId ↔
      s.activePlayer? = some m.player ∧ m.moveId ≠ s.expectedMoveId := by
  have hruling := s.ruling_submit m
  generalize s.submit m = verdict at hruling ⊢
  cases hruling with
  | notActivePlayer hturn => simp [hturn]
  | invalidMoveId hturn hid => simp [hturn, hid]
  | invalidMove hturn hid => simp [hid]
  | accepted h => simp [h.expected]

/-- The third check refuses the right move to a cell that is not free. -/
theorem submit_eq_invalidMove_iff {s : Session} {m : Submission} :
    s.submit m = .error .invalidMove ↔
      s.activePlayer? = some m.player ∧ m.moveId = s.expectedMoveId ∧
        s.freeCell? m.x m.y = none := by
  have hruling := s.ruling_submit m
  generalize s.submit m = verdict at hruling ⊢
  cases hruling with
  | notActivePlayer hturn => simp [hturn]
  | invalidMoveId hturn hid => simp [hid]
  | invalidMove hturn hid hcell => simp [hturn, hid, hcell]
  | accepted h => simp [h.freeCell?_eq]

/-- Which moves are accepted, without the sessions that they lead to. -/
theorem exists_submit_iff {s : Session} {m : Submission} :
    (∃ next, s.submit m = .ok next) ↔
      s.activePlayer? = some m.player ∧ m.moveId = s.expectedMoveId ∧
        ∃ c, Cell.on? m.x m.y = some c ∧ s.grid.get c = .empty := by
  have hruling := s.ruling_submit m
  simp only [← freeCell?_eq_some_iff]
  generalize s.submit m = verdict at hruling ⊢
  cases hruling with
  | notActivePlayer hturn => simp [hturn]
  | invalidMoveId hturn hid => simp [hid]
  | invalidMove hturn hid hcell => simp [hcell]
  | accepted h => simp [h.activePlayer?_eq, h.expected, h.freeCell?_eq]

/-- An accepted move keeps the identifier of its session. -/
theorem id_of_submit {s next : Session} {m : Submission} (h : s.submit m = .ok next) :
    next.id = s.id := by
  obtain ⟨c, mark, _, rfl⟩ := submit_eq_ok_iff.1 h
  rfl

/-- An accepted move is counted. -/
theorem turnCount_of_submit {s next : Session} {m : Submission} (h : s.submit m = .ok next) :
    next.turnCount = s.turnCount + 1 := by
  obtain ⟨c, mark, _, rfl⟩ := submit_eq_ok_iff.1 h
  rfl

/-- What holds of a session before any move and is kept by every accepted move holds of the
session after any submitted moves; the property may look at the moves accepted so far. -/
theorem play_induction {P : Session → List Submission → Prop} {s : Session} (hstart : P s [])
    (hstep : ∀ {t : Session} {before : List Submission} {m : Submission} {next : Session},
      P t before → t.submit m = .ok next → P next (before ++ [m]))
    (moves : List Submission) : P (s.play moves) (s.accepted moves) := by
  -- The moves accepted before `s` are carried along, so that `s` can change in the induction.
  suffices hgeneral : ∀ before, P s before → P (s.play moves) (before ++ s.accepted moves) from
    hgeneral [] hstart
  clear hstart
  induction moves generalizing s with
  | nil =>
      intro before hbefore
      simpa [play, accepted] using hbefore
  | cons m rest ih =>
      intro before hbefore
      cases hm : s.submit m with
      | error refusal =>
          have hafter : s.after m = s := by simp [after, hm]
          simpa [play, accepted, hm, hafter] using ih before hbefore
      | ok next =>
          have hafter : s.after m = next := by simp [after, hm]
          simpa [play, accepted, hm, hafter] using ih (before ++ [m]) (hstep hbefore hm)

/-- The session came about from a new one by submitted moves. -/
def Reached (s : Session) : Prop :=
  ∃ id players moves, s = (start id players).play moves

/-- A new session is reached without a move. -/
theorem reached_start (id : SessionId) (players : Players) : (start id players).Reached :=
  ⟨id, players, [], rfl⟩

/-- An accepted move leads from a reached session to a reached session. -/
theorem Reached.submit {s next : Session} {m : Submission} (h : s.Reached)
    (hm : s.submit m = .ok next) : next.Reached := by
  obtain ⟨id, players, moves, rfl⟩ := h
  refine ⟨id, players, moves ++ [m], ?_⟩
  rw [play, List.foldl_append]
  show next = after ((start id players).play moves) m
  simp [after, hm]

/-- So does a refused one, which leaves the session as it was. -/
theorem Reached.after {s : Session} (h : s.Reached) (m : Submission) : (s.after m).Reached := by
  unfold Session.after
  cases hm : s.submit m with
  | error reason => exact h
  | ok next => exact h.submit hm

/-- The session without the time of its last move. -/
def untimed (s : Session) : Session := { s with lastMoveAt := 0 }

/-- A move that is accepted in one session is accepted at any time in a session that differs in no
more than the time of its last move, and the results do not differ in more either. -/
theorem submit_of_untimed_eq {s t next : Session} {m : Submission} (heq : s.untimed = t.untimed)
    (hm : s.submit m = .ok next) (now : Int64) :
    ∃ other, t.submit { m with now := now } = .ok other ∧ other.untimed = next.untimed := by
  obtain ⟨c, mark, h, rfl⟩ := submit_eq_ok_iff.1 hm
  obtain ⟨id, grid, players, current, turnCount, lastMoveAt, outcome⟩ := s
  obtain ⟨id', grid', players', current', turnCount', lastMoveAt', outcome'⟩ := t
  simp only [untimed, Session.mk.injEq, true_and] at heq
  obtain ⟨rfl, rfl, rfl, rfl, rfl, rfl⟩ := heq
  refine ⟨_, submit_eq_ok_iff.2 ⟨c, mark, ?_, rfl⟩, rfl⟩
  exact ⟨h.in_progress, h.is_turn, h.expected, h.on_grid, h.is_free, h.is_seated⟩

end Session

end Noughts

import Noughts.Proofs.Session.Bounds
import Noughts.Proofs.Session.Marks

/-!
# Moves made in place

`Session.placeInPlace` makes a move on a session that it changes field by field, in the order in
which the fields depend on each other. Whatever it has changed when it halts stays changed, and
beside the refusals there are three ways for it to halt that nobody wants to see.
`Session.on_placeInPlace` says that none of these ever happens, that the session is as it was if the
move is refused, and that the call is `Session.submit` in all other respects.

`Session.decided_in_place` gives the conditions of each answer and the changes that an accepted move
makes, for every session that such calls can reach.
-/

namespace Noughts

/-- Why a call that makes a move halts. -/
inductive Halt where
  /-- The move does not pass the checks. -/
  | refused (reason : PlaceError)
  /-- The move passes the checks, but the player has no mark. -/
  | unseated
  /-- The grid was asked for a cell outside it. -/
  | outsideGrid (cell : OutsideGrid)
  /-- The number of moves no longer fits into 32 bits. -/
  | countOverflow
deriving DecidableEq, Repr

/-- A computation that changes a session in place. If it halts, the changes made so far stay. -/
abbrev InPlace : Type → Type := ExceptT Halt (StateM Session)

namespace InPlace

variable {α β : Type}

/-- The result of a computation on a session, and the session after it. -/
def on (call : InPlace α) (s : Session) : Except Halt α × Session := call.run.run s

/-- A result without a change. -/
@[simp] theorem on_pure (a : α) (s : Session) : on (pure a) s = (.ok a, s) := rfl

/-- Halting without a change. -/
@[simp] theorem on_throw (reason : Halt) (s : Session) :
    on (throw reason : InPlace α) s = (.error reason, s) := rfl

/-- Looking at the session does not change it. -/
@[simp] theorem on_get (s : Session) : on get s = (.ok s, s) := rfl

/-- A change, and nothing else. -/
@[simp] theorem on_modify (change : Session → Session) (s : Session) :
    on (modify change) s = (.ok (), change s) := rfl

/-- A computation goes on from where the one before it ended, unless that one halted. -/
@[simp] theorem on_bind (first : InPlace α) (next : α → InPlace β) (s : Session) :
    on (first >>= next) s =
      match first.on s with
      | (.ok a, t) => (next a).on t
      | (.error reason, t) => (.error reason, t) := by
  unfold on
  rw [ExceptT.run_bind, StateT.run_bind]
  rcases first.run.run s with ⟨_ | _, t⟩ <;> rfl

/-- Refuse the move unless a condition holds. -/
def require (condition : Prop) [Decidable condition] (reason : PlaceError) : InPlace Unit :=
  if condition then pure () else throw (.refused reason)

/-- A condition that holds lets the computation go on. -/
theorem on_require_of_pos {condition : Prop} [Decidable condition] (h : condition)
    (reason : PlaceError) (s : Session) : on (require condition reason) s = (.ok (), s) := by
  rw [require, if_pos h, on_pure]

/-- A condition that does not hold refuses the move and changes nothing. -/
theorem on_require_of_neg {condition : Prop} [Decidable condition] (h : ¬ condition)
    (reason : PlaceError) (s : Session) :
    on (require condition reason) s = (.error (.refused reason), s) := by
  rw [require, if_neg h, on_throw]

/-- The result of an operation of the grid. -/
def onGrid (result : Except OutsideGrid α) : InPlace α :=
  match result with
  | .ok a => pure a
  | .error cell => throw (.outsideGrid cell)

/-- An operation of the grid that succeeds does not change the session. -/
@[simp] theorem on_onGrid_ok (a : α) (s : Session) : on (onGrid (.ok a)) s = (.ok a, s) := rfl

end InPlace

namespace Session

open InPlace

/-- The checks of a move in their order, and the mark that it is going to leave. -/
def check (m : Submission) : InPlace Mark := do
  let s ← get
  require (s.activePlayer? = some m.player) .notActivePlayer
  require (m.moveId = s.expectedMoveId) .invalidMoveId
  require (m.x < 3 ∧ m.y < 3) .invalidMove
  -- Only from here on may the grid be asked for the cell.
  let found ← onGrid (s.grid.markAt m.x m.y)
  require (found = .empty) .invalidMove
  match s.markOf? m.player with
  | none => throw .unseated
  | some mark => pure mark

/-- The turn index that comes after another. -/
def turnAfter (turn : Fin 2) : Fin 2 := ⟨(turn.val + 1) % 2, Nat.mod_lt _ Nat.two_pos⟩

/-- The changes that a move makes, one after another. -/
def write (m : Submission) (mark : Mark) : InPlace Unit := do
  let before ← get
  let grid ← onGrid (before.grid.setAt m.x m.y mark)
  modify fun s => { s with grid := grid }
  let outcome ← onGrid (grid.outcomeAt m.player m.x m.y)
  modify fun s => { s with outcome := outcome }
  modify fun s => { s with current := turnAfter s.current }
  let s ← get
  if s.turnCount + 1 < UInt32.size then
    modify fun s => { s with turnCount := s.turnCount + 1 }
  else
    throw .countOverflow
  modify fun s => { s with lastMoveAt := m.now }

/-- Make a move on a session in place. -/
def placeInPlace (m : Submission) : InPlace Unit := do
  let mark ← check m
  write m mark

/-- The session after any number of moves made in place, whatever each of them answers. -/
def playInPlace (s : Session) (moves : List Submission) : Session :=
  moves.foldl (fun t m => ((placeInPlace m).on t).2) s

variable {s : Session} {m : Submission}

/-- What a call that makes a move in place is to answer, and the session after it. -/
def settled (s : Session) (m : Submission) : Except Halt Unit × Session :=
  match s.submit m with
  | .ok next => (.ok (), next)
  | .error reason => (.error (.refused reason), s)

/-- The session after such a call is the one after the submitted move. -/
theorem settled_snd (s : Session) (m : Submission) : (s.settled m).2 = s.after m := by
  unfold settled after
  cases s.submit m <;> rfl

/-- An accepted move is answered without a reason, and its session is the new one. -/
theorem settled_of_ok {next : Session} (h : s.submit m = .ok next) :
    s.settled m = (.ok (), next) := by
  rw [settled, h]

/-- The answer is a reason to refuse exactly if the move is refused for it. -/
theorem settled_fst_eq_error_iff {reason : PlaceError} :
    (s.settled m).1 = .error (.refused reason) ↔ s.submit m = .error reason := by
  unfold settled
  cases s.submit m <;> simp

/-- The answer is good exactly if the move is accepted. -/
theorem settled_fst_eq_ok_iff : (s.settled m).1 = .ok () ↔ ∃ next, s.submit m = .ok next := by
  unfold settled
  cases s.submit m <;> simp

/-- The checks refuse what the rules refuse. They change nothing, and the grid is not asked for a
cell outside it. -/
theorem on_check_of_refused {reason : PlaceError} (h : s.submit m = .error reason) :
    (check m).on s = (.error (.refused reason), s) := by
  have hruling := s.ruling_submit m
  rw [h] at hruling
  rw [check, on_bind, on_get]
  cases hruling with
  | notActivePlayer hturn => simp only [on_bind, on_require_of_neg hturn]
  | invalidMoveId hturn hid =>
      simp only [on_bind, on_require_of_pos hturn, on_require_of_neg hid]
  | invalidMove hturn hid hcell =>
      simp only [on_bind, on_require_of_pos hturn, on_require_of_pos hid]
      cases hc : Cell.on? m.x m.y with
      | none =>
          -- The coordinates are refused before the grid sees them.
          simp only [on_require_of_neg (Cell.not_lt_three_of_off hc)]
      | some c =>
          have hon := Cell.lt_three_iff.2 ⟨c, hc⟩
          have htaken : s.grid.get c ≠ .empty := by
            intro hfree
            cases hcell.symm.trans (freeCell?_eq_some_iff.2 ⟨hc, hfree⟩)
          simp only [on_require_of_pos hon, Grid.markAt_eq hc, on_onGrid_ok,
            on_require_of_neg htaken]

/-- A move that is admitted passes the checks, which find the mark and change nothing. -/
theorem on_check_of_admits {c : Cell} {mark : Mark} (h : s.Admits m c mark) :
    (check m).on s = (.ok mark, s) := by
  have hon := Cell.lt_three_iff.2 ⟨c, h.on_grid⟩
  simp only [check, on_bind, on_get, on_require_of_pos h.activePlayer?_eq,
    on_require_of_pos h.expected, on_require_of_pos hon, Grid.markAt_eq h.on_grid, on_onGrid_ok,
    on_require_of_pos h.is_free, h.is_seated, on_pure]

/-- An accepted move is written in full. -/
theorem on_write {c : Cell} {mark : Mark} (hcell : Cell.on? m.x m.y = some c)
    (hcount : s.turnCount + 1 < UInt32.size) :
    (write m mark).on s = (.ok (), s.marked m.now m.player c mark) := by
  simp only [write, on_bind, on_get, Grid.setAt_eq mark hcell, Grid.outcomeAt_eq m.player hcell,
    on_onGrid_ok, on_modify, if_pos hcount]
  rfl

/-- While moves can be counted, a move made in place is refused exactly if the rules refuse it, and
then the session is as it was; else it is the session after the move. The call does not halt in any
other way. -/
theorem on_placeInPlace (hcount : s.turnCount + 1 < UInt32.size) (m : Submission) :
    (placeInPlace m).on s = s.settled m := by
  rw [placeInPlace, on_bind, settled]
  cases hm : s.submit m with
  | error reason => rw [on_check_of_refused hm]
  | ok next =>
      obtain ⟨c, mark, hadmits, rfl⟩ := submit_eq_ok_iff.1 hm
      rw [on_check_of_admits hadmits]
      exact on_write hadmits.on_grid hcount

/-- A game never has as many moves as 32 bits can count. -/
theorem Reached.on_placeInPlace (h : s.Reached) (m : Submission) :
    (placeInPlace m).on s = s.settled m := by
  have hle := h.turnCount_le
  apply Session.on_placeInPlace
  simp only [UInt32.size]
  omega

/-- Moves made in place lead through the same sessions as submitted moves. -/
theorem Reached.playInPlace_eq (h : s.Reached) (moves : List Submission) :
    s.playInPlace moves = s.play moves := by
  induction moves generalizing s with
  | nil => rfl
  | cons m rest ih =>
      show (((placeInPlace m).on s).2).playInPlace rest = (s.after m).play rest
      -- The next session is reached as well, so that the call after this one does not halt either.
      rw [h.on_placeInPlace, settled_snd]
      exact ih (h.after m)

/-- The answer to a move made in place and the session after it, by what the session was before. -/
structure Decided (s : Session) (m : Submission) (result : Except Halt Unit × Session) : Prop where
  /-- The game is over, or it is not the player's turn. -/
  notActivePlayer_iff : result.1 = .error (.refused .notActivePlayer) ↔
    s.outcome ≠ none ∨ m.player ≠ s.players.seat s.current
  /-- Failing that, the identifier is not the number of moves. -/
  invalidMoveId_iff : result.1 = .error (.refused .invalidMoveId) ↔
    (s.outcome = none ∧ m.player = s.players.seat s.current) ∧
      m.moveId.value.toNat ≠ s.turnCount
  /-- Failing that, the cell is outside the grid or taken. -/
  invalidMove_iff : result.1 = .error (.refused .invalidMove) ↔
    (s.outcome = none ∧ m.player = s.players.seat s.current) ∧
      m.moveId.value.toNat = s.turnCount ∧
      (3 ≤ m.x.toNat ∨ 3 ≤ m.y.toNat ∨
        ∃ c, Cell.on? m.x m.y = some c ∧ s.grid.get c ≠ .empty)
  ok_iff : result.1 = .ok () ↔
    (s.outcome = none ∧ m.player = s.players.seat s.current) ∧
      m.moveId.value.toNat = s.turnCount ∧
      ∃ c, Cell.on? m.x m.y = some c ∧ s.grid.get c = .empty
  /-- The call halts for no other reason. -/
  answered : result.1 = .ok () ∨ ∃ reason, result.1 = .error (.refused reason)
  /-- Nothing is left half done. -/
  unchanged : ∀ halt, result.1 = .error halt → result.2 = s
  /-- One cell goes from empty to the mark of the player, who has one; the turn passes on, and the
  move is counted and judged. -/
  changed : result.1 = .ok () → ∃ c mark, Cell.on? m.x m.y = some c ∧
    s.markOf? m.player = some mark ∧ mark ≠ .empty ∧ s.grid.get c = .empty ∧
    (∀ d, result.2.grid.get d = if c = d then mark else s.grid.get d) ∧
    result.2.turnCount = s.turnCount + 1 ∧ result.2.current.val = 1 - s.current.val ∧
    result.2.id = s.id ∧ result.2.players = s.players ∧ result.2.lastMoveAt = m.now ∧
    result.2.outcome = result.2.grid.outcomeAfter m.player c

/-- What a move does to a reached session. -/
theorem Reached.decided (h : s.Reached) (m : Submission) : s.Decided m (s.settled m) := by
  have hturn : s.activePlayer? = some m.player ↔
      s.outcome = none ∧ m.player = s.players.seat s.current := by
    rw [activePlayer?_eq_some_iff]
    exact and_congr_right' eq_comm
  have hid := h.eq_expectedMoveId_iff m.moveId
  constructor
  case notActivePlayer_iff =>
    rw [settled_fst_eq_error_iff, submit_eq_notActivePlayer_iff, ne_eq, hturn,
      Classical.not_and_iff_not_or_not]
  case invalidMoveId_iff =>
    rw [settled_fst_eq_error_iff, submit_eq_invalidMoveId_iff, hturn, ne_eq, hid]
  case invalidMove_iff =>
    rw [settled_fst_eq_error_iff, submit_eq_invalidMove_iff, hturn, hid, freeCell?_eq_none_iff]
  case ok_iff =>
    rw [settled_fst_eq_ok_iff, exists_submit_iff, hturn, hid]
  case answered =>
    unfold settled
    cases s.submit m with
    | ok next => exact .inl rfl
    | error reason => exact .inr ⟨reason, rfl⟩
  case unchanged =>
    intro halt
    unfold settled
    cases s.submit m with
    | ok next =>
        intro hhalt
        cases hhalt
    | error reason => exact fun _ => rfl
  case changed =>
    intro hok
    obtain ⟨next, hnext⟩ := settled_fst_eq_ok_iff.1 hok
    obtain ⟨c, mark, hadmits, rfl⟩ := submit_eq_ok_iff.1 hnext
    rw [settled_of_ok hnext]
    refine ⟨c, mark, hadmits.on_grid, hadmits.is_seated, mark_ne_empty hadmits.is_seated,
      hadmits.is_free, fun d => s.grid.get_set c d mark, rfl, ?_, rfl, rfl, rfl, rfl⟩
    show (s.current + 1).val = 1 - s.current.val
    omega

/-- For a game of any two players, after any moves made in place and for any further one: its answer
is decided by the checks in their order, a refused move leaves every field of the session as it was,
and an accepted one fills a single cell and passes on the turn. The grid is never asked for a cell
outside it, no player who may move is without a mark, and the moves are never too many to count. -/
theorem decided_in_place (id : SessionId) (players : Players) (moves : List Submission)
    (m : Submission) :
    let s := (start id players).playInPlace moves
    s = (start id players).play moves ∧ s.Decided m ((placeInPlace m).on s) := by
  intro s
  have hs : s = (start id players).play moves := (reached_start id players).playInPlace_eq moves
  have hreached : s.Reached := ⟨id, players, moves, hs⟩
  refine ⟨hs, ?_⟩
  rw [hreached.on_placeInPlace]
  exact hreached.decided m

end Session

end Noughts

import Mathlib.Data.List.Nodup
import Mathlib.Data.List.Perm.Subperm
import Noughts.Proofs.Session.Marks
import Noughts.Proofs.Session.Verdict

/-!
# Taking turns

Every accepted move changes the grid, the turn index, the number of moves, the time and the result
of a session together. `Session.InTurn` says that the two players alternate, `Session.Balanced` that
the marks on the board are shared between them accordingly, and both are kept by every accepted
move. The rules of the game stop it in time: a win takes three marks of one player, hence five
moves, and a draw takes all nine.

`Session.orderly_play` collects what holds of a session after any submitted moves.
-/

namespace Noughts

/-- The player of the move with number `k`, counted from zero. -/
def Players.onTurn (p : Players) (k : Nat) : PlayerId :=
  p.seat ⟨k % 2, Nat.mod_lt k (by decide)⟩

/-- The first player makes the moves with even numbers and the second player the others. -/
theorem Players.onTurn_eq (p : Players) (k : Nat) :
    p.onTurn k = if k % 2 = 0 then p.first else p.second := by
  unfold onTurn
  obtain hk | hk := Nat.mod_two_eq_zero_or_one k
  · simp [hk, seat]
  · simp [hk, seat]

/-- Between two distinct players the mark tells whose turn it was. -/
theorem Players.markOf?_onTurn {p : Players} (hdistinct : p.first ≠ p.second) (k : Nat) :
    p.markOf? (p.onTurn k) = some (if k % 2 = 0 then .first else .second) := by
  rw [onTurn_eq, markOf?]
  by_cases hk : k % 2 = 0
  · simp [hk]
  · simp [hk, hdistinct]

namespace Grid

/-- The number of cells in which somebody has played. -/
def taken (g : Grid) : Nat :=
  Cell.rowMajor.countP fun c => !g.isFree c

/-- A cell is empty or somebody has played in it, and there are nine. -/
theorem count_empty_add_taken (g : Grid) : g.count .empty + g.taken = 9 := by
  have hcells : Cell.rowMajor.length = 9 := rfl
  rw [← hcells, List.length_eq_countP_add_countP fun c => g.get c == .empty]
  congr 1
  exact List.countP_congr fun c _ => by simp [isFree]

/-- A full grid has no empty cell to count. -/
theorem Full.count_empty {g : Grid} (h : g.Full) : g.count .empty = 0 := by
  rw [count, List.countP_eq_zero]
  intro c _ hempty
  exact h c (beq_iff_eq.1 hempty)

/-- The first line of the scan that is complete is complete. -/
theorem complete_of_firstLine? {g : Grid} {l : Line} (h : g.firstLine? = some l) :
    l.Complete g := by
  have hfound := List.find?_some h
  exact of_decide_eq_true hfound

/-- The verdict names nobody but the player who moved last. -/
theorem of_verdict_eq_win {g : Grid} {last player : PlayerId} {lines : List WinningLine}
    (h : g.verdict last = some (.win player lines)) : player = last ∧ ∃ l : Line, l.Complete g := by
  unfold verdict at h
  split at h
  · next l hline =>
    cases h
    exact ⟨rfl, l, complete_of_firstLine? hline⟩
  · split at h <;> cases h

end Grid

/-- The places of a line are different cells. -/
theorem Line.cell_injective (l : Line) : Function.Injective l.cell := by
  intro i j h
  cases l with
  | row y => exact congrArg Cell.x h
  | column x => exact congrArg Cell.y h
  | diagonalUp => exact congrArg Cell.x h
  | diagonalDown => exact congrArg Cell.x h

/-- A line of one mark is three cells with that mark. -/
theorem Line.Carries.three_le_count {l : Line} {g : Grid} {m : Mark} (h : l.Carries g m) :
    3 ≤ g.count m := by
  let cells := (List.finRange 3).map l.cell
  have hnodup : cells.Nodup := List.Nodup.map l.cell_injective (List.nodup_finRange 3)
  have hall : cells.countP (fun c => g.get c == m) = cells.length := by
    rw [List.countP_eq_length]
    intro c hc
    obtain ⟨i, _, rfl⟩ := List.mem_map.1 hc
    exact beq_iff_eq.2 (h i)
  calc 3 = cells.countP fun c => g.get c == m := hall.symm
    _ ≤ g.count m := (List.Nodup.subperm hnodup fun c _ => Cell.mem_rowMajor c).countP_le _

namespace Session

variable {s next : Session} {made : List Submission} {id : SessionId} {players : Players}

/-- The two players of a session alternate: its accepted moves are `made`, one for each turn, and
the turn index shows whose turn it is after them. -/
structure InTurn (id : SessionId) (players : Players) (s : Session) (made : List Submission) :
    Prop where
  id_eq : s.id = id
  players_eq : s.players = players
  made_length : made.length = s.turnCount
  made_player : ∀ k (hk : k < made.length), made[k].player = players.onTurn k
  current_eq : s.current.val = s.turnCount % 2

/-- No move was made, and the first player is to begin. -/
theorem inTurn_start (id : SessionId) (players : Players) :
    InTurn id players (start id players) [] where
  id_eq := rfl
  players_eq := rfl
  made_length := rfl
  made_player k hk := absurd hk (Nat.not_lt_zero k)
  current_eq := rfl

/-- The turn index names the player of the next move. -/
theorem InTurn.currentPlayer_eq (h : InTurn id players s made) :
    s.currentPlayer = players.onTurn s.turnCount := by
  have hseat : s.current = ⟨s.turnCount % 2, Nat.mod_lt _ (by decide)⟩ := Fin.ext h.current_eq
  rw [currentPlayer, h.players_eq, hseat]
  rfl

/-- An accepted move is made by the player whose turn it is, and then it is the other one's. -/
theorem InTurn.submit {m : Submission} (h : InTurn id players s made) (hm : s.submit m = .ok next) :
    InTurn id players next (made ++ [m]) := by
  obtain ⟨c, mark, hadmits, rfl⟩ := submit_eq_ok_iff.1 hm
  have hplayer : m.player = players.onTurn made.length := by
    rw [h.made_length, ← h.currentPlayer_eq]
    exact hadmits.is_turn.symm
  refine ⟨h.id_eq, h.players_eq, ?_, fun k hk => ?_, ?_⟩
  · show (made ++ [m]).length = s.turnCount + 1
    rw [List.length_append, h.made_length]
    rfl
  · rw [List.length_append, List.length_singleton] at hk
    rcases Nat.lt_succ_iff_lt_or_eq.1 hk with hbefore | rfl
    · rw [List.getElem_append_left hbefore]
      exact h.made_player k hbefore
    · rw [List.getElem_concat_length rfl]
      exact hplayer
  · show (s.current + 1).val = (s.turnCount + 1) % 2
    rw [Fin.val_add, h.current_eq]
    exact (Nat.add_mod _ _ _).symm

/-- After any submitted moves those that were accepted alternate. -/
theorem inTurn_play (id : SessionId) (players : Players) (moves : List Submission) :
    InTurn id players ((start id players).play moves) ((start id players).accepted moves) :=
  play_induction (inTurn_start id players) InTurn.submit moves

/-- The first player has made every other move, beginning with the first one, and the second player
the rest. -/
structure Balanced (s : Session) : Prop where
  first : s.grid.count .first = (s.turnCount + 1) / 2
  second : s.grid.count .second = s.turnCount / 2

/-- Nobody has a mark on the blank grid. -/
theorem balanced_start (id : SessionId) (players : Players) : (start id players).Balanced := by
  have hfirst : Grid.blank.count .first = (0 + 1) / 2 := by decide
  have hsecond : Grid.blank.count .second = 0 / 2 := by decide
  exact ⟨hfirst, hsecond⟩

/-- An accepted move adds a mark of the player whose turn it is. -/
theorem Balanced.submit {m : Submission} (h : s.Balanced) (hturn : InTurn id players s made)
    (hdistinct : players.first ≠ players.second) (hm : s.submit m = .ok next) : next.Balanced := by
  obtain ⟨c, mark, hadmits, rfl⟩ := submit_eq_ok_iff.1 hm
  have hmark : mark = if s.turnCount % 2 = 0 then .first else .second := by
    have hseated := hadmits.is_seated
    rw [← hadmits.is_turn, hturn.currentPlayer_eq, markOf?, hturn.players_eq,
      Players.markOf?_onTurn hdistinct] at hseated
    exact (Option.some.inj hseated).symm
  -- The cell was free, so nobody loses a mark.
  have hcount (k : Mark) (hk : .empty ≠ k) : (s.grid.set c mark).count k =
      s.grid.count k + if mark = k then 1 else 0 := by
    have hset := s.grid.count_set c mark k
    rwa [hadmits.is_free, if_neg hk] at hset
  have hfirst := hcount .first nofun
  have hsecond := hcount .second nofun
  rw [h.first] at hfirst
  rw [h.second] at hsecond
  refine ⟨hfirst.trans ?_, hsecond.trans ?_⟩
  · show _ = (s.turnCount + 1 + 1) / 2
    by_cases heven : s.turnCount % 2 = 0
    · rw [hmark, if_pos heven, if_pos rfl]
      omega
    · rw [hmark, if_neg heven, if_neg nofun]
      omega
  · show _ = (s.turnCount + 1) / 2
    by_cases heven : s.turnCount % 2 = 0
    · rw [hmark, if_pos heven, if_neg nofun]
      omega
    · rw [hmark, if_neg heven, if_pos rfl]
      omega

/-- After any submitted moves of two different players the marks are in balance. -/
theorem balanced_play (id : SessionId) (hdistinct : players.first ≠ players.second)
    (moves : List Submission) : ((start id players).play moves).Balanced :=
  (play_induction (P := fun s made => InTurn id players s made ∧ s.Balanced)
    ⟨inTurn_start id players, balanced_start id players⟩
    (fun h hm => ⟨h.1.submit hm, h.2.submit h.1 hdistinct hm⟩) moves).2

/-- Three marks of the player of the last move take five moves. -/
theorem Balanced.five_le (h : s.Balanced) {k : Nat} {mark : Mark}
    (hlast : s.turnCount = k + 1) (hmark : mark = if k % 2 = 0 then .first else .second)
    (hthree : 3 ≤ s.grid.count mark) : 5 ≤ s.turnCount := by
  have hfirst := h.first
  have hsecond := h.second
  obtain heven | hodd := Nat.mod_two_eq_zero_or_one k
  · rw [hmark, if_pos heven] at hthree
    omega
  · rw [hmark, if_neg (by omega)] at hthree
    omega

/-- The clock reading of the last accepted move is kept. -/
theorem lastMoveAt_play (id : SessionId) (players : Players) (moves : List Submission) :
    ((start id players).play moves).lastMoveAt =
      (((start id players).accepted moves).getLast?.map Submission.now).getD 0 := by
  apply play_induction
    (P := fun s made => s.lastMoveAt = (made.getLast?.map Submission.now).getD 0)
  · rfl
  · intro t before m next _ hm
    obtain ⟨c, mark, _, rfl⟩ := submit_eq_ok_iff.1 hm
    rw [List.getLast?_concat]
    rfl

/-- A cell that is taken keeps its mark, whatever is submitted. -/
theorem get_after {c : Cell} (htaken : s.grid.get c ≠ .empty) (m : Submission) :
    (s.after m).grid.get c = s.grid.get c := by
  unfold after
  split
  · next hm =>
    obtain ⟨d, mark, hadmits, rfl⟩ := submit_eq_ok_iff.1 hm
    have hother : d ≠ c := fun h => htaken (h ▸ hadmits.is_free)
    exact (Grid.get_set _ _ _ _).trans (if_neg hother)
  · rfl

/-- A cell in which somebody has played stays as it is, whatever moves follow. -/
theorem get_play {c : Cell} (htaken : s.grid.get c ≠ .empty) (moves : List Submission) :
    (s.play moves).grid.get c = s.grid.get c := by
  induction moves generalizing s with
  | nil => rfl
  | cons m rest ih =>
      have hm := get_after htaken m
      exact (ih (hm ▸ htaken)).trans hm

/-- The last accepted move was made by the player of the turn before. -/
theorem InTurn.player_getLast? (h : InTurn id players s made) {last : Submission}
    (hlast : made.getLast? = some last) :
    0 < s.turnCount ∧ last.player = players.onTurn (s.turnCount - 1) := by
  rw [List.getLast?_eq_getElem?, List.getElem?_eq_some_iff] at hlast
  obtain ⟨hlt, rfl⟩ := hlast
  rw [h.made_player _ hlt, ← h.made_length]
  exact ⟨by omega, rfl⟩

/-- If the clock only shows times after zero, the time zero stands for no move at all. -/
theorem InTurn.lastMoveAt_eq_zero_iff (h : InTurn id players s made)
    (htime : s.lastMoveAt = (made.getLast?.map Submission.now).getD 0)
    (hclock : ∀ m ∈ made, 0 < m.now) : s.lastMoveAt = 0 ↔ s.turnCount = 0 := by
  rw [htime, ← h.made_length, List.length_eq_zero_iff]
  cases hlast : made.getLast? with
  | none => exact iff_of_true rfl (List.getLast?_eq_none_iff.1 hlast)
  | some last =>
      have hpos := hclock last (List.mem_of_getLast? hlast)
      refine iff_of_false (fun hzero => ?_) (fun hempty => ?_)
      · have hnow : last.now = 0 := hzero
        rw [hnow] at hpos
        exact Int64.lt_irrefl hpos
      · rw [hempty] at hlast
        cases hlast

/-- A result is the verdict on the board after the last move. -/
theorem Judged.exists_last (h : s.Judged made) {outcome : Outcome}
    (hsome : s.outcome = some outcome) :
    ∃ last, made.getLast? = some last ∧ s.grid.verdict last.player = some outcome := by
  cases hlast : made.getLast? with
  | none =>
      have hnone := (h.at_start (List.getLast?_eq_none_iff.1 hlast)).1
      cases hnone.symm.trans hsome
  | some last => exact ⟨last, rfl, (h.by_last last hlast).1.symm.trans hsome⟩

/-- A winner made the last move and has a line of marks. -/
theorem Judged.of_win (h : s.Judged made) {player : PlayerId} {lines : List WinningLine}
    (hwin : s.outcome = some (.win player lines)) :
    ∃ last mark, made.getLast? = some last ∧ last.player = player ∧
      s.markOf? player = some mark ∧ 3 ≤ s.grid.count mark := by
  obtain ⟨last, hlast, hverdict⟩ := h.exists_last hwin
  obtain ⟨rfl, l, hcomplete⟩ := Grid.of_verdict_eq_win hverdict
  obtain ⟨_, mark, hmark, hlines⟩ := h.by_last last hlast
  exact ⟨last, mark, hlast, rfl, hmark, (hlines l hcomplete).three_le_count⟩

/-- The board of a draw is full. -/
theorem Judged.of_draw (h : s.Judged made) (hdraw : s.outcome = some .draw) : s.grid.Full := by
  obtain ⟨last, _, hverdict⟩ := h.exists_last hdraw
  exact (Grid.verdict_eq_draw_iff.1 hverdict).2

/-- While the game goes on there is a free cell. -/
theorem Judged.not_full (h : s.Judged made) (hnone : s.outcome = none) : ¬ s.grid.Full := by
  cases hlast : made.getLast? with
  | none => exact (h.at_start (List.getLast?_eq_none_iff.1 hlast)).2
  | some last =>
      have hverdict := (h.by_last last hlast).1.symm.trans hnone
      exact (Grid.verdict_eq_none_iff.1 hverdict).2

/-- What holds of a session of these players after the accepted moves `made`. -/
structure Orderly (id : SessionId) (players : Players) (s : Session) (made : List Submission) :
    Prop extends InTurn id players s made, Balanced s where
  taken_eq : s.grid.taken = s.turnCount
  turnCount_le : s.turnCount ≤ 9
  expected_eq : s.expectedMoveId.value.toNat = s.turnCount
  /-- The time zero stands for no move, provided that the clock never shows it nor a time before. -/
  lastMoveAt_eq_zero_iff : (∀ m ∈ made, 0 < m.now) → (s.lastMoveAt = 0 ↔ s.turnCount = 0)
  of_win : ∀ player lines, s.outcome = some (.win player lines) →
    5 ≤ s.turnCount ∧ s.turnCount ≤ 9 ∧ player = players.onTurn (s.turnCount - 1)
  of_draw : s.outcome = some .draw → s.turnCount = 9
  activePlayer?_eq_none_iff : s.activePlayer? = none ↔ ∃ outcome, s.outcome = some outcome
  activePlayer?_eq : s.outcome = none → s.activePlayer? = some (players.onTurn s.turnCount)

/-- Whatever moves are submitted to a new game of two distinct players, by whomever: the session
after them is orderly, and it has kept every mark that was on the board before the last of them. -/
theorem orderly_play (id : SessionId) (players : Players)
    (hdistinct : players.first ≠ players.second) (moves : List Submission) :
    let s := (start id players).play moves
    Orderly id players s ((start id players).accepted moves) ∧
    ∀ earlier, earlier <+: moves → ∀ c, ((start id players).play earlier).grid.get c ≠ .empty →
      s.grid.get c = ((start id players).play earlier).grid.get c := by
  intro s
  let made := (start id players).accepted moves
  have hreached : s.Reached := ⟨id, players, moves, rfl⟩
  have hturn : InTurn id players s made := inTurn_play id players moves
  have hbalanced : s.Balanced := balanced_play id hdistinct moves
  have hjudged : s.Judged made := judged_play id players moves
  have hfree := hreached.turnCount_add_free
  have htaken := s.grid.count_empty_add_taken
  refine ⟨⟨hturn, hbalanced, by omega, hreached.turnCount_le, hreached.expectedMoveId_toNat,
    fun hclock => ?_, fun player lines hwin => ?_, fun hdraw => ?_, ?_, fun hnone => ?_⟩,
    fun earlier hearlier c hc => ?_⟩
  · exact hturn.lastMoveAt_eq_zero_iff (lastMoveAt_play id players moves) hclock
  · obtain ⟨last, mark, hlast, rfl, hmark, hthree⟩ := hjudged.of_win hwin
    obtain ⟨hpos, hplayer⟩ := hturn.player_getLast? hlast
    rw [markOf?, hturn.players_eq, hplayer, Players.markOf?_onTurn hdistinct] at hmark
    have hfive := hbalanced.five_le (Nat.succ_pred_eq_of_pos hpos).symm
      (Option.some.inj hmark).symm hthree
    exact ⟨hfive, hreached.turnCount_le, hplayer⟩
  · have hempty := (hjudged.of_draw hdraw).count_empty
    omega
  · cases houtcome : s.outcome with
    | none => simp [activePlayer?, isFinished, houtcome]
    | some outcome => simp [activePlayer?, isFinished, houtcome]
  · exact activePlayer?_eq_some_iff.2 ⟨hnone, hturn.currentPlayer_eq⟩
  · obtain ⟨rest, rfl⟩ := hearlier
    have hplay : s = ((start id players).play earlier).play rest := List.foldl_append
    rw [hplay]
    exact get_play hc rest

/-- A game that the first player wins with the fifth move, after a move out of turn and one to a
cell that is taken. -/
def shortGame : List Submission :=
  [⟨1, ⟨"ann"⟩, ⟨0⟩, 0, 0⟩, ⟨2, ⟨"ann"⟩, ⟨1⟩, 0, 1⟩, ⟨3, ⟨"bob"⟩, ⟨1⟩, 1, 1⟩,
    ⟨4, ⟨"ann"⟩, ⟨2⟩, 1, 1⟩, ⟨5, ⟨"ann"⟩, ⟨2⟩, 0, 1⟩, ⟨6, ⟨"bob"⟩, ⟨3⟩, 2, 2⟩,
    ⟨7, ⟨"ann"⟩, ⟨4⟩, 0, 2⟩]

/-- Five of seven moves are accepted, and the last one completes the first column. -/
theorem orderly_play_short :
    let players : Players := ⟨⟨"ann"⟩, ⟨"bob"⟩⟩
    let s := (start ⟨"g"⟩ players).play shortGame
    players.first ≠ players.second ∧ s.outcome = some (.win ⟨"ann"⟩ [⟨.column, 0⟩]) ∧
      s.turnCount = 5 ∧ Orderly ⟨"g"⟩ players s ((start ⟨"g"⟩ players).accepted shortGame) := by
  intro players s
  have hdistinct : players.first ≠ players.second := by decide
  exact ⟨hdistinct, by decide, by decide, (orderly_play ⟨"g"⟩ players hdistinct shortGame).1⟩

end Session

end Noughts

import Noughts.Proofs.Registry.Run

/-!
# Calls that commit nothing

`World.history` lists the calls of a run with the world before each of them and its reply. An entry
is idle, `Entry.isIdle`, if its reply says that nothing was committed: a failure, a refusal, the
outcome of a session that was over before, or a session that was read.

`World.kept` deletes the idle calls from a run. `World.history_kept` says that nobody can tell: the
shorter run has the history of the longer one without its idle entries, and ends in the same world.
-/

namespace Noughts

/-- A call of a run, the world before it and its reply. -/
structure Entry where
  before : World
  call : Call
  reply : Except RegistryError Reply

/-- Whether the call is a turn of a session that was over before. -/
def Entry.wasOver (e : Entry) : Bool :=
  match e.call.operation with
  | .turn _ request => (e.before.registry.find? request.sessionId).any Session.isFinished
  | _ => false

/-- Whether the reply says that nothing was committed. -/
def Entry.isIdle (e : Entry) : Bool :=
  match e.reply with
  | .error _ => true
  | .ok (.session _) => true
  | .ok (.created _) => false
  | .ok (.turn (.accepted _ _ _)) => false
  | .ok (.turn (.finished _)) => e.wasOver
  | .ok (.turn .invalidMove) => true
  | .ok (.turn .notActivePlayer) => true
  | .ok (.turn .invalidMoveId) => true

namespace World

/-- A call made in a world, as an entry of a history. -/
def entry (w : World) (c : Call) : Entry := ⟨w, c, (w.perform c).1⟩

/-- The entries of a list of calls made one after another. -/
def history : World → List Call → List Entry
  | _, [] => []
  | w, c :: rest => w.entry c :: (w.after c).history rest

/-- The calls that are left after the idle ones are deleted. -/
def kept (w : World) (calls : List Call) : List Call :=
  ((w.history calls).filter fun e => !e.isIdle).map Entry.call

/-- The reply of a commit says so. -/
theorem isIdle_of_commits {w : World} {c : Call} {event : GameEvent} {session : Session}
    {reply : Reply} (h : Commits w.registry c.operation event session reply)
    (hreply : (w.perform c).1 = .ok reply) : (w.entry c).isIdle = false := by
  obtain ⟨operation, verdict⟩ := c
  unfold Entry.isIdle entry
  rw [hreply]
  cases h with
  | create hdistinct => rfl
  | turn hheld hmove =>
      -- The session was in progress, so even an outcome in the reply is the result of this move.
      obtain ⟨_, _, hadmits, _⟩ := Session.submit_eq_ok_iff.1 hmove
      cases houtcome : session.outcome with
      | none => simp only [Session.replyAfter, houtcome]
      | some outcome =>
          simp only [Session.replyAfter, houtcome, Entry.wasOver, hheld, Option.any_some,
            Session.isFinished, hadmits.in_progress, Option.isSome_none]

/-- A call that commits nothing leaves the registry and the log as they were. -/
theorem after_of_isIdle {w : World} {c : Call} (h : (w.entry c).isIdle = true) :
    w.after c = w := by
  rcases w.perform_cases c with hsame | ⟨event, session, reply, hcommits, hperform⟩
  · exact hsame
  · have hidle := isIdle_of_commits hcommits (congrArg Prod.fst hperform)
    rw [hidle] at h
    cases h

/-- A call that fails is idle. -/
theorem isIdle_of_error {w : World} {c : Call} {cause : RegistryError}
    (h : (w.perform c).1 = .error cause) : (w.entry c).isIdle = true := by
  unfold Entry.isIdle entry
  rw [h]

/-- Calls that are all idle end where they began. -/
theorem foldl_after_of_idle {w : World} {calls : List Call}
    (h : ∀ e ∈ w.history calls, e.isIdle = true) : calls.foldl after w = w := by
  induction calls with
  | nil => rfl
  | cons c rest ih =>
      have hafter : w.after c = w := after_of_isIdle (h _ List.mem_cons_self)
      rw [history, hafter] at h
      rw [List.foldl_cons, hafter]
      exact ih fun e he => h e (List.mem_cons_of_mem _ he)

/-- An idle call at the head of a run is deleted, and the run goes on in the same world. -/
theorem kept_cons_of_idle {w : World} {c : Call} (rest : List Call)
    (h : (w.entry c).isIdle = true) : w.kept (c :: rest) = w.kept rest := by
  rw [kept, history, after_of_isIdle h, List.filter_cons_of_neg (by simp [h])]
  rfl

/-- A call at the head of a run that is not idle is kept, and the run goes on behind it. -/
theorem kept_cons_of_not_idle {w : World} {c : Call} (rest : List Call)
    (h : (w.entry c).isIdle = false) : w.kept (c :: rest) = c :: (w.after c).kept rest := by
  rw [kept, history, List.filter_cons_of_pos (by simp [h])]
  rfl

/-- Deleting the idle calls deletes their entries from the history and changes no other, neither its
reply nor the world in which it was made. -/
theorem history_kept (w : World) (calls : List Call) :
    w.history (w.kept calls) = (w.history calls).filter fun e => !e.isIdle := by
  induction calls generalizing w with
  | nil => rfl
  | cons c rest ih =>
      cases hidle : (w.entry c).isIdle with
      | true =>
          rw [kept_cons_of_idle rest hidle, history, after_of_isIdle hidle,
            List.filter_cons_of_neg (by simp [hidle])]
          exact ih w
      | false =>
          rw [kept_cons_of_not_idle rest hidle, history, history,
            List.filter_cons_of_pos (by simp [hidle]), ih (w.after c)]

/-- Deleting the idle calls does not change the world in the end. -/
theorem foldl_after_kept (w : World) (calls : List Call) :
    (w.kept calls).foldl after w = calls.foldl after w := by
  induction calls generalizing w with
  | nil => rfl
  | cons c rest ih =>
      cases hidle : (w.entry c).isIdle with
      | true =>
          rw [kept_cons_of_idle rest hidle, List.foldl_cons, after_of_isIdle hidle]
          exact ih w
      | false =>
          rw [kept_cons_of_not_idle rest hidle, List.foldl_cons, List.foldl_cons]
          exact ih (w.after c)

/-- Calls that commit nothing are invisible. Without them a run, from any world, ends with the same
registry and the same published events, and every other call is made in the same world and gets the
same reply. In particular a call whose publish failed leaves everything as it was; every later call
gets the reply that it would have got without the failed one, and as long as nothing is committed
in between this is the reply to the same call made at once. -/
theorem idle_calls_invisible (w : World) (calls : List Call) :
    (w.kept calls).foldl after w = calls.foldl after w ∧
    w.history (w.kept calls) = (w.history calls).filter (fun e => !e.isIdle) ∧
    ∀ failed cause, (w.perform failed).1 = .error (.publish cause) →
      w.after failed = w ∧
      ∀ between again,
        (((failed :: between).foldl after w).perform again).1 =
          ((between.foldl after w).perform again).1 ∧
        ((∀ e ∈ (w.after failed).history between, e.isIdle = true) →
          (((failed :: between).foldl after w).perform again).1 = (w.perform again).1) := by
  refine ⟨foldl_after_kept w calls, history_kept w calls, fun failed cause hfailed => ?_⟩
  have hafter : w.after failed = w := after_of_isIdle (isIdle_of_error hfailed)
  refine ⟨hafter, fun between again => ?_⟩
  rw [List.foldl_cons, hafter]
  refine ⟨rfl, fun hidle => ?_⟩
  rw [foldl_after_of_idle hidle]

/-- A creation that is repeated after its publish failed. -/
theorem idle_calls_invisible_stalled :
    let cause : PublishError := ⟨.stalled, ⟨"outbox", 1⟩⟩
    let failed : Call := ⟨.create ⟨"g"⟩ 1 [⟨"ann"⟩, ⟨"bob"⟩], .error cause⟩
    let again : Call := ⟨failed.operation, .ok ()⟩
    start.kept [failed, again] = [again] ∧
      (start.perform failed).1 = .error (.publish cause) ∧
      ([failed, again].foldl after start).log.length = 1 ∧
      ((start.after failed).perform again).1 = (start.perform again).1 := by
  intro cause failed again
  have hfailed : (start.perform failed).1 = .error (.publish cause) := rfl
  obtain ⟨_, _, hinvisible⟩ := idle_calls_invisible start [failed, again]
  exact ⟨rfl, hfailed, rfl, ((hinvisible failed _ hfailed).2 [] again).1⟩

end World

end Noughts

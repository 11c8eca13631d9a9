import Noughts.Proofs.Service.Transport

/-!
# The request loop with a log

The request loop does not look into its monad. So if the surroundings of two loops are related, and
the relation is kept when steps are put together, the loops are related: `StepRelation.serve`. This
is used for two kinds of surroundings. `Surroundings.onFirst` leaves room beside the state for
anything else, and nothing else changes. `Surroundings.recording` keeps a log of the accepted events
there, and the loop does the same and logs something besides.

`Keeps env write I` says that the invariant `I`, on the registry, the surroundings and the log, is
kept by each thing that the loop does outside. Then the whole loop keeps it: `Keeps.serve`.
-/

namespace Noughts

/-! ## Related loops -/

/-- A relation between the steps of two monads that is kept when steps are put together. -/
structure StepRelation (m n : Type → Type) [Monad m] [Monad n] where
  Rel {α : Type} : m α → n α → Prop
  pure {α : Type} (a : α) : Rel (Pure.pure a) (Pure.pure a)
  bind {α β : Type} {x : m α} {y : n α} {f : α → m β} {g : α → n β} (hfirst : Rel x y)
    (hrest : ∀ a, Rel (f a) (g a)) : Rel (x >>= f) (y >>= g)

namespace StepRelation

variable {m n : Type → Type} [Monad m] [Monad n] (R : StepRelation m n)

/-- Surroundings that give related steps. -/
structure Surround (env : Surroundings m) (other : Surroundings n) : Prop where
  clock : R.Rel env.clock other.clock
  freshId : R.Rel env.freshId other.freshId
  publish (event : GameEvent) : R.Rel (env.publish event) (other.publish event)
  describe_eq : env.describe = other.describe

variable {R} {env : Surroundings m} {other : Surroundings n} (h : R.Surround env other)

include h

/-- Transitions are settled alike. -/
theorem settle {ρ : Type} (r : Registry) (t : Transition ρ) :
    R.Rel (r.settle env.publish t) (r.settle other.publish t) := by
  cases t with
  | answer result => exact R.pure _
  | commit event session reply =>
      refine R.bind (h.publish event) fun verdict => ?_
      cases verdict <;> exact R.pure _

/-- Sessions are created alike. -/
theorem createSession (r : Registry) (playerIds : List PlayerId) :
    R.Rel (r.createSession env.publish env.freshId env.now playerIds)
      (r.createSession other.publish other.freshId other.now playerIds) := by
  unfold Registry.createSession
  cases Registry.twoPlayers playerIds with
  | error cause => exact R.pure _
  | ok players =>
      have hnow : R.Rel env.now other.now := R.bind h.clock fun _ => R.pure _
      exact R.bind h.freshId fun id => R.bind hnow fun time => settle h r _

/-- Requests are answered alike. -/
theorem dispatch (r : Registry) (request : Request) :
    R.Rel (r.dispatch env request) (r.dispatch other request) := by
  cases request with
  | createSession playerIds =>
      rw [Registry.dispatch_createSession, Registry.dispatch_createSession]
      exact R.bind (createSession h r playerIds) fun _ => R.pure _
  | applyTurn sessionId playerId moveId x y =>
      rw [Registry.dispatch_applyTurn, Registry.dispatch_applyTurn]
      exact R.bind h.clock fun clock => R.bind (settle h r _) fun _ => R.pure _
  | getSession id =>
      simp only [Registry.dispatch]
      cases r.find? id <;> exact R.pure _

/-- Lines are answered alike. -/
theorem handleLine (r : Registry) (line : String) :
    R.Rel (r.handleLine env line) (r.handleLine other line) := by
  unfold Registry.handleLine
  split
  · exact dispatch h r _
  · rw [h.describe_eq]
    exact R.pure _

variable {write : String → m (Except String Unit)} {otherWrite : String → n (Except String Unit)}
  (hwrite : ∀ line, R.Rel (write line) (otherWrite line))

include hwrite

/-- Lines are served alike, one after the other. -/
theorem serveLines (handled : Nat) (r : Registry) (lines : List (List UInt8)) :
    R.Rel (r.serveLines env write handled lines) (r.serveLines other otherWrite handled lines) := by
  induction lines generalizing handled r with
  | nil => exact R.pure _
  | cons line lines ih =>
      rw [Registry.serveLines, Registry.serveLines]
      cases String.fromUTF8? ⟨line.toArray⟩ with
      | none => exact R.pure _
      | some text =>
          cases hblank : Text.isBlankText text with
          | true =>
              simp only [hblank, if_true]
              exact ih handled r
          | false =>
              simp only [hblank, Bool.false_eq_true, if_false]
              refine R.bind (handleLine h r text) fun answered => ?_
              refine R.bind (hwrite _) fun written => ?_
              cases written with
              | error reason => exact R.pure _
              | ok => exact ih (handled + 1) answered.2

/-- Inputs are served alike. -/
theorem serve (r : Registry) (input : List UInt8) :
    R.Rel (r.serve env write input) (r.serve other otherWrite input) :=
  serveLines h hwrite 0 r _

end StepRelation

/-! ## Room beside a state, and a log -/

section

variable {σ ω : Type}

/-- A step on the first part of a state. -/
def onFirst {α : Type} (x : StateM σ α) : StateM (σ × ω) α := fun (s, other) =>
  let (a, s) := x s
  (a, s, other)

/-- Surroundings that leave the second part of a state alone. -/
def Surroundings.onFirst (env : Surroundings (StateM σ)) : Surroundings (StateM (σ × ω)) where
  clock := Noughts.onFirst env.clock
  freshId := Noughts.onFirst env.freshId
  publish event := Noughts.onFirst (env.publish event)
  describe := env.describe

/-- Surroundings that keep a log of the events that were accepted. -/
def Surroundings.recording (env : Surroundings (StateM σ)) :
    Surroundings (StateM (σ × List GameEvent)) where
  clock := Noughts.onFirst env.clock
  freshId := Noughts.onFirst env.freshId
  publish := Operation.recording env.publish
  describe := env.describe

/-- One step does what the other one does, and leaves what stands beside the state alone. -/
def StepRelation.beside : StepRelation (StateM (σ × ω)) (StateM σ) where
  Rel x y := x = onFirst y
  pure _ := rfl
  bind {α β x y f g} hfirst hrest := by
    obtain rfl := hfirst
    obtain rfl := funext hrest
    rfl

/-- One step does what the other one does, and may log something besides. -/
def StepRelation.logging : StepRelation (StateM (σ × List GameEvent)) (StateM σ) where
  Rel x y := ∀ s log, ∃ more, x (s, log) = ((y s).1, (y s).2, log ++ more)
  pure _ := fun _ log => ⟨[], by rw [List.append_nil]; rfl⟩
  bind {α β x y f g} hfirst hrest := by
    intro s log
    obtain ⟨more, hx⟩ := hfirst s log
    obtain ⟨yetMore, hf⟩ := hrest (y s).1 (y s).2 (log ++ more)
    refine ⟨more ++ yetMore, ?_⟩
    show f (x (s, log)).1 (x (s, log)).2 = _
    rw [hx, hf, List.append_assoc]
    rfl

/-- A step beside the log logs nothing. -/
theorem StepRelation.logging_onFirst {α : Type} (x : StateM σ α) :
    logging.Rel (Noughts.onFirst x) x :=
  fun _ log => ⟨[], by rw [List.append_nil]; rfl⟩

namespace Surroundings

variable (env : Surroundings (StateM σ))

/-- Surroundings with room beside them do what they do without. -/
theorem beside_onFirst : StepRelation.beside.Surround (env.onFirst (ω := ω)) env where
  clock := rfl
  freshId := rfl
  publish _ := rfl
  describe_eq := rfl

/-- Surroundings with a log do what they do without, and log what was accepted. -/
theorem logging_recording : StepRelation.logging.Surround env.recording env where
  clock := StepRelation.logging_onFirst env.clock
  freshId := StepRelation.logging_onFirst env.freshId
  publish event := by
    intro s log
    simp only [recording, Operation.recording]
    rcases env.publish event s with ⟨⟨cause⟩ | ⟨⟨⟩⟩, next⟩
    · exact ⟨[], by rw [List.append_nil]⟩
    · exact ⟨[event], rfl⟩
  describe_eq := rfl

end Surroundings

/-- A line is answered without regard to what stands beside the surroundings. -/
theorem Registry.handleLine_onFirst (env : Surroundings (StateM σ)) (r : Registry) (line : String) :
    r.handleLine (env.onFirst (ω := ω)) line = Noughts.onFirst (r.handleLine env line) :=
  StepRelation.handleLine env.beside_onFirst r line

/-- Serving an input with a log is serving it. -/
theorem Registry.logging_serve (env : Surroundings (StateM σ))
    (write : String → StateM σ (Except String Unit)) (r : Registry) (input : List UInt8) :
    StepRelation.logging.Rel
      (r.serve env.recording (fun line => Noughts.onFirst (write line)) input)
      (r.serve env write input) :=
  StepRelation.serve env.logging_recording (fun _ => StepRelation.logging_onFirst _) r input

end

/-! ## Invariants of the loop -/

/-- The invariant `I` is kept by a look at the clock, by a new identifier, by a publication, after
which the registry holds the new session if the event was accepted, and by writing a line. -/
structure Keeps {σ : Type} (env : Surroundings (StateM σ))
    (write : String → StateM σ (Except String Unit))
    (I : Registry → σ → List GameEvent → Prop) : Prop where
  clock {r : Registry} {s : σ} {log : List GameEvent} (h : I r s log) : I r (env.clock s).2 log
  freshId {r : Registry} {s : σ} {log : List GameEvent} (h : I r s log) : I r (env.freshId s).2 log
  accepted {r : Registry} {s next : σ} {log : List GameEvent} {op : Operation} {event : GameEvent}
    {session : Session} {reply : Reply} (h : I r s log)
    (hcommits : Commits r op event session reply)
    (hpublish : env.publish event s = (.ok (), next)) : I (r.put session) next (log ++ [event])
  refused {r : Registry} {s next : σ} {log : List GameEvent} {event : GameEvent}
    {cause : PublishError} (h : I r s log) (hpublish : env.publish event s = (.error cause, next)) :
    I r next log
  write {r : Registry} {s : σ} {log : List GameEvent} (h : I r s log) (line : String) :
    I r (write line s).2 log

/-- The invariant holds after a step that ends with a registry. -/
def HoldsAfter {σ α : Type} (I : Registry → σ → List GameEvent → Prop)
    (x : StateM (σ × List GameEvent) (α × Registry)) (s : σ) (log : List GameEvent) : Prop :=
  I (x (s, log)).1.2 (x (s, log)).2.1 (x (s, log)).2.2

/-- The invariant holds after two steps if the second one keeps it. -/
theorem HoldsAfter.bind {σ α β : Type} {I : Registry → σ → List GameEvent → Prop}
    {x : StateM (σ × List GameEvent) (α × Registry)}
    {f : α × Registry → StateM (σ × List GameEvent) (β × Registry)} {s : σ} {log : List GameEvent}
    (h : HoldsAfter I x s log)
    (hrest : ∀ a r next more, I r next more → HoldsAfter I (f (a, r)) next more) :
    HoldsAfter I (x >>= f) s log :=
  hrest _ _ _ _ h

namespace Keeps

variable {σ : Type} {env : Surroundings (StateM σ)}
  {write : String → StateM σ (Except String Unit)} {I : Registry → σ → List GameEvent → Prop}
  {r : Registry} {s : σ} {log : List GameEvent}

/-- Settling a transition keeps the invariant. -/
theorem settle {ρ : Type} (h : Keeps env write I) (hI : I r s log) {t : Transition ρ}
    (hcommits : ∀ event session reply, t = .commit event session reply →
      ∃ op reply, Commits r op event session reply) :
    HoldsAfter I (r.settle env.recording.publish t) s log := by
  cases t with
  | answer result => exact hI
  | commit event session reply =>
      obtain ⟨op, _, hcommits⟩ := hcommits event session reply rfl
      simp only [HoldsAfter, Registry.settle, Surroundings.recording, Operation.recording, bind,
        StateT.bind]
      rcases hpublish : env.publish event s with ⟨⟨cause⟩ | ⟨⟨⟩⟩, next⟩
      · exact h.refused hI hpublish
      · exact h.accepted hI hcommits hpublish

/-- Creating a session keeps the invariant. -/
theorem createSession (h : Keeps env write I) (hI : I r s log) (playerIds : List PlayerId) :
    HoldsAfter I (r.createSession env.recording.publish env.recording.freshId env.recording.now
      playerIds) s log := by
  unfold Registry.createSession
  cases hplayers : Registry.twoPlayers playerIds with
  | error cause => exact hI
  | ok players =>
      exact h.settle (h.clock (h.freshId hI)) fun event session reply hplan =>
        ⟨_, _, Operation.commits_of_planCreate hplayers hplan⟩

/-- Answering a request keeps the invariant. -/
theorem dispatch (h : Keeps env write I) (hI : I r s log) (request : Request) :
    HoldsAfter I (r.dispatch env.recording request) s log := by
  cases request with
  | createSession playerIds =>
      rw [Registry.dispatch_createSession]
      exact h.createSession hI playerIds
  | applyTurn sessionId playerId moveId x y =>
      rw [Registry.dispatch_applyTurn]
      exact h.settle (h.clock hI) fun event session reply hplan =>
        ⟨_, _, Operation.commits_of_planTurn hplan⟩
  | getSession id =>
      simp only [Registry.dispatch]
      cases r.find? id <;> exact hI

/-- Answering a line keeps the invariant. -/
theorem handleLine (h : Keeps env write I) (hI : I r s log) (line : String) :
    HoldsAfter I (r.handleLine env.recording line) s log := by
  unfold Registry.handleLine
  split
  · exact h.dispatch hI _
  · exact hI

/-- Answering lines one after the other keeps the invariant. -/
theorem serveLines (h : Keeps env write I) (hI : I r s log) (handled : Nat)
    (lines : List (List UInt8)) :
    HoldsAfter I (Registry.serveLines env.recording (fun line => onFirst (write line)) handled r
      lines) s log := by
  induction lines generalizing handled r s log with
  | nil => exact hI
  | cons line lines ih =>
      rw [Registry.serveLines]
      cases String.fromUTF8? ⟨line.toArray⟩ with
      | none => exact hI
      | some text =>
          cases hblank : Text.isBlankText text with
          | true =>
              simp only [hblank, if_true]
              exact ih hI handled
          | false =>
              simp only [hblank, Bool.false_eq_true, if_false]
              refine (h.handleLine hI text).bind fun response next after more hI => ?_
              have hwritten := h.write hI (wireText response ++ "\n")
              simp only [HoldsAfter, bind, StateT.bind, onFirst]
              rcases hwrite : write (wireText response ++ "\n") after with
                ⟨⟨reason⟩ | ⟨⟨⟩⟩, last⟩ <;> rw [hwrite] at hwritten
              · exact hwritten
              · exact ih hwritten (handled + 1)

/-- The whole loop keeps an invariant that each of its steps outside keeps. -/
theorem serve (h : Keeps env write I) (hI : I r s log) (input : List UInt8) :
    HoldsAfter I (r.serve env.recording (fun line => onFirst (write line)) input) s log :=
  h.serveLines hI 0 _

end Keeps

end Noughts

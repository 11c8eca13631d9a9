import Noughts.Proofs.Journal.Pieces

/-!
# A journal that never fails is read back

A writer is `Reliable` in the states that are `ready` if there it takes all bytes it is given, lets
itself be flushed, and stays ready. Publications to it all succeed, and each adds one whole line.

The line of an event has no line feed in it and is read back as the envelope of the event, so what
has been published can be read off the text: `Writer.journal_read_back`. This needs that the text
did not end in the middle of a line before, since what was begun there would be joined to the first
line.
-/

namespace Noughts

namespace Writer

/-- A writer onto a text that never fails once it is ready. -/
structure Reliable {σ : Type} (w : Writer (StateM σ)) (text : σ → List UInt8) (ready : σ → Prop) :
    Prop where
  write {s : σ} (h : ready s) (bytes : List UInt8) :
    ∃ next, w.write bytes s = (.ok (), next) ∧ ready next ∧ text next = text s ++ bytes
  flush {s : σ} (h : ready s) :
    ∃ next, w.flush s = (.ok (), next) ∧ ready next ∧ text next = text s

/-- What is written for events that are published one after the other. -/
def journalText (topic : String) (events : List GameEvent) : List UInt8 :=
  terminated (events.map fun event => event.envelopeBytes topic)

/-- The first event is written first. -/
theorem journalText_cons (topic : String) (event : GameEvent) (rest : List GameEvent) :
    journalText topic (event :: rest) =
      event.envelopeBytes topic ++ [0x0a] ++ journalText topic rest := by
  rw [journalText, List.map_cons, terminated_cons, List.append_assoc]
  rfl

namespace Reliable

variable {σ : Type} {w : Writer (StateM σ)} {text : σ → List UInt8} {ready : σ → Prop}

/-- A publication adds the line of its event. -/
theorem publish (hw : w.Reliable text ready) (sites : Sites) (topic : String) (event : GameEvent)
    {s : σ} (h : ready s) :
    ∃ next, w.publisher sites topic event s = (.ok (), next) ∧ ready next ∧
      text next = text s ++ (event.envelopeBytes topic ++ [0x0a]) := by
  obtain ⟨between, hwrite, hbetween, hwritten⟩ := hw.write h (utf8Bytes (event.journalLine topic))
  obtain ⟨next, hflush, hnext, hflushed⟩ := hw.flush hbetween
  refine ⟨next, ?_, hnext, ?_⟩
  · simp only [publisher, bind, StateT.bind, hwrite, hflush]
    rfl
  · rw [hflushed, hwritten, event.utf8Bytes_journalLine]

/-- Publications all succeed and add the lines of their events. -/
theorem publishAll (hw : w.Reliable text ready) (sites : Sites) (topic : String)
    (events : List GameEvent) {s : σ} (h : ready s) :
    ∃ last, w.publishAll sites topic events s = (events.map fun _ => .ok (), last) ∧ ready last ∧
      text last = text s ++ journalText topic events := by
  induction events generalizing s with
  | nil => exact ⟨s, rfl, h, (List.append_nil _).symm⟩
  | cons event rest ih =>
      obtain ⟨next, hpublish, hnext, htext⟩ := hw.publish sites topic event h
      obtain ⟨last, hrest, hlast, htexts⟩ := ih hnext
      refine ⟨last, ?_, hlast, ?_⟩
      · simp only [Writer.publishAll, bind, StateT.bind, hpublish, hrest]
        rfl
      · rw [htexts, htext, journalText_cons, List.append_assoc]

end Reliable

/-- The lines of events are those that the written text is split into. -/
theorem splitLines_journalText (topic : String) (events : List GameEvent) :
    splitLines (journalText topic events) =
      (events.map fun event => event.envelopeBytes topic) ++ [[]] :=
  splitLines_terminated (List.forall_mem_map.2 fun event _ =>
    event.newline_not_mem_envelopeBytes topic)

/-- What was published is read back from the lines that were written for it. -/
theorem lineEnvelopes_journalText (topic : String) (events : List GameEvent) :
    (finishedLines (journalText topic events)).map lineEnvelope? =
      events.map fun event => some (event.sealed topic) := by
  rw [finishedLines, splitLines_journalText, List.dropLast_concat, List.map_map]
  simp only [Function.comp_def, lineEnvelope?_envelopeBytes]

/-- Publishing to a journal that never fails, behind a text that is empty or ends with a line feed.
All publications succeed; behind the text, and each on one line of its own, are the envelopes of the
events in order; and reading these lines gives the events back, each under the topic of the journal
and with its session as the key. -/
theorem journal_read_back {σ : Type} {w : Writer (StateM σ)} {text : σ → List UInt8}
    {ready : σ → Prop} (hw : w.Reliable text ready) (sites : Sites) (topic : String)
    (events : List GameEvent) {s : σ} (hready : ready s)
    (hends : text s = [] ∨ (text s).getLast? = some 0x0a) :
    ∃ last, w.publishAll sites topic events s = (events.map fun _ => .ok (), last) ∧
      ∃ added, text last = text s ++ added ∧
        added = (events.flatMap fun event => utf8Bytes (wireText (event.sealed topic)) ++ [0x0a]) ∧
        (∀ event : GameEvent, '\n' ∉ (wireText (event.sealed topic)).toList) ∧
        splitLines (text last) = finishedLines (text s) ++
          (events.map fun event => utf8Bytes (wireText (event.sealed topic))) ++ [[]] ∧
        (finishedLines added).map lineEnvelope? =
          events.map fun event => some ⟨topic, event.sessionId.text, event⟩ := by
  obtain ⟨last, hpublish, -, htext⟩ := hw.publishAll sites topic events hready
  refine ⟨last, hpublish, journalText topic events, htext, ?_, ?_, ?_, ?_⟩
  · rw [journalText, terminated, List.flatMap_map]
    rfl
  · exact fun event => newline_not_mem_render _
  · rw [htext, splitLines_append_of_ends hends, splitLines_journalText, List.append_assoc]
    rfl
  · exact lineEnvelopes_journalText topic events

end Writer

namespace Tape

/-- A tape without limits that can be flushed is reliable. -/
theorem reliable : writer.Reliable written fun t => t.room = none ∧ t.flushFails = false where
  write {t} h bytes := by
    refine ⟨{ t with written := t.written ++ bytes }, ?_, h, rfl⟩
    show t.write bytes = _
    rw [write, h.1]
  flush {t} h := by
    refine ⟨t, ?_, h, rfl⟩
    show ((if t.flushFails then Except.error "flush failed" else .ok ()), t) = _
    rw [h.2]
    rfl

/-- A creation by players with line feeds and quotes in their names, in a session with a carriage
return in its name. -/
def unrulyEvent : GameEvent := .created (.start ⟨"g\r"⟩ ⟨⟨"a\nb"⟩, ⟨"\"\n"⟩⟩) (-1)

/-- Two publications behind a line of something else. -/
theorem journal_read_back_unruly :
    let before := holding [0x78, 0x0a]
    let after := (writer.publishAll tapeSites "games\n" [unrulyEvent, creationEvent] before).2
    (splitLines after.written).length = 4 ∧
      (finishedLines (after.written.drop 2)).map lineEnvelope? =
        [some ⟨"games\n", "g\r", unrulyEvent⟩, some ⟨"games\n", "g", creationEvent⟩] := by
  intro before after
  obtain ⟨last, hpublish, added, hadded, -, -, hsplit, hread⟩ :=
    Writer.journal_read_back reliable tapeSites "games\n" [unrulyEvent, creationEvent]
      (s := before) ⟨rfl, rfl⟩ (Or.inr rfl)
  have hafter : after = last := congrArg Prod.snd hpublish
  refine ⟨?_, ?_⟩
  · rw [hafter, hsplit]
    rfl
  · have hdrop : after.written.drop 2 = added := by
      rw [hafter, hadded]
      rfl
    rw [hdrop, hread]
    rfl

end Tape

end Noughts

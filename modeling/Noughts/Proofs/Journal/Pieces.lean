import Noughts.Proofs.Json.OneLine
import Noughts.Proofs.Text.Lines
import Noughts.Proofs.Wire.Messages

/-!
# What a journal leaves behind

A writer is `Honest` if a write that succeeds adds all its bytes to the text, one that fails adds
some of the first ones, and flushing adds nothing. Nothing else is asked of it: it may fail at any
time and work again later.

Each publication then leaves a piece of its line, the whole line if it succeeds: `Deposit`. So a
publication that fails need not leave the text as it was. Its piece is joined to the next line that
is written, as is an unfinished line that the text ended with before, and only a line that is begun
at the start of a line can be read back: `Writer.journal_lines`.
-/

namespace Noughts

/-! ## The line of an event -/

namespace GameEvent

/-- The bytes of the envelope of an event. -/
def envelopeBytes (e : GameEvent) (topic : String) : List UInt8 :=
  utf8Bytes (wireText (e.sealed topic))

/-- The line of an event is its envelope and a line feed. -/
theorem utf8Bytes_journalLine (e : GameEvent) (topic : String) :
    utf8Bytes (e.journalLine topic) = e.envelopeBytes topic ++ [0x0a] := by
  rw [journalLine, utf8Bytes_append]
  rfl

/-- The envelope of an event has no line feed in it. -/
theorem newline_not_mem_envelopeBytes (e : GameEvent) (topic : String) :
    0x0a ∉ e.envelopeBytes topic := newline_not_mem_utf8Bytes_render _

end GameEvent

/-- The envelope that a line is read as, if it is one. -/
def lineEnvelope? (line : List UInt8) : Option EventEnvelope :=
  (String.fromUTF8? ⟨line.toArray⟩).bind fun text => (ofWireText text).toOption

/-- The bytes of a text are read as the text is. -/
theorem lineEnvelope?_utf8Bytes (s : String) :
    lineEnvelope? (utf8Bytes s) = (ofWireText s).toOption := by
  rw [lineEnvelope?, fromUTF8?_utf8Bytes]
  rfl

/-- The line of an event is read as its envelope. -/
theorem lineEnvelope?_envelopeBytes (e : GameEvent) (topic : String) :
    lineEnvelope? (e.envelopeBytes topic) = some (e.sealed topic) := by
  rw [GameEvent.envelopeBytes, lineEnvelope?_utf8Bytes, WireLawful.ofWireText_wireText (by decide)]
  rfl

/-! ## Publishing -/

/-- What a publication leaves behind: a piece of the line of its event, all of it if it succeeds. -/
structure Deposit (topic : String) where
  event : GameEvent
  result : Except PublishError Unit
  piece : List UInt8
  isPiece : piece <+: event.envelopeBytes topic ++ [0x0a]
  isWhole : result = .ok () → piece = event.envelopeBytes topic ++ [0x0a]

namespace Writer

/-- A writer onto a text that it does not change in other ways than by adding the bytes it is given,
or some of the first ones if it fails. -/
structure Honest {σ : Type} (w : Writer (StateM σ)) (text : σ → List UInt8) : Prop where
  write_ok {s next : σ} {bytes : List UInt8} (h : w.write bytes s = (.ok (), next)) :
    text next = text s ++ bytes
  write_error {s next : σ} {bytes : List UInt8} {reason : String}
    (h : w.write bytes s = (.error reason, next)) :
    ∃ piece, piece <+: bytes ∧ text next = text s ++ piece
  flush (s : σ) : text (w.flush s).2 = text s

/-- Publish events one after the other. -/
def publishAll {m : Type → Type} [Monad m] (w : Writer m) (sites : Sites) (topic : String) :
    List GameEvent → m (List (Except PublishError Unit))
  | [] => pure []
  | event :: rest => do
      let result ← w.publisher sites topic event
      let more ← w.publishAll sites topic rest
      pure (result :: more)

namespace Honest

variable {σ : Type} {w : Writer (StateM σ)} {text : σ → List UInt8}

/-- A publication leaves a piece of its line, and the whole line if it succeeds. -/
theorem publish (hw : w.Honest text) (sites : Sites) (topic : String) (event : GameEvent) (s : σ) :
    ∃ deposit : Deposit topic, deposit.event = event ∧
      deposit.result = (w.publisher sites topic event s).1 ∧
      text (w.publisher sites topic event s).2 = text s ++ deposit.piece := by
  have hline := event.utf8Bytes_journalLine topic
  simp only [publisher, bind, StateT.bind]
  rcases hwrite : w.write (utf8Bytes (event.journalLine topic)) s with ⟨⟨reason⟩ | ⟨⟨⟩⟩, next⟩
  · obtain ⟨piece, hpiece, htext⟩ := hw.write_error hwrite
    exact ⟨⟨event, .error _, piece, hline ▸ hpiece, nofun⟩, rfl, rfl, htext⟩
  · have htext : text (w.flush next).2 = text s ++ (event.envelopeBytes topic ++ [0x0a]) :=
      (hw.flush next).trans (hline ▸ hw.write_ok hwrite)
    -- The whole line is written by now, whatever becomes of the flushing.
    rcases hflush : w.flush next with ⟨⟨reason⟩ | ⟨⟨⟩⟩, last⟩
    · rw [hflush] at htext
      simp only [StateT.bind, hflush]
      exact ⟨⟨event, .error _, _, List.prefix_refl _, nofun⟩, rfl, rfl, htext⟩
    · rw [hflush] at htext
      simp only [StateT.bind, hflush]
      exact ⟨⟨event, .ok (), _, List.prefix_refl _, fun _ => rfl⟩, rfl, rfl, htext⟩

/-- Publications leave their pieces behind each other. -/
theorem publishAll (hw : w.Honest text) (sites : Sites) (topic : String) (events : List GameEvent)
    (s : σ) :
    ∃ deposits : List (Deposit topic), deposits.map Deposit.event = events ∧
      deposits.map Deposit.result = (w.publishAll sites topic events s).1 ∧
      text (w.publishAll sites topic events s).2 = text s ++ deposits.flatMap Deposit.piece := by
  induction events generalizing s with
  | nil => exact ⟨[], rfl, rfl, (List.append_nil _).symm⟩
  | cons event rest ih =>
      obtain ⟨deposit, hevent, hresult, htext⟩ := hw.publish sites topic event s
      obtain ⟨deposits, hevents, hresults, htexts⟩ := ih (w.publisher sites topic event s).2
      refine ⟨deposit :: deposits, ?_, ?_, ?_⟩
      · rw [List.map_cons, hevent, hevents]
      · rw [List.map_cons, hresult, hresults]
        rfl
      · rw [htext, List.append_assoc] at htexts
        exact htexts

end Honest

/-- What a text is after any publications with any failures. Each publication has left a piece of
its line behind what was there. If it succeeded, its line is joined to what was not finished before
and ends there; so if nothing was unfinished, the line is read back as the envelope of the event,
and the next publication begins a line of its own. -/
theorem journal_lines {σ : Type} {w : Writer (StateM σ)} {text : σ → List UInt8}
    (hw : w.Honest text) (sites : Sites) (topic : String) (events : List GameEvent) (s : σ) :
    let final := text (w.publishAll sites topic events s).2
    ∃ deposits : List (Deposit topic), deposits.map Deposit.event = events ∧
      deposits.map Deposit.result = (w.publishAll sites topic events s).1 ∧
      final = text s ++ deposits.flatMap Deposit.piece ∧
      ∀ before deposit after, deposits = before ++ deposit :: after → deposit.result = .ok () →
        let written := text s ++ before.flatMap Deposit.piece
        let line := unfinishedLine written ++ deposit.event.envelopeBytes topic
        splitLines final =
          finishedLines written ++ line :: splitLines (after.flatMap Deposit.piece) ∧
          unfinishedLine (written ++ deposit.piece) = [] ∧
          (unfinishedLine written = [] →
            lineEnvelope? line = some (deposit.event.sealed topic)) := by
  obtain ⟨deposits, hevents, hresults, htext⟩ := hw.publishAll sites topic events s
  refine ⟨deposits, hevents, hresults, htext, ?_⟩
  intro before deposit after hsplit hok
  have hnewline := deposit.event.newline_not_mem_envelopeBytes topic
  have hpiece := deposit.isWhole hok
  have hfinal : text s ++ deposits.flatMap Deposit.piece =
      text s ++ before.flatMap Deposit.piece ++ (deposit.event.envelopeBytes topic ++ [0x0a]) ++
        after.flatMap Deposit.piece := by
    rw [hsplit, ← hpiece]
    simp
  refine ⟨?_, ?_, fun hnone => ?_⟩
  · rw [htext, hfinal]
    exact splitLines_append_line hnewline _ _
  · rw [hpiece]
    exact unfinishedLine_append_line hnewline _
  · rw [hnone, List.nil_append]
    exact lineEnvelope?_envelopeBytes _ _

end Writer

namespace Tape

/-- What a tape takes of some bytes: all of them if it does not fail. -/
theorem exists_piece (t : Tape) (bytes : List UInt8) :
    ∃ piece, piece <+: bytes ∧ (t.write bytes).2.written = t.written ++ piece ∧
      ((t.write bytes).1 = .ok () → piece = bytes) := by
  unfold write
  cases t.room with
  | none => exact ⟨bytes, List.prefix_refl _, rfl, fun _ => rfl⟩
  | some room =>
      refine ⟨bytes.take room, List.take_prefix _ _, rfl, fun hok => List.take_of_length_le ?_⟩
      have hverdict : (if bytes.length ≤ room then Except.ok () else Except.error "disk full") =
          Except.ok () := hok
      by_cases hroom : bytes.length ≤ room
      · exact hroom
      · rw [if_neg hroom] at hverdict
        cases hverdict

/-- A tape is honest, whatever room it has and whether it can be flushed. -/
theorem honest : writer.Honest written where
  write_ok {s next bytes} h := by
    obtain ⟨piece, -, hwritten, hwhole⟩ := s.exists_piece bytes
    have hwrite : s.write bytes = (.ok (), next) := h
    rw [hwrite] at hwritten hwhole
    rw [hwritten, hwhole rfl]
  write_error {s next bytes reason} h := by
    obtain ⟨piece, hpiece, hwritten, -⟩ := s.exists_piece bytes
    have hwrite : s.write bytes = (.error reason, next) := h
    rw [hwrite] at hwritten
    exact ⟨piece, hpiece, hwritten⟩
  flush _ := rfl

/-- Two places for the two ways to fail. -/
def tapeSites : Sites
  | .flushing _ => ⟨"journal", 2⟩
  | _ => ⟨"journal", 1⟩

/-- The event of a creation. Its line has 245 bytes under the topic `games`. -/
def creationEvent : GameEvent := .created (.start ⟨"g"⟩ ⟨⟨"ann"⟩, ⟨"bob"⟩⟩) 1

/-- Two publications to a tape that has room for one of them. The first one is read back, and a part
of the second one is left. -/
theorem journal_lines_full :
    let after :=
      (writer.publishAll tapeSites "games" [creationEvent, creationEvent] ⟨[], some 300, false⟩).2
    splitLines after.written =
        [creationEvent.envelopeBytes "games", (creationEvent.envelopeBytes "games").take 55] ∧
      ∃ deposits : List (Deposit "games"),
        deposits.map (fun deposit => deposit.result.toOption) = [some (), none] ∧
          after.written = deposits.flatMap Deposit.piece := by
  refine ⟨by decide +kernel, ?_⟩
  obtain ⟨deposits, -, hresults, hwritten, -⟩ :=
    Writer.journal_lines honest tapeSites "games" [creationEvent, creationEvent]
      ⟨[], some 300, false⟩
  refine ⟨deposits, ?_, hwritten⟩
  have hmap : deposits.map (fun deposit => deposit.result.toOption) =
      (deposits.map Deposit.result).map Except.toOption := by simp
  rw [hmap, hresults]
  decide +kernel

/-- A character before the envelope of the event spoils it. -/
theorem lineEnvelope?_glued :
    lineEnvelope? (0x78 :: creationEvent.envelopeBytes "games") = none := by
  have hglued : 0x78 :: creationEvent.envelopeBytes "games" =
      utf8Bytes (String.ofList ('x' :: (toJson (creationEvent.sealed "games")).chars)) := by
    simp only [GameEvent.envelopeBytes, wireText, Json.render, utf8Bytes_eq_flatMap,
      String.toList_ofList, List.flatMap_cons]
    rfl
  rw [hglued, lineEnvelope?_utf8Bytes, ofWireText, String.toList_ofList]
  decide +kernel

/-- A publication can fail and leave a part of its line, or all of it; and one that succeeds behind
an unfinished line is on no line of its own. -/
theorem publication_spoiled :
    let publish := writer.publisher tapeSites "games" creationEvent
    ((publish ⟨[], some 10, false⟩).1.toOption = none ∧
      (publish ⟨[], some 10, false⟩).2.written ≠ []) ∧
    ((publish ⟨[], none, true⟩).1.toOption = none ∧ (publish ⟨[], none, true⟩).2.written ≠ []) ∧
    (publish (holding [0x78])).1.toOption = some () ∧
      ∀ line ∈ splitLines (publish (holding [0x78])).2.written, lineEnvelope? line = none := by
  refine ⟨by decide +kernel, by decide +kernel, rfl, ?_⟩
  have hwritten : (writer.publisher tapeSites "games" creationEvent (holding [0x78])).2.written =
      [0x78] ++ (creationEvent.envelopeBytes "games" ++ [0x0a]) ++ [] := by
    rw [← GameEvent.utf8Bytes_journalLine, List.append_nil]
    rfl
  intro line hline
  rw [hwritten,
    splitLines_append_line (creationEvent.newline_not_mem_envelopeBytes "games")] at hline
  rcases List.mem_cons.1 hline with rfl | hline
  · exact lineEnvelope?_glued
  · obtain rfl := List.mem_singleton.1 hline
    decide +kernel

end Tape

end Noughts

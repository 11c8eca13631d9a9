import Noughts.Proofs.Service.Recorded
import Noughts.Proofs.Text.Lines

/-!
# The request loop, line by line

`Registry.served` runs the request loop with output that never fails, and gives all that is left
behind: the result, the registry, the surroundings, the log of published events and the output.

Lines that are UTF-8 are answered one after the other, whatever follows (`serveLines_append`), and
what follows does not depend on what was printed before (`serveLines_frame`). So a line that is no
request costs one error response and touches nothing else. A line that is not UTF-8 is different:
the loop ends there, and later lines are lost. `Registry.bad_line_apart` has all cases.
-/

namespace Noughts

/-! ## Lines of an input -/

namespace inputLines

/-- A byte that is no line feed belongs to the line that is being read. -/
theorem collect_cons_of_ne {b : UInt8} (h : b ≠ 0x0a) (read rest : List UInt8) :
    collect read (b :: rest) = collect (b :: read) rest := if_neg h

/-- Bytes without a line feed belong to the line that is being read. -/
theorem collect_append {line : List UInt8} (h : 0x0a ∉ line) (read rest : List UInt8) :
    collect read (line ++ rest) = collect (line.reverse ++ read) rest := by
  induction line generalizing read with
  | nil => rfl
  | cons b line ih =>
      obtain ⟨hb, hline⟩ := not_or.1 (mt List.mem_cons.2 h)
      rw [List.cons_append, collect_cons_of_ne (Ne.symm hb), ih hline]
      simp

/-- A line ends at its line feed. -/
theorem collect_newline (read rest : List UInt8) :
    collect read (0x0a :: rest) = dropReturn read.reverse :: collect [] rest := by
  by_cases hreturn : ∃ before, read = 0x0d :: before
  · obtain ⟨before, rfl⟩ := hreturn
    have hdrop : dropReturn (0x0d :: before).reverse = before.reverse := by simp [dropReturn]
    rw [hdrop]
    rfl
  · have hdrop : dropReturn read.reverse = read.reverse := by
      rw [dropReturn, List.getLast?_reverse, if_neg]
      intro hlast
      obtain ⟨before, hread⟩ := List.head?_eq_some_iff.1 hlast
      exact hreturn ⟨before, hread⟩
    rw [hdrop, collect, if_pos rfl]
    exact fun before hread => hreturn ⟨before, hread⟩

end inputLines

/-- A line and what comes behind its line feed. -/
theorem inputLines_append_newline {line : List UInt8} (h : 0x0a ∉ line) (rest : List UInt8) :
    inputLines (line ++ 0x0a :: rest) = dropReturn line :: inputLines rest := by
  rw [inputLines, inputLines.collect_append h, List.append_nil, inputLines.collect_newline,
    List.reverse_reverse]

/-- Without line feeds an input is one line, or none if it is empty. -/
theorem inputLines_of_not_mem {line : List UInt8} (h : 0x0a ∉ line) :
    inputLines line = if line = [] then [] else [line] := by
  have hcollect := inputLines.collect_append h [] []
  rw [List.append_nil, List.append_nil] at hcollect
  rw [inputLines, hcollect, inputLines.collect]
  simp

/-- The lines of an input are those that it was put together from, without their carriage
returns. -/
theorem inputLines_terminated {lines : List (List UInt8)} (h : ∀ line ∈ lines, 0x0a ∉ line) :
    inputLines (terminated lines) = lines.map dropReturn := by
  induction lines with
  | nil => rfl
  | cons line lines ih =>
      rw [terminated_cons, inputLines_append_newline (h line List.mem_cons_self),
        ih fun other hother => h other (List.mem_cons_of_mem _ hother)]
      rfl

/-- The text of a line, if it is UTF-8. -/
def lineText? (line : List UInt8) : Option String := String.fromUTF8? ⟨line.toArray⟩

/-- Put a line on an output that takes everything. -/
def printing {σ : Type} (line : String) : StateM (σ × List String) (Except String Unit) :=
  fun (s, output) => (.ok (), s, output ++ [line])

namespace Registry

/-- A line that is no request gets an error response and changes nothing. -/
theorem handleLine_of_error {m : Type → Type} [Monad m] (env : Surroundings m) (r : Registry)
    {line : String} {fault : Fault} (h : ofWireText (α := Request) line = .error fault) :
    r.handleLine env line = pure (.error s!"Malformed request: {env.describe line fault}", r) := by
  rw [handleLine, h]

/-! ## The loop -/

section

variable {m : Type → Type} [Monad m] [LawfulMonad m] (env : Surroundings m)
  (write : String → m (Except String Unit)) (handled : Nat) (r : Registry)

/-- Serve further lines from where the loop ended, unless it failed. -/
def serveMore (env : Surroundings m) (write : String → m (Except String Unit))
    (lines : List (List UInt8)) :
    Except ServeError Nat × Registry → m (Except ServeError Nat × Registry)
  | (.ok handled, r) => serveLines env write handled r lines
  | (.error e, r) => pure (.error e, r)

/-- Lines can be served in two parts, the second one from where the first one ended. -/
theorem serveLines_in_parts (first rest : List (List UInt8)) :
    serveLines env write handled r (first ++ rest) =
      serveLines env write handled r first >>= serveMore env write rest := by
  induction first generalizing handled r with
  | nil =>
      rw [serveLines, pure_bind, List.nil_append]
      rfl
  | cons line first ih =>
      rw [List.cons_append, serveLines, serveLines]
      cases String.fromUTF8? ⟨line.toArray⟩ with
      | none =>
          simp only [pure_bind]
          rfl
      | some text =>
          cases hblank : Text.isBlankText text with
          | true =>
              simp only [hblank, if_true]
              exact ih handled r
          | false =>
              simp only [hblank, Bool.false_eq_true, if_false, bind_assoc]
              congr 1
              funext answered
              obtain ⟨response, next⟩ := answered
              congr 1
              funext written
              cases written with
              | error reason =>
                  simp only [pure_bind]
                  rfl
              | ok => exact ih (handled + 1) next

/-- An input can be served line by line: its first line, with the line feed, and then the rest. -/
theorem serve_line_by_line {line : List UInt8} (h : 0x0a ∉ line) (rest : List UInt8) :
    serveLines env write handled r (inputLines (line ++ 0x0a :: rest)) =
      serveLines env write handled r (inputLines (line ++ [0x0a])) >>=
        serveMore env write (inputLines rest) := by
  rw [inputLines_append_newline h, inputLines_append_newline h, ← List.singleton_append,
    serveLines_in_parts]
  rfl

end

/-- The line on the output for a response. -/
def replyLine (response : Response) : String := wireText response ++ "\n"

/-- Answer texts one after the other. -/
def answers {m : Type → Type} [Monad m] (env : Surroundings m) :
    Registry → List String → m (List Response × Registry)
  | r, [] => pure ([], r)
  | r, text :: rest => do
      let (response, r) ← r.handleLine env text
      let (more, r) ← answers env r rest
      pure (response :: more, r)

variable {σ : Type} {env : Surroundings (StateM σ)} {handled : Nat} {r : Registry}
  {line : List UInt8} {rest : List (List UInt8)} {s : σ} {output : List String}

/-- A line that is not UTF-8 ends the loop. -/
theorem serveLines_of_none (h : lineText? line = none) :
    serveLines env.onFirst printing handled r (line :: rest) (s, output) =
      ((.error .invalidUtf8, r), s, output) := by
  rw [lineText?] at h
  rw [serveLines, h]
  rfl

/-- A blank line is passed over. -/
theorem serveLines_of_blank {text : String} (h : lineText? line = some text)
    (hblank : Text.isBlankText text = true) :
    serveLines env.onFirst printing handled r (line :: rest) (s, output) =
      serveLines env.onFirst printing handled r rest (s, output) := by
  rw [lineText?] at h
  rw [serveLines, h]
  exact congrFun (if_pos hblank) _

/-- Any other line that is UTF-8 is answered. -/
theorem serveLines_of_some {text : String} (h : lineText? line = some text)
    (hblank : Text.isBlankText text = false) :
    serveLines env.onFirst printing handled r (line :: rest) (s, output) =
      let ((response, next), after) := r.handleLine env text s
      serveLines env.onFirst printing (handled + 1) next rest
        (after, output ++ [replyLine response]) := by
  rw [lineText?] at h
  rw [serveLines, h]
  simp only [hblank, Bool.false_eq_true, if_false, handleLine_onFirst]
  rfl

variable (env)

/-- What was handled and printed before the loop is only counted and kept. -/
theorem serveLines_frame (before handled : Nat) (r : Registry) (lines : List (List UInt8)) (s : σ)
    (first output : List String) :
    serveLines env.onFirst printing (before + handled) r lines (s, first ++ output) =
      let ((result, next), after, printed) :=
        serveLines env.onFirst printing handled r lines (s, output)
      ((result.map (before + ·), next), after, first ++ printed) := by
  induction lines generalizing handled r s output with
  | nil => rfl
  | cons line lines ih =>
      cases htext : lineText? line with
      | none =>
          rw [serveLines_of_none htext, serveLines_of_none htext]
          rfl
      | some text =>
          cases hblank : Text.isBlankText text with
          | true =>
              rw [serveLines_of_blank htext hblank, serveLines_of_blank htext hblank]
              exact ih handled r s output
          | false =>
              rw [serveLines_of_some htext hblank, serveLines_of_some htext hblank]
              simp only [List.append_assoc, Nat.add_assoc]
              exact ih (handled + 1) _ _ _

/-- The texts among lines that get an answer. -/
def answeredTexts (lines : List (List UInt8)) : List String :=
  (lines.filterMap lineText?).filter fun text => !Text.isBlankText text

/-- Lines that are UTF-8 are answered one after the other, and then the rest. -/
theorem serveLines_append {lines : List (List UInt8)}
    (h : ∀ line ∈ lines, (lineText? line).isSome = true) (rest : List (List UInt8)) (handled : Nat)
    (r : Registry) (s : σ) (output : List String) :
    serveLines env.onFirst printing handled r (lines ++ rest) (s, output) =
      let ((responses, next), after) := r.answers env (answeredTexts lines) s
      serveLines env.onFirst printing (handled + responses.length) next rest
        (after, output ++ responses.map replyLine) := by
  induction lines generalizing handled r s output with
  | nil =>
      show _ = serveLines env.onFirst printing handled r rest (s, output ++ [])
      rw [List.append_nil]
      rfl
  | cons line lines ih =>
      have hlines := ih fun other hother => h other (List.mem_cons_of_mem _ hother)
      obtain ⟨text, htext⟩ := Option.isSome_iff_exists.1 (h line List.mem_cons_self)
      rw [List.cons_append]
      cases hblank : Text.isBlankText text with
      | true =>
          have htexts : answeredTexts (line :: lines) = answeredTexts lines := by
            simp [answeredTexts, htext, hblank]
          rw [serveLines_of_blank htext hblank, htexts]
          exact hlines handled r s output
      | false =>
          have htexts : answeredTexts (line :: lines) = text :: answeredTexts lines := by
            simp [answeredTexts, htext, hblank]
          rw [serveLines_of_some htext hblank, htexts]
          rcases hfirst : r.handleLine env text s with ⟨⟨response, next⟩, after⟩
          show serveLines env.onFirst printing _ next _ (after, _) = _
          rw [hlines]
          simp only [answers, bind, StateT.bind, hfirst]
          rcases next.answers env (answeredTexts lines) after with ⟨⟨more, last⟩, final⟩
          have hcount : handled + 1 + more.length = handled + (response :: more).length := by
            rw [List.length_cons]
            omega
          show serveLines env.onFirst printing (handled + 1 + more.length) last rest
            (final, output ++ [replyLine response] ++ more.map replyLine) = _
          rw [hcount, List.append_assoc]
          rfl

end Registry

/-! ## A whole input -/

/-- What serving an input leaves behind. -/
structure Served (σ : Type) where
  result : Except ServeError Nat
  registry : Registry
  /-- The surroundings, as they are left. -/
  state : σ
  /-- The events that were published. -/
  log : List GameEvent
  /-- The lines on the output. -/
  output : List String

/-- The parts of what the request loop leaves behind. -/
def Served.of {σ : Type} :
    (Except ServeError Nat × Registry) × (σ × List GameEvent) × List String → Served σ
  | ((result, registry), (state, log), output) => ⟨result, registry, state, log, output⟩

/-- Serve an input with output that never fails. -/
def Registry.served {σ : Type} (env : Surroundings (StateM σ)) (r : Registry) (s : σ)
    (input : List UInt8) : Served σ :=
  .of (r.serve env.recording.onFirst printing input ((s, []), []))

/-- How an input is served with a line more than another one. That line costs `reply` on the output,
behind the lines `first`, and nothing else. -/
structure OneMore {σ : Type} (shorter longer : Served σ) (first : List String) (reply : String) :
    Prop where
  result : longer.result = shorter.result.map (1 + ·)
  registry : longer.registry = shorter.registry
  state : longer.state = shorter.state
  log : longer.log = shorter.log
  output : ∃ rest, shorter.output = first ++ rest ∧ longer.output = first ++ reply :: rest

/-- Whether a line is UTF-8. -/
def IsText (line : List UInt8) : Prop := (lineText? (dropReturn line)).isSome = true

/-- Decoding a line decides whether it is UTF-8. -/
instance : DecidablePred IsText := fun line =>
  inferInstanceAs (Decidable ((lineText? (dropReturn line)).isSome = true))

namespace Registry

variable {σ : Type} (env : Surroundings (StateM σ)) (r : Registry) (s : σ)
  {before after : List (List UInt8)} {bad : List UInt8}

/-- Serving lines that were put together is answering them. -/
theorem served_terminated {lines : List (List UInt8)} (h : ∀ line ∈ lines, 0x0a ∉ line) :
    r.served env s (terminated lines) =
      .of (serveLines env.recording.onFirst printing 0 r (lines.map dropReturn) ((s, []), [])) := by
  rw [served, serve, inputLines_terminated h]

/-- Lines that are UTF-8 have a text each. -/
theorem isSome_of_isText {lines : List (List UInt8)} (h : ∀ line ∈ lines, IsText line) :
    ∀ line ∈ lines.map dropReturn, (lineText? line).isSome = true := by
  simpa [IsText] using h

/-- An input of which all lines are UTF-8 is answered to its end. -/
theorem served_of_isSome {input : List UInt8}
    (h : ∀ line ∈ inputLines input, (lineText? line).isSome = true) :
    r.served env s input =
      let ((responses, registry), state, log) :=
        r.answers env.recording (answeredTexts (inputLines input)) (s, [])
      ⟨.ok responses.length, registry, state, log, responses.map replyLine⟩ := by
  have hserve := serveLines_append env.recording h [] 0 r (s, []) []
  rw [List.append_nil] at hserve
  rw [served, serve, hserve]
  simp only [serveLines, Nat.zero_add, List.nil_append]
  rfl

/-- Lines that are UTF-8 are all answered. -/
theorem served_of_isText {lines : List (List UInt8)} (h : ∀ line ∈ lines, 0x0a ∉ line)
    (htext : ∀ line ∈ lines, IsText line) :
    r.served env s (terminated lines) =
      let ((responses, registry), state, log) :=
        r.answers env.recording (answeredTexts (lines.map dropReturn)) (s, [])
      ⟨.ok responses.length, registry, state, log, responses.map replyLine⟩ := by
  have hlines := isSome_of_isText htext
  rw [← inputLines_terminated h] at hlines ⊢
  exact served_of_isSome env r s hlines

/-- A line that is UTF-8 but no request, in an input of which the lines before it are UTF-8. -/
theorem served_insert_malformed (hbefore : ∀ line ∈ before, 0x0a ∉ line)
    (hafter : ∀ line ∈ after, 0x0a ∉ line) (hbad : 0x0a ∉ bad)
    (htext : ∀ line ∈ before, IsText line) {text : String} {fault : Fault}
    (hread : lineText? (dropReturn bad) = some text) (hblank : Text.isBlankText text = false)
    (hfault : ofWireText (α := Request) text = .error fault) :
    OneMore (r.served env s (terminated (before ++ after)))
      (r.served env s (terminated (before ++ bad :: after)))
      (r.served env s (terminated before)).output
      (replyLine (.error s!"Malformed request: {env.describe text fault}")) := by
  have hshorter := served_terminated env r s
    (List.forall_mem_append.2 ⟨hbefore, hafter⟩)
  have hlonger := served_terminated env r s
    (List.forall_mem_append.2 ⟨hbefore, List.forall_mem_cons.2 ⟨hbad, hafter⟩⟩)
  rw [List.map_append, serveLines_append _ (isSome_of_isText htext)] at hshorter
  rw [List.map_append, serveLines_append _ (isSome_of_isText htext)] at hlonger
  rw [hshorter, hlonger, served_of_isText env r s hbefore htext]
  rcases r.answers env.recording (answeredTexts (before.map dropReturn)) (s, []) with
    ⟨⟨responses, next⟩, between⟩
  have hanswered : serveLines env.recording.onFirst printing (0 + responses.length) next
      ((bad :: after).map dropReturn) (between, [] ++ responses.map replyLine) =
      serveLines env.recording.onFirst printing (0 + responses.length + 1) next
        (after.map dropReturn) (between, [] ++ responses.map replyLine ++
          [replyLine (.error s!"Malformed request: {env.describe text fault}")]) := by
    rw [List.map_cons, serveLines_of_some hread hblank, handleLine_of_error _ _ hfault]
    rfl
  -- Both runs go on with the same lines in the same state; only what they counted and printed
  -- before differs.
  have hrest (count : Nat) (output : List String) :=
    serveLines_frame env.recording count 0 next (after.map dropReturn) between output []
  simp only [Nat.add_zero, List.append_nil] at hrest
  show OneMore (.of (serveLines env.recording.onFirst printing _ next _ (between, _)))
    (.of (serveLines env.recording.onFirst printing _ next _ (between, _)))
    (responses.map replyLine) _
  rw [hanswered, hrest (0 + responses.length), hrest (0 + responses.length + 1)]
  rcases serveLines env.recording.onFirst printing 0 next (after.map dropReturn) (between, []) with
    ⟨⟨result, last⟩, ⟨state, log⟩, rest⟩
  refine ⟨?_, rfl, rfl, rfl, rest, rfl, ?_⟩
  · cases result with
    | error e => rfl
    | ok count =>
        have hcount : 0 + responses.length + 1 + count = 1 + (0 + responses.length + count) := by
          omega
        exact congrArg Except.ok hcount
  · show ([] ++ responses.map replyLine ++ [_]) ++ rest = _
    simp

/-- A line that is not UTF-8, in an input of which the lines before it are UTF-8. -/
theorem served_insert_notText (hbefore : ∀ line ∈ before, 0x0a ∉ line)
    (hafter : ∀ line ∈ after, 0x0a ∉ line) (hbad : 0x0a ∉ bad)
    (htext : ∀ line ∈ before, IsText line) (hread : ¬ IsText bad) :
    r.served env s (terminated (before ++ bad :: after)) =
      { r.served env s (terminated before) with result := .error .invalidUtf8 } := by
  have hlonger := served_terminated env r s
    (List.forall_mem_append.2 ⟨hbefore, List.forall_mem_cons.2 ⟨hbad, hafter⟩⟩)
  rw [List.map_append, serveLines_append _ (isSome_of_isText htext), List.map_cons] at hlonger
  rw [hlonger, served_of_isText env r s hbefore htext]
  rcases r.answers env.recording (answeredTexts (before.map dropReturn)) (s, []) with
    ⟨⟨responses, next⟩, state, log⟩
  have hnone : lineText? (dropReturn bad) = none := by
    simpa [IsText] using hread
  simp only [serveLines_of_none hnone]
  rfl

/-- Behind a line that is not UTF-8 nothing is read. -/
theorem served_append_of_notText (hbefore : ∀ line ∈ before, 0x0a ∉ line)
    (hafter : ∀ line ∈ after, 0x0a ∉ line) (hread : ∃ line ∈ before, ¬ IsText line) :
    r.served env s (terminated (before ++ after)) = r.served env s (terminated before) := by
  have hfind : (before.find? fun line => !decide (IsText line)).isSome := by
    simpa [List.find?_isSome] using hread
  -- The loop ends at the first such line.
  obtain ⟨bad, hfound⟩ := Option.isSome_iff_exists.1 hfind
  obtain ⟨hnotText, first, rest, rfl, htext⟩ := List.find?_eq_some_iff_append.1 hfound
  replace htext : ∀ line ∈ first, IsText line := by simpa using htext
  replace hnotText : ¬ IsText bad := by simpa using hnotText
  obtain ⟨hfirst, hrest⟩ := List.forall_mem_append.1 hbefore
  obtain ⟨hbad, hrest⟩ := List.forall_mem_cons.1 hrest
  rw [List.append_assoc, List.cons_append,
    served_insert_notText env r s hfirst (List.forall_mem_append.2 ⟨hrest, hafter⟩) hbad htext
      hnotText,
    served_insert_notText env r s hfirst hrest hbad htext hnotText]

/-- A line more in an input. As long as the lines before it are UTF-8 and it is UTF-8 itself, but
neither blank nor a request, it gets an error response in its place and nothing else changes,
whatever follows; so all lines are answered if they are all UTF-8. If it is not UTF-8, what comes
before it is answered and the rest is not read. Behind another such line it makes no difference. -/
theorem bad_line_apart (before after : List (List UInt8)) (bad : List UInt8)
    (hlines : ∀ line ∈ before ++ bad :: after, 0x0a ∉ line) :
    let before' := r.served env s (terminated before)
    let shorter := r.served env s (terminated (before ++ after))
    let longer := r.served env s (terminated (before ++ bad :: after))
    ((∀ line ∈ before, IsText line) →
      (∀ text fault, lineText? (dropReturn bad) = some text → Text.isBlankText text = false →
        ofWireText (α := Request) text = .error fault →
        OneMore shorter longer before'.output
            (replyLine (.error s!"Malformed request: {env.describe text fault}")) ∧
          ((∀ line ∈ after, IsText line) → ∃ count, longer.result = .ok count)) ∧
      (¬ IsText bad → longer = { before' with result := .error .invalidUtf8 })) ∧
    ((∃ line ∈ before, ¬ IsText line) → longer = shorter) := by
  obtain ⟨hbefore, hrest⟩ := List.forall_mem_append.1 hlines
  obtain ⟨hbad, hafter⟩ := List.forall_mem_cons.1 hrest
  refine ⟨fun htext => ⟨fun text fault hread hblank hfault => ⟨?_, fun htextAfter => ?_⟩,
    fun hread => ?_⟩, fun hread => ?_⟩
  · exact served_insert_malformed env r s hbefore hafter hbad htext hread hblank hfault
  · have hall : ∀ line ∈ before ++ bad :: after, IsText line :=
      List.forall_mem_append.2 ⟨htext, List.forall_mem_cons.2 ⟨by simp [IsText, hread], htextAfter⟩⟩
    exact ⟨_, congrArg Served.result (served_of_isText env r s hlines hall)⟩
  · exact served_insert_notText env r s hbefore hafter hbad htext hread
  · have hshorter := served_append_of_notText env r s hbefore hafter hread
    exact (served_append_of_notText env r s hbefore hrest hread).trans hshorter.symm

/-- Surroundings of which nothing but their log changes. -/
def plainSurroundings : Surroundings (StateM Unit) where
  clock := pure ⟨1, 2⟩
  freshId := pure ⟨"g"⟩
  publish _ := pure (.ok ())
  describe line _ := s!"{line} is no request"

/-- The line of a request to create a session. -/
def creationLine : List UInt8 :=
  (wireText (Request.createSession [⟨"ann"⟩, ⟨"bob"⟩])).toUTF8.data.toList

/-- The line of a request for the session that is created. -/
def readingLine : List UInt8 := (wireText (Request.getSession ⟨"g"⟩)).toUTF8.data.toList

/-- A word between a creation and a request for the session is answered with an error, and the
request behind it as if it were not there. -/
theorem bad_line_apart_word :
    let served := fun lines => Registry.empty.served plainSurroundings () (terminated lines)
    let shorter := served [creationLine, readingLine]
    let longer := served [creationLine, [0x78], readingLine]
    OneMore shorter longer (served [creationLine]).output
        (replyLine (.error "Malformed request: x is no request")) ∧
      shorter.output.length = 2 ∧ longer.result.toOption = some 3 := by
  intro served shorter longer
  have hapart := bad_line_apart plainSurroundings .empty () [creationLine] [readingLine] [0x78]
    (by decide +kernel)
  have hfault : ofWireText (α := Request) "x" = .error .malformed := by rfl
  have htext : ∀ line ∈ [creationLine], IsText line := by decide +kernel
  obtain ⟨hmore, -⟩ := (hapart.1 htext).1 "x" .malformed (by decide +kernel) (by decide) hfault
  exact ⟨hmore, by decide +kernel, by decide +kernel⟩

/-- The byte 255 before a creation ends the loop, and no session is created. -/
theorem not_text_line_ends_loop :
    let shorter := Registry.empty.served plainSurroundings () (terminated [creationLine])
    let longer := Registry.empty.served plainSurroundings () (terminated [[0xff], creationLine])
    (shorter.result.toOption = some 1 ∧ shorter.output.length = 1 ∧ shorter.registry.size = 1) ∧
      longer.result.toOption = none ∧ longer.output = [] ∧ longer.registry.size = 0 := by
  decide +kernel

end Registry

end Noughts

import Noughts.Proofs.Json.OneLine
import Noughts.Proofs.Service.Lines

/-!
# Requests are answered in order

An input that is text consists of lines as the request loop takes them, `textLines`, and those that
are not blank are its requests. They are answered one after the other, each on the registry that the
ones before it left, and the loop ends with the input.

What is written of a response has no line feed in it, whatever texts it carries, so the output is
split into as many lines as there were requests: `Registry.served_in_order`.
-/

namespace Noughts

/-! ## Lines of a text -/

/-- A line without the carriage return at its end, if there is one. -/
def withoutReturn (line : List Char) : List Char :=
  if line.getLast? = some '\r' then line.dropLast else line

/-- The lines of a text: what stands before each line feed, without the carriage return at its end,
and what stands behind the last line feed unless that is nothing. -/
def textLines (text : List Char) : List (List Char) :=
  let parts := text.splitOn '\n'
  let last := parts.getLastD []
  parts.dropLast.map withoutReturn ++ if last = [] then [] else [last]

/-- The lines of a text that are not blank. -/
def requestLines (text : String) : List String :=
  ((textLines text.toList).map String.ofList).filter fun line => !Text.isBlankText line

/-- What holds of texts without line feeds, and of a line in front of any text of which it holds,
holds of all texts. -/
@[elab_as_elim]
theorem lineInduction {motive : List Char → Prop}
    (last : ∀ line, '\n' ∉ line → motive line)
    (line : ∀ line rest, '\n' ∉ line → motive rest → motive (line ++ '\n' :: rest))
    (text : List Char) : motive text := by
  by_cases hmem : '\n' ∈ text
  · obtain ⟨first, rest, rfl, hfirst⟩ := List.eq_append_cons_of_mem hmem
    exact line first rest hfirst (lineInduction last line rest)
  · exact last text hmem
termination_by text.length

/-- A text without line feeds is one line, or none if it is empty. -/
theorem textLines_of_not_mem {line : List Char} (h : '\n' ∉ line) :
    textLines line = if line = [] then [] else [line] := by
  rw [textLines, List.splitOn_eq_singleton h]
  rfl

/-- A line and what comes behind its line feed. -/
theorem textLines_append_newline {line : List Char} (h : '\n' ∉ line) (rest : List Char) :
    textLines (line ++ '\n' :: rest) = withoutReturn line :: textLines rest := by
  obtain ⟨part, parts, hparts⟩ := List.exists_cons_of_ne_nil (List.splitOn_ne_nil '\n' rest)
  rw [textLines, textLines, List.splitOn_append_cons_self_of_not_mem h, hparts]
  rfl

/-! ## Their bytes -/

/-- The bytes of a text are those of its characters. -/
theorem utf8Bytes_ofList (cs : List Char) :
    utf8Bytes (.ofList cs) = cs.flatMap String.utf8EncodeChar := by
  rw [utf8Bytes_eq_flatMap, String.toList_ofList]

/-- Only the empty text has no bytes. -/
theorem utf8Bytes_ofList_eq_nil {cs : List Char} : utf8Bytes (.ofList cs) = [] ↔ cs = [] := by
  cases cs with
  | nil => exact iff_of_true (utf8Bytes_ofList []) rfl
  | cons c cs =>
      rw [utf8Bytes_ofList, List.flatMap_cons]
      exact iff_of_false (List.append_ne_nil_of_left_ne_nil String.utf8EncodeChar_ne_nil _) nofun

/-- The bytes of a line end with a carriage return if the line does. -/
theorem getLast?_utf8Bytes_eq_return_iff {line : List Char} :
    (utf8Bytes (.ofList line)).getLast? = some 0x0d ↔ line.getLast? = some '\r' := by
  rcases List.eq_nil_or_concat line with rfl | ⟨before, c, rfl⟩
  · rw [utf8Bytes_ofList]
    exact iff_of_false nofun nofun
  · rw [List.concat_eq_append, List.getLast?_concat, utf8Bytes_ofList, List.flatMap_append,
      List.flatMap_singleton, List.getLast?_append, Option.some.injEq]
    constructor
    · intro hlast
      rcases Option.or_eq_some_iff.1 hlast with hbyte | ⟨hnone, -⟩
      · have hc : c.toNat = '\r'.toNat :=
          toNat_eq_of_mem_utf8EncodeChar (by decide) (List.mem_of_getLast? hbyte)
        exact Char.toNat_inj.1 hc
      · exact absurd (List.getLast?_eq_none_iff.1 hnone) String.utf8EncodeChar_ne_nil
    · rintro rfl
      rfl

/-- A carriage return is dropped from the bytes of a line as it is from the line. -/
theorem dropReturn_utf8Bytes (line : List Char) :
    dropReturn (utf8Bytes (.ofList line)) = utf8Bytes (.ofList (withoutReturn line)) := by
  by_cases hlast : line.getLast? = some '\r'
  · rw [dropReturn, if_pos (getLast?_utf8Bytes_eq_return_iff.2 hlast), withoutReturn, if_pos hlast]
    obtain ⟨before, rfl⟩ := List.getLast?_eq_some_iff.1 hlast
    have hbytes : utf8Bytes (.ofList (before ++ ['\r'])) =
        utf8Bytes (.ofList before) ++ [0x0d] := by
      rw [utf8Bytes_ofList, List.flatMap_append, ← utf8Bytes_ofList]
      rfl
    rw [hbytes, List.dropLast_concat, List.dropLast_concat]
  · rw [dropReturn, if_neg (mt getLast?_utf8Bytes_eq_return_iff.1 hlast), withoutReturn,
      if_neg hlast]

/-- The request loop takes a text to consist of its lines. -/
theorem inputLines_utf8Bytes (text : List Char) :
    inputLines (utf8Bytes (.ofList text)) =
      (textLines text).map fun line => utf8Bytes (.ofList line) := by
  have hnewline {line : List Char} (h : '\n' ∉ line) : 0x0a ∉ utf8Bytes (.ofList line) :=
    newline_not_mem_utf8Bytes (by rwa [String.toList_ofList])
  induction text using lineInduction with
  | last line hline =>
      rw [inputLines_of_not_mem (hnewline hline), textLines_of_not_mem hline]
      simp only [utf8Bytes_ofList_eq_nil]
      split
      · rfl
      · rfl
  | line line rest hline ih =>
      have hbytes : utf8Bytes (.ofList (line ++ '\n' :: rest)) =
          utf8Bytes (.ofList line) ++ 0x0a :: utf8Bytes (.ofList rest) := by
        simp only [utf8Bytes_ofList, List.flatMap_append, List.flatMap_cons]
        rfl
      rw [hbytes, inputLines_append_newline (hnewline hline), textLines_append_newline hline, ih,
        dropReturn_utf8Bytes]
      rfl

/-- The bytes of a text are read as that text. -/
theorem lineText?_utf8Bytes (s : String) : lineText? (utf8Bytes s) = some s := fromUTF8?_utf8Bytes s

/-! ## The output -/

/-- What is written of a response stands on one line. -/
theorem newline_not_mem_response (response : Response) : '\n' ∉ (wireText response).toList :=
  newline_not_mem_render (toJson response)

namespace Registry

/-- The output is made of the lines of the responses. -/
theorem flatMap_replyLine (responses : List Response) :
    (responses.map replyLine).flatMap utf8Bytes =
      terminated (responses.map fun response => utf8Bytes (wireText response)) := by
  have hline (response : Response) :
      utf8Bytes (replyLine response) = utf8Bytes (wireText response) ++ [0x0a] :=
    utf8Bytes_append _ _
  simp only [terminated, List.flatMap_map, hline]

/-- The output is split into the responses again. -/
theorem splitLines_responses (responses : List Response) :
    splitLines ((responses.map replyLine).flatMap utf8Bytes) =
      (responses.map fun response => utf8Bytes (wireText response)) ++ [[]] := by
  rw [flatMap_replyLine]
  exact splitLines_terminated (List.forall_mem_map.2 fun response _ =>
    newline_not_mem_utf8Bytes (newline_not_mem_response response))

/-! ## Serving a text -/

variable {σ : Type} (env : Surroundings (StateM σ)) (r : Registry) (s : σ)

/-- Each text gets one response. -/
theorem length_answers (texts : List String) :
    (r.answers env texts s).1.1.length = texts.length := by
  induction texts generalizing r s with
  | nil => rfl
  | cons text rest ih =>
      rcases hfirst : r.handleLine env text s with ⟨⟨response, next⟩, after⟩
      simp only [answers, bind, StateT.bind, hfirst]
      exact congrArg (· + 1) (ih next after)

/-- All lines of a text are texts. -/
theorem isSome_of_mem_inputLines (text : String) :
    ∀ line ∈ inputLines (utf8Bytes text), (lineText? line).isSome = true := by
  rw [← String.ofList_toList (s := text), inputLines_utf8Bytes]
  refine List.forall_mem_map.2 fun line _ => ?_
  rw [lineText?_utf8Bytes]
  rfl

/-- The lines of a text that get an answer are its requests. -/
theorem answeredTexts_inputLines (text : String) :
    answeredTexts (inputLines (utf8Bytes text)) = requestLines text := by
  rw [requestLines, ← String.ofList_toList (s := text), inputLines_utf8Bytes, answeredTexts,
    List.filterMap_map, String.toList_ofList]
  simp only [Function.comp_def, lineText?_utf8Bytes, ← List.filterMap_eq_map]

/-- Serving a text with output that never fails is answering its requests one after the other: the
loop ends well and has counted them; registry, surroundings and log are left as by the answers; the
output is a line for each response, in order, and is split into these lines again since no response
has a line feed in it. A line that is no request leaves registry, surroundings and log alone. -/
theorem served_in_order (text : String) :
    let served := r.served env s (utf8Bytes text)
    (∃ responses : List Response,
      r.answers env.recording (requestLines text) (s, []) =
        ((responses, served.registry), served.state, served.log) ∧
      responses.length = (requestLines text).length ∧
      served.result = .ok (requestLines text).length ∧
      served.output = responses.map (fun response => wireText response ++ "\n") ∧
      splitLines (served.output.flatMap utf8Bytes) =
        (responses.map fun response => utf8Bytes (wireText response)) ++ [[]]) ∧
    (∀ response : Response, '\n' ∉ (wireText response).toList) ∧
    ∀ (registry : Registry) (line : String) (fault : Fault) (state : σ × List GameEvent),
      ofWireText (α := Request) line = .error fault →
        registry.handleLine env.recording line state =
          ((.error s!"Malformed request: {env.describe line fault}", registry), state) := by
  intro served
  refine ⟨?_, newline_not_mem_response, fun registry line fault state hfault => ?_⟩
  · have hserved := served_of_isSome env r s (isSome_of_mem_inputLines text)
    have hlength := length_answers env.recording r (s, []) (requestLines text)
    rw [answeredTexts_inputLines] at hserved
    rcases hanswers : r.answers env.recording (requestLines text) (s, []) with
      ⟨⟨responses, registry⟩, state, log⟩
    rw [hanswers] at hserved hlength
    replace hserved : served =
      ⟨.ok responses.length, registry, state, log, responses.map replyLine⟩ := hserved
    rw [hserved]
    exact ⟨responses, rfl, hlength, congrArg Except.ok hlength, rfl, splitLines_responses responses⟩
  · rw [handleLine_of_error _ _ hfault]
    rfl

/-- Of a creation that ends with a carriage return, an empty line, a word, a no-break space and a
brace that is not followed by a line feed, three lines are answered, and one session is created. -/
theorem served_in_order_mixed :
    let text := wireText (Request.createSession [⟨"ann"⟩, ⟨"bob"⟩]) ++ "\r\n\nx\n\u00a0\n\x7b"
    let served := Registry.empty.served plainSurroundings () (utf8Bytes text)
    served.result.toOption = some 3 ∧ (splitLines (served.output.flatMap utf8Bytes)).length = 4 ∧
      served.registry.size = 1 ∧
      ∀ state, Registry.empty.handleLine plainSurroundings.recording "x" state =
        ((.error "Malformed request: x is no request", .empty), state) := by
  intro text served
  obtain ⟨⟨responses, -, hlength, hresult, -, hsplit⟩, -, hmalformed⟩ :=
    served_in_order plainSurroundings .empty () text
  have hcount : (requestLines text).length = 3 := by decide +kernel
  refine ⟨?_, ?_, by decide +kernel, fun state => ?_⟩
  · rw [hresult, hcount]
    rfl
  · rw [hsplit, List.length_append, List.length_map, hlength, hcount]
    rfl
  · exact hmalformed .empty "x" .malformed state rfl

end Registry

end Noughts

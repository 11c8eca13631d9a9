import Noughts.Journal
import Noughts.Proofs.Json.Tokens

/-!
# A written value stands on one line

The characters below U+0020 are escaped in texts and stand nowhere else, so the written form of a
value has no line feed in it, and neither have its bytes: `newline_not_mem_utf8Bytes_render`. The
bytes of a text are read as that text again, `fromUTF8?_utf8Bytes`.
-/

namespace Noughts

/-- Not one of the controls that texts escape. -/
def IsPlain (c : Char) : Prop := 0x20 ≤ c.toNat

/-- Comparing the code with 32 decides whether a character is plain. -/
instance : DecidablePred IsPlain := fun c => inferInstanceAs (Decidable (0x20 ≤ c.toNat))

/-- A list of characters none of which is a control. -/
def ArePlain (cs : List Char) : Prop := ∀ c ∈ cs, IsPlain c

/-- Going through the characters decides whether all are plain. -/
instance : DecidablePred ArePlain := fun cs => List.decidableBAll IsPlain cs

namespace ArePlain

/-- No character is no control. -/
theorem nil : ArePlain [] := fun _ hc => absurd hc List.not_mem_nil

/-- A plain character in front of plain ones. -/
theorem cons {c : Char} {cs : List Char} (hc : IsPlain c) (hcs : ArePlain cs) :
    ArePlain (c :: cs) :=
  List.forall_mem_cons.2 ⟨hc, hcs⟩

/-- Plain characters behind plain ones. -/
theorem append {cs ds : List Char} (hcs : ArePlain cs) (hds : ArePlain ds) : ArePlain (cs ++ ds) :=
  List.forall_mem_append.2 ⟨hcs, hds⟩

end ArePlain

namespace Json

/-- The digits of a number are plain. -/
theorem arePlain_toDigits (n : Nat) : ArePlain (Nat.toDigits 10 n) := by
  intro c hc
  have hdigit : c.isDigit = true := Nat.isDigit_of_mem_toDigits (by omega) (by omega) hc
  obtain ⟨hlow, -⟩ := Char.isDigit_iff_toNat.1 hdigit
  have hzero : '0'.toNat = 48 := rfl
  show 0x20 ≤ c.toNat
  omega

/-- A number is written with plain characters, its sign included. -/
theorem arePlain_decimal (i : Int) : ArePlain (decimal i) := by
  unfold decimal
  split
  · exact .cons (by decide) (arePlain_toDigits _)
  · exact arePlain_toDigits _

/-- An escape by number is plain, whatever character it stands for. -/
theorem arePlain_hexEscape (c : Char) : ArePlain (hexEscape c) := by
  have hdigit (n : Nat) : IsPlain (Nat.digitChar (n % 16)) := by
    have hall : ∀ k : Fin 16, IsPlain (Nat.digitChar k.val) := by decide
    exact hall ⟨n % 16, Nat.mod_lt _ (by omega)⟩
  exact .cons (by decide) <| .cons (by decide) <| .cons (hdigit _) <| .cons (hdigit _) <|
    .cons (hdigit _) <| .cons (hdigit _) .nil

/-- Whatever character is written in a text, what stands for it is plain. -/
theorem arePlain_escaped (c : Char) : ArePlain (escaped c) := by
  have hpair (letter : Char) (hletter : IsPlain letter) : ArePlain ['\\', letter] :=
    .cons (by decide) (.cons hletter .nil)
  unfold escaped
  iterate 7
    split
    · exact hpair _ (by decide)
  split
  · exact arePlain_hexEscape c
  · next hcontrol => exact .cons (Nat.le_of_not_lt hcontrol) .nil

/-- A text is written with plain characters, its quotes included. -/
theorem arePlain_quoted (s : String) : ArePlain (quoted s) := by
  refine .cons (by decide) (.append ?_ (.cons (by decide) .nil))
  intro c hc
  obtain ⟨original, -, hescaped⟩ := List.mem_flatMap.1 hc
  exact arePlain_escaped original c hescaped

/-- The further items of a list are plain if each of them is, as their commas and the bracket
are. -/
theorem arePlain_charsOfItems {items : List Json} (h : ∀ item ∈ items, ArePlain item.chars) :
    ArePlain (charsOfItems items) := by
  induction items with
  | nil => exact .cons (by decide) .nil
  | cons item items ih =>
      exact .cons (by decide) (.append (h item List.mem_cons_self)
        (ih fun other hother => h other (List.mem_cons_of_mem _ hother)))

/-- A member is plain if its value is, as its key and the colon are. -/
theorem arePlain_charsOfMember {member : String × Json} (h : ArePlain member.2.chars) :
    ArePlain (charsOfMember member) := by
  obtain ⟨key, value⟩ := member
  exact .append (arePlain_quoted key) (.cons (by decide) h)

/-- The further members of a record are plain if the value of each of them is. -/
theorem arePlain_charsOfMembers {members : List (String × Json)}
    (h : ∀ member ∈ members, ArePlain member.2.chars) : ArePlain (charsOfMembers members) := by
  induction members with
  | nil => exact .cons (by decide) .nil
  | cons member members ih =>
      exact .cons (by decide) (.append (arePlain_charsOfMember (h member List.mem_cons_self))
        (ih fun other hother => h other (List.mem_cons_of_mem _ hother)))

/-- No control stands in the written form of a value. -/
theorem arePlain_chars (j : Json) : ArePlain j.chars := by
  induction j using Json.nested with
  | null => decide
  | bool b => cases b <;> decide
  | natural n => exact arePlain_toDigits _
  | integer i => exact arePlain_decimal _
  | text s => exact arePlain_quoted s
  | list items ih =>
      cases items with
      | nil => decide
      | cons item items =>
          exact .cons (by decide) (.append (ih item List.mem_cons_self)
            (arePlain_charsOfItems fun other hother => ih other (List.mem_cons_of_mem _ hother)))
  | record members ih =>
      cases members with
      | nil => decide
      | cons member members =>
          exact .cons (by decide) (.append (arePlain_charsOfMember (ih member List.mem_cons_self))
            (arePlain_charsOfMembers fun other hother => ih other (List.mem_cons_of_mem _ hother)))

end Json

/-! ## Bytes -/

/-- The bytes of a text are those of its characters, one after the other. -/
theorem utf8Bytes_eq_flatMap (s : String) :
    utf8Bytes s = s.toList.flatMap String.utf8EncodeChar := by
  rw [utf8Bytes, String.toUTF8_eq_toByteArray, ← String.utf8Encode_toList]
  simp [List.utf8Encode]

/-- The bytes of two texts in a row are those of the first and then those of the second. -/
theorem utf8Bytes_append (s t : String) : utf8Bytes (s ++ t) = utf8Bytes s ++ utf8Bytes t := by
  simp [utf8Bytes_eq_flatMap]

/-- A byte below 128 stands only for its ASCII character: the bytes of a character beyond ASCII are
all at least 128. -/
theorem toNat_eq_of_mem_utf8EncodeChar {c : Char} {b : UInt8} (hb : b.toNat < 0x80)
    (h : b ∈ String.utf8EncodeChar c) : c.toNat = b.toNat := by
  have hsize : UInt8.size = 256 := rfl
  have hbeyond (n : Nat) (hlow : 0x80 ≤ n) (hhigh : n < UInt8.size) : b ≠ UInt8.ofNat n := by
    intro hbyte
    have hn : (UInt8.ofNat n).toNat = n := UInt8.toNat_ofNat_of_lt' hhigh
    rw [← hbyte] at hn
    omega
  dsimp only [String.utf8EncodeChar] at h
  split at h
  · next hascii =>
    have hbyte : b = UInt8.ofNat c.val.toNat := List.mem_singleton.1 h
    have hn : (UInt8.ofNat c.val.toNat).toNat = c.val.toNat :=
      UInt8.toNat_ofNat_of_lt' (by omega)
    rw [hbyte, hn]
    rfl
  · refine absurd h ?_
    split
    · simp only [List.mem_cons, List.not_mem_nil, or_false, not_or]
      exact ⟨hbeyond _ (by omega) (by omega), hbeyond _ (by omega) (by omega)⟩
    split
    · simp only [List.mem_cons, List.not_mem_nil, or_false, not_or]
      exact ⟨hbeyond _ (by omega) (by omega), hbeyond _ (by omega) (by omega),
        hbeyond _ (by omega) (by omega)⟩
    · simp only [List.mem_cons, List.not_mem_nil, or_false, not_or]
      exact ⟨hbeyond _ (by omega) (by omega), hbeyond _ (by omega) (by omega),
        hbeyond _ (by omega) (by omega), hbeyond _ (by omega) (by omega)⟩

/-- The bytes of a text without line feeds have none among them. -/
theorem newline_not_mem_utf8Bytes {s : String} (h : '\n' ∉ s.toList) : 0x0a ∉ utf8Bytes s := by
  rw [utf8Bytes_eq_flatMap]
  intro hmem
  obtain ⟨c, hc, hbyte⟩ := List.mem_flatMap.1 hmem
  have hnewline : c.toNat = '\n'.toNat := toNat_eq_of_mem_utf8EncodeChar (by decide) hbyte
  rw [Char.toNat_inj.1 hnewline] at hc
  exact h hc

/-- A text without controls has no line feed in it. -/
theorem ArePlain.newline_not_mem {cs : List Char} (h : ArePlain cs) : '\n' ∉ cs := fun hmem =>
  absurd (h _ hmem) (by decide)

/-- No line feed stands in the text of a value. -/
theorem newline_not_mem_render (j : Json) : '\n' ∉ j.render.toList := by
  rw [Json.render, String.toList_ofList]
  exact j.arePlain_chars.newline_not_mem

/-- No byte of the text of a value is a line feed. -/
theorem newline_not_mem_utf8Bytes_render (j : Json) : 0x0a ∉ utf8Bytes j.render :=
  newline_not_mem_utf8Bytes (newline_not_mem_render j)

/-- The bytes of a text are read as that text. -/
theorem fromUTF8?_utf8Bytes (s : String) : String.fromUTF8? ⟨(utf8Bytes s).toArray⟩ = some s :=
  dif_pos s.isValidUTF8

end Noughts

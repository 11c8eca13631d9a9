import Noughts.Json.Basic
import Noughts.Json.Token

/-!
# The tokens of a written value

The lexer takes the written form of a value apart into exactly the tokens that the writer put
together: `Json.scan_chars`. A number is the one token that does not show where it ends, so the
statements are about a written form and what comes behind it, which is the end of the text, a comma
or a closing bracket (`Json.Ends`).

`Json.nested` is the induction over values that all later proofs about them use.
-/

namespace Noughts

namespace Json

/-- Induction over a value: a list has the property if its items have it, and a record if the values
of its members have it. -/
@[elab_as_elim]
theorem nested {P : Json → Prop} (null : P null) (bool : ∀ b, P (bool b))
    (natural : ∀ n, P (natural n)) (integer : ∀ i, P (integer i)) (text : ∀ s, P (text s))
    (list : ∀ items, (∀ item ∈ items, P item) → P (list items))
    (record : ∀ members, (∀ member ∈ members, P member.2) → P (record members)) (j : Json) : P j :=
  @Json.rec P (fun items => ∀ item ∈ items, P item) (fun members => ∀ member ∈ members, P member.2)
    (fun member => P member.2) null bool natural integer text list record
    (fun _ hnil => absurd hnil List.not_mem_nil)
    (fun _ _ hitem hrest => List.forall_mem_cons.2 ⟨hitem, hrest⟩)
    (fun _ hnil => absurd hnil List.not_mem_nil)
    (fun _ _ hmember hrest => List.forall_mem_cons.2 ⟨hmember, hrest⟩)
    (fun _ _ hvalue => hvalue) j

end Json

/-- What a whole number with sign is read as. -/
def Numeral.ofInteger (i : Int64) : Numeral :=
  if i.toInt < 0 then .negative i else .natural (UInt64.ofNat i.toInt.toNat)

namespace Json

mutual

/-- The tokens of a value. -/
def tokens : Json → List Token
  | null => [.null]
  | bool b => [.bool b]
  | natural n => [.number (.natural n)]
  | integer i => [.number (.ofInteger i)]
  | text s => [.text (some s)]
  | list [] => [.openList, .closeList]
  | list (item :: rest) => .openList :: (tokens item ++ tokensOfItems rest)
  | record [] => [.openRecord, .closeRecord]
  | record (member :: rest) => .openRecord :: (tokensOfMember member ++ tokensOfMembers rest)

/-- The tokens of the further items of a list. -/
def tokensOfItems : List Json → List Token
  | [] => [.closeList]
  | item :: rest => .comma :: (tokens item ++ tokensOfItems rest)

/-- The tokens of a member of a record. -/
def tokensOfMember : String × Json → List Token
  | (key, value) => .text (some key) :: .colon :: tokens value

/-- The tokens of the further members of a record. -/
def tokensOfMembers : List (String × Json) → List Token
  | [] => [.closeRecord]
  | member :: rest => .comma :: (tokensOfMember member ++ tokensOfMembers rest)

end

/-- What may come behind a value: nothing, a comma or a closing bracket. -/
inductive Ends : List Char → Prop where
  | nothing : Ends []
  | comma (rest : List Char) : Ends (',' :: rest)
  | bracket (rest : List Char) : Ends (']' :: rest)
  | brace (rest : List Char) : Ends ('\x7d' :: rest)

end Json

namespace Scan

/-- One character further. -/
theorem tokens_cons_of_advance {s next : Scan} {c : Char} {done : List Token}
    (h : s.advance c = (done, some next)) (rest : List Char) :
    s.tokens (c :: rest) = done ++ next.tokens rest := by
  rw [tokens, h]

/-- A character that completes nothing. -/
theorem tokens_cons_of_continue {s next : Scan} {c : Char} (h : s.advance c = ([], some next))
    (rest : List Char) : s.tokens (c :: rest) = next.tokens rest :=
  tokens_cons_of_advance h rest

/-! ## Words and commas -/

/-- The word for nothing is one token. -/
theorem tokens_null (rest : List Char) :
    between.tokens ('n' :: 'u' :: 'l' :: 'l' :: rest) = .null :: between.tokens rest := rfl

/-- The word for true is one token. -/
theorem tokens_true (rest : List Char) :
    between.tokens ('t' :: 'r' :: 'u' :: 'e' :: rest) = .bool true :: between.tokens rest := rfl

/-- The word for false is one token. -/
theorem tokens_false (rest : List Char) :
    between.tokens ('f' :: 'a' :: 'l' :: 's' :: 'e' :: rest) = .bool false :: between.tokens rest :=
  rfl

/-- A comma is one token. -/
theorem tokens_comma (rest : List Char) :
    between.tokens (',' :: rest) = .comma :: between.tokens rest := rfl

/-! ## Numbers -/

/-- A number that may end is given out before what comes behind it. -/
theorem tokens_number_of_ends {stage : NumberStage} {t : NumberText} {rest : List Char}
    (hstage : stage = .zero ∨ stage = .whole) (hrest : Json.Ends rest) :
    (number stage t).tokens rest = .number t.numeral :: between.tokens rest := by
  rcases hstage with rfl | rfl <;> cases hrest <;> rfl

/-- Digits join the whole part of a number, newest first. -/
theorem tokens_digits {digits : List Char} (hdigits : ∀ d ∈ digits, d.isDigit = true)
    (t : NumberText) (rest : List Char) :
    (number .whole t).tokens (digits ++ rest) =
      (number .whole { t with whole := digits.reverse ++ t.whole }).tokens rest := by
  induction digits generalizing t with
  | nil => rfl
  | cons d digits ih =>
      have hd : d.isDigit = true := hdigits d List.mem_cons_self
      have hadvance : (number .whole t).advance d =
          ([], some (number .whole { t with whole := d :: t.whole })) := by
        simp [advance, NumberText.step, hd]
      rw [List.cons_append, tokens_cons_of_continue hadvance,
        ih fun e he => hdigits e (List.mem_cons_of_mem _ he)]
      simp

end Scan

/-- A positive number is written with a first digit that is not zero. -/
theorem exists_toDigits_eq_cons {n : Nat} (hn : 0 < n) :
    ∃ d ds, Nat.toDigits 10 n = d :: ds ∧ d ≠ '0' := by
  have hsingle : ∀ k < 10, 0 < k → Nat.digitChar k ≠ '0' := by decide
  induction n using Nat.strongRecOn with
  | ind n ih =>
      rw [Nat.toDigits_eq_if (by omega)]
      split
      · next hlt => exact ⟨_, [], rfl, hsingle n hlt hn⟩
      · next hge =>
        obtain ⟨d, ds, hdigits, hd⟩ := ih (n / 10) (by omega) (by omega)
        exact ⟨d, ds ++ [Nat.digitChar (n % 10)], by rw [hdigits]; rfl, hd⟩

namespace NumberText

/-- A whole number of which all digits are read. -/
def ofNatural (isNegative : Bool) (n : Nat) : NumberText :=
  { blank isNegative with whole := (Nat.toDigits 10 n).reverse }

/-- A number whose digits are all read is that number, with its sign as far as 64 bits allow it. -/
theorem numeral_ofNatural (isNegative : Bool) (n : Nat) (hn : n < UInt64.size) :
    (ofNatural isNegative n).numeral =
      if !isNegative then .natural (UInt64.ofNat n)
      else if 0 < n ∧ n ≤ Nat.pow 2 63 then .negative (Int64.ofInt (-n)) else .inexact := by
  have hdigits : Nat.ofDigitChars 10 (ofNatural isNegative n).whole.reverse 0 = n := by
    rw [ofNatural, List.reverse_reverse, Nat.ofDigitChars_ten_toDigits]
  rw [numeral, hdigits, if_pos ⟨rfl, hn⟩]
  rfl

end NumberText

namespace Scan

/-- The first digit of a number that is not zero opens its whole part. -/
theorem begin_digit {d : Char} (hd : d.isDigit = true) (hzero : d ≠ '0') :
    begin d = ([], some (number .whole { NumberText.blank false with whole := [d] })) := by
  have hother (c : Char) (hc : c.isDigit = false) : d ≠ c := fun h => by
    rw [← h, hd] at hc
    cases hc
  simp [begin, hother, hzero, hd]

/-- The digits of a number are one token if what follows may come behind a value. -/
theorem tokens_toDigits (n : Nat) {rest : List Char} (hrest : Json.Ends rest) :
    between.tokens (Nat.toDigits 10 n ++ rest) =
      .number (NumberText.ofNatural false n).numeral :: between.tokens rest := by
  rcases Nat.eq_zero_or_pos n with rfl | hn
  · exact tokens_number_of_ends (Or.inl rfl) hrest
  · obtain ⟨d, ds, hdigits, hzero⟩ := exists_toDigits_eq_cons hn
    have hall : ∀ c ∈ d :: ds, c.isDigit = true := fun c hc =>
      Nat.isDigit_of_mem_toDigits (by omega) (by omega) (hdigits ▸ hc)
    have hbegin : between.advance d = _ := begin_digit (hall d List.mem_cons_self) hzero
    rw [hdigits, List.cons_append, tokens_cons_of_continue hbegin,
      tokens_digits fun c hc => hall c (List.mem_cons_of_mem _ hc),
      tokens_number_of_ends (Or.inr rfl) hrest]
    simp [NumberText.ofNatural, hdigits]

/-- A minus sign and the digits of a positive number are one token. -/
theorem tokens_minus_toDigits {n : Nat} (hn : 0 < n) {rest : List Char} (hrest : Json.Ends rest) :
    between.tokens ('-' :: (Nat.toDigits 10 n ++ rest)) =
      .number (NumberText.ofNatural true n).numeral :: between.tokens rest := by
  obtain ⟨d, ds, hdigits, hzero⟩ := exists_toDigits_eq_cons hn
  have hall : ∀ c ∈ d :: ds, c.isDigit = true := fun c hc =>
    Nat.isDigit_of_mem_toDigits (by omega) (by omega) (hdigits ▸ hc)
  have hsign : between.advance '-' = ([], some (number .sign (.blank true))) := rfl
  have hfirst : (number .sign (.blank true)).advance d =
      ([], some (number .whole { NumberText.blank true with whole := [d] })) := by
    simp [advance, NumberText.step, hzero, hall d List.mem_cons_self]
  rw [tokens_cons_of_continue hsign, hdigits, List.cons_append, tokens_cons_of_continue hfirst,
    tokens_digits fun c hc => hall c (List.mem_cons_of_mem _ hc),
    tokens_number_of_ends (Or.inr rfl) hrest]
  simp [NumberText.ofNatural, hdigits]

/-- An unsigned number is one token. -/
theorem tokens_natural (n : UInt64) {rest : List Char} (hrest : Json.Ends rest) :
    between.tokens ((Json.natural n).chars ++ rest) =
      .number (.natural n) :: between.tokens rest := by
  have hn : n.toNat < UInt64.size := n.toNat_lt
  rw [Json.chars, tokens_toDigits _ hrest, NumberText.numeral_ofNatural _ _ hn]
  simp

/-- A signed number is one token. -/
theorem tokens_integer (i : Int64) {rest : List Char} (hrest : Json.Ends rest) :
    between.tokens ((Json.integer i).chars ++ rest) =
      .number (.ofInteger i) :: between.tokens rest := by
  have hlow : -(Nat.pow 2 63 : Int) ≤ i.toInt := i.le_toInt
  have hhigh : i.toInt < (Nat.pow 2 63 : Int) := i.toInt_lt
  have hsize : Nat.pow 2 63 < UInt64.size := by decide
  rw [Json.chars, Json.decimal, Numeral.ofInteger]
  by_cases hi : i.toInt < 0
  · have hn : 0 < i.toInt.natAbs ∧ i.toInt.natAbs ≤ Nat.pow 2 63 := by omega
    have hback : -(i.toInt.natAbs : Int) = i.toInt := by omega
    rw [if_pos hi, if_pos hi, List.cons_append, tokens_minus_toDigits hn.1 hrest,
      NumberText.numeral_ofNatural _ _ (by omega), if_neg (by decide), if_pos hn, hback,
      Int64.ofInt_toInt]
  · have hback : i.toInt.natAbs = i.toInt.toNat := by omega
    rw [if_neg hi, if_neg hi, hback, tokens_toDigits _ hrest,
      NumberText.numeral_ofNatural _ _ (by omega)]
    simp

end Scan

/-! ## Texts -/

/-- The piece that a character of a text is read as. Those without a letter of their own are written
as units. -/
def TextPiece.ofChar (c : Char) : TextPiece :=
  if c ∈ ['\n', '\r', '\t', '\x08', '\x0c'] ∨ 0x20 ≤ c.toNat then .char c else .unit c.toNat

namespace TextPiece

/-- A unit that is no surrogate stands for its character, whatever follows. -/
theorem join?_unit_cons {n : Nat} (hn : n < 0xD800) (rest : List TextPiece) :
    join? (.unit n :: rest) = (join? rest).map (Char.ofNat n :: ·) := by
  cases rest with
  | nil => simp [join?, hn]
  | cons piece rest =>
      cases piece with
      | char c => simp [join?, hn]
      | unit m => rw [join?, if_pos (Or.inl hn)]

/-- The pieces of a text make it up. -/
theorem join?_map_ofChar (cs : List Char) : join? (cs.map ofChar) = some cs := by
  induction cs with
  | nil => rfl
  | cons c cs ih =>
      rw [List.map_cons, ofChar]
      split
      · rw [join?, ih]
        rfl
      · next hother =>
        have hsmall : c.toNat < 0xD800 := by
          have hlow := (not_or.1 hother).2
          omega
        rw [join?_unit_cons hsmall, ih, Char.ofNat_toNat]
        rfl

end TextPiece

namespace Scan

/-- Four hexadecimal digits make up a unit. -/
theorem tokens_digitChars {a b c d : Nat} (ha : a < 16) (hb : b < 16) (hc : c < 16) (hd : d < 16)
    (read : List TextPiece) (rest : List Char) :
    (unit read 4 0).tokens (Nat.digitChar a :: Nat.digitChar b :: Nat.digitChar c ::
        Nat.digitChar d :: rest) =
      (text (.unit (16 * (16 * (16 * a + b) + c) + d) :: read)).tokens rest := by
  have hvalue : ∀ k < 16, hexValue? (Nat.digitChar k) = some k := by decide
  have hmore {k value missing : Nat} (hk : k < 16) :
      (unit read (missing + 2) value).advance (Nat.digitChar k) =
        ([], some (unit read (missing + 1) (16 * value + k))) := by
    simp [advance, hvalue k hk]
  have hlast {k value : Nat} (hk : k < 16) :
      (unit read 1 value).advance (Nat.digitChar k) =
        ([], some (text (.unit (16 * value + k) :: read))) := by
    simp [advance, hvalue k hk]
  rw [tokens_cons_of_continue (hmore ha), tokens_cons_of_continue (hmore hb),
    tokens_cons_of_continue (hmore hc), tokens_cons_of_continue (hlast hd)]
  simp

/-- A character below U+0020 in hexadecimal. -/
theorem tokens_hexEscape {c : Char} (hc : c.toNat < 0x20) (read : List TextPiece)
    (rest : List Char) :
    (text read).tokens (Json.hexEscape c ++ rest) =
      (text (.unit c.toNat :: read)).tokens rest := by
  have hbackslash : (text read).advance '\\' = ([], some (escape read)) := rfl
  have hu : (escape read).advance 'u' = ([], some (unit read 4 0)) := rfl
  have hvalue : 16 * (16 * (16 * (c.toNat / 4096 % 16) + c.toNat / 256 % 16) + c.toNat / 16 % 16)
      + c.toNat / 1 % 16 = c.toNat := by omega
  have hdigits := tokens_digitChars (a := c.toNat / 4096 % 16) (b := c.toNat / 256 % 16)
    (c := c.toNat / 16 % 16) (d := c.toNat / 1 % 16) (by omega) (by omega) (by omega) (by omega)
    read rest
  rw [hvalue] at hdigits
  show (text read).tokens ('\\' :: 'u' :: _) = _
  rw [tokens_cons_of_continue hbackslash, tokens_cons_of_continue hu]
  exact hdigits

/-- A letter behind a backslash. -/
theorem tokens_escape {letter c : Char} (h : escapeOf? letter = some c) (hletter : letter ≠ 'u')
    (read : List TextPiece) (rest : List Char) :
    (text read).tokens ('\\' :: letter :: rest) = (text (.char c :: read)).tokens rest := by
  have hbackslash : (text read).advance '\\' = ([], some (escape read)) := rfl
  have hadvance : (escape read).advance letter = ([], some (text (.char c :: read))) := by
    simp [advance, hletter, h]
  rw [tokens_cons_of_continue hbackslash, tokens_cons_of_continue hadvance]

/-- A written character is read as its piece. -/
theorem tokens_escaped (c : Char) (read : List TextPiece) (rest : List Char) :
    (text read).tokens (Json.escaped c ++ rest) =
      (text (.ofChar c :: read)).tokens rest := by
  unfold Json.escaped
  split
  · next h => subst h; exact tokens_escape rfl (by decide) read rest
  split
  · next h => subst h; exact tokens_escape rfl (by decide) read rest
  split
  · next h => subst h; exact tokens_escape rfl (by decide) read rest
  split
  · next h => subst h; exact tokens_escape rfl (by decide) read rest
  split
  · next h => subst h; exact tokens_escape rfl (by decide) read rest
  split
  · next h => subst h; exact tokens_escape rfl (by decide) read rest
  split
  · next h => subst h; exact tokens_escape rfl (by decide) read rest
  split
  · next hquote hbackslash hn hr ht hb hf hlow =>
    have hpiece : TextPiece.ofChar c = .unit c.toNat := by
      simp [TextPiece.ofChar, hn, hr, ht, hb, hf, hlow]
    rw [hpiece, tokens_hexEscape hlow]
  · next hquote hbackslash hn hr ht hb hf hlow =>
    have hpiece : TextPiece.ofChar c = .char c := by
      simp [TextPiece.ofChar, Nat.le_of_not_lt hlow]
    have hadvance : (text read).advance c = ([], some (text (.char c :: read))) := by
      simp [advance, hquote, hbackslash, hlow]
    rw [hpiece, List.cons_append, List.nil_append, tokens_cons_of_continue hadvance]

/-- The written characters of a text are read as its pieces, newest first. -/
theorem tokens_flatMap_escaped (cs : List Char) (read : List TextPiece) (rest : List Char) :
    (text read).tokens (cs.flatMap Json.escaped ++ rest) =
      (text ((cs.map TextPiece.ofChar).reverse ++ read)).tokens rest := by
  induction cs generalizing read with
  | nil => rfl
  | cons c cs ih =>
      rw [List.flatMap_cons, List.append_assoc, tokens_escaped, ih]
      simp

/-- A text between its quotes is one token, which holds the text without escapes. -/
theorem tokens_quoted (s : String) (rest : List Char) :
    between.tokens (Json.quoted s ++ rest) = .text (some s) :: between.tokens rest := by
  have hopen : between.advance '"' = ([], some (text [])) := rfl
  have hclose : (text (s.toList.map TextPiece.ofChar).reverse).advance '"' =
      ([.text (some s)], some between) := by
    rw [advance, if_pos rfl, List.reverse_reverse, TextPiece.join?_map_ofChar]
    simp
  rw [Json.quoted, List.cons_append, tokens_cons_of_continue hopen, List.append_assoc,
    tokens_flatMap_escaped, List.append_nil, List.singleton_append,
    tokens_cons_of_advance hclose]
  rfl

end Scan

/-! ## Values -/

namespace Json

open Scan

/-- Behind an item comes a comma or the bracket of its list. -/
theorem ends_charsOfItems (items : List Json) (rest : List Char) :
    Ends (charsOfItems items ++ rest) := by
  cases items with
  | nil => exact .bracket _
  | cons item items => exact .comma _

/-- Behind a member comes a comma or the brace of its record. -/
theorem ends_charsOfMembers (members : List (String × Json)) (rest : List Char) :
    Ends (charsOfMembers members ++ rest) := by
  cases members with
  | nil => exact .brace _
  | cons member members => exact .comma _

/-- The written form of the value is taken apart into its tokens, whatever may come behind it. -/
def Scans (j : Json) : Prop :=
  ∀ rest, Ends rest → between.tokens (j.chars ++ rest) = j.tokens ++ between.tokens rest

/-- The further items of a list are taken apart into their tokens if each of them is. -/
theorem tokens_charsOfItems {items : List Json} (h : ∀ item ∈ items, item.Scans)
    (rest : List Char) :
    between.tokens (charsOfItems items ++ rest) = tokensOfItems items ++ between.tokens rest := by
  induction items with
  | nil => rfl
  | cons item items ih =>
      rw [charsOfItems, tokensOfItems, List.cons_append, tokens_comma, List.append_assoc,
        h item List.mem_cons_self _ (ends_charsOfItems items rest),
        ih fun other hother => h other (List.mem_cons_of_mem _ hother)]
      simp

/-- A member is taken apart into its key, the colon and the tokens of its value. -/
theorem tokens_charsOfMember {member : String × Json} (h : member.2.Scans) {rest : List Char}
    (hrest : Ends rest) :
    between.tokens (charsOfMember member ++ rest) =
      tokensOfMember member ++ between.tokens rest := by
  have hcolon (rest : List Char) :
      between.tokens (':' :: rest) = .colon :: between.tokens rest := rfl
  obtain ⟨key, value⟩ := member
  rw [charsOfMember, tokensOfMember, List.append_assoc, tokens_quoted, List.cons_append, hcolon,
    h _ hrest]
  rfl

/-- The further members of a record are taken apart into their tokens if the value of each is. -/
theorem tokens_charsOfMembers {members : List (String × Json)}
    (h : ∀ member ∈ members, member.2.Scans) (rest : List Char) :
    between.tokens (charsOfMembers members ++ rest) =
      tokensOfMembers members ++ between.tokens rest := by
  induction members with
  | nil => rfl
  | cons member members ih =>
      rw [charsOfMembers, tokensOfMembers, List.cons_append, tokens_comma, List.append_assoc,
        tokens_charsOfMember (h member List.mem_cons_self) (ends_charsOfMembers members rest),
        ih fun other hother => h other (List.mem_cons_of_mem _ hother)]
      simp

/-- The lexer takes every written form apart into the tokens of its value. -/
theorem scans (j : Json) : j.Scans := by
  induction j using Json.nested with
  | null => exact fun rest _ => tokens_null rest
  | bool b =>
      cases b with
      | true => exact fun rest _ => tokens_true rest
      | false => exact fun rest _ => tokens_false rest
  | natural n => exact fun rest hrest => tokens_natural n hrest
  | integer i => exact fun rest hrest => tokens_integer i hrest
  | text s => exact fun rest _ => tokens_quoted s rest
  | list items ih =>
      intro rest _
      have hopen (rest : List Char) :
          between.tokens ('[' :: rest) = .openList :: between.tokens rest := rfl
      cases items with
      | nil => rfl
      | cons item items =>
          rw [chars, tokens, List.cons_append, hopen, List.append_assoc,
            ih item List.mem_cons_self _ (ends_charsOfItems items rest),
            tokens_charsOfItems fun other hother => ih other (List.mem_cons_of_mem _ hother)]
          simp
  | record members ih =>
      intro rest _
      have hopen (rest : List Char) :
          between.tokens ('\x7b' :: rest) = .openRecord :: between.tokens rest := rfl
      cases members with
      | nil => rfl
      | cons member members =>
          rw [chars, tokens, List.cons_append, hopen, List.append_assoc,
            tokens_charsOfMember (ih member List.mem_cons_self) (ends_charsOfMembers members rest),
            tokens_charsOfMembers fun other hother => ih other (List.mem_cons_of_mem _ hother)]
          simp

/-- A written value as a whole text has the tokens of the value and no others. -/
theorem scan_chars (j : Json) : Token.scan j.chars = j.tokens := by
  have h := j.scans [] .nothing
  rw [List.append_nil] at h
  rw [Token.scan, h]
  exact List.append_nil _

end Json

end Noughts

import Noughts.Json.Reader
import Noughts.Proofs.Json.Tree

/-!
# Reading what was written

`Reader.Reads reader j a` says that a reader turns the written value `j` into `a` wherever there is
room for its depth. The law is stated once for each way to put readers together: lists, optional
values, choices of names, records of fields (`Fields.Written`) and values with a tag. For a whole
type it then takes no more than the laws of its parts.

A value that is read back from its tree is read back from its text: `ofWireText_render`.
-/

namespace Noughts

/-! ## Room -/

/-- Whether there is room for a value of this depth. Written values do not stand in tables. -/
def Manner.Admits : Manner → Nat → Prop
  | streamed opened, depth => opened + depth ≤ maxDepth
  | kept, _ => True
  | table, _ => False

namespace Manner

variable {manner : Manner} {depth : Nat}

/-- Where there is room for a value there is room for one of less depth. -/
theorem Admits.mono {inner : Nat} (h : manner.Admits depth) (hle : inner ≤ depth) :
    manner.Admits inner := by
  cases manner with
  | streamed opened => exact Nat.le_trans (Nat.add_le_add_left hle opened) h
  | kept => trivial
  | table => exact h.elim

/-- Where there is room for a container there is room for what it holds. -/
theorem Admits.enter (h : manner.Admits (depth + 1)) :
    ∃ inner, manner.enter = .ok inner ∧ inner.Admits depth := by
  cases manner with
  | streamed opened =>
      have hroom : opened + (depth + 1) ≤ maxDepth := h
      refine ⟨.streamed (opened + 1), if_pos (by omega), ?_⟩
      show opened + 1 + depth ≤ maxDepth
      omega
  | kept => exact ⟨.kept, rfl, trivial⟩
  | table => exact h.elim

/-- A written value can be skipped. -/
theorem Admits.skip {j : Json} (h : manner.Admits depth) : manner.skip j.node = .ok () := by
  cases manner with
  | streamed opened => exact if_pos j.isIntact_node
  | kept => rfl
  | table => exact h.elim

/-- A written value can be kept. -/
theorem Admits.keep {j : Json} (h : manner.Admits j.depth) : manner.keep j.node = .ok () := by
  cases manner with
  | streamed opened =>
      have hroom : opened + j.depth ≤ maxDepth := h
      exact if_pos (j.keeps _ (by omega))
  | kept => rfl
  | table => exact h.elim

end Manner

namespace Reader

/-- The reader turns the written value into `a` wherever there is room for it. -/
def Reads {α : Type} (reader : Reader α) (j : Json) (a : α) : Prop :=
  ∀ manner, manner.Admits j.depth → reader manner j.node = .ok a

variable {α β : Type} {reader : Reader α} {j : Json} {a : α}

/-! ## Single values -/

/-- A text is read back. -/
theorem reads_text (s : String) : Reader.text.Reads (.text s) s := fun _ _ => rfl

/-- A truth value is read back. -/
theorem reads_bool (b : Bool) : Reader.bool.Reads (.bool b) b := fun _ _ => rfl

/-- An unsigned number is read back. -/
theorem reads_natural (n : UInt64) : Reader.natural.Reads (.natural n) n := fun _ _ => rfl

/-- A signed number is read back: it is written without a sign if it is not negative, and then it is
less than half of the unsigned numbers. -/
theorem reads_integer (i : Int64) : Reader.integer.Reads (.integer i) i := by
  intro manner _
  have hhigh : i.toInt < (Nat.pow 2 63 : Int) := i.toInt_lt
  have hsize : Nat.pow 2 63 < UInt64.size := by decide
  rw [Json.node, Numeral.ofInteger]
  by_cases hi : i.toInt < 0
  · rw [if_pos hi]
    rfl
  · have hback : ((UInt64.ofNat i.toInt.toNat).toNat : Int) = i.toInt := by
      rw [UInt64.toNat_ofNat_of_lt' (by omega)]
      omega
    rw [if_neg hi]
    show (if _ then Except.ok (Int64.ofInt _) else _) = _
    rw [if_pos (by omega), hback, Int64.ofInt_toInt]

/-- What is made of a value that is read back is made of that value. -/
theorem Reads.map (h : reader.Reads j a) (f : α → β) : (reader.map f).Reads j (f a) := by
  intro manner hroom
  rw [Reader.map, h manner hroom]
  rfl

/-- An optional value that is there, if it is not written as `null`. -/
theorem Reads.some (h : reader.Reads j a) (hnull : j.node ≠ .null) :
    reader.option.Reads j (some a) := by
  intro manner hroom
  unfold option
  split
  · next hnode => exact absurd hnode hnull
  · rw [h manner hroom]
    rfl

/-- One of a choice of names. -/
theorem reads_choice {names : List (String × α)} {name : String}
    (h : names.lookup name = .some a) : (Reader.choice names).Reads (.text name) a := by
  intro manner _
  have hnamed : named names name = .ok a := by rw [named, h]
  cases manner <;> exact hnamed

/-! ## Lists -/

/-- The items of a list are read back one after another if each of them is. -/
theorem items_nodesOfItems {f : α → Json} {as : List α} (h : ∀ a ∈ as, reader.Reads (f a) a)
    {manner : Manner} (hroom : manner.Admits (Json.depthOfItems (as.map f))) :
    items reader manner true (Json.nodesOfItems (as.map f)) = .ok as := by
  induction as with
  | nil => rfl
  | cons a as ih =>
      rw [List.map_cons, Json.depthOfItems] at hroom
      have hhead := h a List.mem_cons_self manner (hroom.mono (Nat.le_max_left _ _))
      have htail := ih (fun b hb => h b (List.mem_cons_of_mem _ hb))
        (hroom.mono (Nat.le_max_right _ _))
      rw [List.map_cons, Json.nodesOfItems, items, hhead, htail]
      rfl

/-- A list whose items are read back. -/
theorem reads_list {f : α → Json} {as : List α} (h : ∀ a ∈ as, reader.Reads (f a) a) :
    reader.list.Reads (.ofList f as) as := by
  intro manner hroom
  obtain ⟨inner, henter, hinner⟩ := Manner.Admits.enter hroom
  show (do let inner ← manner.enter; items reader inner true _) = _
  rw [henter]
  exact items_nodesOfItems h hinner

/-- Nothing is left of a list of which everything was read. -/
theorem excess_nil (manner : Manner) (read : Nat) : excess manner read true [] = .ok () := by
  cases manner <;> rfl

/-- As many items of a list as there are. -/
theorem exactly_nodesOfItems {f : α → Json} {as : List α} (h : ∀ a ∈ as, reader.Reads (f a) a)
    {manner : Manner} (hroom : manner.Admits (Json.depthOfItems (as.map f))) (read : Nat) :
    exactly reader manner true read as.length (Json.nodesOfItems (as.map f)) =
      .ok ⟨as.toArray, rfl⟩ := by
  induction as generalizing read with
  | nil =>
      show (excess manner read true []).bind _ = _
      rw [excess_nil]
      rfl
  | cons a as ih =>
      rw [List.map_cons, Json.depthOfItems] at hroom
      have hhead := h a List.mem_cons_self manner (hroom.mono (Nat.le_max_left _ _))
      have htail := ih (fun b hb => h b (List.mem_cons_of_mem _ hb))
        (hroom.mono (Nat.le_max_right _ _)) (read + 1)
      show exactly reader manner true read (as.length + 1) ((f a).node :: _) = _
      rw [exactly, hhead]
      show (exactly reader manner true (read + 1) as.length _).bind _ = _
      rw [htail]
      show Except.ok _ = Except.ok _
      congr 1
      apply Vector.toList_inj.1
      simp

/-- A list of a fixed length whose items are read back. -/
theorem reads_vector {f : α → Json} {count : Nat} {as : Vector α count}
    (h : ∀ a ∈ as.toList, reader.Reads (f a) a) :
    (reader.vector count).Reads (.ofList f as.toList) as := by
  obtain ⟨⟨as⟩, rfl⟩ := as
  intro manner hroom
  obtain ⟨inner, henter, hinner⟩ := Manner.Admits.enter hroom
  show manner.enter.bind _ = _
  rw [henter]
  exact exactly_nodesOfItems h hinner 0

end Reader

/-! ## Records -/

namespace Fields

/-- The names of the fields. -/
def names : {τs : List Type} → Fields τs → List String
  | _, nil => []
  | _, cons name _ _ rest => name :: rest.names

/-- `Written others fields values members` says that `members` are the fields with these values in
their order, some of those that may be missing left out, and between them members with keys from
`others`. -/
inductive Written (others : List String) :
    {τs : List Type} → Fields τs → Values τs → List (String × Json) → Prop where
  | nil : Written others .nil () []
  | other {τs : List Type} {fields : Fields τs} {values : Values τs}
      {members : List (String × Json)} {key : String} {j : Json} (hkey : key ∈ others)
      (hrest : Written others fields values members) :
      Written others fields values ((key, j) :: members)
  | present {τs : List Type} {rest : Fields τs} {values : Values τs}
      {members : List (String × Json)} {α : Type} {name : String} {reader : Reader α}
      {default? : Option α} {a : α} {j : Json} (hreads : reader.Reads j a)
      (hrest : Written others rest values members) :
      Written others (.cons name reader default? rest) (a, values) ((name, j) :: members)
  | absent {τs : List Type} {rest : Fields τs} {values : Values τs}
      {members : List (String × Json)} {α : Type} {name : String} {reader : Reader α} {a : α}
      (hrest : Written others rest values members) :
      Written others (.cons name reader (some a) rest) (a, values) members

variable {τs : List Type} {others : List String}

/-- Each member is a field or one of the others. -/
theorem Written.mem_names_or {fields : Fields τs} {values : Values τs}
    {members : List (String × Json)} (h : Written others fields values members) :
    ∀ member ∈ members, member.1 ∈ fields.names ∨ member.1 ∈ others := by
  induction h with
  | nil => exact fun _ hmember => absurd hmember List.not_mem_nil
  | other hkey _ ih => exact List.forall_mem_cons.2 ⟨Or.inr hkey, ih⟩
  | present _ _ ih =>
      exact List.forall_mem_cons.2 ⟨Or.inl List.mem_cons_self,
        fun member hmember => (ih member hmember).imp_left (List.mem_cons_of_mem _)⟩
  | absent _ ih =>
      exact fun member hmember => (ih member hmember).imp_left (List.mem_cons_of_mem _)

/-- No member has a key that is neither a field nor one of the others. -/
theorem Written.ne_of_not_mem {fields : Fields τs} {values : Values τs}
    {members : List (String × Json)} (h : Written others fields values members) {name : String}
    (hfields : name ∉ fields.names) (hothers : name ∉ others) :
    ∀ member ∈ members, member.1 ≠ name := by
  rintro member hmember rfl
  rcases h.mem_names_or member hmember with hmem | hmem
  · exact hfields hmem
  · exact hothers hmem

/-- A key that no field has is left to the reader of the other members. -/
theorem readField_of_not_mem {key : String} {fields : Fields τs} (h : key ∉ fields.names)
    (manner : Manner) (node : Node) (slots : Slots τs) :
    fields.readField key manner node slots = none := by
  induction fields with
  | nil => rfl
  | cons name reader default? rest ih =>
      obtain ⟨slot, slots⟩ := slots
      rw [names, List.mem_cons, not_or] at h
      have hrest : (rest.readField key manner node slots).map (fun result =>
          result.map fun more => (slot, more)) = none := by rw [ih h.2 slots]; rfl
      exact (if_neg (Ne.symm h.1)).trans hrest

/-- A member is read if its key is that of a field. -/
theorem readMembers_of_some {fields : Fields τs} {key : String} {manner : Manner} {node : Node}
    {slots : Slots τs} {result : Except Fault (Slots τs)}
    (h : fields.readField key manner node slots = some result)
    (members : List (Option String × Node)) :
    fields.readMembers manner true slots ((some key, node) :: members) =
      result.bind fun slots => fields.readMembers manner true slots members := by
  rw [readMembers, h]
  rfl

/-- A member is skipped if its key is that of no field. -/
theorem readMembers_of_none {fields : Fields τs} {key : String} {manner : Manner} {node : Node}
    {slots : Slots τs} (h : fields.readField key manner node slots = none)
    (hskip : manner.skip node = .ok ()) (members : List (Option String × Node)) :
    fields.readMembers manner true slots ((some key, node) :: members) =
      fields.readMembers manner true slots members := by
  rw [readMembers, h]
  show (manner.skip node).bind _ = _
  rw [hskip]
  rfl

/-- Members under other keys pass a field by. -/
theorem readMembers_cons_of_not_mem {α : Type} {name : String} {reader : Reader α}
    {default? : Option α} {rest : Fields τs} {manner : Manner} {members : List (String × Json)}
    (h : ∀ member ∈ members, member.1 ≠ name) (hroom : manner.Admits (Json.depthOfMembers members))
    (slot : Option α) {slots more : Slots τs}
    (hread : rest.readMembers manner true slots (Json.nodesOfMembers members) = .ok more) :
    (cons name reader default? rest).readMembers manner true (slot, slots)
      (Json.nodesOfMembers members) = .ok (slot, more) := by
  induction members generalizing slots with
  | nil =>
      cases hread
      rfl
  | cons member members ih =>
      obtain ⟨key, value⟩ := member
      rw [Json.depthOfMembers] at hroom
      have hkey : name ≠ key := Ne.symm (h (key, value) List.mem_cons_self)
      have hmembers := fun other hother => h other (List.mem_cons_of_mem _ hother)
      have hinner := hroom.mono (Nat.le_max_right _ _)
      have hfield : (cons name reader default? rest).readField key manner value.node (slot, slots) =
          (rest.readField key manner value.node slots).map fun result =>
            result.map fun more => (slot, more) := if_neg hkey
      rw [Json.nodesOfMembers] at hread ⊢
      cases hrest : rest.readField key manner value.node slots with
      | none =>
          rw [hrest] at hfield
          rw [readMembers_of_none hrest hroom.skip] at hread
          rw [readMembers_of_none hfield hroom.skip]
          exact ih hmembers hinner hread
      | some result =>
          rw [hrest] at hfield
          rw [readMembers_of_some hrest] at hread
          rw [readMembers_of_some hfield]
          cases result with
          | error fault => cases hread
          | ok next => exact ih hmembers hinner hread

/-- The members of a record that is written from these values are read back to them. -/
theorem Written.complete_readMembers {fields : Fields τs} {values : Values τs}
    {members : List (String × Json)} (h : Written others fields values members)
    (hnames : fields.names.Nodup) (hothers : ∀ key ∈ others, key ∉ fields.names)
    {manner : Manner} (hroom : manner.Admits (Json.depthOfMembers members)) :
    ∃ slots, fields.readMembers manner true fields.noSlots (Json.nodesOfMembers members) =
      .ok slots ∧ fields.complete slots = .ok values := by
  induction h with
  | nil => exact ⟨(), rfl, rfl⟩
  | @other _ fields _ members key j hkey _ ih =>
      rw [Json.depthOfMembers] at hroom
      obtain ⟨slots, hread, hcomplete⟩ :=
        ih hnames hothers (hroom.mono (Nat.le_max_right _ _))
      refine ⟨slots, ?_, hcomplete⟩
      rw [Json.nodesOfMembers, readMembers_of_none (readField_of_not_mem (hothers key hkey) _ _ _)
        hroom.skip]
      exact hread
  | @present _ rest values members α name reader default? a j hreads hrest ih =>
      obtain ⟨hname, hnames⟩ := List.nodup_cons.1 hnames
      rw [Json.depthOfMembers] at hroom
      have hinner := hroom.mono (Nat.le_max_right _ _)
      obtain ⟨slots, hread, hcomplete⟩ := ih hnames
        (fun key hkey hmem => hothers key hkey (List.mem_cons_of_mem _ hmem)) hinner
      have hkeys := hrest.ne_of_not_mem hname fun hother => hothers _ hother List.mem_cons_self
      have hfield : (cons name reader default? rest).readField name manner j.node
          (none, rest.noSlots) = some (.ok (some a, rest.noSlots)) := by
        show (if name = name then _ else _) = _
        rw [if_pos rfl, hreads manner (hroom.mono (Nat.le_max_left _ _))]
        rfl
      refine ⟨(some a, slots), ?_, ?_⟩
      · rw [Json.nodesOfMembers]
        exact (readMembers_of_some hfield _).trans
          (readMembers_cons_of_not_mem hkeys hinner (some a) hread)
      · show (rest.complete slots).bind _ = _
        rw [hcomplete]
        rfl
  | @absent _ rest values members α name reader a hrest ih =>
      obtain ⟨hname, hnames⟩ := List.nodup_cons.1 hnames
      obtain ⟨slots, hread, hcomplete⟩ := ih hnames
        (fun key hkey hmem => hothers key hkey (List.mem_cons_of_mem _ hmem)) hroom
      have hkeys := hrest.ne_of_not_mem hname fun hother => hothers _ hother List.mem_cons_self
      refine ⟨(none, slots), readMembers_cons_of_not_mem hkeys hroom none hread, ?_⟩
      show (rest.complete slots).bind _ = _
      rw [hcomplete]
      rfl

/-- A record that is written from these values is read back to them. -/
theorem Written.reads {fields : Fields τs} {values : Values τs} {members : List (String × Json)}
    (h : Written others fields values members) (hnames : fields.names.Nodup)
    (hothers : ∀ key ∈ others, key ∉ fields.names) :
    fields.reader.Reads (.record members) values := by
  intro manner hroom
  obtain ⟨inner, henter, hinner⟩ := Manner.Admits.enter hroom
  obtain ⟨slots, hread, hcomplete⟩ := h.complete_readMembers hnames hothers hinner
  show manner.enter.bind _ = _
  rw [henter]
  show (fields.readMembers inner true _ _).bind _ = _
  rw [hread]
  exact hcomplete

end Fields

/-! ## Values with a tag -/

namespace Reader

variable {α : Type} {reader : Reader α} {a : α}

/-- The tag chooses the reader, whatever other members follow. -/
theorem readTagged_nodesOfMembers {tag : String} {variants : List (String × Reader α)}
    {manner : Manner} {members : List (String × Json)} (htag : ∀ member ∈ members, member.1 ≠ tag)
    (hroom : manner.Admits (Json.depthOfMembers members)) (others : List (Option String × Node)) :
    readTagged tag variants manner true (some reader) others (Json.nodesOfMembers members) =
      reader .kept (.record (others.reverse ++ Json.nodesOfMembers members) true) := by
  induction members generalizing others with
  | nil =>
      rw [Json.nodesOfMembers, List.append_nil]
      rfl
  | cons member members ih =>
      obtain ⟨key, value⟩ := member
      rw [Json.depthOfMembers] at hroom
      have hkey : key ≠ tag := htag (key, value) List.mem_cons_self
      have hvalue := hroom.mono (Nat.le_max_left _ _)
      rw [Json.nodesOfMembers, readTagged, if_neg hkey, hvalue.keep]
      show readTagged _ _ _ _ _ ((some key, value.node) :: others) _ = _
      rw [ih (fun other hother => htag other (List.mem_cons_of_mem _ hother))
        (hroom.mono (Nat.le_max_right _ _))]
      simp

/-- A record that begins with its tag, if the variant that the tag names is read back. -/
theorem reads_tagged {tag name : String} {variants : List (String × Reader α)}
    {members : List (String × Json)} (hvariant : variants.lookup name = some reader)
    (htag : ∀ member ∈ members, member.1 ≠ tag) (h : reader.Reads (.record members) a) :
    (Reader.tagged tag variants).Reads (.record ((tag, .text name) :: members)) a := by
  intro manner hroom
  obtain ⟨inner, henter, hinner⟩ := Manner.Admits.enter hroom
  rw [Json.depthOfMembers] at hinner
  have hnamed : readTag variants inner (.text (some name)) = .ok reader := by
    have hnamed : named variants name = .ok reader := by rw [named, hvariant]
    cases inner <;> exact hnamed
  show manner.enter.bind _ = _
  rw [henter]
  show readTagged tag variants inner true none [] ((some tag, .text (some name)) ::
    Json.nodesOfMembers members) = _
  rw [readTagged, if_pos rfl, hnamed]
  show readTagged tag variants inner true (some reader) [] _ = _
  rw [readTagged_nodesOfMembers htag (hinner.mono (Nat.le_max_right _ _))]
  exact h .kept trivial

/-- A variant that has nothing but its tag. -/
theorem reads_tagAlone (a : α) (members : List (String × Json)) :
    (Reader.tagAlone a).Reads (.record members) a := fun _ _ => rfl

end Reader

/-! ## Texts -/

/-- A written value that is not too deep is read back from its text. -/
theorem ofWireText_render {α : Type} [WireReadable α] {j : Json} {a : α}
    (h : (WireReadable.reader (α := α)).Reads j a) (hdepth : j.depth ≤ maxDepth) :
    ofWireText j.render = .ok a := by
  have hroom : (Manner.streamed 0).Admits j.depth := by
    show 0 + j.depth ≤ maxDepth
    omega
  rw [ofWireText, Json.render, String.toList_ofList, j.ofChars_chars]
  show (WireReadable.reader (.streamed 0) j.node).bind _ = _
  rw [h _ hroom]
  rfl

end Noughts

import Noughts.Json.Basic
import Noughts.Json.Fault
import Noughts.Json.Node

/-!
# From trees to values

A `Reader` turns a node into a value of its type or into the first fault. Readers are put together
like the types they read: `Reader.list` from the reader of the items, `Fields.reader` from one
reader for each field, `Reader.tagged` from one reader for each variant.

How a node may be read depends on where it stands (`Manner`). Directly under the text a value is
read while the text goes by, so a fault of shape hides every later fault of form. A value that has
a tag among its members is first kept as a whole, since the tag may come last; so every fault of
form in it comes before all faults of shape but those of the tag itself. Tables of a configuration
are read as they are kept.
-/

namespace Noughts

/-- How a node is read. -/
inductive Manner where
  /-- While the text goes by, inside so many open containers. -/
  | streamed (depth : Nat)
  /-- From a value that was kept as a whole. -/
  | kept
  /-- From a table of a configuration. -/
  | table
deriving DecidableEq, Repr

/-- How many containers may be open at once while values are read from a text. -/
def maxDepth : Nat := 127

/-- How the contents of a container are read. -/
def Manner.enter : Manner → Except Fault Manner
  | streamed depth => if depth < maxDepth then .ok (streamed (depth + 1)) else .error .malformed
  | kept => .ok kept
  | table => .ok table

/-- Refuse a node that cannot be skipped: one whose text could not be read on, or, in a table, one
with a number that is of no type. -/
def Manner.skip (manner : Manner) (node : Node) : Except Fault Unit :=
  match manner with
  | streamed _ => if node.isIntact then .ok () else .error .malformed
  | table => if node.everyNumber (· != .unreadable) then .ok () else .error .malformed
  | kept => .ok ()

/-- Refuse a node that cannot be kept for later. -/
def Manner.keep (manner : Manner) (node : Node) : Except Fault Unit :=
  match manner with
  | streamed depth => if node.isKeepable (maxDepth - depth) then .ok () else .error .malformed
  | table => if node.everyNumber Numeral.isKeepable then .ok () else .error .malformed
  | kept => .ok ()

/-- The fault of a node whose kind is not the wanted one. A number, word or text is read to its
end first, so one that is not well formed is reported as such. -/
def Node.mismatch : Node → Fault
  | unread | text none | number .unreadable => .malformed
  | null | bool _ | number _ | text _ | list _ _ | record _ _ => .invalidType

/-- A way to read values of a type. -/
abbrev Reader (α : Type) := Manner → Node → Except Fault α

namespace Reader

/-- Change what is read by a function. -/
def map (f : α → β) (reader : Reader α) : Reader β := fun manner node =>
  (reader manner node).map f

/-- A text. -/
def text : Reader String := fun _ node =>
  match node with
  | .text (some s) => .ok s
  | other => .error other.mismatch

/-- A truth value. -/
def bool : Reader Bool := fun _ node =>
  match node with
  | .bool b => .ok b
  | other => .error other.mismatch

/-- A whole number of 64 bits without sign. -/
def natural : Reader UInt64 := fun _ node =>
  match node with
  | .number (.natural n) => .ok n
  | .number (.negative _) => .error .invalidValue
  | other => .error other.mismatch

/-- A whole number of 32 bits without sign. -/
def natural32 : Reader UInt32 := fun manner node => do
  let n ← natural manner node
  if n.toNat < UInt32.size then .ok n.toUInt32 else .error .invalidValue

/-- A whole number of 64 bits with sign. -/
def integer : Reader Int64 := fun _ node =>
  match node with
  | .number (.natural n) =>
    if n.toNat < Nat.pow 2 63 then .ok (Int64.ofInt n.toNat) else .error .invalidValue
  | .number (.negative i) => .ok i
  | other => .error other.mismatch

/-- A value that may be `null`. -/
def option (reader : Reader α) : Reader (Option α) := fun manner node =>
  match node with
  | .null => .ok none
  | other => (reader manner other).map some

/-- The items of a list, one after the other, then its end. -/
def items (reader : Reader α) (manner : Manner) (isClosed : Bool) :
    List Node → Except Fault (List α)
  | [] => if isClosed then .ok [] else .error .malformed
  | node :: rest => do
    let a ← reader manner node
    let more ← items reader manner isClosed rest
    .ok (a :: more)

/-- A list of any length. -/
def list (reader : Reader α) : Reader (List α) := fun manner node => do
  match node with
  | .list nodes isClosed =>
    let inner ← manner.enter
    items reader inner isClosed nodes
  | other => .error other.mismatch

/-- The fault of a list that goes on after everything that is wanted from it was read. -/
def excess (manner : Manner) (read : Nat) (isClosed : Bool) (left : List Node) :
    Except Fault Unit :=
  match manner with
  | .streamed _ => if left.isEmpty && isClosed then .ok () else .error .malformed
  | .kept => if left.isEmpty then .ok () else .error (.invalidLength (read + left.length))
  | .table => .ok ()

/-- So many items of a list, of which `read` were read before. -/
def exactly (reader : Reader α) (manner : Manner) (isClosed : Bool) (read : Nat) :
    (count : Nat) → List Node → Except Fault (Vector α count)
  | 0, left => do
    excess manner read isClosed left
    .ok #v[]
  | _ + 1, [] => .error (if isClosed then .invalidLength read else .malformed)
  | count + 1, node :: rest => do
    let a ← reader manner node
    let more ← exactly reader manner isClosed (read + 1) count rest
    .ok ((#v[a] ++ more).cast (Nat.add_comm 1 count))

/-- A list of a fixed length. -/
def vector (count : Nat) (reader : Reader α) : Reader (Vector α count) := fun manner node => do
  match node with
  | .list nodes isClosed =>
    let inner ← manner.enter
    exactly reader inner isClosed 0 count nodes
  | other => .error other.mismatch

/-- The value that goes by a name. -/
def named (names : List (String × α)) (name : String) : Except Fault α :=
  match names.lookup name with
  | some a => .ok a
  | none => .error (.unknownVariant name)

/-- What stands beside the name of a value that has nothing but its name: `null`, or an empty
record where values were kept. -/
def nothing : Reader Unit := fun manner node =>
  match manner, node with
  | _, .null => .ok ()
  | .kept, .record [] _ => .ok ()
  | _, other => .error other.mismatch

/-- One of a choice of names: the name as a text, or a record of one member whose key is the name
and whose value is `null`. -/
def choice (names : List (String × α)) : Reader α := fun manner node => do
  match manner, node with
  | _, .text (some name) => named names name
  | .streamed _, .record members isClosed =>
    let inner ← manner.enter
    match members with
    | [] | (none, _) :: _ => .error .malformed
    | (some name, value) :: rest =>
      let a ← named names name
      nothing inner value
      if rest.isEmpty && isClosed then .ok a else .error .malformed
  | .streamed _, _ => .error .malformed
  | _, .record [(some name, value)] _ =>
    let a ← named names name
    nothing manner value
    .ok a
  | _, .record _ _ => .error .invalidValue
  | _, other => .error other.mismatch

end Reader

/-- The fields of a record: for each its name, its reader and, if it may be missing, the value it
has then. -/
inductive Fields : List Type → Type 1 where
  | nil : Fields []
  | cons {α : Type} {τs : List Type} (name : String) (reader : Reader α) (default? : Option α)
      (rest : Fields τs) : Fields (α :: τs)

/-- The values of all fields. -/
def Values : List Type → Type
  | [] => Unit
  | α :: τs => α × Values τs

/-- The values of the fields met so far. -/
def Slots : List Type → Type
  | [] => Unit
  | α :: τs => Option α × Slots τs

namespace Fields

/-- No field met. -/
def noSlots : {τs : List Type} → Fields τs → Slots τs
  | _, nil => ()
  | _, cons _ _ _ rest => (none, rest.noSlots)

/-- Read the field under a key; `none` if there is no such field. -/
def readField (key : String) (manner : Manner) (node : Node) :
    {τs : List Type} → Fields τs → Slots τs → Option (Except Fault (Slots τs))
  | _, nil, _ => none
  | _, cons name reader _ rest, (slot, slots) =>
    if name = key then
      match slot with
      | some _ => some (.error (.duplicateField name))
      | none => some ((reader manner node).map fun a => (some a, slots))
    else
      (rest.readField key manner node slots).map fun result => result.map fun more => (slot, more)

/-- Read the members of a record in the order of the text. Unknown ones are skipped. -/
def readMembers (fields : Fields τs) (manner : Manner) (isClosed : Bool) :
    Slots τs → List (Option String × Node) → Except Fault (Slots τs)
  | slots, [] => if isClosed then .ok slots else .error .malformed
  | _, (none, _) :: _ => .error .malformed
  | slots, (some key, node) :: rest => do
    match fields.readField key manner node slots with
    | some result => fields.readMembers manner isClosed (← result) rest
    | none =>
      manner.skip node
      fields.readMembers manner isClosed slots rest

/-- The values of all fields; the first field that is missing and may not be is the fault. -/
def complete : {τs : List Type} → Fields τs → Slots τs → Except Fault (Values τs)
  | _, nil, _ => .ok ()
  | _, cons name _ default? rest, (slot, slots) => do
    match slot.or default? with
    | none => .error (.missingField name)
    | some a => .ok (a, ← rest.complete slots)

/-- Read the fields from a list that gives them in order, of which `read` were read before. -/
def readItems (manner : Manner) (isClosed : Bool) :
    {τs : List Type} → Fields τs → (read : Nat) → List Node → Except Fault (Values τs)
  | _, nil, read, left => do
    Reader.excess manner read isClosed left
    .ok ()
  | _, cons _ _ default? rest, read, [] => do
    if !isClosed then .error .malformed
    else
      match default? with
      | none => .error (.invalidLength read)
      | some a => .ok (a, ← rest.readItems manner isClosed (read + 1) [])
  | _, cons _ reader _ rest, read, node :: left => do
    let a ← reader manner node
    .ok (a, ← rest.readItems manner isClosed (read + 1) left)

/-- A record of these fields, or a list of their values in order. -/
def reader (fields : Fields τs) : Reader (Values τs) := fun manner node => do
  match node with
  | .record members isClosed =>
    let inner ← manner.enter
    fields.complete (← fields.readMembers inner isClosed fields.noSlots members)
  | .list items isClosed =>
    let inner ← manner.enter
    fields.readItems inner isClosed 0 items
  | other => .error other.mismatch

end Fields

namespace Reader

/-- The rest of a value that has nothing but its tag. A record may hold anything else. -/
def tagAlone (a : α) : Reader α := fun _ node =>
  match node with
  | .record _ _ => .ok a
  | .list [] _ => .ok a
  | .list items _ => .error (.invalidLength items.length)
  | other => .error other.mismatch

/-- The variant that a tag names. In a value that was kept its number does as well. -/
def readTag (variants : List (String × Reader α)) (manner : Manner) (node : Node) :
    Except Fault (Reader α) :=
  match manner, node with
  | _, .text (some name) => named variants name
  | .kept, .number (.natural n) =>
    match variants[n.toNat]? with
    | some (_, reader) => .ok reader
    | none => .error .invalidValue
  | _, other => .error other.mismatch

/-- Look through the members of a record for the tag; keep the other members. -/
def readTagged (tag : String) (variants : List (String × Reader α)) (manner : Manner)
    (isClosed : Bool) (found : Option (Reader α)) (others : List (Option String × Node)) :
    List (Option String × Node) → Except Fault α
  | [] =>
    if !isClosed then .error .malformed
    else
      match found with
      | none => .error (.missingField tag)
      | some reader => reader .kept (.record others.reverse true)
  | (none, _) :: _ => .error .malformed
  | (some key, node) :: rest => do
    if key = tag then
      if found.isSome then .error (.duplicateField tag)
      else
        let reader ← readTag variants manner node
        readTagged tag variants manner isClosed (some reader) others rest
    else
      manner.keep node
      readTagged tag variants manner isClosed found ((some key, node) :: others) rest

/-- A value of several variants: a record with the tag anywhere in it, or a list with the tag as its
first item. -/
def tagged (tag : String) (variants : List (String × Reader α)) : Reader α :=
  fun manner node => do
  match node with
  | .record members isClosed =>
    let inner ← manner.enter
    readTagged tag variants inner isClosed none [] members
  | .list [] isClosed =>
    let _ ← manner.enter
    .error (if isClosed then .missingField tag else .malformed)
  | .list (first :: rest) isClosed =>
    let inner ← manner.enter
    let reader ← readTag variants inner first
    rest.forM inner.keep
    if isClosed then reader .kept (.list rest true) else .error .malformed
  | other => .error other.mismatch

end Reader

/-- A type with a written form. -/
class WireWritable (α : Type) where
  toJson : α → Json

/-- A type that can be read from its written form. -/
class WireReadable (α : Type) where
  reader : Reader α

export WireWritable (toJson)

/-- The written form of a value. -/
def wireText [WireWritable α] (a : α) : String := (toJson a).render

/-- Read a text as a value: the value first, then what stands behind it. -/
def ofWireText [WireReadable α] (text : String) : Except Fault α := do
  let document := Document.ofChars text.toList
  let a ← WireReadable.reader (.streamed 0) document.root
  if document.hasTrailing then .error .malformed else .ok a

end Noughts

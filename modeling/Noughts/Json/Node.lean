import Noughts.Json.Token

/-!
# From tokens to a tree

Reading a text as a tree never fails: the tree goes as far as the text can be read, and shows where
it could not be read on. A list or record that was not closed says so, and an `unread` node stands
where a value should have been. A decoder that walks the tree in order of the text meets faults in
the order in which they stand there.

The builder keeps the containers that are open as a stack of frames.
-/

namespace Noughts

/-- What could be read of a value. Texts and keys without a value are those with a lone
surrogate. -/
inductive Node where
  | null
  | bool (b : Bool)
  | number (n : Numeral)
  | text (s : Option String)
  | list (items : List Node) (isClosed : Bool)
  | record (members : List (Option String × Node)) (isClosed : Bool)
  /-- The text could not be read as a value. -/
  | unread
deriving Repr

namespace Node

mutual

/-- Whether all of a value could be read. -/
def isIntact : Node → Bool
  | null | bool _ | number _ | text _ => true
  | list items isClosed => areIntact items && isClosed
  | record members isClosed => membersIntact members && isClosed
  | unread => false

/-- Whether all of every item could be read. -/
def areIntact : List Node → Bool
  | [] => true
  | item :: rest => item.isIntact && areIntact rest

/-- Whether all of every member could be read. -/
def membersIntact : List (Option String × Node) → Bool
  | [] => true
  | (_, value) :: rest => value.isIntact && membersIntact rest

end

mutual

/-- Whether every number in a value has a property. -/
def everyNumber (p : Numeral → Bool) : Node → Bool
  | null | bool _ | text _ | unread => true
  | number n => p n
  | list items _ => everyNumberOfItems p items
  | record members _ => everyNumberOfMembers p members

/-- Whether every number in every item has a property. -/
def everyNumberOfItems (p : Numeral → Bool) : List Node → Bool
  | [] => true
  | item :: rest => item.everyNumber p && everyNumberOfItems p rest

/-- Whether every number in every member has a property. -/
def everyNumberOfMembers (p : Numeral → Bool) : List (Option String × Node) → Bool
  | [] => true
  | (_, value) :: rest => value.everyNumber p && everyNumberOfMembers p rest

end

mutual

/-- Whether a value can be kept for later: all of it could be read, texts and keys have values, no
number is too large, and it nests no deeper than `room`. -/
def isKeepable : (room : Nat) → Node → Bool
  | _, null | _, bool _ => true
  | _, number n => n.isKeepable
  | _, text s => s.isSome
  | 0, list _ _ => false
  | room + 1, list items isClosed => areKeepable room items && isClosed
  | 0, record _ _ => false
  | room + 1, record members isClosed => membersKeepable room members && isClosed
  | _, unread => false

/-- Whether every item can be kept. -/
def areKeepable (room : Nat) : List Node → Bool
  | [] => true
  | item :: rest => item.isKeepable room && areKeepable room rest

/-- Whether every member can be kept. -/
def membersKeepable (room : Nat) : List (Option String × Node) → Bool
  | [] => true
  | (key, value) :: rest => key.isSome && value.isKeepable room && membersKeepable room rest

end

end Node

/-- A container that is still open; its contents are kept newest first. -/
inductive Frame where
  | list (done : List Node)
  | record (done : List (Option String × Node))
  /-- A record in which the value of a key is awaited. -/
  | member (done : List (Option String × Node)) (key : Option String)

namespace Frame

/-- The container as it is when reading breaks off, with the value that was being read. -/
def abandon : Frame → Option Node → Node
  | list done, inner => .list (inner.toList ++ done).reverse false
  | record done, _ => .record done.reverse false
  | member done key, inner => .record ((key, inner.getD .unread) :: done).reverse false

/-- The value read so far when reading breaks off inside all of these containers. -/
def abandonAll : List Frame → Option Node → Node
  | [], inner => inner.getD .unread
  | frame :: outer, inner => abandonAll outer (some (frame.abandon inner))

end Frame

/-- What has to come next. -/
inductive Goal where
  | value
  /-- A value or the end of the list that was just opened. -/
  | valueOrEnd
  /-- A comma or the end of the container. -/
  | separator
  /-- A key or, unless a comma came before, the end of the record. -/
  | key (afterComma : Bool)
  | colon
deriving DecidableEq, Repr

/-- What the builder does with a token. -/
inductive BuildStep where
  | more (stack : List Frame) (goal : Goal)
  /-- The whole value is read, or reading broke off. -/
  | done (root : Node)

namespace BuildStep

/-- Hand a finished value to the innermost open container. -/
def deliver (value : Node) : List Frame → BuildStep
  | [] => .done value
  | .list kept :: outer => .more (.list (value :: kept) :: outer) .separator
  | .record kept :: outer => .more (.record kept :: outer) .separator
  | .member kept key :: outer => .more (.record ((key, value) :: kept) :: outer) .separator

/-- Begin a value with its first token. -/
def beginValue (stack : List Frame) : Token → BuildStep
  | .null => deliver .null stack
  | .bool b => deliver (.bool b) stack
  | .number n => deliver (.number n) stack
  | .text s => deliver (.text s) stack
  | .openList => .more (.list [] :: stack) .valueOrEnd
  | .openRecord => .more (.record [] :: stack) (.key false)
  | .closeList | .closeRecord | .comma | .colon | .broken =>
    .done (Frame.abandonAll stack (some .unread))

/-- Use one token. -/
def ofToken (stack : List Frame) (goal : Goal) (token : Token) : BuildStep :=
  match goal, stack, token with
  | .value, _, _ => beginValue stack token
  | .valueOrEnd, .list kept :: outer, .closeList => deliver (.list kept.reverse true) outer
  | .valueOrEnd, _, _ => beginValue stack token
  | .separator, .list _ :: _, .comma => .more stack .value
  | .separator, .list kept :: outer, .closeList => deliver (.list kept.reverse true) outer
  | .separator, .record _ :: _, .comma => .more stack (.key true)
  | .separator, .record kept :: outer, .closeRecord => deliver (.record kept.reverse true) outer
  | .separator, _, _ => .done (Frame.abandonAll stack none)
  | .key _, .record kept :: outer, .text key => .more (.member kept key :: outer) .colon
  | .key false, .record kept :: outer, .closeRecord => deliver (.record kept.reverse true) outer
  | .key _, _, _ => .done (Frame.abandonAll stack none)
  | .colon, _, .colon => .more stack .value
  | .colon, _, _ => .done (Frame.abandonAll stack (some .unread))

end BuildStep

/-- What is read when the text ends while something is still to come. -/
def Goal.atEnd (stack : List Frame) : Goal → Node
  | value | valueOrEnd | colon => Frame.abandonAll stack (some .unread)
  | separator | key _ => Frame.abandonAll stack none

/-- Read one value from tokens; also give the tokens after it. -/
def Node.build (stack : List Frame) (goal : Goal) : List Token → Node × List Token
  | [] => (goal.atEnd stack, [])
  | token :: rest =>
    match BuildStep.ofToken stack goal token with
    | .more stack goal => build stack goal rest
    | .done root => (root, rest)

/-- A text read as one value. -/
structure Document where
  root : Node
  /-- Whether anything but blanks stands after the value. -/
  hasTrailing : Bool

/-- Read a text as one value. -/
def Document.ofChars (text : List Char) : Document :=
  let (root, rest) := Node.build [] .value (Token.scan text)
  ⟨root, !rest.isEmpty⟩

end Noughts

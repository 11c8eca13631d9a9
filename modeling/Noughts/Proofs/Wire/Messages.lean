import Noughts.Proofs.Wire.Board
import Noughts.Service.Request
import Noughts.Wire.Registry

/-!
# Messages are read back

Events, what the registry takes and gives, and the requests of a client. Fields of an event that
have no value are left out of its written form and are read back as having none. All types that are
read back are collected in `messages_read_back`.

Responses are not read as such. What a client reads from them is the subject of
`Noughts.Proofs.Service.Transport`.
-/

namespace Noughts

/-! ## Events -/

/-- A kind of event is read back from its written form. -/
instance : WireLawful EventKind where
  depth := 0
  depth_le _ := Nat.le_refl 0
  ne_null _ := nofun
  reads k := by
    refine Reader.reads_choice ?_
    cases k <;> rfl

/-- A turn status is read back from its written form. -/
instance : WireLawful TurnStatus where
  depth := 0
  depth_le _ := Nat.le_refl 0
  ne_null _ := nofun
  reads s := by
    refine Reader.reads_choice ?_
    cases s <;> rfl

/-- A pair of coordinates is read back from its written form. -/
instance : WireLawful Coordinates where
  depth := 1
  depth_le c := Json.depth_record_le (by simp [Json.depth, toJson])
  ne_null _ := nofun
  reads c := by
    have hfields : Fields.Written [] Coordinates.fields (c.x, c.y, ())
        [("x", toJson c.x), ("y", toJson c.y)] :=
      .present (Reader.reads_natural c.x) (.present (Reader.reads_natural c.y) .nil)
    exact (hfields.reads (by decide) nofun).map _

namespace GameEvent

/-- A field that may be absent is written if it has a value. -/
theorem written_optional {τs : List Type} {others : List String} {rest : Fields τs}
    {values : Values τs} {members : List (String × Json)} {α : Type} {name : String}
    {reader : Reader α} {f : α → Json} {a? : Option α} (hreads : ∀ a, reader.Reads (f a) a)
    (hnull : ∀ a, (f a).node ≠ .null) (hrest : Fields.Written others rest values members) :
    Fields.Written others (optionalField name reader rest) (a?, values)
      (optionalMember name f a? ++ members) := by
  cases a? with
  | none => exact .absent hrest
  | some a => exact .present ((hreads a).some (hnull a)) hrest

/-- A member that may be absent is no deeper than its value. -/
theorem depth_of_mem_optionalMember {α : Type} {name : String} {f : α → Json} {a? : Option α}
    {n : Nat} (h : ∀ a, (f a).depth ≤ n) :
    ∀ member ∈ optionalMember name f a?, member.2.depth ≤ n := by
  cases a? with
  | none => exact fun _ hmember => absurd hmember List.not_mem_nil
  | some a =>
      intro member hmember
      obtain rfl := List.mem_singleton.1 hmember
      exact h a

/-- The members of an event are its fields, without those that have no value. -/
theorem written_members (e : GameEvent) :
    Fields.Written [] fields (e.kind, e.timestamp, e.sessionId, e.playerId, e.players, e.move,
      e.turnStatus, e.moveId, e.nextPlayer, e.validMoves, e.outcome, ()) e.members := by
  have houtcome : Fields.Written [] (optionalField "outcome" WireReadable.reader .nil)
      (e.outcome, ()) (optionalMember "outcome" toJson e.outcome ++ []) :=
    written_optional WireLawful.reads WireLawful.ne_null .nil
  rw [List.append_nil] at houtcome
  simp only [members, List.append_assoc]
  exact .present (WireLawful.reads e.kind) <| .present (Reader.reads_integer e.timestamp) <|
    .present (WireLawful.reads e.sessionId) <| .present (WireLawful.reads e.playerId) <|
    .present (WireLawful.reads_ofList e.players) <|
    written_optional WireLawful.reads WireLawful.ne_null <|
    written_optional WireLawful.reads WireLawful.ne_null <|
    written_optional WireLawful.reads WireLawful.ne_null <|
    written_optional WireLawful.reads WireLawful.ne_null <|
    written_optional WireLawful.reads_ofList (fun _ => nofun) houtcome

/-- No member of an event is deeper than its free cells or its result. -/
theorem depth_of_mem_members (e : GameEvent) : ∀ member ∈ e.members, member.2.depth ≤ 3 := by
  have hplayers : (Json.ofList toJson e.players).depth ≤ 1 := WireLawful.depth_ofList_le e.players
  have hlawful {α : Type} [WireWritable α] [WireReadable α] [WireLawful α]
      (hdepth : WireLawful.depth α ≤ 3) (a : α) : (toJson a).depth ≤ 3 :=
    Nat.le_trans (WireLawful.depth_le a) hdepth
  have hmoves (moves : List MoveRange) : (Json.ofList toJson moves).depth ≤ 3 :=
    Nat.le_trans (WireLawful.depth_ofList_le moves) (by decide)
  simp only [members, List.forall_mem_append, List.forall_mem_cons]
  refine ⟨⟨⟨⟨⟨⟨⟨?_, ?_, ?_, ?_, ?_, nofun⟩, ?_⟩, ?_⟩, ?_⟩, ?_⟩, ?_⟩, ?_⟩
  · exact hlawful (by decide) e.kind
  · exact Nat.zero_le 3
  · exact hlawful (by decide) e.sessionId
  · exact hlawful (by decide) e.playerId
  · omega
  · exact depth_of_mem_optionalMember (hlawful (by decide))
  · exact depth_of_mem_optionalMember (hlawful (by decide))
  · exact depth_of_mem_optionalMember (hlawful (by decide))
  · exact depth_of_mem_optionalMember (hlawful (by decide))
  · exact depth_of_mem_optionalMember hmoves
  · exact depth_of_mem_optionalMember (hlawful (by decide))

end GameEvent

/-- An event is read back from its written form. -/
instance : WireLawful GameEvent where
  depth := 4
  depth_le e := Json.depth_record_le e.depth_of_mem_members
  ne_null _ := nofun
  reads e := (e.written_members.reads (by decide) nofun).map _

/-- An addressed event is read back from its written form. -/
instance : WireLawful EventEnvelope where
  depth := 5
  depth_le e := by
    have hevent : (toJson e.event).depth ≤ 4 := WireLawful.depth_le e.event
    exact Json.depth_record_le (by simpa [Json.depth] using hevent)
  ne_null _ := nofun
  reads e := by
    have hfields : Fields.Written [] EventEnvelope.fields (e.topic, e.key, e.event, ())
        [("topic", .text e.topic), ("key", .text e.key), ("event", toJson e.event)] :=
      .present (Reader.reads_text e.topic) (.present (Reader.reads_text e.key)
        (.present (WireLawful.reads e.event) .nil))
    exact (hfields.reads (by decide) nofun).map _

/-! ## What the registry takes and gives -/

namespace SessionCreated

/-- The members of a creation are its fields. -/
theorem written_members (c : SessionCreated) :
    Fields.Written [] fields (c.sessionId, c.nextPlayer, c.moveId, c.validMoves, ()) c.members :=
  .present (WireLawful.reads c.sessionId) (.present (WireLawful.reads c.nextPlayer)
    (.present (WireLawful.reads c.moveId) (.present (WireLawful.reads_ofList c.validMoves) .nil)))

/-- No member of a creation is deeper than a list of ranges. -/
theorem depth_of_mem_members (c : SessionCreated) : ∀ member ∈ c.members, member.2.depth ≤ 2 := by
  have hmoves : (Json.ofList toJson c.validMoves).depth ≤ 2 :=
    WireLawful.depth_ofList_le c.validMoves
  simpa [members, toJson, Json.depth] using hmoves

end SessionCreated

/-- A creation is read back from its written form. -/
instance : WireLawful SessionCreated where
  depth := 3
  depth_le c := Json.depth_record_le c.depth_of_mem_members
  ne_null _ := nofun
  reads c := (c.written_members.reads (by decide) nofun).map _

namespace TurnRequest

/-- The members of a submitted move are its fields. -/
theorem written_members (r : TurnRequest) :
    Fields.Written [] fields (r.sessionId, r.playerId, r.moveId, r.x, r.y, ()) r.members :=
  .present (WireLawful.reads r.sessionId) (.present (WireLawful.reads r.playerId)
    (.present (WireLawful.reads r.moveId) (.present (Reader.reads_natural r.x)
      (.present (Reader.reads_natural r.y) .nil))))

end TurnRequest

/-- A submitted move is read back from its written form. -/
instance : WireLawful TurnRequest where
  depth := 1
  depth_le r := Json.depth_record_le (by simp [TurnRequest.members, toJson, Json.depth])
  ne_null _ := nofun
  reads r := (r.written_members.reads (by decide) nofun).map _

namespace TurnReply

/-- A reply to an accepted move is read back. -/
theorem reads_accepted (moveId : MoveId) (nextPlayer : PlayerId) (validMoves : List MoveRange) :
    (WireReadable.reader (α := TurnReply)).Reads (toJson (accepted moveId nextPlayer validMoves))
      (accepted moveId nextPlayer validMoves) := by
  have hfields : Fields.Written [] acceptedFields (moveId, nextPlayer, validMoves, ())
      (accepted moveId nextPlayer validMoves).members :=
    .present (WireLawful.reads moveId) (.present (WireLawful.reads nextPlayer)
      (.present (WireLawful.reads_ofList validMoves) .nil))
  exact Reader.reads_tagged rfl (by simp [members]) ((hfields.reads (by decide) nofun).map _)

/-- A reply that ends the game is read back. -/
theorem reads_finished (outcome : Outcome) :
    (WireReadable.reader (α := TurnReply)).Reads (toJson (finished outcome))
      (finished outcome) := by
  have hfields : Fields.Written [] finishedFields (outcome, ()) (finished outcome).members :=
    .present (WireLawful.reads outcome) .nil
  exact Reader.reads_tagged rfl (by simp [members]) ((hfields.reads (by decide) nofun).map _)

/-- A refusal has nothing but its tag. -/
theorem reads_refusal (e : PlaceError) :
    (WireReadable.reader (α := TurnReply)).Reads (toJson (ofRefusal e)) (ofRefusal e) := by
  cases e <;> exact Reader.reads_tagged rfl nofun (Reader.reads_tagAlone _ _)

/-- A reply nests no deeper than the result in it. -/
theorem depth_le (r : TurnReply) : (toJson r).depth ≤ 4 := by
  cases r with
  | accepted moveId nextPlayer validMoves =>
      have hmoves : (Json.ofList toJson validMoves).depth ≤ 2 :=
        WireLawful.depth_ofList_le validMoves
      have hmoves : (Json.ofList toJson validMoves).depth ≤ 3 := by omega
      exact Json.depth_record_le (by simpa [members, toJson, Json.depth] using hmoves)
  | finished outcome =>
      have houtcome : (toJson outcome).depth ≤ 3 := WireLawful.depth_le outcome
      exact Json.depth_record_le (by simpa [members, Json.depth] using houtcome)
  | invalidMove | notActivePlayer | invalidMoveId =>
      exact Json.depth_record_le (by simp [members, Json.depth])

end TurnReply

/-- A reply is read back from its written form. -/
instance : WireLawful TurnReply where
  depth := 4
  depth_le r := r.depth_le
  ne_null _ := nofun
  reads
    | .accepted moveId nextPlayer validMoves =>
        TurnReply.reads_accepted moveId nextPlayer validMoves
    | .finished outcome => TurnReply.reads_finished outcome
    | .invalidMove => TurnReply.reads_refusal .invalidMove
    | .notActivePlayer => TurnReply.reads_refusal .notActivePlayer
    | .invalidMoveId => TurnReply.reads_refusal .invalidMoveId

/-! ## Requests -/

namespace Request

/-- A request for a creation is read back. -/
theorem reads_createSession (playerIds : List PlayerId) :
    (WireReadable.reader (α := Request)).Reads (toJson (createSession playerIds))
      (createSession playerIds) := by
  have hfields : Fields.Written [] createFields (playerIds, ())
      [("player_ids", .ofList toJson playerIds)] :=
    .present (WireLawful.reads_ofList playerIds) .nil
  exact Reader.reads_tagged rfl (by simp) ((hfields.reads (by decide) nofun).map _)

/-- A request for a turn is read back. -/
theorem reads_applyTurn (sessionId : SessionId) (playerId : PlayerId) (moveId : MoveId)
    (x y : UInt64) :
    (WireReadable.reader (α := Request)).Reads (toJson (applyTurn sessionId playerId moveId x y))
      (applyTurn sessionId playerId moveId x y) := by
  have hfields : Fields.Written [] turnFields (sessionId, playerId, moveId, x, y, ())
      [("session_id", toJson sessionId), ("player_id", toJson playerId),
        ("move_id", toJson moveId), ("x", toJson x), ("y", toJson y)] :=
    .present (WireLawful.reads sessionId) (.present (WireLawful.reads playerId)
      (.present (WireLawful.reads moveId) (.present (Reader.reads_natural x)
        (.present (Reader.reads_natural y) .nil))))
  exact Reader.reads_tagged rfl (by simp) ((hfields.reads (by decide) nofun).map _)

/-- A request for a session is read back. -/
theorem reads_getSession (sessionId : SessionId) :
    (WireReadable.reader (α := Request)).Reads (toJson (getSession sessionId))
      (getSession sessionId) := by
  have hfields : Fields.Written [] getFields (sessionId, ()) [("session_id", toJson sessionId)] :=
    .present (WireLawful.reads sessionId) .nil
  exact Reader.reads_tagged rfl (by simp) ((hfields.reads (by decide) nofun).map _)

/-- A request nests no deeper than a list of players. -/
theorem depth_le (r : Request) : (toJson r).depth ≤ 2 := by
  cases r with
  | createSession playerIds =>
      have hplayers : (Json.ofList toJson playerIds).depth ≤ 1 :=
        WireLawful.depth_ofList_le playerIds
      exact Json.depth_record_le (by simpa [Json.depth] using hplayers)
  | applyTurn sessionId playerId moveId x y =>
      exact Json.depth_record_le (by simp [Json.depth, toJson])
  | getSession sessionId => exact Json.depth_record_le (by simp [Json.depth, toJson])

end Request

/-- A request is read back from its written form. -/
instance : WireLawful Request where
  depth := 2
  depth_le r := r.depth_le
  ne_null
    | .createSession _ | .applyTurn _ _ _ _ _ | .getSession _ => nofun
  reads
    | .createSession playerIds => Request.reads_createSession playerIds
    | .applyTurn sessionId playerId moveId x y =>
        Request.reads_applyTurn sessionId playerId moveId x y
    | .getSession sessionId => Request.reads_getSession sessionId

/-! ## All messages -/

/-- Texts of a type can stand for its values: each value is read back from its own text, so no two
values have the same text. -/
structure ReadBack (α : Type) [WireWritable α] [WireReadable α] : Prop where
  ofWireText_wireText (a : α) : ofWireText (wireText a) = .ok a
  wireText_injective : Function.Injective (wireText : α → String)

/-- A type that does not nest too deep can be read back from its texts. -/
theorem WireLawful.readBack {α : Type} [WireWritable α] [WireReadable α] [WireLawful α]
    (hdepth : depth α ≤ maxDepth) : ReadBack α where
  ofWireText_wireText := WireLawful.ofWireText_wireText hdepth
  wireText_injective a b hab := by
    have hread := WireLawful.ofWireText_wireText hdepth a
    rw [hab, WireLawful.ofWireText_wireText hdepth b] at hread
    exact (Except.ok.inj hread).symm

/-- Whatever is published, asked or answered is read back from its text: events and their envelopes,
the results of games, what the registry takes and gives, the requests of a client, the board, and
all that these are made of. -/
theorem messages_read_back :
    (ReadBack GameEvent ∧ ReadBack EventEnvelope) ∧
    (ReadBack EventKind ∧ ReadBack TurnStatus ∧ ReadBack Coordinates) ∧
    (ReadBack Outcome ∧ ReadBack WinnerRecord ∧ ReadBack WinningLine ∧ ReadBack Direction) ∧
    (ReadBack TurnRequest ∧ ReadBack TurnReply ∧ ReadBack SessionCreated ∧ ReadBack Request) ∧
    (ReadBack Grid ∧ ReadBack Mark ∧ ReadBack MoveRange) ∧
    (ReadBack SessionId ∧ ReadBack PlayerId ∧ ReadBack MoveId ∧ ReadBack UInt64) := by
  have hread {α : Type} [WireWritable α] [WireReadable α] [WireLawful α]
      (hdepth : WireLawful.depth α ≤ 5) : ReadBack α :=
    WireLawful.readBack (Nat.le_trans hdepth (by decide))
  refine ⟨⟨?_, ?_⟩, ⟨?_, ?_, ?_⟩, ⟨?_, ?_, ?_, ?_⟩, ⟨?_, ?_, ?_, ?_⟩, ⟨?_, ?_, ?_⟩, ?_, ?_, ?_, ?_⟩
  all_goals exact hread (by decide)

end Noughts

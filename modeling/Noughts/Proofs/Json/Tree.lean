import Noughts.Json.Node
import Noughts.Proofs.Json.Tokens

/-!
# The tree of a written value

The builder puts the tokens of a value together to its tree and leaves what comes behind alone, so
the written form of a value is read as the tree of that value with nothing behind it:
`Json.ofChars_chars`. The tree is whole, and it can be kept if the value does not nest too deep.
-/

namespace Noughts

namespace Json

mutual

/-- The tree of a value. -/
def node : Json → Node
  | null => .null
  | bool b => .bool b
  | natural n => .number (.natural n)
  | integer i => .number (.ofInteger i)
  | text s => .text (some s)
  | list items => .list (nodesOfItems items) true
  | record members => .record (nodesOfMembers members) true

/-- The trees of the items of a list. -/
def nodesOfItems : List Json → List Node
  | [] => []
  | item :: rest => node item :: nodesOfItems rest

/-- The trees of the members of a record under their keys. -/
def nodesOfMembers : List (String × Json) → List (Option String × Node)
  | [] => []
  | (key, value) :: rest => (some key, node value) :: nodesOfMembers rest

end

mutual

/-- How deep lists and records are nested in a value. -/
def depth : Json → Nat
  | null | bool _ | natural _ | integer _ | text _ => 0
  | list items => depthOfItems items + 1
  | record members => depthOfMembers members + 1

/-- The depth of the deepest item. -/
def depthOfItems : List Json → Nat
  | [] => 0
  | item :: rest => max (depth item) (depthOfItems rest)

/-- The depth of the deepest member. -/
def depthOfMembers : List (String × Json) → Nat
  | [] => 0
  | (_, value) :: rest => max (depth value) (depthOfMembers rest)

end

/-- A record is deeper by one than a bound of its members. -/
theorem depth_record_le {members : List (String × Json)} {n : Nat}
    (h : ∀ member ∈ members, member.2.depth ≤ n) : (record members).depth ≤ n + 1 := by
  show depthOfMembers members + 1 ≤ n + 1
  refine Nat.succ_le_succ ?_
  induction members with
  | nil => exact Nat.zero_le n
  | cons member members ih =>
      obtain ⟨key, value⟩ := member
      rw [depthOfMembers]
      exact Nat.max_le.2 ⟨h (key, value) List.mem_cons_self,
        ih fun other hother => h other (List.mem_cons_of_mem _ hother)⟩

/-- A list is deeper by one than a bound of its items. -/
theorem depth_ofList_le {α : Type} {f : α → Json} {as : List α} {n : Nat}
    (h : ∀ a ∈ as, (f a).depth ≤ n) : (ofList f as).depth ≤ n + 1 := by
  show depthOfItems (as.map f) + 1 ≤ n + 1
  refine Nat.succ_le_succ ?_
  induction as with
  | nil => exact Nat.zero_le n
  | cons a as ih =>
      rw [List.map_cons, depthOfItems]
      exact Nat.max_le.2 ⟨h a List.mem_cons_self,
        ih fun other hother => h other (List.mem_cons_of_mem _ hother)⟩

end Json

/-- Whole numbers with sign are small enough to be kept. -/
theorem Numeral.isKeepable_ofInteger (i : Int64) : (Numeral.ofInteger i).isKeepable = true := by
  unfold ofInteger
  split <;> rfl

/-! ## Building -/

/-- Go on building with what is left of the tokens. -/
def BuildStep.resume : BuildStep → List Token → Node × List Token
  | more stack goal, rest => Node.build stack goal rest
  | done root, rest => (root, rest)

/-- Building uses up the first token and goes on with the others. -/
theorem Node.build_cons (stack : List Frame) (goal : Goal) (token : Token) (rest : List Token) :
    build stack goal (token :: rest) = (BuildStep.ofToken stack goal token).resume rest := by
  rw [build]
  cases BuildStep.ofToken stack goal token <;> rfl

/-- A value begins in the same way whether or not the list could end in its place. -/
theorem BuildStep.ofToken_of_value {goal : Goal} (hgoal : goal = .value ∨ goal = .valueOrEnd)
    (stack : List Frame) {token : Token} (htoken : token ≠ .closeList) :
    ofToken stack goal token = beginValue stack token := by
  rcases hgoal with rfl | rfl
  · rfl
  · unfold ofToken
    split <;> simp_all

namespace Json

/-- Where a value is wanted, building with the tokens of this one delivers its tree. -/
def Builds (j : Json) : Prop :=
  ∀ stack goal rest, goal = .value ∨ goal = .valueOrEnd →
    Node.build stack goal (j.tokens ++ rest) = (BuildStep.deliver j.node stack).resume rest

/-- A value of a single token is delivered at once. -/
theorem builds_of_single {j : Json} {token : Token} (htokens : j.tokens = [token])
    (hbegin : ∀ stack, BuildStep.beginValue stack token = BuildStep.deliver j.node stack)
    (htoken : token ≠ .closeList) : j.Builds := by
  intro stack goal rest hgoal
  rw [htokens, List.singleton_append, Node.build_cons,
    BuildStep.ofToken_of_value hgoal stack htoken, hbegin]

/-- The further items of a list are built behind those that are kept, and their bracket delivers the
list. -/
theorem build_tokensOfItems {items : List Json} (h : ∀ item ∈ items, item.Builds)
    (kept : List Node) (stack : List Frame) (rest : List Token) :
    Node.build (.list kept :: stack) .separator (tokensOfItems items ++ rest) =
      (BuildStep.deliver (.list (kept.reverse ++ nodesOfItems items) true) stack).resume rest := by
  induction items generalizing kept with
  | nil =>
      rw [nodesOfItems, List.append_nil]
      exact Node.build_cons _ _ _ _
  | cons item items ih =>
      have hitem := h item List.mem_cons_self
      have hrest := ih fun other hother => h other (List.mem_cons_of_mem _ hother)
      show Node.build _ .separator (.comma :: (item.tokens ++ tokensOfItems items ++ rest)) = _
      rw [Node.build_cons, List.append_assoc]
      show Node.build _ .value (item.tokens ++ (tokensOfItems items ++ rest)) = _
      rw [hitem _ _ _ (Or.inl rfl)]
      show Node.build (.list (item.node :: kept) :: stack) .separator _ = _
      rw [hrest, nodesOfItems]
      simp

/-- The tokens of a member, where a key is wanted. -/
theorem build_tokensOfMember {member : String × Json} (h : member.2.Builds) (afterComma : Bool)
    (kept : List (Option String × Node)) (stack : List Frame) (rest : List Token) :
    Node.build (.record kept :: stack) (.key afterComma) (tokensOfMember member ++ rest) =
      Node.build (.record ((some member.1, member.2.node) :: kept) :: stack) .separator rest := by
  obtain ⟨key, value⟩ := member
  have hkey : BuildStep.ofToken (.record kept :: stack) (.key afterComma) (.text (some key)) =
      .more (.member kept (some key) :: stack) .colon := by
    cases afterComma <;> rfl
  show Node.build _ _ (.text (some key) :: .colon :: (value.tokens ++ rest)) = _
  rw [Node.build_cons, hkey]
  show Node.build _ .value (value.tokens ++ rest) = _
  rw [h _ _ _ (Or.inl rfl)]
  rfl

/-- The further members of a record are built behind those that are kept, and their brace delivers
the record. -/
theorem build_tokensOfMembers {members : List (String × Json)}
    (h : ∀ member ∈ members, member.2.Builds) (kept : List (Option String × Node))
    (stack : List Frame) (rest : List Token) :
    Node.build (.record kept :: stack) .separator (tokensOfMembers members ++ rest) =
      (BuildStep.deliver (.record (kept.reverse ++ nodesOfMembers members) true) stack).resume
        rest := by
  induction members generalizing kept with
  | nil =>
      rw [nodesOfMembers, List.append_nil]
      exact Node.build_cons _ _ _ _
  | cons member members ih =>
      have hmember := h member List.mem_cons_self
      have hrest := ih fun other hother => h other (List.mem_cons_of_mem _ hother)
      show Node.build _ .separator
        (.comma :: (tokensOfMember member ++ tokensOfMembers members ++ rest)) = _
      rw [Node.build_cons, List.append_assoc]
      show Node.build (.record kept :: stack) (.key true) _ = _
      rw [build_tokensOfMember hmember, hrest, nodesOfMembers]
      simp

/-- The builder puts the tokens of every value together to its tree. -/
theorem builds (j : Json) : j.Builds := by
  induction j using Json.nested with
  | null | bool b | natural n | integer i | text s =>
      exact builds_of_single rfl (fun _ => rfl) nofun
  | list items ih =>
      intro stack goal rest hgoal
      have hopen : BuildStep.ofToken stack goal .openList = .more (.list [] :: stack) .valueOrEnd :=
        BuildStep.ofToken_of_value hgoal stack nofun
      cases items with
      | nil =>
          show Node.build stack goal (.openList :: .closeList :: rest) = _
          rw [Node.build_cons, hopen]
          exact Node.build_cons _ _ _ _
      | cons item items =>
          show Node.build stack goal (.openList :: (item.tokens ++ tokensOfItems items ++ rest)) = _
          rw [Node.build_cons, hopen, List.append_assoc]
          show Node.build _ .valueOrEnd (item.tokens ++ (tokensOfItems items ++ rest)) = _
          rw [ih item List.mem_cons_self _ _ _ (Or.inr rfl)]
          exact build_tokensOfItems (fun other hother => ih other (List.mem_cons_of_mem _ hother))
            [item.node] stack rest
  | record members ih =>
      intro stack goal rest hgoal
      have hopen : BuildStep.ofToken stack goal .openRecord =
          .more (.record [] :: stack) (.key false) :=
        BuildStep.ofToken_of_value hgoal stack nofun
      cases members with
      | nil =>
          show Node.build stack goal (.openRecord :: .closeRecord :: rest) = _
          rw [Node.build_cons, hopen]
          exact Node.build_cons _ _ _ _
      | cons member members =>
          show Node.build stack goal
            (.openRecord :: (tokensOfMember member ++ tokensOfMembers members ++ rest)) = _
          rw [Node.build_cons, hopen, List.append_assoc]
          show Node.build (.record [] :: stack) (.key false) _ = _
          rw [build_tokensOfMember (ih member List.mem_cons_self)]
          exact build_tokensOfMembers (fun other hother => ih other (List.mem_cons_of_mem _ hother))
            [(some member.1, member.2.node)] stack rest

/-- A written value is read as its tree, with nothing behind it. -/
theorem ofChars_chars (j : Json) : Document.ofChars j.chars = ⟨j.node, false⟩ := by
  have h := j.builds [] .value [] (Or.inl rfl)
  rw [List.append_nil] at h
  rw [Document.ofChars, scan_chars, h]
  rfl

/-! ## What can be skipped and kept -/

/-- The trees of the items are whole if each of them is. -/
theorem areIntact_nodesOfItems {items : List Json} (h : ∀ item ∈ items, item.node.isIntact = true) :
    Node.areIntact (nodesOfItems items) = true := by
  induction items with
  | nil => rfl
  | cons item items ih =>
      rw [nodesOfItems, Node.areIntact, h item List.mem_cons_self,
        ih fun other hother => h other (List.mem_cons_of_mem _ hother)]
      rfl

/-- The trees of the members are whole if each of them is. -/
theorem membersIntact_nodesOfMembers {members : List (String × Json)}
    (h : ∀ member ∈ members, member.2.node.isIntact = true) :
    Node.membersIntact (nodesOfMembers members) = true := by
  induction members with
  | nil => rfl
  | cons member members ih =>
      obtain ⟨key, value⟩ := member
      have hvalue : value.node.isIntact = true := h (key, value) List.mem_cons_self
      rw [nodesOfMembers, Node.membersIntact, hvalue,
        ih fun other hother => h other (List.mem_cons_of_mem _ hother)]
      rfl

/-- The tree of a value is whole. -/
theorem isIntact_node (j : Json) : j.node.isIntact = true := by
  induction j using Json.nested with
  | null | bool b | natural n | integer i | text s => rfl
  | list items ih => rw [node, Node.isIntact, areIntact_nodesOfItems ih, Bool.and_self]
  | record members ih => rw [node, Node.isIntact, membersIntact_nodesOfMembers ih, Bool.and_self]

/-- The value can be kept where there is room for its depth. -/
def Keeps (j : Json) : Prop := ∀ room, j.depth ≤ room → j.node.isKeepable room = true

/-- The trees of the items can be kept if each of them can and there is room for the deepest one. -/
theorem areKeepable_nodesOfItems {items : List Json} (h : ∀ item ∈ items, item.Keeps) {room : Nat}
    (hroom : depthOfItems items ≤ room) : Node.areKeepable room (nodesOfItems items) = true := by
  induction items with
  | nil => rfl
  | cons item items ih =>
      rw [depthOfItems, Nat.max_le] at hroom
      rw [nodesOfItems, Node.areKeepable, h item List.mem_cons_self room hroom.1,
        ih (fun other hother => h other (List.mem_cons_of_mem _ hother)) hroom.2]
      rfl

/-- The trees of the members can be kept if each of them can and there is room for the deepest
one. -/
theorem membersKeepable_nodesOfMembers {members : List (String × Json)}
    (h : ∀ member ∈ members, member.2.Keeps) {room : Nat} (hroom : depthOfMembers members ≤ room) :
    Node.membersKeepable room (nodesOfMembers members) = true := by
  induction members with
  | nil => rfl
  | cons member members ih =>
      obtain ⟨key, value⟩ := member
      rw [depthOfMembers, Nat.max_le] at hroom
      have hvalue : value.node.isKeepable room = true :=
        h (key, value) List.mem_cons_self room hroom.1
      rw [nodesOfMembers, Node.membersKeepable, hvalue,
        ih (fun other hother => h other (List.mem_cons_of_mem _ hother)) hroom.2]
      rfl

/-- Every value can be kept where there is room for its depth. -/
theorem keeps (j : Json) : j.Keeps := by
  induction j using Json.nested with
  | null | bool b | natural n | text s => intro room _; cases room <;> rfl
  | integer i =>
      intro room _
      cases room <;> exact Numeral.isKeepable_ofInteger i
  | list items ih =>
      intro room hroom
      rw [depth] at hroom
      cases room with
      | zero => omega
      | succ room =>
          rw [node, Node.isKeepable, areKeepable_nodesOfItems ih (by omega), Bool.and_self]
  | record members ih =>
      intro room hroom
      rw [depth] at hroom
      cases room with
      | zero => omega
      | succ room =>
          rw [node, Node.isKeepable, membersKeepable_nodesOfMembers ih (by omega), Bool.and_self]

end Json

end Noughts

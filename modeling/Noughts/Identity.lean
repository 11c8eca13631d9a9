/-!
# Identifiers

Sessions and players are known by texts that nothing interprets. A session that is not given a name
gets a random identifier in the usual grouped hexadecimal form (version 4, variant 1). A move
identifier is the token that a client sends back to show which state it acted on.
-/

namespace Noughts

/-- The name of a session. -/
structure SessionId where
  text : String
deriving DecidableEq, Repr

/-- The name of a player. -/
structure PlayerId where
  text : String
deriving DecidableEq, Repr

/-- The token that ties a submitted move to the state it was made for. -/
structure MoveId where
  value : UInt64
deriving DecidableEq, Repr

namespace SessionId

/-- Which bits of a random identifier are fixed: four name the version, two the variant. -/
def stamp (random : BitVec 128) : BitVec 128 :=
  let free : BitVec 128 := 0xffffffffffff0fff3fffffffffffffff#128
  let fixed : BitVec 128 := 0x00000000000040008000000000000000#128
  (random &&& free) ||| fixed

/-- The lower `count` hexadecimal digits of a number, most significant first. -/
def hexDigits (n : Nat) : (count : Nat) → List Char
  | 0 => []
  | count + 1 => hexDigits (n / 16) count ++ [Nat.digitChar (n % 16)]

/-- The identifier made from 128 random bits: 32 lower-case hexadecimal digits in groups of eight,
four, four, four and twelve. -/
def ofRandom (random : BitVec 128) : SessionId :=
  let digits := hexDigits (stamp random).toNat 32
  let group (start length : Nat) : String := String.ofList ((digits.drop start).take length)
  ⟨"-".intercalate [group 0 8, group 8 4, group 12 4, group 16 4, group 20 12]⟩

end SessionId

end Noughts

import TileRules.CommandLine.Pattern.Primitive

/-!
# Character class — sets of characters in square brackets

A class holds characters, ranges, named classes and other classes; operators between two parts of a
class stand for the intersection and the differences of the sets. Which set that is does not matter
here, but how deep the class is nested does.

A class of bytes may hold ASCII characters only, so it cannot be negated: it would hold all bytes
above ASCII, which are no characters. Where letters stand for both cases only classes without any
member can be read.

`CharacterClass.read?` reads a class behind its opening bracket and gives how deep it is nested.
-/

namespace TileRules
namespace Pattern

/-- The members of a class that were read one after the other. -/
structure Members where
  count : Nat
  /-- How deep the members are nested. -/
  depth : Nat
  deriving DecidableEq, Repr

namespace Members

def empty : Members :=
  ⟨0, 0⟩

/-- Adds a member that is nested so deep. -/
def add (m : Members) (depth : Nat) : Members :=
  ⟨m.count + 1, max m.depth depth⟩

/-- The depth of the union of the members, which is one level deeper than they are if there are
several. -/
def unionDepth (m : Members) : Nat :=
  if m.count ≤ 1 then m.depth else m.depth + 1

end Members

/-- A bracket that is open. -/
structure Bracket where
  /-- The depth of the set in front of the operator that was read last. -/
  operand : Option Nat
  /-- The members in front of the bracket. -/
  outer : Members
  deriving DecidableEq, Repr

/-- The depth of the set up to here, with the members behind the last operator. -/
def Bracket.depth (b : Bracket) (members : Members) : Nat :=
  match b.operand with
  | some left => max left members.unionDepth + 1
  | none => members.unionDepth

/-- How much of a class was read behind its bracket: at the start dashes and a closing bracket are
characters. -/
inductive Progress
  | start
  | dashes
  | inside
  deriving DecidableEq, Repr

namespace CharacterClass

def names : List String :=
  ["alnum", "alpha", "ascii", "blank", "cntrl", "digit", "graph", "lower", "print", "punct",
    "space", "upper", "word", "xdigit"]

/-- Reads a named class of ASCII characters behind its bracket, and whether it is negated. -/
def ascii? : List Char → Option (Bool × List Char)
  | ':' :: rest =>
      let (negated, rest) := match rest with
        | '^' :: behind => (true, behind)
        | _ => (false, rest)
      match rest.dropWhile (· != ':') with
      | ':' :: ']' :: behind =>
          if names.contains (String.ofList (rest.takeWhile (· != ':'))) then some (negated, behind)
          else none
      | _ => none
  | _ => none

/-- Drops the negation of a class behind its bracket, if the class may have one. -/
def skipNegation? (flags : Flags) (text : List Char) : Option (List Char) :=
  match flags.skip text with
  | '^' :: rest => if flags.unicode then some rest else none
  | rest => some rest

/-- Reads a primitive in a class. -/
def primitive? (flags : Flags) : List Char → Option (Primitive × List Char)
  | [] => none
  | '\\' :: rest => Primitive.escaped? flags rest
  | c :: rest => some (.literal c false, rest)

/-- Reads a member: a primitive, or a range between two characters. A dash begins a range unless the
class ends behind it or a second dash follows. -/
def member? (flags : Flags) (text : List Char) : Option (List Char) :=
  (primitive? flags text).bind fun (first, rest) =>
    match flags.skip rest with
    | [] => none
    | '-' :: behind =>
        if flags.peek behind == some ']' || flags.peek behind == some '-' then
          if first.isMember flags then some ('-' :: behind) else none
        else
          match first, primitive? flags (flags.skip behind) with
          | .literal a _, some (.literal b asByte, rest) =>
              if a ≤ b && first.isMember flags && (Primitive.literal b asByte).isMember flags then
                some rest
              else none
          | _, _ => none
    | rest => if first.isMember flags then some rest else none

/-- What stands behind an operator: an intersection, a difference or a symmetric difference. -/
def operator? : List Char → Option (List Char)
  | '&' :: '&' :: rest | '-' :: '-' :: rest | '~' :: '~' :: rest => some rest
  | _ => none

/-- Whether a class may hold a named class of ASCII characters, or all characters outside of one. -/
def mayHoldNamed (flags : Flags) (negated : Bool) : Bool :=
  if flags.unicode then !flags.foldsCase else !negated

/-- Reads on in the innermost of the open brackets, up to the end of the outermost one. -/
def readFrom (flags : Flags) : (fuel : Nat) → Bracket → List Bracket → Progress → Members →
    List Char → Option (Nat × List Char)
  | 0, _, _, _, _, _ => none
  | fuel + 1, bracket, outer, progress, members, text =>
      let character := (Primitive.literal '-' false).isMember flags
      match flags.skip text, progress with
      | [], _ => none
      | '-' :: rest, .start | '-' :: rest, .dashes =>
          if character then readFrom flags fuel bracket outer .dashes (members.add 0) rest else none
      | ']' :: rest, .start =>
          if character then readFrom flags fuel bracket outer .inside (members.add 0) rest else none
      | '[' :: rest, _ =>
          match ascii? rest with
          | some (negated, behind) =>
              if mayHoldNamed flags negated then
                readFrom flags fuel bracket outer .inside (members.add 0) behind
              else none
          | none =>
              (skipNegation? flags rest).bind fun behind =>
                readFrom flags fuel ⟨none, members⟩ (bracket :: outer) .start .empty behind
      | ']' :: rest, _ =>
          let depth := bracket.depth members + 1
          match outer with
          | [] => some (depth, rest)
          | next :: outer => readFrom flags fuel next outer .inside (bracket.outer.add depth) rest
      | c :: rest, _ =>
          match operator? (c :: rest) with
          | some behind =>
              let operand := some (bracket.depth members)
              readFrom flags fuel { bracket with operand } outer .inside .empty behind
          | none =>
              (member? flags (c :: rest)).bind fun behind =>
                readFrom flags fuel bracket outer .inside (members.add 0) behind

/-- Reads a class behind its opening bracket, and gives how deep it is nested. -/
def read? (flags : Flags) (text : List Char) : Option (Nat × List Char) :=
  (skipNegation? flags text).bind fun rest =>
    readFrom flags (text.length + 1) ⟨none, .empty⟩ [] .start .empty rest

end CharacterClass
end Pattern
end TileRules

import TileRules.CommandLine.Pattern.CharacterClass
import TileRules.CommandLine.Pattern.Opening

/-!
# Pattern — values that a log filter compares fields with

The value of a field in a directive is a truth value, a number or a pattern. A pattern is a regular
expression: primitives and classes of characters one after the other, alternatives between bars,
groups in round brackets, and marks for repetition. It is nested at most `nestingLimit` levels deep.

`Pattern.isWellFormed` recognises patterns, and `Pattern.isValue` recognises values.
-/

namespace TileRules
namespace Pattern

/-! ## Numbers -/

/-- Whether a text is the part of a number behind its digits: nothing or an exponent. -/
def isExponent : List Char → Bool
  | [] => true
  | mark :: rest =>
      let digits := match rest with
        | '+' :: digits | '-' :: digits => digits
        | digits => digits
      mark.toLower == 'e' && !digits.isEmpty && digits.all Char.isDigit

/-- Whether a text is a decimal number without a sign, or the name of a number without digits. -/
def isUnsigned (text : List Char) : Bool :=
  let whole := text.takeWhile Char.isDigit
  let rest := text.dropWhile Char.isDigit
  let (fraction, rest) := match rest with
    | '.' :: behind => (behind.takeWhile Char.isDigit, behind.dropWhile Char.isDigit)
    | _ => ([], rest)
  ["inf", "infinity", "nan"].contains (String.ofList (text.map Char.toLower)) ||
    (!whole.isEmpty || !fraction.isEmpty) && isExponent rest

/-! ## Nesting -/

/-- How deep a pattern may be nested. -/
def nestingLimit : Nat := 250

/-- A part of an alternative. -/
inductive Part
  /-- Flags for what follows. -/
  | setting
  /-- An expression that is nested so deep. -/
  | expression (depth : Nat)
  deriving DecidableEq, Repr

def Part.depth : Part → Nat
  | .setting => 0
  | .expression depth => depth

/-- The greatest of some depths. -/
def deepest (depths : List Nat) : Nat :=
  depths.foldr max 0

/-- What was read of a group, or of the whole pattern. -/
structure Branches where
  /-- The parts of the alternative that is being read, last first. -/
  parts : List Part
  /-- The depths of the alternatives before it. -/
  before : List Nat
  deriving DecidableEq, Repr

namespace Branches

def empty : Branches :=
  ⟨[], []⟩

/-- The depth of the alternative that is being read. Several parts are one level deeper than each of
them. -/
def lastDepth (b : Branches) : Nat :=
  match b.parts with
  | [] => 0
  | [part] => part.depth
  | parts => deepest (parts.map Part.depth) + 1

/-- The depth of all alternatives. Several are one level deeper than each of them. -/
def depth (b : Branches) : Nat :=
  match b.before with
  | [] => b.lastDepth
  | before => max (deepest before) b.lastDepth + 1

def add (b : Branches) (part : Part) : Branches :=
  { b with parts := part :: b.parts }

/-- Begins the next alternative. -/
def next (b : Branches) : Branches :=
  ⟨[], b.lastDepth :: b.before⟩

/-- Repeats the last part, which has to be an expression. -/
def repeatLast? (b : Branches) : Option Branches :=
  match b.parts with
  | .expression depth :: parts => some { b with parts := .expression (depth + 1) :: parts }
  | _ => none

end Branches

/-! ## Reading -/

/-- How far a pattern was read. -/
structure State where
  flags : Flags
  /-- Names of groups. -/
  names : List String
  branches : Branches
  /-- The groups around this place, with the flags that hold behind each of them. -/
  outer : List (Flags × Branches)
  deriving DecidableEq, Repr

namespace State

def start : State :=
  ⟨{}, [], .empty, []⟩

def add (s : State) (part : Part) : State :=
  { s with branches := s.branches.add part }

/-- Enters a group or changes the flags. No two groups have the same name. -/
def enter? (s : State) : Opening → Option State
  | .setting flags => some ({ s with flags }.add .setting)
  | .group name flags =>
      if name.any s.names.contains then none
      else some ⟨flags, name.toList ++ s.names, .empty, (s.flags, s.branches) :: s.outer⟩

/-- Leaves a group. -/
def leave? (s : State) : Option State :=
  match s.outer with
  | (flags, branches) :: outer =>
      some ⟨flags, s.names, branches.add (.expression (s.branches.depth + 1)), outer⟩
  | [] => none

/-- Adds a primitive that the pattern may hold. -/
def primitive? (s : State) (p : Primitive) : Option State :=
  if p.isAllowed s.flags then some (s.add (.expression 0)) else none

/-- Repeats the last part. A question mark behind the mark belongs to it. -/
def repeatLast? (s : State) (rest : List Char) : Option (State × List Char) :=
  s.branches.repeatLast?.map fun branches =>
    ({ s with branches }, match rest with
      | '?' :: behind => behind
      | _ => rest)

/-- Reads what begins with the character `c`. -/
def step? (s : State) (c : Char) (rest : List Char) : Option (State × List Char) :=
  match c with
  | '(' => (Opening.read? s.flags rest).bind fun (opening, rest) =>
      (s.enter? opening).map fun s => (s, rest)
  | ')' => s.leave?.map fun s => (s, rest)
  | '|' => some ({ s with branches := s.branches.next }, rest)
  | '[' => (CharacterClass.read? s.flags rest).map fun (depth, rest) =>
      (s.add (.expression depth), rest)
  | '?' | '*' | '+' => s.repeatLast? rest
  | '{' => none
  | '\\' => (Primitive.escaped? s.flags rest).bind fun (p, rest) =>
      (s.primitive? p).map fun s => (s, rest)
  | '.' => (s.primitive? .dot).map fun s => (s, rest)
  | '^' | '$' => (s.primitive? (.assertion false)).map fun s => (s, rest)
  | c => (s.primitive? (.literal c false)).map fun s => (s, rest)

/-- Reads the rest of a pattern. -/
def readFrom : (fuel : Nat) → State → List Char → Option State
  | 0, _, _ => none
  | fuel + 1, s, text =>
      match s.flags.skip text with
      | [] => some s
      | c :: rest => (s.step? c rest).bind fun (s, rest) => readFrom fuel s rest

/-- Whether a pattern may end here. -/
def isFinal (s : State) : Bool :=
  s.outer.isEmpty && s.branches.depth ≤ nestingLimit

end State

/-- Whether a text is a pattern. -/
def isWellFormed (text : List Char) : Bool :=
  (State.start.readFrom (text.length + 1) text).any State.isFinal

/-- Whether a text is a value of a field. Of the numbers only those with a plus sign in front are
not patterns too. -/
def isValue (text : List Char) : Bool :=
  isWellFormed text ||
    match text with
    | '+' :: number => isUnsigned number
    | _ => false

end Pattern
end TileRules

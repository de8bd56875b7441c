import TileRules.CommandLine.Pattern.Primitive
import TileRules.Text.Alphanumeric

/-!
# Opening — what a round bracket begins

A round bracket opens a group, which may have a name or flags of its own, or it holds flags for the
rest of the group that it stands in.

`Opening.read?` reads what stands behind the bracket.
-/

namespace TileRules
namespace Pattern

inductive Opening
  | group (name : Option String) (flags : Flags)
  | setting (flags : Flags)
  deriving DecidableEq, Repr

namespace Opening

/-- The letters of the flags. -/
def letters : List Char :=
  ['i', 'm', 's', 'U', 'u', 'x', 'R']

/-- The flags with one of them switched on or off. -/
def switch (flags : Flags) (letter : Char) (on : Bool) : Flags :=
  match letter with
  | 'i' => { flags with foldsCase := on }
  | 'u' => { flags with unicode := on }
  | 'x' => { flags with spaced := on }
  | _ => flags

/-- Reads flags behind the `given` ones. A minus sign switches the flags behind it off; it may not
come last, and no flag may come twice. -/
def flags? (given : List Char) (minus last : Bool) (flags : Flags) :
    List Char → Option (Opening × List Char)
  | [] => none
  | ':' :: rest => if last then none else some (.group none flags, rest)
  | ')' :: rest => if last || given.isEmpty then none else some (.setting flags, rest)
  | '-' :: rest => if minus then none else flags? given true true flags rest
  | c :: rest =>
      if letters.contains c && !given.contains c then
        flags? (c :: given) minus false (switch flags c !minus) rest
      else none

/-- Whether a text is a name: letters and numbers, where a letter comes first. -/
def isName : List Char → Bool
  | [] => false
  | c :: rest =>
      (c == '_' || Text.isAlphabetic c) &&
        rest.all fun c => ['_', '.', '[', ']'].contains c || Text.isAlphanumeric c

/-- Reads a group with a name behind an angle bracket. -/
def named? (flags : Flags) (text : List Char) : Option (Opening × List Char) :=
  let name := text.takeWhile (· != '>')
  match text.dropWhile (· != '>') with
  | '>' :: rest =>
      if isName name then some (.group (some (String.ofList name)) flags, rest) else none
  | _ => none

/-- Reads what stands behind a round bracket. -/
def read? (flags : Flags) (text : List Char) : Option (Opening × List Char) :=
  match flags.skip text with
  | '?' :: 'P' :: '<' :: rest => named? flags rest
  | '?' :: '<' :: rest => named? flags rest
  | '?' :: rest => flags? [] false false flags rest
  | rest => some (.group none flags, rest)

end Opening
end Pattern
end TileRules

/-!
# Arguments — options on a command line

A command line is a list of options. An option has a long name behind two dashes and may have a
short one behind a single dash. It either takes a value, in the same argument or in the next one,
or it is a flag and takes none.

`Arguments.parse?` reads a command line. It refuses unknown options, arguments that belong to no
option, missing values and values of flags, and options that are given twice.
-/

namespace TileRules

/-- An option that a command understands. -/
structure CommandOption where
  long : String
  /-- Only options with a value have a short name. -/
  short : Option Char
  takesValue : Bool
  deriving Repr

/-- Options by their long names, with their values. -/
structure Arguments where
  given : List (String × Option String)
  deriving Repr

namespace Arguments

/-- Whether a flag is given. -/
def has (a : Arguments) (long : String) : Bool :=
  (a.given.lookup long).isSome

/-- The value of an option, if it is given. -/
def value? (a : Arguments) (long : String) : Option String :=
  (a.given.lookup long).join

/-- Takes one more option, unless it was taken before. -/
def add (a : Arguments) (o : CommandOption) (value : Option String) : Option Arguments :=
  if a.has o.long then none else some ⟨(o.long, value) :: a.given⟩

/-- An option as one argument gives it, with the value that the argument holds. -/
def optionOf? (known : List CommandOption) (argument : List Char) :
    Option (CommandOption × Option String) :=
  match argument with
  | '-' :: '-' :: body =>
      let name := String.ofList (body.takeWhile (· != '='))
      let value := match body.dropWhile (· != '=') with
        | [] => none
        | _ :: value => some (String.ofList value)
      match known.find? (·.long == name) with
      | some o => if !o.takesValue && value.isSome then none else some (o, value)
      | none => none
  | '-' :: letter :: body =>
      let value := match body with
        | [] => none
        | '=' :: value => some (String.ofList value)
        | value => some (String.ofList value)
      (known.find? (·.short == some letter)).map fun o => (o, value)
  | _ => none

/-- Whether an argument can be the value of the option before it: it has no dash at its front, or is
a single dash. -/
def isValue (argument : String) : Bool :=
  match argument.toList with
  | '-' :: _ :: _ => false
  | _ => true

/-- Reads arguments behind the options read so far. -/
def parseFrom (known : List CommandOption) (found : Arguments) : List String → Option Arguments
  | [] => some found
  | ["--"] => some found
  | argument :: rest =>
      match optionOf? known argument.toList with
      | none => none
      | some (o, value) =>
          if o.takesValue && value.isNone then
            match rest with
            | next :: rest =>
                if isValue next then
                  (found.add o (some next)).bind fun found => parseFrom known found rest
                else
                  none
            | [] => none
          else
            (found.add o value).bind fun found => parseFrom known found rest

/-- Reads a whole command line. -/
def parse? (known : List CommandOption) (arguments : List String) : Option Arguments :=
  parseFrom known ⟨[]⟩ arguments

end Arguments
end TileRules

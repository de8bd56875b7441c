import TileRules.Build

/-!
# Outcome — what a command leaves on its streams

A command ends with an exit code: zero if it succeeded, one if it failed, and two if its command
line could not be read. `Outcome.errorText` is what it writes to standard error; a failure is
written with the chain of its reasons by `failureText`.
-/

namespace TileRules

structure Outcome where
  code : Nat
  output : String
  /-- Lines of the log, which a command writes to standard output too. -/
  log : List String
  /-- What was written to standard error before the command ended. -/
  notes : String
  failure : Option BuildError
  deriving Repr

/-- The lines of a text below its first, each behind the indentation. -/
def indentLines (indentation : String) (text : String) : String :=
  String.join (text.toList.map fun c => if c = '\n' then "\n" ++ indentation else c.toString)

/-- The reasons behind the first: a single one indented, several of them with numbers. -/
def causesText : List String → String
  | [] => ""
  | [cause] => "\n\nCaused by:\n    " ++ indentLines "    " cause
  | causes =>
      "\n\nCaused by:" ++ String.join (causes.zipIdx.map fun (cause, number) =>
        "\n    " ++ toString number ++ ": " ++ indentLines "       " cause)

/-- The text of a failure with these reasons, the outermost first. -/
def failureText : List String → String
  | [] => ""
  | reason :: causes => "Error: " ++ reason ++ causesText causes ++ "\n"

namespace Outcome

/-- The command line could not be read. -/
def usage : Outcome :=
  { code := 2, output := "", log := [], notes := "", failure := none }

/-- What the command writes to standard error. -/
def errorText (o : Outcome) : String :=
  o.notes ++ match o.failure with
    | some failure => failureText (failure.chain.map Reason.message)
    | none => ""

end Outcome
end TileRules

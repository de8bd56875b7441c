import TileRules.CommandLine.Pattern
import TileRules.Event
import TileRules.Text.Alphanumeric
import TileRules.Text.Blank

/-!
# Log filter — which events a log shows

A filter is a list of directives between commas. A directive sets the least important level that is
shown, for every event or for the components whose names begin with the text before an equals sign.
Levels are given by name in any case or by number; zero and `off` show nothing, and a component
without a level shows everything. Brackets narrow a directive: with the name of a field in braces it
is about the events that have the field, and with the name of a span of time or with the value of a
field it is about spans, and no event of this program lies in one.

Of the directives about an event the most specific one counts, and of several that are about the
same events the last one.

- `LogFilter.ofText?` reads a filter; without any directive it shows errors;
- `LogFilter.shows` decides about an event;
- `LogFilter.choose` takes the filter of the environment, else the configured level, else `info`.
-/

namespace TileRules

/-- Which events of its components a directive is about. -/
inductive Scope
  | all
  /-- The events with a field of this name. -/
  | field (name : String)
  /-- Spans of time, and no event. -/
  | spans
  deriving DecidableEq, Repr

/-- The field that an event has to have, or an empty text. -/
def Scope.fieldName : Scope → String
  | .field name => name
  | .all | .spans => ""

/-- One directive of a filter. -/
structure Directive where
  /-- What the names of its components begin with; empty for every component. -/
  components : String
  scope : Scope
  /-- The least important level that is shown, or none for no event at all. -/
  most : Option Level
  deriving DecidableEq, Repr

namespace Directive

/-- Whether the directive is about an event of the component. -/
def applies (d : Directive) (component : String) (e : Event) : Bool :=
  component.startsWith d.components &&
    match d.scope with
    | .all => true
    | .field name => e.hasField name
    | .spans => false

/-- Whether an event of this level is shown. -/
def admits (d : Directive) (level : Level) : Bool :=
  match d.most with
  | some most => level.rank ≤ most.rank
  | none => false

/-- Whether a directive counts more than another one about the same event: it names more of the
component or, where both name the same, a field that comes later in the alphabet, any field coming
after none. -/
def isMoreSpecific (d other : Directive) : Bool :=
  other.components.length < d.components.length ||
    other.components.length == d.components.length &&
      decide (other.scope.fieldName < d.scope.fieldName)

/-! ## From text -/

/-- A level by name or number, where zero and `off` stand for no event. -/
def level? (text : String) : Option (Option Level) :=
  if Text.sameIgnoringCase text "off" || Text.unsigned? 0 text == some 0 then some none
  else (Level.ofText? text).map some

/-- The level behind an equals sign, where an empty text stands for every event. -/
def levelOrAll? (text : List Char) : Option (Option Level) :=
  if text.isEmpty then some (some .trace) else level? (String.ofList text)

/-- Characters that a directive without a bracket in front begins with. -/
def isNameStart (c : Char) : Bool :=
  c == '-' || c == ':' || c == '_' || Text.isAlphanumeric c

/-- The scope that a text in braces stands for: the name of a field, or a name with a value behind
an equals sign. -/
def scopeOfField? (text : List Char) : Option Scope :=
  match text.dropWhile (· != '=') with
  | [] => some (.field (String.ofList text))
  | _ :: value => if Pattern.isValue (value.takeWhile (· != '=')) then some .spans else none

/-! ### Outlines -/

/-- Where the texts of a directive stand, as numbers of bytes from its beginning. -/
structure Outline where
  nameEnd : Nat
  /-- Whether brackets name a span. -/
  isSpan : Bool
  /-- Where brackets hold a field. -/
  field : Option (Nat × Nat)
  /-- Where the level behind an equals sign begins. -/
  levelStart : Option Nat
  deriving DecidableEq, Repr

/-- The length of a text in bytes. -/
def byteLength (text : List Char) : Nat :=
  text.foldr (fun c length => c.utf8Size + length) 0

/-- The outline with what stands behind `place`: nothing or a level. -/
def Outline.close? (o : Outline) (place : Nat) : List Char → Option Outline
  | [] => some o
  | '=' :: _ => some { o with levelStart := some (place + 1) }
  | _ => none

/-- The outline of a directive with brackets, where `text` stands behind the opening one. -/
def Outline.ofBrackets? (nameEnd : Nat) (text : List Char) : Option Outline :=
  let isSpan := fun c : Char => c != ']' && c != '{'
  let span := text.takeWhile isSpan
  let place := nameEnd + 1 + byteLength span
  match text.dropWhile isSpan with
  | ']' :: behind => Outline.close? ⟨nameEnd, true, none, none⟩ (place + 1) behind
  | '{' :: rest =>
      let field := rest.takeWhile (· != '}')
      let fieldEnd := place + 1 + byteLength field
      match field, rest.dropWhile (· != '}') with
      | _ :: _, '}' :: ']' :: behind =>
          Outline.close? ⟨nameEnd, !span.isEmpty, some (place + 1, fieldEnd), none⟩ (fieldEnd + 2)
            behind
      | _, _ => none
  | _ => none

/-- The outline of a directive without blanks around it. -/
def Outline.ofChars? (text : List Char) : Option Outline :=
  let isName := fun c : Char => c != '=' && c != '['
  let nameEnd := byteLength (text.takeWhile isName)
  if text.head?.any fun c => isNameStart c || c == '[' then
    match text.dropWhile isName with
    | '=' :: _ => some ⟨nameEnd, false, none, some (nameEnd + 1)⟩
    | '[' :: rest => Outline.ofBrackets? nameEnd rest
    | _ => some ⟨nameEnd, false, none, none⟩
  else none

/-! ### Texts -/

/-- What stands behind the first bytes of a text, if a character begins there. -/
def dropBytes? : (count : Nat) → List Char → Option (List Char)
  | 0, text => some text
  | _, [] => none
  | count, c :: rest => if c.utf8Size ≤ count then dropBytes? (count - c.utf8Size) rest else none

/-- The first bytes of a text, if a character ends there. -/
def takeBytes? : (count : Nat) → List Char → Option (List Char)
  | 0, _ => some []
  | _, [] => none
  | count, c :: rest =>
      if c.utf8Size ≤ count then (takeBytes? (count - c.utf8Size) rest).map (c :: ·) else none

/-- The text between two places. -/
def cut? (text : List Char) (start stop : Nat) : Option (List Char) :=
  (dropBytes? start text).bind (takeBytes? (stop - start))

/-- The directive with this outline, whose texts are taken from `text`. A name alone may be that of
a level. -/
def ofOutline? (o : Outline) (text : List Char) : Option Directive := do
  if !o.isSpan && o.field.isNone && o.levelStart.isNone then
    let name := String.ofList text
    match level? name with
    | some most => return ⟨"", .all, most⟩
    | none => return ⟨name, .all, some .trace⟩
  else
    let name ← cut? text 0 o.nameEnd
    let scope ← match o.field with
      | none => some .all
      | some (start, stop) => (cut? text start stop).bind scopeOfField?
    let most ← match o.levelStart with
      | none => some (some .trace)
      | some start => (dropBytes? start text).bind levelOrAll?
    return ⟨String.ofList name, if o.isSpan then .spans else scope, most⟩

/-- Drops the blanks at both ends of a text. -/
def trim (text : List Char) : List Char :=
  ((text.dropWhile Text.isBlank).reverse.dropWhile Text.isBlank).reverse

/-- Reads one directive. The outline is that of the directive without blanks around it, but its
places are counted from the beginning of the text, so that with blanks in front all texts begin too
early. -/
def ofText? (text : String) : Option Directive :=
  (Outline.ofChars? (trim text.toList)).bind fun o => ofOutline? o text.toList

end Directive

structure LogFilter where
  directives : List Directive
  deriving DecidableEq, Repr

namespace LogFilter

/-- The filter with one directive. -/
def single (most : Option Level) : LogFilter :=
  ⟨[⟨"", .all, most⟩]⟩

/-- The directive that counts for an event: the most specific one about it, and the last of those
that are about the same events. -/
def directiveFor? (f : LogFilter) (component : String) (e : Event) : Option Directive :=
  (f.directives.filter (·.applies component e)).foldl
    (fun best d =>
      match best with
      | some other => if other.isMoreSpecific d then best else some d
      | none => some d)
    none

/-- Whether an event is shown. -/
def shows (f : LogFilter) (nameOf : Component → String) (e : Event) : Bool :=
  match f.directiveFor? (nameOf e.component) e with
  | some d => d.admits e.level
  | none => false

/-- The texts between commas, without the empty ones. -/
def parts (text : String) : List String :=
  (text.toList.splitOn ',').filterMap fun part =>
    if part.isEmpty then none else some (String.ofList part)

def ofText? (text : String) : Option LogFilter :=
  match parts text with
  | [] => some (single (some .error))
  | parts => (parts.mapM Directive.ofText?).map fun directives => ⟨directives⟩

/-- The filter of the environment, the configured level where that is missing or unreadable, and
`info` where both are. -/
def choose (environment : Option String) (configured : String) : LogFilter :=
  match environment.bind ofText? with
  | some filter => filter
  | none => (ofText? configured).getD (single (some .info))

end LogFilter
end TileRules

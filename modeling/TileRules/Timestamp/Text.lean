import TileRules.Text.Blank
import TileRules.Text.Number
import TileRules.Timestamp

/-!
# Timestamp text — date, time of day and offset

An instant is written in universal time as `YYYY-MM-DDThh:mm:ssZ`, with the shortest sufficient
fraction of three, six or nine digits where it is not on a second. Years beyond four digits carry a
sign.

Reading is more tolerant: a blank or a small `t` may separate date and time, blanks may stand before
a number or a sign between numbers, numbers may have fewer digits, a fraction may have more than the
nine digits that count, and the offset may be any below a day.

- `Timestamp.text` writes an instant;
- `Timestamp.ofText?` reads one.
-/

namespace TileRules
namespace Timestamp

/-! ## Writing -/

/-- The digits of a number, with zeros before them up to `width`. -/
def padded (width n : Nat) : List Char :=
  let digits := Nat.toDigits 10 n
  List.replicate (width - digits.length) '0' ++ digits

/-- Four digits, and a sign before years that need one. -/
def yearText (year : Int) : List Char :=
  if 0 ≤ year ∧ year ≤ 9999 then padded 4 year.natAbs
  else (if year < 0 then '-' else '+') :: padded 4 year.natAbs

/-- The fraction of a second with its point. -/
def fractionText (nano : Nat) : List Char :=
  if nano = 0 then []
  else if nano % 1000000 = 0 then '.' :: padded 3 (nano / 1000000)
  else if nano % 1000 = 0 then '.' :: padded 6 (nano / 1000)
  else '.' :: padded 9 nano

def text (t : Timestamp) : String :=
  String.ofList <|
    yearText t.date.year ++ '-' :: padded 2 t.date.month ++ '-' :: padded 2 t.date.day
      ++ 'T' :: padded 2 t.hour ++ ':' :: padded 2 t.minute ++ ':' :: padded 2 t.second
      ++ fractionText t.nano ++ ['Z']

/-! ## Reading -/

def skipBlanks (chars : List Char) : List Char :=
  chars.dropWhile Text.isBlank

def isDigit (c : Char) : Bool :=
  '0' ≤ c && c ≤ '9'

/-- Up to `most` digits at the front, of which there is at least one, and their number. -/
def readDigits (most : Nat) (chars : List Char) : Option (Nat × Nat × List Char) :=
  let digits := (chars.take most).takeWhile isDigit
  if digits.isEmpty then none
  else (Text.digits? digits).map fun value => (value, digits.length, chars.drop digits.length)

/-- A number of at most two digits behind blanks. -/
def readPair (chars : List Char) : Option (Nat × List Char) :=
  (readDigits 2 (skipBlanks chars)).map fun (value, _, rest) => (value, rest)

/-- A year behind blanks: four digits at most, or any number of them behind a sign. -/
def readYear (chars : List Char) : Option (Int × List Char) :=
  match skipBlanks chars with
  | '-' :: rest => (readDigits rest.length rest).map fun (value, _, rest) => (-(value : Int), rest)
  | '+' :: rest => (readDigits rest.length rest).map fun (value, _, rest) => ((value : Int), rest)
  | rest => (readDigits 4 rest).map fun (value, _, rest) => ((value : Int), rest)

/-- One sign behind blanks. -/
def readSign (sign : Char) (chars : List Char) : Option (List Char) :=
  match skipBlanks chars with
  | c :: rest => if c == sign then some rest else none
  | [] => none

/-- The sign between date and time. -/
def readSeparator : List Char → Option (List Char)
  | 'T' :: rest | 't' :: rest | ' ' :: rest => some rest
  | _ => none

/-- The nanoseconds of a fraction, where a point stands; digits after the ninth do not count. -/
def readFraction : List Char → Option (Nat × List Char)
  | '.' :: rest =>
      (readDigits 9 rest).map fun (value, length, rest) =>
        (value * Nat.pow 10 (9 - length), rest.dropWhile isDigit)
  | chars => some (0, chars)

/-- Two digits without blanks before them. -/
def readTwo : List Char → Option (Nat × List Char)
  | a :: b :: rest => do return ((← Text.digit? a) * 10 + (← Text.digit? b), rest)
  | _ => none

/-- The hours and minutes of an offset behind its sign; colons and blanks may stand between them. -/
def readOffsetSize (chars : List Char) : Option (Int × List Char) := do
  let (hours, chars) ← readTwo chars
  let (minutes, chars) ← readTwo (chars.dropWhile fun c => c == ':' || Text.isBlank c)
  if hours < 24 ∧ minutes < 60 then
    return ((hours * 60 + minutes : Nat), chars)
  else
    none

/-- An offset from universal time in minutes. -/
def readOffset : List Char → Option (Int × List Char)
  | 'Z' :: rest | 'z' :: rest => some (0, rest)
  | '+' :: rest => readOffsetSize rest
  | '-' :: rest | '\u2212' :: rest => (readOffsetSize rest).map fun (size, rest) => (-size, rest)
  | u :: t :: c :: rest =>
      if [u, t, c].map Char.toUpper == ['U', 'T', 'C'] then some (0, rest) else none
  | _ => none

/-- Reads a whole text as an instant. -/
def ofText? (text : String) : Option Timestamp := do
  let (year, chars) ← readYear text.toList
  let chars ← readSign '-' chars
  let (month, chars) ← readPair chars
  let chars ← readSign '-' chars
  let (day, chars) ← readPair chars
  let chars ← readSeparator chars
  let (hour, chars) ← readPair chars
  let chars ← readSign ':' chars
  let (minute, chars) ← readPair chars
  let chars ← readSign ':' chars
  let (second, chars) ← readPair chars
  let (nano, chars) ← readFraction chars
  let (offset, chars) ← readOffset (skipBlanks chars)
  if (skipBlanks chars).isEmpty then
    let date ← Date.ofParts? year month day
    ofLocal? date hour minute second nano offset
  else
    none

end Timestamp
end TileRules

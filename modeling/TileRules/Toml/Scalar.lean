import TileRules.Timestamp
import TileRules.Toml

/-!
# Toml scalar — numbers, truth values, dates and times

A value that is neither a string nor a collection is one run of letters, digits and signs, except
that a blank may stand between a date and its time. Each kind has its form:

- integers of 64 bits in decimal, or without a sign in hexadecimal, octal and binary;
- floats with a fraction or an exponent, or `inf` and `nan`; one too large for a double is refused;
- dates that exist, times of day, and both with or without an offset.

Digits may be grouped by single underscores between two digits.
-/

namespace TileRules
namespace Toml
namespace Scalar

def isDecimal (c : Char) : Bool :=
  '0' ≤ c && c ≤ '9'

/-- The value of a digit in a base up to sixteen. -/
def digitValue? (base : Nat) (c : Char) : Option Nat :=
  let value :=
    if isDecimal c then some (c.toNat - 48)
    else if 'a' ≤ c && c ≤ 'f' then some (c.toNat - 87)
    else if 'A' ≤ c && c ≤ 'F' then some (c.toNat - 55)
    else none
  value.filter (· < base)

/-! ## Digits -/

/-- Reads digits that may be grouped, behind a first digit or group. -/
def groupedFrom (base value : Nat) : List Char → Option Nat
  | [] => some value
  | '_' :: c :: rest =>
      match digitValue? base c with
      | some digit => groupedFrom base (value * base + digit) rest
      | none => none
  | c :: rest =>
      match digitValue? base c with
      | some digit => groupedFrom base (value * base + digit) rest
      | none => none

/-- The number of digits that may be grouped, of which there is at least one. -/
def grouped? (base : Nat) : List Char → Option Nat
  | [] => none
  | c :: rest => (digitValue? base c).bind fun digit => groupedFrom base digit rest

/-- The number of decimal digits without a leading zero. -/
def decimal? : List Char → Option Nat
  | '0' :: _ :: _ => none
  | chars => grouped? 10 chars

/-- A sign and what follows it; the sign is minus or not. -/
def splitSign : List Char → Bool × List Char
  | '-' :: rest => (true, rest)
  | '+' :: rest => (false, rest)
  | chars => (false, chars)

/-! ## Integers -/

def largestInteger : Nat := 9223372036854775807

def integer? : List Char → Option Int
  | '0' :: 'x' :: rest => ((grouped? 16 rest).filter (· ≤ largestInteger)).map Int.ofNat
  | '0' :: 'o' :: rest => ((grouped? 8 rest).filter (· ≤ largestInteger)).map Int.ofNat
  | '0' :: 'b' :: rest => ((grouped? 2 rest).filter (· ≤ largestInteger)).map Int.ofNat
  | chars =>
      let (isNegative, digits) := splitSign chars
      (decimal? digits).bind fun n =>
        if isNegative then
          if n ≤ largestInteger + 1 then some (-n) else none
        else
          if n ≤ largestInteger then some n else none

/-! ## Floats -/

/-- Whether `mantissa * 10 ^ exponent` rounds to a double: it lies below the middle between the
largest double and the next power of two. -/
def isFinite (mantissa : Nat) (exponent : Int) : Bool :=
  let size := (Nat.toDigits 10 mantissa).length + exponent
  if mantissa = 0 ∨ size < 300 then true
  else if size > 400 then false
  else
    let limit := 1 <<< 1024 - 1 <<< 970
    if 0 ≤ exponent then mantissa * Nat.pow 10 exponent.toNat < limit
    else mantissa < limit * Nat.pow 10 exponent.natAbs

def isExponentSign (c : Char) : Bool :=
  c == 'e' || c == 'E'

/-- The exponent behind its letter, or zero where there is none. -/
def exponent? : List Char → Option Int
  | [] => some 0
  | _ :: rest =>
      let (isNegative, digits) := splitSign rest
      (grouped? 10 digits).map fun n => if isNegative then -(n : Int) else n

/-- Whether a run of characters is a float with digits. -/
def isDigitFloat (chars : List Char) : Bool :=
  let (isNegative, chars) := splitSign chars
  let number := chars.takeWhile (!isExponentSign ·)
  let whole := number.takeWhile (· != '.')
  let fraction := number.dropWhile (· != '.')
  let power := chars.dropWhile (!isExponentSign ·)
  if fraction.isEmpty && power.isEmpty then false
  else
    let digits := (whole ++ fraction.drop 1).filter isDecimal
    match decimal? whole, exponent? power with
    | some _, some exponent =>
        let places := ((fraction.drop 1).filter isDecimal).length
        (fraction.isEmpty || (grouped? 10 (fraction.drop 1)).isSome) &&
          (isNegative || isFinite ((grouped? 10 digits).getD 0) (exponent - places))
    | _, _ => false

def isFloat (chars : List Char) : Bool :=
  let unsigned := (splitSign chars).2
  unsigned == ['i', 'n', 'f'] || unsigned == ['n', 'a', 'n'] || isDigitFloat chars

/-! ## Dates and times -/

/-- The number of exactly these digits. -/
def plain? (chars : List Char) : Option Nat :=
  if chars.all isDecimal then grouped? 10 chars else none

def isDate : List Char → Bool
  | [y, z, u, v, '-', m, n, '-', d, e] =>
      match plain? [y, z, u, v], plain? [m, n], plain? [d, e] with
      | some year, some month, some day => decide (IsDate year month day)
      | _, _, _ => false
  | _ => false

/-- The hours and minutes at the front, and what follows them. -/
def hourMinute? : List Char → Option (Nat × Nat × List Char)
  | h :: i :: ':' :: m :: n :: rest => do
      let hour ← plain? [h, i]
      let minute ← plain? [m, n]
      if hour < 24 ∧ minute < 60 then return (hour, minute, rest) else none
  | _ => none

/-- Drops a time of day at the front. -/
def dropTime? (chars : List Char) : Option (List Char) := do
  let (hour, minute, rest) ← hourMinute? chars
  match rest with
  | ':' :: s :: t :: rest =>
      let second ← plain? [s, t]
      if decide (IsTime hour minute second 0) then
        match rest with
        | '.' :: digit :: rest => if isDecimal digit then return rest.dropWhile isDecimal else none
        | '.' :: [] => none
        | rest => return rest
      else
        none
  | _ => none

def isTime (chars : List Char) : Bool :=
  dropTime? chars == some []

/-- An offset from universal time, which may be missing. -/
def isOffset : List Char → Bool
  | [] | ['Z'] | ['z'] => true
  | sign :: rest =>
      (sign == '+' || sign == '-') &&
        match hourMinute? rest with
        | some (_, _, []) => true
        | _ => false

def isDateTime (chars : List Char) : Bool :=
  isTime chars || isDate chars ||
    (isDate (chars.take 10) &&
      match chars.drop 10 with
      | separator :: time =>
          (separator == 'T' || separator == 't' || separator == ' ') &&
            match dropTime? time with
            | some rest => isOffset rest
            | none => false
      | [] => false)

end Scalar

/-! ## Scalars -/

/-- The value of a run of characters. -/
def scalar? (chars : List Char) : Option Toml :=
  if chars = ['t', 'r', 'u', 'e'] then some (.bool true)
  else if chars = ['f', 'a', 'l', 's', 'e'] then some (.bool false)
  else if Scalar.isDateTime chars then some .dateTime
  else if Scalar.isFloat chars then some .float
  else (Scalar.integer? chars).map .integer

end Toml
end TileRules

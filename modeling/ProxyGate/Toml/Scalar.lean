import ProxyGate.Text.Digits
import ProxyGate.Text.Scanner
import ProxyGate.Toml.Value

/-!
# TOML numbers, truth values and moments

What stands for one of these is a single word, except that a blank may part the date of a moment
from its time.  `scalar` takes the longest word and says which of them it is.
-/

namespace ProxyGate.Toml

open Text (Scanner)

/-! ## Digits -/

/-- The digits of a number that may have underscores between its digits, and nowhere else. -/
def plainDigits? (base : Nat) (word : List Char) : Option (List Char) :=
  let groups := word.splitOn '_'
  if groups.all fun group => group ≠ [] && group.all fun c => (Text.digitOf? base c).isSome then
    some groups.flatten
  else none

/-- The number of a word of digits, leading zeros allowed. -/
def digits? (base : Nat) (word : List Char) : Option Nat :=
  (plainDigits? base word).bind (Text.natOf? base)

/-- The number of a word of decimal digits without a leading zero. -/
def decimal? (word : List Char) : Option Nat :=
  if word.head? = some '0' ∧ word ≠ ['0'] then none else digits? 10 word

/-- Takes a sign off; the flag says whether it was a minus. -/
def cutSign : List Char → Bool × List Char
  | '-' :: word => (true, word)
  | '+' :: word => (false, word)
  | word => (false, word)

/-! ## Integers -/

/-- One more than the largest integer. -/
def integerBound : Nat := Nat.pow 2 63

/-- An integer in decimal. -/
def decimalInteger? (word : List Char) : Option Int := do
  let (negative, digits) := cutSign word
  let size ← decimal? digits
  if negative then
    if size ≤ integerBound then some (-size) else none
  else
    if size < integerBound then some size else none

/-- An integer in another base, without a sign. -/
def basedInteger? (base : Nat) (digits : List Char) : Option Int := do
  let size ← digits? base digits
  if size < integerBound then some size else none

/-- An integer in any of its forms. -/
def integer? : List Char → Option Int
  | '0' :: 'x' :: digits => basedInteger? 16 digits
  | '0' :: 'o' :: digits => basedInteger? 8 digits
  | '0' :: 'b' :: digits => basedInteger? 2 digits
  | word => decimalInteger? word

/-! ## Floats -/

/-- The part of a word before a character, and the part behind it if the character is there. -/
def cutAt (accept : Char → Bool) (word : List Char) : List Char × Option (List Char) :=
  match word.dropWhile fun c => !accept c with
  | [] => (word, none)
  | _ :: behind => (word.takeWhile fun c => !accept c, some behind)

/-- The exponent of a float. -/
def exponent? (word : List Char) : Option Int := do
  let (negative, digits) := cutSign word
  let size ← digits? 10 digits
  return if negative then -size else size

/-- Whether `mantissa * 10 ^ exponent` is too large for a double: at least halfway from the largest
double to the next power of two.  The number of digits decides the far cases. -/
def isHuge (mantissa : Nat) (exponent : Int) : Bool :=
  let limit := Nat.pow 2 1024 - Nat.pow 2 970
  let digits : Int := (Text.decimal mantissa).length
  if mantissa = 0 ∨ digits + exponent < 300 then false
  else if 320 < digits + exponent then true
  else if 0 ≤ exponent then limit ≤ mantissa * Nat.pow 10 exponent.toNat
  else limit * Nat.pow 10 (-exponent).toNat ≤ mantissa

/-- Whether a word is a float with a fraction, an exponent or both.  A positive one must not be too
large for a double. -/
def isDecimalFloat (word : List Char) : Bool :=
  let (negative, size) := cutSign word
  let (front, exponent) := cutAt (fun c => c = 'e' || c = 'E') size
  let (whole, fraction) := cutAt (· = '.') front
  let parts? : Option (Nat × Int) := do
    guard (fraction.isSome ∨ exponent.isSome)
    discard (decimal? whole)
    let behind ← plainDigits? 10 (fraction.getD ['0'])
    let power ← exponent? (exponent.getD ['0'])
    let mantissa ← Text.natOf? 10 ((← plainDigits? 10 whole) ++ behind)
    return (mantissa, power - behind.length)
  match parts? with
  | some (mantissa, power) => negative || !isHuge mantissa power
  | none => false

/-- Whether a word is a float. -/
def isFloat (word : List Char) : Bool :=
  let (_, size) := cutSign word
  size = ['i', 'n', 'f'] || size = ['n', 'a', 'n'] || isDecimalFloat word

/-! ## Moments -/

/-- A number of exactly so many digits. -/
def fixed? (length : Nat) (digits : List Char) : Option Nat :=
  if digits.length = length then Text.natOf? 10 digits else none

/-- The number of days in a month. -/
def daysIn (year month : Nat) : Nat :=
  if month = 2 then
    if year % 4 = 0 ∧ (year % 100 ≠ 0 ∨ year % 400 = 0) then 29 else 28
  else if month = 4 ∨ month = 6 ∨ month = 9 ∨ month = 11 then 30
  else 31

/-- Whether a word is a date that the calendar has. -/
def isDate (word : List Char) : Bool :=
  let valid? : Option Bool := do
    match word.splitOn '-' with
    | [year, month, day] =>
      let year ← fixed? 4 year
      let month ← fixed? 2 month
      let day ← fixed? 2 day
      return 1 ≤ month && month ≤ 12 && 1 ≤ day && day ≤ daysIn year month
    | _ => failure
  valid? = some true

/-- Whether a word is an hour and a minute. -/
def isHourMinute (word : List Char) : Bool :=
  match word.splitOn ':' with
  | [hour, minute] =>
    ((fixed? 2 hour).any fun value => value ≤ 23) && (fixed? 2 minute).any fun value => value ≤ 59
  | _ => false

/-- Whether a word is a second, with digits behind a point or without; a leap second counts. -/
def isSecond (word : List Char) : Bool :=
  let (whole, fraction) := cutAt (· = '.') word
  ((fixed? 2 whole).any fun value => value ≤ 60) &&
    fraction.all fun digits => (Text.natOf? 10 digits).isSome

/-- Whether a word is a time of day. -/
def isTime (word : List Char) : Bool :=
  isHourMinute (word.take 5) && (word.drop 5).head? = some ':' && isSecond (word.drop 6)

/-- Whether a word is a time of day, alone or with its distance from universal time. -/
def isOffsetTime (word : List Char) : Bool :=
  let (time, offset) := (word.takeWhile fun c => c ≠ '+' && c ≠ '-',
    word.dropWhile fun c => c ≠ '+' && c ≠ '-')
  match offset with
  | _ :: distance => isTime time && isHourMinute distance
  | [] =>
    isTime word || (isTime word.dropLast && (word.getLast? = some 'Z' || word.getLast? = some 'z'))

/-- Whether a word is a date, a time, or a date and a time with the letter between them. -/
def isMoment (word : List Char) : Bool :=
  let letter? := (word.drop 10).head?
  isDate word || isTime word ||
    (isDate (word.take 10) && (letter? = some 'T' || letter? = some 't') &&
      isOffsetTime (word.drop 11))

/-! ## Words -/

/-- The value of a word. -/
def scalar? (word : List Char) : Option Value :=
  if word = "true".toList then some (.bool true)
  else if word = "false".toList then some (.bool false)
  else if isMoment word then some (.moment (String.ofList word))
  else if isFloat word then some (.float (String.ofList word))
  else (integer? word).map .integer

/-- A character of a word. -/
def isWordChar (c : Char) : Bool :=
  ('a' ≤ c && c ≤ 'z') || ('A' ≤ c && c ≤ 'Z') || ('0' ≤ c && c ≤ '9') || c = '+' || c = '-' ||
    c = '.' || c = '_' || c = ':'

/-- Takes a time behind a blank. -/
def blankTime : Scanner (List Char) := do
  Scanner.char ' '
  let time ← Scanner.someRun isWordChar
  guard (isOffsetTime time)
  return ' ' :: time

/-- Takes a number, a truth value or a moment. -/
def scalar : Scanner Value := do
  let word ← Scanner.someRun isWordChar
  if isDate word then
    let time ← Scanner.optionally blankTime
    return .moment (String.ofList (word ++ time.getD []))
  else StateT.lift (scalar? word)

end ProxyGate.Toml

/-!
# Numbers as digits

Reading and writing natural numbers in a base up to sixteen.  `natOf?` accepts any non-empty run of
digits, leading zeros included; what else a format demands (a length, a limit, no leading zero) is
said where the format is defined.  Numbers are written by `Nat.toDigits`, which never writes a
leading zero.
-/

namespace ProxyGate.Text

/-- The value of a digit in a base; letters of either case stand for ten to fifteen. -/
def digitOf? (base : Nat) (c : Char) : Option Nat :=
  let value? : Option Nat :=
    if '0' ≤ c ∧ c ≤ '9' then some (c.toNat - '0'.toNat)
    else if 'a' ≤ c ∧ c ≤ 'f' then some (c.toNat - 'a'.toNat + 10)
    else if 'A' ≤ c ∧ c ≤ 'F' then some (c.toNat - 'A'.toNat + 10)
    else none
  value?.filter (· < base)

/-- The number that digits stand for, read on from a number already seen. -/
def natFrom? (base : Nat) : Nat → List Char → Option Nat
  | seen, [] => some seen
  | seen, c :: rest => do natFrom? base (seen * base + (← digitOf? base c)) rest

/-- The number that a non-empty run of digits stands for. -/
def natOf? (base : Nat) (digits : List Char) : Option Nat :=
  if digits = [] then none else natFrom? base 0 digits

/-- The number, when it is at most the limit. -/
def atMost? (limit value : Nat) : Option Nat :=
  if value ≤ limit then some value else none

/-- The character with a number, which must not be a surrogate. -/
def charOf? (number : Nat) : Option Char :=
  if h : number.isValidChar then some (Char.ofNatAux number h) else none

/-- A port number: decimal digits with a value of at most 65535, leading zeros allowed. -/
def portOf? (digits : List Char) : Option UInt16 :=
  ((natOf? 10 digits).bind (atMost? 65535)).map UInt16.ofNat

/-- A number in decimal. -/
def decimal (value : Nat) : List Char :=
  Nat.toDigits 10 value

/-- A number in hexadecimal, with small letters. -/
def hexadecimal (value : Nat) : List Char :=
  Nat.toDigits 16 value

end ProxyGate.Text

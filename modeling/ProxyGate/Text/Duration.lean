import ProxyGate.Text.Digits

/-!
# Durations

A duration is shown in the largest unit of which it holds at least one, with a fraction only as long
as it has to be: `5s`, `1.5s`, `1.001s`, `250ms`.  No time at all is `0ns`.
-/

namespace ProxyGate.Text

/-- The digits without the zeros at their end. -/
def dropFinalZeros (digits : List Char) : List Char :=
  (digits.reverse.dropWhile (· = '0')).reverse

/-- A number below a thousand in three digits. -/
def threeDigits (value : Nat) : List Char :=
  let digits := decimal value
  List.replicate (3 - digits.length) '0' ++ digits

/-- A time in milliseconds, as a message shows it. -/
def duration (milliseconds : Nat) : String :=
  let seconds := milliseconds / 1000
  let thousandths := milliseconds % 1000
  String.ofList <|
    if seconds = 0 then
      if thousandths = 0 then ['0', 'n', 's'] else decimal thousandths ++ ['m', 's']
    else if thousandths = 0 then decimal seconds ++ ['s']
    else decimal seconds ++ '.' :: dropFinalZeros (threeDigits thousandths) ++ ['s']

end ProxyGate.Text

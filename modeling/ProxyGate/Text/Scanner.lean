/-!
# Reading a text from the front

A scanner takes something off the front of a text, or fails and takes nothing.  The small ones here
are the words of which grammars are made; `many` repeats a scanner as long as the text gets shorter,
which is why it ends.
-/

namespace ProxyGate.Text

/-- Reads something off the front of a text, or fails. -/
abbrev Scanner (α : Type) := StateT (List Char) Option α

namespace Scanner

/-- Takes the given character. -/
def char (expected : Char) : Scanner Unit := fun
  | c :: rest => if c = expected then some ((), rest) else none
  | [] => none

/-- Takes the given characters. -/
def chars (expected : List Char) : Scanner Unit := expected.forM char

/-- Takes one character. -/
def anyChar : Scanner Char := fun
  | c :: rest => some (c, rest)
  | [] => none

/-- Takes exactly so many characters. -/
def exactly (count : Nat) : Scanner (List Char) := fun input =>
  if (input.take count).length = count then some (input.take count, input.drop count) else none

/-- Takes the longest run of accepted characters. -/
def run (accept : Char → Bool) : Scanner (List Char) := fun input =>
  some (input.takeWhile accept, input.dropWhile accept)

/-- Takes the longest run of accepted characters, which must not be empty. -/
def someRun (accept : Char → Bool) : Scanner (List Char) := do
  let taken ← run accept
  guard (taken ≠ [])
  return taken

/-- Takes nothing, and succeeds at the end of the text only. -/
def finished : Scanner Unit := do
  guard ((← get) = [])

/-- Takes something if it is there. -/
def optionally {α : Type} (scan : Scanner α) : Scanner (Option α) :=
  (some <$> scan) <|> pure none

/-- Takes something as often as it is there. -/
def many {α : Type} (scan : Scanner α) (input : List Char) : Option (List α × List Char) :=
  match scan input with
  | none => some ([], input)
  | some (first, rest) =>
    if _h : rest.length < input.length then
      (many scan rest).map fun (more, left) => (first :: more, left)
    else some ([], input)
termination_by input.length

/-- Takes something as often as it is there, with the given separator in between. -/
def separated {α : Type} (separator : Scanner Unit) (scan : Scanner α) : Scanner (List α) :=
  (do
    let first ← scan
    return first :: (← many (separator *> scan))) <|> pure []

end Scanner

end ProxyGate.Text

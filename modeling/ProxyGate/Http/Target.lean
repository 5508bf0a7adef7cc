/-!
# Request targets

What a client asks for.  A target is a path with or without a query (`/x?y`), a whole address
(`http://h/x?y`), an authority alone (`h:80`), or `*`.  A fragment at the end is left out.

Few characters are refused in a path or a query: blanks, controls, and those that would end the
address where it stands in running text.  An authority is checked as a whole by `isAuthority`.
-/

namespace ProxyGate.Http

/-- A request target. -/
structure Target where
  scheme : Option (List Char) := none
  authority : List Char := []
  /-- The path as it was written, which may be nothing. -/
  written : List Char := []
  query : Option (List Char) := none
deriving DecidableEq, Repr

namespace Target

/-- The path that a target names.  A whole address without one names the root; an authority alone
names none. -/
def path (target : Target) : List Char :=
  if target.written = [] ∧ target.scheme.isSome then ['/'] else target.written

/-- The text of a target. -/
def chars (target : Target) : List Char :=
  (target.scheme.map (· ++ [':', '/', '/'])).getD [] ++ target.authority ++ target.path ++
    (target.query.map ('?' :: ·)).getD []

/-- The text of a target, as a string. -/
def text (target : Target) : String :=
  String.ofList target.chars

/-! ## Paths and queries -/

/-- A character that a path may hold. -/
def isPathChar (c : Char) : Bool :=
  c = '!' || c = '"' || ('$' ≤ c && c ≤ ';') || c = '=' || ('@' ≤ c && c ≤ '_') || 'a' ≤ c

/-- A character that a query may hold. -/
def isQueryChar (c : Char) : Bool :=
  c = '!' || ('$' ≤ c && c ≤ ';') || c = '=' || '?' ≤ c

/-- A character that neither a query nor a fragment begins with. -/
def isBeforeQuery (c : Char) : Bool :=
  c ≠ '?' && c ≠ '#'

/-- The target with a path and a query read from what stands behind its authority. -/
def withPath? (target : Target) (text : List Char) : Option Target :=
  let written := text.takeWhile isBeforeQuery
  if written.all isPathChar then
    match text.dropWhile isBeforeQuery with
    | '?' :: rest =>
      let query := rest.takeWhile (· ≠ '#')
      if query.all isQueryChar then some { target with written, query := some query } else none
    | _ => some { target with written }
  else none

/-! ## Authorities -/

/-- A character of an authority that has no meaning of its own there. -/
def isAuthorityChar (c : Char) : Bool :=
  c.isAlphanum || "-._~!$&'()*+,;=".toList.contains c

/-- What has been seen of an authority. -/
structure AuthorityScan where
  /-- The colons that do not belong to a user or an address in brackets. -/
  colons : Nat := 0
  opened : Bool := false
  closed : Bool := false
  /-- Whether there is a percent sign that does not belong to a user or an address in brackets. -/
  percent : Bool := false
  /-- Whether an at sign was seen last. -/
  atSign : Bool := false
deriving DecidableEq, Repr

namespace AuthorityScan

/-- The most colons in an address in brackets. -/
def maxColons : Nat := 8

/-- Takes in one character. -/
def add? (scan : AuthorityScan) (c : Char) : Option AuthorityScan :=
  if c = ':' then
    if maxColons ≤ scan.colons then none
    else some { scan with colons := scan.colons + 1, atSign := false }
  else if c = '[' then
    if scan.percent ∨ scan.opened then none
    else some { scan with opened := true, atSign := false }
  else if c = ']' then
    if !scan.opened ∨ scan.closed then none
    else some { scan with closed := true, colons := 0, percent := false, atSign := false }
  else if c = '@' then some { scan with colons := 0, percent := false, atSign := true }
  else if c = '%' then some { scan with percent := true, atSign := false }
  else if isAuthorityChar c then some { scan with atSign := false }
  else none

/-- Whether an authority may end here. -/
def isWhole (scan : AuthorityScan) : Bool :=
  scan.opened = scan.closed && scan.colons ≤ 1 && !scan.percent && !scan.atSign

end AuthorityScan

/-- Whether a text is an authority: a host with a port or without, and a user in front of it or
none. -/
def isAuthority (text : List Char) : Bool :=
  (text.foldlM AuthorityScan.add? {}).any AuthorityScan.isWhole

/-! ## Whole targets -/

/-- A character of a scheme. -/
def isSchemeChar (c : Char) : Bool :=
  c.isAlphanum || c = '+' || c = '-' || c = '.' || c = '~'

/-- The scheme that a text begins with, and what stands behind it.  The two schemes of the web are
written in small letters. -/
def cutScheme? (text : List Char) : Option (List Char × List Char) :=
  match text.dropWhile isSchemeChar with
  | ':' :: '/' :: '/' :: rest =>
    let scheme := text.takeWhile isSchemeChar
    let lower := scheme.map Char.toLower
    some (if lower = "http".toList ∨ lower = "https".toList then lower else scheme, rest)
  | _ => none

/-- The most characters of a scheme. -/
def maxScheme : Nat := 64

/-- Reads what stands behind a scheme. -/
def ofScheme? (scheme rest : List Char) : Option Target :=
  let isInside (c : Char) : Bool := c ≠ '/' && isBeforeQuery c
  let authority := rest.takeWhile isInside
  if scheme.length ≤ maxScheme ∧ authority ≠ [] ∧ isAuthority authority then
    withPath? { scheme := some scheme, authority } (rest.dropWhile isInside)
  else none

/-- The most bytes of a target. -/
def maxLength : Nat := 65534

/-- Reads a target of any length. -/
def ofChars? (text : List Char) : Option Target :=
  if text = [] then none
  else if text.head? = some '/' then withPath? {} text
  else if text = ['*'] then some { written := text }
  else
    match cutScheme? text with
    | some (scheme, rest) => ofScheme? scheme rest
    | none => if isAuthority text then some { authority := text } else none

/-- Reads a target. -/
def ofText? (text : String) : Option Target :=
  if text.utf8ByteSize ≤ maxLength then ofChars? text.toList else none

end Target

end ProxyGate.Http

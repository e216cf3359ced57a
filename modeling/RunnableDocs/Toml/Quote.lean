/-
Quoted strings, on one line or several, and keys.

Between double quotes a backslash escapes; between single quotes nothing does. Triple quotes may span lines: a line end
right behind the opening ones is dropped, and up to two quotes may stand before the closing ones.
-/
import RunnableDocs.Toml.Scalar

namespace RunnableDocs.Toml

/-- the character with this code point, unless it is a surrogate or too large -/
def scalarValue? (n : Nat) : Option Char :=
  if n < 0xD800 || (0xE000 ≤ n && n < 0x110000) then some (Char.ofNat n) else none

/-- the number that exactly these characters write in base sixteen -/
def hex? (s : Text) : Option Nat := s.foldlM (fun value c => (digit? 16 c).map (value * 16 + ·)) 0

/-- the character that an escape without its backslash stands for, and how many characters the escape takes -/
def escape? : Text → Option (Char × Nat)
  | 'b' :: _ => some ('\x08', 1)
  | 't' :: _ => some ('\t', 1)
  | 'n' :: _ => some ('\n', 1)
  | 'f' :: _ => some ('\x0c', 1)
  | 'r' :: _ => some ('\r', 1)
  | 'e' :: _ => some ('\x1b', 1)
  | '"' :: _ => some ('"', 1)
  | '\\' :: _ => some ('\\', 1)
  | 'x' :: rest => coded rest 2
  | 'u' :: rest => coded rest 4
  | 'U' :: rest => coded rest 8
  | _ => none
where
  /-- a code point of `width` digits -/
  coded (rest : Text) (width : Nat) : Option (Char × Nat) := do
    if (rest.take width).length < width then none
    else some (← scalarValue? (← hex? (rest.take width)), width + 1)

/-- the rest of a string on one line in double quotes; `skip` characters belong to an escape already read -/
def basic? : Nat → Text → Option (Text × Text)
  | _, [] => none
  | skip + 1, _ :: rest => basic? skip rest
  | 0, '"' :: rest => some ([], rest)
  | 0, '\\' :: rest => do
    let (c, width) ← escape? rest
    let (text, after) ← basic? width rest
    some (c :: text, after)
  | 0, c :: rest =>
    if isTextual c then (basic? 0 rest).map fun r => (c :: r.1, r.2) else none

/-- the rest of a string on one line in single quotes -/
def literal? : Text → Option (Text × Text)
  | [] => none
  | '\'' :: rest => some ([], rest)
  | c :: rest => if isTextual c then (literal? rest).map fun r => (c :: r.1, r.2) else none

/-- a run of quotes within triple quotes: too short to close and so part of the text, or closing after up to two -/
def closing? (quote : Char) (s : Text) : Option (Text × Text) :=
  let run := (s.take 5).takeWhile (· = quote)
  if run.length < 3 then none else some (run.drop 3, s.drop run.length)

/-- a line end may stand within triple quotes, in either form -/
def isLineEnd (c : Char) (rest : Text) : Bool := c = '\n' || (c = '\r' && rest.head? = some '\n')

/-- what follows all blanks and line ends -/
def skipSpace : Text → Text
  | '\r' :: '\n' :: rest => skipSpace rest
  | c :: rest => if isBlank c || c = '\n' then skipSpace rest else c :: rest
  | [] => []

/-- how many characters a backslash at the end of a line skips: blanks, the line end, and all blanks and line ends after
it -/
def continuation? (s : Text) : Option Nat :=
  match newline? (skipBlanks s) with
  | none => none
  | some after => some (s.length - (skipSpace after).length)

/-- the rest of a string in triple double quotes -/
def longBasic? : Nat → Text → Option (Text × Text)
  | _, [] => none
  | skip + 1, _ :: rest => longBasic? skip rest
  | 0, '"' :: rest =>
    match closing? '"' ('"' :: rest) with
    | some found => some found
    | none => (longBasic? 0 rest).map fun r => ('"' :: r.1, r.2)
  | 0, '\\' :: rest =>
    match continuation? rest with
    | some width => longBasic? width rest
    | none => do
      let (c, width) ← escape? rest
      let (text, after) ← longBasic? width rest
      some (c :: text, after)
  | 0, c :: rest =>
    if isTextual c || isLineEnd c rest then (longBasic? 0 rest).map fun r => (c :: r.1, r.2) else none

/-- the rest of a string in triple single quotes -/
def longLiteral? : Text → Option (Text × Text)
  | [] => none
  | '\'' :: rest =>
    match closing? '\'' ('\'' :: rest) with
    | some found => some found
    | none => (longLiteral? rest).map fun r => ('\'' :: r.1, r.2)
  | c :: rest =>
    if isTextual c || isLineEnd c rest then (longLiteral? rest).map fun r => (c :: r.1, r.2) else none

/-- the text behind opening triple quotes -/
def openedLong (s : Text) : Text := (newline? s).getD s

/-- the string at the start of a text, whatever its quotes -/
def string? : Text → Option (Text × Text)
  | '"' :: '"' :: '"' :: rest => longBasic? 0 (openedLong rest)
  | '\'' :: '\'' :: '\'' :: rest => longLiteral? (openedLong rest)
  | '"' :: rest => basic? 0 rest
  | '\'' :: rest => literal? rest
  | _ => none

/-- characters of a key without quotes -/
def isKeyChar (c : Char) : Bool := c.isAlphanum || c = '_' || c = '-'

/-- one part of a key -/
def keyPart? : Text → Option (Text × Text)
  | '"' :: '"' :: '"' :: _ => none
  | '\'' :: '\'' :: '\'' :: _ => none
  | '"' :: rest => basic? 0 rest
  | '\'' :: rest => literal? rest
  | s => if s.takeWhile isKeyChar = [] then none else some (s.takeWhile isKeyChar, s.dropWhile isKeyChar)

/-- a key: its first part and the parts behind full stops; each round reads one of them -/
def key? : Nat → Text → Option ((Text × List Text) × Text)
  | 0, _ => none
  | rounds + 1, s => do
    let (first, rest) ← keyPart? (skipBlanks s)
    match skipBlanks rest with
    | '.' :: more =>
      let ((next, others), rest) ← key? rounds more
      some ((first, next :: others), rest)
    | rest => some ((first, []), rest)

end RunnableDocs.Toml

/-
The tokens of a shell script, and the place where a script is read.

A token may be given back and is then read again (`hold`). A backslash before a line break joins the two lines, except
in single quotes. A word that is an alias is replaced by its text, which is then read in its stead; within that text
the same alias is left alone.
-/
import RunnableDocs.Shell.Statement

namespace RunnableDocs.Shell

/-- why a script cannot be read on, and at which line -/
structure Fault where
  line : Nat
  message : String
  deriving DecidableEq, Repr

inductive Token where
  | endOfInput
  | newline
  | operator (symbol : String)
  | redirection (descriptor : Option Nat) (symbol : String)
  | keyword (name : String)
  | word (w : Word)

/-- a token as it is told of -/
def Token.shown : Token → String
  | endOfInput => "end of file"
  | newline => "newline"
  | operator symbol => "\"" ++ symbol ++ "\""
  | redirection _ _ => "redirection"
  | keyword name => "\"" ++ name ++ "\""
  | word _ => "word"

def keywords : List String :=
  ["!", "case", "do", "done", "elif", "else", "esac", "fi", "for", "if", "in", "then", "until", "while",
    "\x7b", "\x7d"]

def Token.asKeyword (t : Token) : Token :=
  match t with
  | .word w =>
    match plainText? w with
    | some name => if keywords.contains (String.ofList name) then .keyword (String.ofList name) else t
    | none => t
  | t => t

/-- what a token is as a word -/
def Token.asWord? : Token → Option Word
  | .word w => some w
  | .keyword name => some [.text name.toList false]
  | _ => none

def Token.isOperator (t : Token) (symbol : String) : Bool :=
  match t with
  | .operator s => s = symbol
  | _ => false

def Token.isKeyword (t : Token) (name : String) : Bool :=
  match t with
  | .keyword k => k = name
  | _ => false

/-- a token that ends a list of statements -/
def Token.endsList : Token → Bool
  | .endOfInput => true
  | .operator symbol => symbol = ")" || symbol = ";;"
  | .keyword name => ["do", "done", "elif", "else", "esac", "fi", "then", "\x7d"].contains name
  | _ => false

/-- the text of an alias that is being read in the stead of its name -/
structure Substitution where
  name : Octets
  /-- what is left of the script behind that text -/
  behind : Nat
  /-- the text ends in a blank, and so the next word may be an alias too -/
  endsBlank : Bool
  deriving DecidableEq, Repr

/-- where a script is read -/
structure Cursor where
  rest : Octets
  line : Nat := 1
  /-- lines taken out ahead, which count with the next line break -/
  ahead : Nat := 0
  /-- a token read and given back -/
  held : Option Token := none
  /-- what was left of the script at the start of the last word -/
  wordStart : Nat := 0
  aliases : List (Octets × Octets) := []
  substitutions : List Substitution := []
  /-- the text of a here-document is read -/
  isHere : Bool := false
  /-- the script ended in the middle of a here-document -/
  isCut : Bool := false

abbrev Reader := StateT Cursor (Except Fault)

namespace Reader

def refuse {α : Type} (message : String) : Reader α := do throw ⟨(← get).line, "Syntax error: " ++ message⟩

/-- the refusal of a token, where another one was expected or many would do -/
def unexpected {α : Type} (t : Token) (expected : Option Token := none) : Reader α :=
  let also := match expected with
    | none => ""
    | some e => " (expecting " ++ e.shown ++ ")"
  refuse (t.shown ++ " unexpected" ++ also)

/-- a text without the line breaks behind a backslash at its start, and their number -/
def joinLines : Octets → Nat → Octets × Nat
  | '\\' :: '\n' :: rest, n => joinLines rest (n + 1)
  | rest, n => (rest, n)

/-- the next character, left where it is -/
def peek : Reader (Option Char) := do
  let c ← get
  let (rest, n) := joinLines c.rest 0
  set { c with rest, line := c.line + n }
  return rest.head?

/-- one character passed over -/
def skip : Reader Unit := modify fun c =>
  match c.rest with
  | [] => c
  | '\n' :: rest => { c with rest, line := c.line + 1 + c.ahead, ahead := 0 }
  | _ :: rest => { c with rest }

/-- the longest run of such characters -/
def takeWhile (p : Char → Bool) : Reader Octets := do
  let c ← get
  let taken := c.rest.takeWhile p
  set { c with rest := c.rest.drop taken.length, line := c.line + taken.count '\n' }
  return taken

/-- a text without the blanks and the comment at its start, and the number of lines joined -/
def dropBlanks : Octets → Nat → Octets × Nat
  | ' ' :: rest, n => dropBlanks rest n
  | '\t' :: rest, n => dropBlanks rest n
  | '\\' :: '\n' :: rest, n => dropBlanks rest (n + 1)
  | '#' :: rest, n => (rest.dropWhile (· ≠ '\n'), n)
  | rest, n => (rest, n)

def skipBlanks : Reader Unit := modify fun c =>
  let (rest, n) := dropBlanks c.rest 0
  { c with rest, line := c.line + n }

/-- a token given back, to be read again -/
def hold (t : Token) : Reader Unit := modify fun c => { c with held := some t }

def holdReturn {α : Type} (t : Token) (a : α) : Reader α := do
  hold t
  return a

/-- what a word is read as part of -/
inductive Mode where
  | bare
  | double
  | here
  | brace (quoted : Bool)
  | expression (depth : Nat)
  deriving DecidableEq

/-- what is read in this mode is not split into fields later -/
def Mode.quotes : Mode → Bool
  | bare => false
  | double => true
  | here => true
  | brace quoted => quoted
  | expression _ => true

/-- the characters that end a word -/
def endsWord (c : Char) : Bool := " \t\n;&|<>()".toList.contains c

def Mode.ends (m : Mode) (c : Char) : Bool :=
  match m with
  | bare => endsWord c
  | double => c = '"'
  | here => false
  | brace _ => c = '}'
  | expression _ => false

/-- the refusal of a text that ends in the middle of this -/
def Mode.missing : Mode → Option String
  | bare => none
  | here => none
  | double => some "Unterminated quoted string"
  | brace true => some "Unterminated quoted string"
  | brace false => some "Missing '\x7d'"
  | expression _ => some "Missing '))'"

/-- a backslash makes this character plain -/
def Mode.escapes (m : Mode) (c : Char) : Bool :=
  match m with
  | bare => true
  | brace false => true
  | double => "$\x60\"\\".toList.contains c
  | brace true => "$\x60\"\\\x7d".toList.contains c
  | here => "$\x60\\".toList.contains c
  | expression _ => "$\x60\"\\".toList.contains c

/-- quotes work in this mode -/
def Mode.hasQuotes : Mode → Bool
  | bare => true
  | brace false => true
  | _ => false

/-- neighbouring plain texts made one -/
def joined (parts : List Part) : Word :=
  parts.foldr (fun p acc => match p, acc with
    | .text t q, .text t' q' :: rest => if q = q' then .text (t ++ t') q :: rest else p :: acc
    | p, acc => p :: acc) []

/-- what stands between back quotes, freed of the backslashes that protect it, and what follows -/
def backQuoted (quoted : Bool) : Octets → Option (Octets × Octets)
  | [] => none
  | '\x60' :: rest => some ([], rest)
  | '\\' :: c :: rest =>
    let plain := "\\\x60$".toList.contains c || (quoted && c = '"')
    (backQuoted quoted rest).map fun (inner, after) => (if plain then c :: inner else '\\' :: c :: inner, after)
  | c :: rest => (backQuoted quoted rest).map fun (inner, after) => (c :: inner, after)

/-- the name of a parameter at the start of a text -/
def parameterName (t : Octets) : Octets :=
  match t with
  | [] => []
  | c :: _ =>
    if isNameStart c then t.takeWhile isNameChar
    else if c.isDigit then t.takeWhile Char.isDigit
    else if "@*#?$!-".toList.contains c then [c]
    else []

/-- the operators, the longer ones first -/
def operators : List String := ["&&", "||", ";;", ";", "&", "|", "(", ")"]

/-- the signs of redirections, the longer ones first -/
def signs : List String := ["<<-", "<<", "<&", "<>", "<", ">>", ">&", ">|", ">"]

def startingWith (symbols : List String) (t : Octets) : Option String :=
  symbols.find? fun symbol => symbol.toList.isPrefixOf t

/-- the assignment that a word is, if it is one -/
def assignment? : Word → Option (Octets × Word)
  | .text t false :: rest =>
    let name := t.takeWhile (· ≠ '=')
    if isName name && name.length < t.length then some (name, .text (t.drop (name.length + 1)) false :: rest) else none
  | _ => none

/-- the lines up to one that is the delimiter, how many lines that takes, and whether there is one -/
def hereLines (delimiter : Octets) (strip : Bool) : List Octets → Octets × Nat × Bool
  | [] => ([], 0, false)
  | line :: rest =>
    let line := if strip then line.dropWhile (· = '\t') else line
    if line.takeWhile (· ≠ '\n') = delimiter then ([], 1, true)
    else
      let (body, n, found) := hereLines delimiter strip rest
      (line ++ body, n + 1, found)

/-- the text of a here-document taken out of the lines below -/
def takeHere (delimiter : Octets) (strip : Bool) : Reader Octets := do
  let c ← get
  let current := c.rest.takeWhile (· ≠ '\n')
  let below := Text.lines (c.rest.drop (current.length + 1))
  let (body, n, found) := hereLines delimiter strip below
  set { c with
    rest := current ++ (c.rest.drop current.length).take 1 ++ (below.drop n).flatten
    ahead := c.ahead + n
    isCut := c.isCut || !found }
  return body

/-- the plain text of a word and whether any of it is quoted -/
def delimiterOf (w : Word) : Octets × Bool :=
  (w.flatMap fun | .text t _ => t | _ => [], w.any fun | .text _ q => q | _ => false)

/-- a reader applied to another text, as if it stood here -/
def within {α : Type} (text : Octets) (r : Reader α) (isHere : Bool := false) : Reader α := do
  let c ← get
  set { c with rest := text, held := none, substitutions := [], isHere }
  let a ← r
  set c
  return a

/-! ## Aliases -/

/-- how a word is looked at when it is read -/
inductive Look where
  /-- it is only a word -/
  | plain
  /-- it may be a keyword -/
  | named
  /-- it may be a keyword or an alias -/
  | command
  /-- it may be an alias -/
  | replaced
  deriving DecidableEq, Repr

def Look.findsKeywords : Look → Bool
  | named => true
  | command => true
  | _ => false

def Look.findsAliases : Look → Bool
  | command => true
  | replaced => true
  | _ => false

def Look.withAliases : Look → Look
  | plain => replaced
  | named => command
  | l => l

/-- the texts of aliases that have been read to their ends left; true if the next word may be an alias because of one -/
def leaveAliases : Reader Bool := do
  let c ← get
  if c.substitutions = [] then return false
  let left := c.rest.length
  set { c with substitutions := c.substitutions.filter (·.behind < left) }
  return c.substitutions.any fun s => left ≤ s.behind && s.endsBlank

/-- the place of the word that comes next noted -/
def noteWord : Reader Unit := modify fun c =>
  if c.aliases = [] then c else { c with wordStart := c.rest.length }

/-- a word replaced by the text of the alias that it is, if it is one -/
def replaceAlias (w : Word) : Reader Bool := do
  let c ← get
  match plainText? w with
  | none => return false
  | some name =>
    let inUse := c.substitutions.any fun s => s.name = name && s.behind < c.wordStart
    match (if inUse then none else c.aliases.lookup name) with
    | none => return false
    | some text =>
      let endsBlank := text.getLast?.any fun b => b = ' ' || b = '\t'
      set { c with
        rest := text ++ c.rest
        substitutions := { name, behind := c.rest.length, endsBlank } :: c.substitutions }
      return true

end Reader
end RunnableDocs.Shell

/-
Paragraphs of a comment, and the blocks of code that runs of them make.

`split` cuts a body at its blank lines and numbers what is left. A paragraph whose every line starts with a tab is code;
`merge` joins each run of such paragraphs into one block and puts back as many empty lines as the numbers say were
between them. Line numbers are meant to stay below 2^64, as those of the lines of a text do; here nothing bounds them.
-/
import RunnableDocs.Text.Basic

namespace RunnableDocs

/-- a run of lines that are not blank: the numbers of its first and last line, and its text as it stands -/
structure Paragraph where
  lineStart : Nat
  lineEnd : Nat
  text : Text
  deriving DecidableEq, Repr

namespace Paragraph

/-- nothing but the end of a line -/
def isBlank (line : Text) : Bool := line = [] || line = ['\n'] || line = ['\r', '\n']

/-- the first character is a tab -/
def startsWithTab : Text → Bool
  | '\t' :: _ => true
  | _ => false

/-- the paragraphs of the lines from line `number` on -/
def ofLines (number : Nat) : List Text → List Paragraph
  | [] => []
  | line :: more =>
    let rest := ofLines (number + 1) more
    if isBlank line then rest
    else match rest with
      | p :: others =>
        if p.lineStart = number + 1 then ⟨number, p.lineEnd, line ++ p.text⟩ :: others
        else ⟨number, number, line⟩ :: p :: others
      | [] => [⟨number, number, line⟩]

/-- the paragraphs of a body whose first line has the number `firstLine` -/
def split (body : Text) (firstLine : Nat) : List Paragraph := ofLines firstLine (Text.lines body)

/-- a block of code: it starts with a tab, and so does each of its lines that is not blank -/
def isIndented (p : Paragraph) : Bool :=
  startsWithTab p.text && (Text.lines p.text).all fun line => isBlank line || startsWithTab line

/-- one block of two, with the empty lines between them that the line numbers tell of -/
def absorb (p next : Paragraph) : Paragraph where
  lineStart := p.lineStart
  lineEnd := next.lineEnd
  text := p.text ++ (if p.text.getLast? = some '\n' then [] else ['\n']) ++
    List.replicate (next.lineStart - (p.lineEnd + 1)) '\n' ++ next.text

/-- every run of blocks joined into one -/
def merge : List Paragraph → List Paragraph
  | [] => []
  | p :: ps =>
    match merge ps with
    | [] => [p]
    | next :: others =>
      if p.isIndented && next.isIndented then p.absorb next :: others else p :: next :: others

/-- the paragraphs of a body, its blocks of code in one piece each -/
def blocks (body : Text) (firstLine : Nat) : List Paragraph := merge (split body firstLine)

end Paragraph
end RunnableDocs

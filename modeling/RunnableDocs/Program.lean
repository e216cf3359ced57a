/-
The programs of a document.

A paragraph that starts with a tab is a program if the paragraph before it declares a file name. If a paragraph
`Output:` and another one that starts with a tab follow, the last is what the program must print. Both are taken
without the tab at the start of each line.
-/
import RunnableDocs.Comment
import RunnableDocs.Paragraph
import RunnableDocs.Declaration

namespace RunnableDocs

/-- a program found in a document, with the lines its code stands on -/
structure Program where
  lineStart : Nat
  lineEnd : Nat
  filename : Text
  language : Text
  code : Text
  /-- what it must print; nothing is checked if absent -/
  output : Option Text
  deriving DecidableEq, Repr

/-- every tab after a line feed taken away, one for each line feed -/
def dropTabs : Text → Text
  | [] => []
  | [c] => [c]
  | c :: d :: rest => if c = '\n' && d = '\t' then c :: dropTabs rest else c :: dropTabs (d :: rest)

/-- one tab taken from the start of every line -/
def untab : Text → Text
  | '\t' :: rest => dropTabs rest
  | text => dropTabs text

namespace Paragraph

/-- the first line is code -/
def opensCode (p : Paragraph) : Bool := startsWithTab p.text

/-- the paragraph reads `Output:`, in any case and with any white space around it. No letter outside ASCII has one of
these as its lower case, so folding ASCII letters decides. -/
def isOutputMarker (p : Paragraph) : Bool := (Text.trim p.text).map Char.toLower = "output:".toList

end Paragraph

namespace Program

/-- the program that a declaration and the code after it make -/
def ofParagraph (d : Declaration) (code : Paragraph) (output : Option Paragraph) : Program where
  lineStart := code.lineStart
  lineEnd := code.lineEnd
  filename := d.filename
  language := d.extension
  code := untab code.text
  output := output.map fun p => untab p.text

/-- the programs of the paragraphs that follow `previous` -/
def after (extensions : List Text) (previous : Paragraph) : List Paragraph → List Program
  | [] => []
  | p :: ps =>
    if p.opensCode then
      match Declaration.ofText? extensions previous.text with
      | none => after extensions p ps
      | some d =>
        match ps with
        | marker :: output :: rest =>
          if marker.isOutputMarker && output.opensCode then
            ofParagraph d p (some output) :: after extensions output rest
          else ofParagraph d p none :: after extensions p (marker :: output :: rest)
        | ps => ofParagraph d p none :: after extensions p ps
    else after extensions p ps

/-- the programs of a document; code before any other paragraph has nothing that could name it -/
def ofParagraphs (extensions : List Text) : List Paragraph → Except Cause (List Program)
  | [] => .ok []
  | p :: ps => if p.opensCode then .error (.codeWithoutDeclaration p.lineStart) else .ok (after extensions p ps)

/-- the programs of the doc comment of a source -/
def ofSource (markers : Markers) (extensions : List Text) (source : Text) : Except Cause (List Program) := do
  let comment ← Comment.ofSource markers source
  ofParagraphs extensions (Paragraph.blocks comment.body comment.firstLine)

/-- a program that names what it must print passes if it prints that, white space around it apart -/
def verify (filename : Text) (expected : Option Text) (actual : Text) : Except Cause Unit :=
  match expected with
  | none => .ok ()
  | some expected =>
    if Text.trim expected = Text.trim actual then .ok () else .error (.outputMismatch filename expected actual)

end Program
end RunnableDocs

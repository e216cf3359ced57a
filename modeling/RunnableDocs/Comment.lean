/-
The doc comment of a source file: the first block between an open and a close marker.

The source is read line by line. The comment starts behind the first open marker found within one line, and ends before
the first close marker within one line from there on; what else stands on these two lines belongs to the comment, and
what follows the close marker is never looked at.
-/
import RunnableDocs.Failure

namespace RunnableDocs

/-- the markers around a comment -/
structure Markers where
  opening : Text := ['/', '*']
  closing : Text := ['*', '/']
  deriving DecidableEq, Repr

/-- the text between the markers, terminators kept, and the line of the open marker, counted from 1 -/
structure Comment where
  body : Text
  firstLine : Nat
  deriving DecidableEq, Repr

namespace Comment

/-- the lines up to the first close marker within one of them, glued together -/
def bodyOf? (closing : Text) : List Text → Option Text
  | [] => none
  | line :: more =>
    match Text.splitAt? closing line with
    | some (before, _) => some before
    | none => (bodyOf? closing more).map (line ++ ·)

/-- the comment in the lines from line `number` on -/
def ofLines (markers : Markers) (number : Nat) : List Text → Except Cause Comment
  | [] => .error (.missingOpen markers.opening)
  | line :: more =>
    match Text.splitAt? markers.opening line with
    | none => ofLines markers (number + 1) more
    | some (_, rest) =>
      match bodyOf? markers.closing (rest :: more) with
      | some body => .ok ⟨body, number⟩
      | none => .error (.missingClose number markers.closing)

/-- the first comment of a source -/
def ofSource (markers : Markers) (source : Text) : Except Cause Comment :=
  ofLines markers 1 (Text.lines source)

end Comment
end RunnableDocs

/-
Declarations: a paragraph that starts with a file name of a known language names the program that follows it.

The file name is a word, a full stop and an extension. Of the known extensions that follow the full stop the longest
counts. Nothing needs to stand behind it, and what does stand there matters only where it makes a longer one.
-/
import RunnableDocs.Text.Basic
import RunnableDocs.Text.WordChar

namespace RunnableDocs

/-- a declared file name and the extension it ends in -/
structure Declaration where
  filename : Text
  extension : Text
  deriving DecidableEq, Repr

/-- the longest of the extensions that the text starts with -/
def longestAt? (extensions : List Text) (text : Text) : Option Text :=
  extensions.foldr
    (fun extension longest =>
      if extension.isPrefixOf text && longest.all (·.length < extension.length) then some extension else longest)
    none

/-- the declaration that a text starts with -/
def Declaration.ofText? (extensions : List Text) (text : Text) : Option Declaration :=
  let word := text.takeWhile Text.isWord
  match text.dropWhile Text.isWord with
  | '.' :: rest =>
    if word = [] then none
    else (longestAt? extensions rest).map fun extension => ⟨word ++ '.' :: extension, extension⟩
  | _ => none

end RunnableDocs

/-
How names are written in lists of files, so that each can be told from the others.
-/
import RunnableDocs.Machine.Tool.Choice

namespace RunnableDocs.Machine.Tool

inductive Quoting where
  | literal
  /-- what cannot be printed is a question mark -/
  | marked
  /-- blanks and what cannot be printed stand behind backslashes -/
  | escaped
  /-- between these quotes, with backslashes where they are needed -/
  | between (quote : Char)
  /-- between double quotes if backslashes are needed -/
  | perhaps
  /-- as a shell would read it, with what cannot be printed as it is, or escaped; `always` in quotes -/
  | shell (escapes always : Bool)
  deriving DecidableEq, Repr

namespace Quoting

def names : Choice Quoting :=
  [("literal", .literal), ("shell", .shell false false), ("shell-always", .shell false true),
    ("shell-escape", .shell true false), ("shell-escape-always", .shell true true), ("c", .between '"'),
    ("c-maybe", .perhaps), ("escape", .escaped), ("locale", .between '\''), ("clocale", .between '"')]

/-- a character, behind a backslash if it is one of these or cannot be printed -/
def behindBackslash (marks : Octets) (c : Char) : Octets :=
  if marks.contains c then ['\\', c]
  else if Octets.isPrintable c then [c]
  else Octets.escapedChar c

/-- a name in quotes for a shell, with what cannot be printed as it is -/
def plainly (name : Octets) : Octets :=
  if Octets.fitsDoubleQuotes name then '"' :: name ++ ['"']
  else '\'' :: (name.flatMap fun c => if c = '\'' then "'\\''".toList else [c]) ++ ['\'']

def shown (q : Quoting) (name : Octets) : Octets :=
  match q with
  | literal => name
  | marked => name.map fun c => if Octets.isPrintable c then c else '?'
  | escaped => name.flatMap (behindBackslash "\\ ".toList)
  | between quote => quote :: name.flatMap (behindBackslash ['\\', quote]) ++ [quote]
  | perhaps =>
    let inner := name.flatMap (behindBackslash "\\\"".toList)
    if inner = name then name else '"' :: inner ++ ['"']
  | shell escapes always =>
    if !always && !Octets.isOdd name then name
    else if escapes then Octets.inQuotes name
    else plainly name

/-- in columns, names without quotes start where the others start behind theirs -/
def isAligned : Quoting → Bool
  | perhaps => true
  | shell _ false => true
  | _ => false

end Quoting
end RunnableDocs.Machine.Tool

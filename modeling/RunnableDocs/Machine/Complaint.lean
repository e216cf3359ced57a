/-
How tools complain: the words for what the system refuses, and file names in quotes where these are needed.
-/
import RunnableDocs.Failure
import RunnableDocs.Text.Octets

namespace RunnableDocs

/-- a refusal in words -/
def SystemError.words : SystemError → String
  | noEntry => "No such file or directory"
  | noDevice => "No such device or address"
  | argumentsTooLong => "Argument list too long"
  | notExecutable => "Exec format error"
  | badDescriptor => "Bad file descriptor"
  | accessDenied => "Permission denied"
  | inUse => "Device or resource busy"
  | alreadyExists => "File exists"
  | notDirectory => "Not a directory"
  | isDirectory => "Is a directory"
  | invalidArgument => "Invalid argument"
  | noSpace => "No space left on device"
  | brokenPipe => "Broken pipe"
  | nameTooLong => "File name too long"
  | directoryInUse => "Directory not empty"
  | tooManyLevels => "Too many levels of symbolic links"
  | invalidText => "Invalid or incomplete multibyte or wide character"
  | nullCharacter => "Invalid argument"

namespace Octets

/-- octets as they go into a message -/
def shown (o : Octets) : String := String.ofList o

def isPrintable (c : Char) : Bool := ' ' ≤ c && c ≤ '~'

/-- three octal digits -/
def octal (c : Char) : Octets :=
  let n := c.toNat
  [n / 64 % 8, n / 8 % 8, n % 8].map fun d => Char.ofNat (48 + d)

/-- a character that has a letter of its own behind a backslash, or the digits of its number -/
def escapedChar (c : Char) : Octets :=
  match c with
  | '\n' => "\\n".toList
  | '\t' => "\\t".toList
  | '\x0d' => "\\r".toList
  | '\x07' => "\\a".toList
  | '\x08' => "\\b".toList
  | '\x0b' => "\\v".toList
  | '\x0c' => "\\f".toList
  | c => '\\' :: octal c

/-- the inside of a name in single quotes, which are left for what cannot be printed; `escaping` says that they are
left just now -/
def quotedInside (escaping : Bool) : Octets → Octets
  | [] => []
  | c :: rest =>
    if c = '\'' then "'\\''".toList ++ quotedInside false rest
    else if isPrintable c then (if escaping then "''".toList else []) ++ c :: quotedInside false rest
    else (if escaping then [] else "'$'".toList) ++ escapedChar c ++ quotedInside true rest

/-- a name with a single quote in it that can stand in double quotes as it is -/
def fitsDoubleQuotes (o : Octets) : Bool :=
  o.contains '\'' && o.all fun c => isPrintable c && !"\"$\\!\x60".toList.contains c

/-- a name in quotes -/
def inQuotes (o : Octets) : Octets :=
  if fitsDoubleQuotes o then '"' :: o ++ ['"'] else '\'' :: quotedInside false o ++ ['\'']

/-- a character that a shell would not leave alone -/
def isSpecial (c : Char) : Bool := !isPrintable c || " '\"$&()*;<=>[^\x60|\\?!:".toList.contains c

/-- a name that a shell would not leave alone -/
def isOdd (o : Octets) : Bool :=
  let first := match o with
    | [c] => c = '\x7b' || c = '\x7d' || c = '#' || c = '~'
    | c :: _ => c = '#' || c = '~'
    | [] => true
  first || o.any isSpecial

/-- a name in quotes if it needs them -/
def quotedIfOdd (o : Octets) : Octets := if isOdd o then inQuotes o else o

end Octets
end RunnableDocs

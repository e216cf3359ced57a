/-
A text between double quotes, for messages: quotes and backslashes escaped, the common controls by their letters, and
every other character that cannot be seen on its own by its code point.
-/
import RunnableDocs.Text.Basic
import RunnableDocs.Text.Unprintable

namespace RunnableDocs.Text

/-- how one character is written between the quotes -/
def escaped (c : Char) : Text :=
  match c with
  | '"' => ['\\', '"']
  | '\\' => ['\\', '\\']
  | '\t' => ['\\', 't']
  | '\n' => ['\\', 'n']
  | '\r' => ['\\', 'r']
  | '\x00' => ['\\', '0']
  | c => if isUnprintable c then ['\\', 'u', '\x7b'] ++ Nat.toDigits 16 c.toNat ++ ['\x7d'] else [c]

/-- the text in double quotes -/
def quoted (t : Text) : String := shown (['"'] ++ t.flatMap escaped ++ ['"'])

end RunnableDocs.Text

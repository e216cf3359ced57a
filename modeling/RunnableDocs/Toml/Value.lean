/-
Values of a TOML document.

Floats and dates are kept only as such: nothing here reads them, but a document that holds them has to be well formed.
Numbers may be of any size in a document; `fits` tells whether those in a value can be represented.
-/
import RunnableDocs.Text.Basic

namespace RunnableDocs.Toml

inductive Value where
  | string (text : Text)
  | integer (value : Int)
  /-- a float; whether it is in the range of 64 bits, infinity by its name included -/
  | float (inRange : Bool)
  | boolean (value : Bool)
  | dateTime
  | array (elements : List Value)
  | table (entries : List (Text × Value))

/-- the value of a key, if the value has keys and this is one of them -/
def Value.field? (v : Value) (key : Text) : Option Value :=
  match v with
  | .table entries => entries.lookup key
  | _ => none

mutual
/-- every integer in the value is at least `low` and below `high`, and every float in range -/
def Value.fits (low high : Int) : Value → Bool
  | .integer n => low ≤ n && n < high
  | .float inRange => inRange
  | .array vs => allFit low high vs
  | .table entries => entriesFit low high entries
  | _ => true

def allFit (low high : Int) : List Value → Bool
  | [] => true
  | v :: rest => v.fits low high && allFit low high rest

def entriesFit (low high : Int) : List (Text × Value) → Bool
  | [] => true
  | (_, v) :: rest => v.fits low high && entriesFit low high rest
end

/-- a value that nothing asks for can be read all the same: its numbers have at most 128 bits -/
def Value.isReadable (v : Value) : Bool :=
  v.fits (-170141183460469231731687303715884105728) 340282366920938463463374607431768211456

/-- a value can be kept until it is known what it stands for: its numbers have at most 64 bits -/
def Value.isKeepable (v : Value) : Bool := v.fits (-9223372036854775808) 18446744073709551616

/-- blanks within a line -/
def isBlank (c : Char) : Bool := c = ' ' || c = '\t'

/-- no control character; the tab counts as text -/
def isTextual (c : Char) : Bool := c = '\t' || (0x20 ≤ c.toNat && c.toNat ≠ 0x7F)

def skipBlanks (s : Text) : Text := s.dropWhile isBlank

/-- the end of a line, read -/
def newline? : Text → Option Text
  | '\n' :: rest => some rest
  | '\r' :: '\n' :: rest => some rest
  | _ => none

/-- a comment up to the end of its line, if one stands here; a control character in it is refused -/
def comment? (s : Text) : Option Text :=
  match s with
  | '#' :: rest =>
    let after := rest.dropWhile isTextual
    if after = [] || (newline? after).isSome then some after else none
  | _ => some s

/-- the end of a line or of the text, after blanks and a comment -/
def endOfLine? (s : Text) : Option Text := do
  let after ← comment? (skipBlanks s)
  if after = [] then some [] else newline? after

/-- blanks, ends of lines and comments, as many as there are; each round uses at least one character -/
def skipFiller? : Nat → Text → Option Text
  | 0, s => some s
  | rounds + 1, s =>
    match skipBlanks s with
    | '#' :: rest => do skipFiller? rounds (← comment? ('#' :: rest))
    | rest =>
      match newline? rest with
      | some after => skipFiller? rounds after
      | none => some rest

end RunnableDocs.Toml

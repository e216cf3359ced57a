/-
Bytes written as characters.

Tools work on bytes, and what they look for is mostly ASCII. Octets are bytes as the characters of the same numbers, so
that they can be read and compared like any text; reading them back as bytes loses nothing (`toBytes_ofBytes`).
-/
import RunnableDocs.Text.Utf8

namespace RunnableDocs

/-- bytes, each as the character of its number -/
abbrev Octets := List Char

namespace Octets

open Text (Bytes)

def ofBytes (bytes : Bytes) : Octets := bytes.map fun b => Char.ofNat b.toNat

def toBytes (o : Octets) : Bytes := o.map fun c => c.toNat.toUInt8

theorem toBytes_ofBytes (bytes : Bytes) : toBytes (ofBytes bytes) = bytes := by
  have h : ∀ b : UInt8, (Char.ofNat b.toNat).toNat.toUInt8 = b := by
    intro b
    have hv : b.toNat.isValidChar := Or.inl (by have := b.toNat_lt; omega)
    rw [Char.ofNat, dif_pos hv]
    exact UInt8.ofNat_toNat
  simp [toBytes, ofBytes, Function.comp_def, h]

/-- the octets of a text, which is written as UTF-8 -/
def ofText (t : Text) : Octets := ofBytes (Text.encode t)

/-- the text that octets hold -/
def toText (o : Octets) : Text := Text.decode (toBytes o)

/-- the octets of a number, in decimal digits -/
def ofNat (n : Nat) : Octets := Nat.toDigits 10 n

def ofInt (n : Int) : Octets := if n < 0 then '-' :: ofNat n.natAbs else ofNat n.natAbs

/-- the number that decimal digits write -/
def toNat? (o : Octets) : Option Nat :=
  if o ≠ [] && o.all Char.isDigit then some (o.foldl (fun n c => n * 10 + (c.toNat - 48)) 0) else none

/-- the integer that decimal digits write, with a sign or without -/
def toInt? : Octets → Option Int
  | '-' :: o => (toNat? o).map fun n => -(n : Int)
  | '+' :: o => (toNat? o).map fun n => (n : Int)
  | o => (toNat? o).map fun n => (n : Int)

def isSpace (c : Char) : Bool := c = ' ' || ('\t' ≤ c && c ≤ '\x0d')

/-- the octets without the white space around them -/
def trim (o : Octets) : Octets := ((o.dropWhile isSpace).reverse.dropWhile isSpace).reverse

/-- an integer of 64 bits, which white space may surround -/
def toInteger? (o : Octets) : Option Int :=
  (toInt? (trim o)).filter fun n => -9223372036854775808 ≤ n && n ≤ 9223372036854775807

/-- the number that octal digits write -/
def ofOctal (digits : Octets) : Nat := digits.foldl (fun n c => n * 8 + (c.toNat - 48)) 0

def isOctal (c : Char) : Bool := '0' ≤ c && c ≤ '7'

end Octets
end RunnableDocs

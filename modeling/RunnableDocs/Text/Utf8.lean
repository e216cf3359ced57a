/-
Bytes read as UTF-8.

One machine reads byte after byte: `feed` gives what a byte completes and what is still owed. A place where the bytes
cannot continue any character counts once, however many of them had fitted until then. `decode` puts U+FFFD at each
such place; `decode?` refuses the bytes if there is one.
-/
import RunnableDocs.Text.Basic

namespace RunnableDocs.Text

/-- bytes, as files and pipes hold them -/
abbrev Bytes := List UInt8

/-- a character begun: bytes still owed, the least and greatest next byte, the bits read so far -/
structure Owed where
  need : Nat
  low : UInt8
  high : UInt8
  bits : Nat
  deriving DecidableEq, Repr

/-- what a byte gives at the start of a character: characters or broken places (`none`), and what is owed then -/
def begun (b : UInt8) : List (Option Char) × Option Owed :=
  if b < 0x80 then ([some (Char.ofNat b.toNat)], none)
  else if b < 0xC2 then ([none], none)
  else if b < 0xE0 then ([], some ⟨1, 0x80, 0xBF, b.toNat - 0xC0⟩)
  else if b = 0xE0 then ([], some ⟨2, 0xA0, 0xBF, 0⟩)
  else if b = 0xED then ([], some ⟨2, 0x80, 0x9F, 0xD⟩)
  else if b < 0xF0 then ([], some ⟨2, 0x80, 0xBF, b.toNat - 0xE0⟩)
  else if b = 0xF0 then ([], some ⟨3, 0x90, 0xBF, 0⟩)
  else if b < 0xF4 then ([], some ⟨3, 0x80, 0xBF, b.toNat - 0xF0⟩)
  else if b = 0xF4 then ([], some ⟨3, 0x80, 0x8F, 4⟩)
  else ([none], none)

/-- one byte more -/
def feed (owed : Option Owed) (b : UInt8) : List (Option Char) × Option Owed :=
  match owed with
  | none => begun b
  | some o =>
    if o.low ≤ b && b ≤ o.high then
      let bits := o.bits * 64 + (b.toNat - 0x80)
      if o.need = 1 then ([some (Char.ofNat bits)], none) else ([], some ⟨o.need - 1, 0x80, 0xBF, bits⟩)
    else
      let next := begun b
      (none :: next.1, next.2)

/-- the characters and broken places of the bytes, last first, and what is owed at the end -/
def scanned (bytes : Bytes) : List (Option Char) × Option Owed :=
  bytes.foldl (fun state b => let next := feed state.2 b; (next.1.reverse ++ state.1, next.2)) ([], none)

/-- the characters and broken places of the bytes -/
def scan (bytes : Bytes) : List (Option Char) :=
  let state := scanned bytes
  (if state.2.isSome then none :: state.1 else state.1).reverse

/-- the bytes as text, with U+FFFD at each broken place -/
def decode (bytes : Bytes) : Text := (scan bytes).map (·.getD '\uFFFD')

/-- the bytes as text, if they are valid throughout -/
def decode? (bytes : Bytes) : Option Text := (scan bytes).mapM id

/-- the text as bytes -/
def encode (t : Text) : Bytes := t.flatMap String.utf8EncodeChar

end RunnableDocs.Text

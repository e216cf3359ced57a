/-
TOML documents (version 1.1): values, lines, and the table they make.

Nothing nests deeper than `maxDepth`. The other bound on every reader is the length of the text, which no document
exceeds, since each round of a reader uses at least one character.
-/
import RunnableDocs.Toml.Quote
import RunnableDocs.Toml.Draft

namespace RunnableDocs.Toml

/-- how deep arrays and inline tables may nest, and how many parts a key may have -/
def maxDepth : Nat := 80

mutual
/-- the value at the start of a text -/
def value? (depth : Nat) : (rounds : Nat) → Text → Option (Value × Text)
  | 0, _ => none
  | rounds + 1, s =>
    match s with
    | '[' :: rest => if depth = 0 then none else (elements? (depth - 1) rounds rest).map fun r => (.array r.1, r.2)
    | '\x7b' :: rest => if depth = 0 then none else (pairs? (depth - 1) [] rounds rest).map fun r => (.table r.1, r.2)
    | '"' :: _ => (string? s).map fun r => (.string r.1, r.2)
    | '\'' :: _ => (string? s).map fun r => (.string r.1, r.2)
    | s => scalar? s

/-- the rest of an array; a comma may stand behind the last element -/
def elements? (depth : Nat) : (rounds : Nat) → Text → Option (List Value × Text)
  | 0, _ => none
  | rounds + 1, s => do
    match ← skipFiller? s.length s with
    | ']' :: rest => some ([], rest)
    | s =>
      let (v, rest) ← value? depth rounds s
      match ← skipFiller? rest.length rest with
      | ',' :: rest =>
        let (vs, rest) ← elements? depth rounds rest
        some (v :: vs, rest)
      | ']' :: rest => some ([v], rest)
      | _ => none

/-- the rest of an inline table, whose entries so far are given; a comma may stand behind the last one -/
def pairs? (depth : Nat) (entries : Entries) : (rounds : Nat) → Text → Option (List (Text × Value) × Text)
  | 0, _ => none
  | rounds + 1, s => do
    match ← skipFiller? s.length s with
    | '\x7d' :: rest => some (finishEntries entries, rest)
    | s =>
      let ((first, others), rest) ← key? maxDepth s
      let rest ← Text.after? ['='] (← skipFiller? rest.length rest)
      let (v, rest) ← value? depth rounds (← skipFiller? rest.length rest)
      let entries ← Entries.insert entries v first others
      match ← skipFiller? rest.length rest with
      | ',' :: rest => pairs? depth entries rounds rest
      | '\x7d' :: rest => some (finishEntries entries, rest)
      | _ => none
end

/-- a document read so far: its tables, and the header that its next line falls under -/
structure Progress where
  root : Entries := []
  header : Option (Text × List Text) := none

/-- the key of a header and what follows its closing brackets -/
def header? (close s : Text) : Option ((Text × List Text) × Text) := do
  let (key, rest) ← key? maxDepth s
  some (key, ← endOfLine? (← Text.after? close rest))

/-- one line: a header, a pair, or nothing; and the lines that are left -/
def line? (p : Progress) (s : Text) : Option (Progress × Text) :=
  match skipBlanks s with
  | '[' :: '[' :: rest => do
    let (key, rest) ← header? [']', ']'] rest
    some (⟨← Entries.modifyAt appended p.root key.1 key.2, some key⟩, rest)
  | '[' :: rest => do
    let (key, rest) ← header? [']'] rest
    some (⟨← Entries.modifyAt opened p.root key.1 key.2, some key⟩, rest)
  | s =>
    match endOfLine? s with
    | some rest => some (p, rest)
    | none => do
      let ((first, others), rest) ← key? maxDepth s
      let rest ← Text.after? ['='] rest
      let (v, rest) ← value? maxDepth (rest.length + 1) (skipBlanks rest)
      let rest ← endOfLine? rest
      match p.header with
      | none => some (⟨← Entries.insert p.root v first others, none⟩, rest)
      | some key => some (⟨← Entries.modifyAt (filled v first others) p.root key.1 key.2, some key⟩, rest)

/-- all lines; each round reads one -/
def lines? : (rounds : Nat) → Progress → Text → Option Progress
  | _, p, [] => some p
  | 0, _, _ :: _ => none
  | rounds + 1, p, s => do
    let (p, rest) ← line? p s
    lines? rounds p rest

/-- the table that a document writes; a byte order mark before it is no part of it -/
def parse? (document : Text) : Option Value := do
  let s := (Text.after? ['\uFEFF'] document).getD document
  let p ← lines? s.length {} s
  some (.table (finishEntries p.root))

end RunnableDocs.Toml

/-
Names set in columns, as many as a line has room for, or one after the other with commas between them.
-/
import RunnableDocs.Machine.Complaint

namespace RunnableDocs.Machine.Tool.Columns

/-- no column is narrower than this -/
def minWidth : Nat := 3

/-- room for so many characters, or for any number of them; stops for tabulators so far apart; what ends a line -/
structure Page where
  width : Nat := 80
  tab : Nat := 8
  lineEnd : Char := '\n'
  deriving DecidableEq, Repr

/-- the room that a name takes; what cannot be printed takes none -/
def room (name : Octets) : Nat := (name.filter Octets.isPrintable).length

/-- the column in which one of `count` names stands, of `columns` columns -/
def columnOf (downwards : Bool) (count columns index : Nat) : Nat :=
  if downwards then index / ((count + columns - 1) / columns) else index % columns

/-- the widths of so many columns -/
def widthsFor (downwards : Bool) (lengths : List Nat) (columns : Nat) : List Nat :=
  let count := lengths.length
  (List.range columns).map fun column =>
    (lengths.zipIdx.filter fun (_, i) => columnOf downwards count columns i = column).foldl
      (fun w (length, _) => max w (length + if column + 1 = columns then 0 else 2)) minWidth

/-- the most columns for which there is room, with their widths -/
def fitting (p : Page) (downwards : Bool) (lengths : List Nat) : List Nat :=
  let most := min ((p.width + minWidth - 1) / minWidth) lengths.length
  let candidates := (List.range most).reverse.map fun n => widthsFor downwards lengths (n + 1)
  (candidates.find? fun widths => widths.length = 1 || widths.foldl (· + ·) 0 < p.width).getD [minWidth]

/-- blanks and tabulators from one place in a line to another -/
def indent (p : Page) (start stop : Nat) : Nat → Octets
  | 0 => []
  | n + 1 =>
    if stop ≤ start then []
    else if p.tab ≠ 0 && (start + 1) / p.tab < stop / p.tab then
      '\t' :: indent p (start + (p.tab - start % p.tab)) stop n
    else ' ' :: indent p (start + 1) stop n

/-- a line of names in columns, from a place in the line on -/
def line (p : Page) : Nat → List Octets → List Nat → Octets
  | _, [], _ => [p.lineEnd]
  | _, [name], _ => name ++ [p.lineEnd]
  | start, name :: rest, widths =>
    let next := start + widths.headD minWidth
    name ++ indent p (start + room name) next (next + 1) ++ line p next rest (widths.drop 1)

/-- names in columns, read downwards or across -/
def set_ (p : Page) (downwards : Bool) (names : List Octets) : Octets :=
  let widths := fitting p downwards (names.map room)
  let columns := widths.length
  let rows := (names.length + columns - 1) / columns
  (List.range rows).flatMap fun row =>
    let picked := (List.range columns).filterMap fun column =>
      names[if downwards then column * rows + row else row * columns + column]?
    if picked = [] then [] else line p 0 picked widths

/-- names with commas between them, and breaks where a line is full -/
def joined (p : Page) (mark : Char) : Nat → List Octets → Octets
  | _, [] => [p.lineEnd]
  | _, [name] => name ++ [p.lineEnd]
  | start, name :: next :: rest =>
    let stop := start + room name
    if p.width = 0 || stop + room next + 2 < p.width then
      name ++ mark :: ' ' :: joined p mark (stop + 2) (next :: rest)
    else name ++ mark :: p.lineEnd :: joined p mark 0 (next :: rest)

end RunnableDocs.Machine.Tool.Columns

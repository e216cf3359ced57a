/-
Tests: what the words between brackets come to.

Up to four words are taken by their number, since a word may look like an operator and be meant as a text. More of them
are read from left to right.
-/
import RunnableDocs.Machine.Status
import RunnableDocs.Shell.Options

namespace RunnableDocs.Shell.Test

open Machine (Exec Status Kind)
open Machine.Exec

/-- what a word is taken for -/
inductive Symbol where
  | nothing
  | operand
  | unary (letter : Char)
  | binary (name : String)
  | negation
  | both
  | either
  | opening
  | closing
  deriving DecidableEq, Repr

def operator? (t : Octets) : Option Symbol :=
  match String.ofList t with
  | "!" => some .negation
  | "-a" => some .both
  | "-o" => some .either
  | "(" => some .opening
  | ")" => some .closing
  | name =>
    if ["=", "!=", "<", ">", "-eq", "-ne", "-ge", "-gt", "-le", "-lt", "-nt", "-ot", "-ef"].contains name then
      some (.binary name)
    else match t with
      | ['-', c] => if "rwxefdcbpugkstznhLOGS".toList.contains c then some (.unary c) else none
      | _ => none

def Symbol.isUnary : Symbol → Bool
  | unary _ => true
  | _ => false

def Symbol.isBinary : Symbol → Bool
  | binary _ => true
  | _ => false

/-- what would be the operator of one operand is a text itself: nothing follows it, or an operator of two -/
def isText : List Octets → Bool
  | [] => true
  | [_] => false
  | t :: _ => (operator? t).any Symbol.isBinary

/-- what the first of some words is taken for -/
def symbol : List Octets → Symbol
  | [] => .nothing
  | t :: rest =>
    match operator? t with
    | none => .operand
    | some op =>
      if (op.isUnary && isText rest) || (op = .opening && rest = []) then .operand else op

/-- the complaint about words that make no sense -/
def senseless {α : Type} (word : Octets) (message : String) : Exec α :=
  refuse (if word = [] then message else s!"{word.shown}: {message}")

def integer (t : Octets) : Exec Int :=
  match Octets.toInteger? t with
  | some n => pure n
  | none => refuse s!"Illegal number: {t.shown}"

/-- what a letter asks about a file -/
def holds (w : World) (letter : Char) (path : Octets) (s : Status) : Bool :=
  match letter with
  | 'f' => s.kind = .regular
  | 'd' => s.kind = .directory
  | 'c' => s.kind = .device
  | 'p' => s.kind = .pipe
  | 'b' => false
  | 'S' => false
  | 's' => s.size ≠ 0
  | 'x' => s.kind = .directory || s.mode &&& 0o111 ≠ 0
  | 'u' => s.mode &&& 0o4000 ≠ 0
  | 'g' => s.mode &&& 0o2000 ≠ 0
  | 'k' => s.mode &&& 0o1000 ≠ 0
  | 'h' => w.isLink (Octets.toText path)
  | 'L' => w.isLink (Octets.toText path)
  | _ => true

/-- a test of one operand -/
def unary (letter : Char) (t : Octets) : Exec Bool := do
  match letter with
  | 'z' => return t = []
  | 'n' => return t ≠ []
  | 't' => do
    let _ ← integer t
    return false
  | _ => do
    match ← inspect t with
    | .ok s => return holds (← lookWorld id) letter t s
    | .error _ => return (letter = 'h' || letter = 'L') && (← lookWorld (·.isLink (Octets.toText t)))

/-- a test of two operands -/
def binary (name : String) (a b : Octets) : Exec Bool := do
  let numbers (f : Int → Int → Bool) : Exec Bool := do return f (← integer a) (← integer b)
  let files (f : Status → Status → Bool) : Exec Bool := do
    match ← inspect a, ← inspect b with
    | .ok x, .ok y => return f x y
    | _, _ => return false
  match name with
  | "=" => return a = b
  | "!=" => return a ≠ b
  | "<" => return !Text.inOrder b a
  | ">" => return !Text.inOrder a b
  | "-eq" => numbers fun x y => x = y
  | "-ne" => numbers fun x y => x ≠ y
  | "-lt" => numbers fun x y => x < y
  | "-le" => numbers fun x y => x ≤ y
  | "-gt" => numbers fun x y => y < x
  | "-ge" => numbers fun x y => y ≤ x
  | "-nt" => files fun x y => y.changed < x.changed
  | "-ot" => files fun x y => x.changed < y.changed
  | _ => files fun x y => x.target = y.target

mutual

/-- the verdict on words joined by what makes one of two enough; with it comes the last word that was used, and all that
follow it -/
def anyOf : Nat → Symbol → List Octets → Exec (Bool × List Octets)
  | 0, _, ws => return (false, ws)
  | n + 1, first, ws => do
    let (a, used) ← allOf n first ws
    if symbol (used.drop 1) = .either then
      let rest := used.drop 2
      let (b, used) ← anyOf n (symbol rest) rest
      return (a || b, used)
    else return (a, used)

def allOf : Nat → Symbol → List Octets → Exec (Bool × List Octets)
  | 0, _, ws => return (false, ws)
  | n + 1, first, ws => do
    let (a, used) ← negated n first ws
    if symbol (used.drop 1) = .both then
      let rest := used.drop 2
      let (b, used) ← allOf n (symbol rest) rest
      return (a && b, used)
    else return (a, used)

def negated : Nat → Symbol → List Octets → Exec (Bool × List Octets)
  | 0, _, ws => return (false, ws)
  | n + 1, first, ws => do
    if first = .negation then
      let next := symbol (ws.drop 1)
      let (a, used) ← negated n next (if next = .nothing then ws else ws.drop 1)
      return (!a, used)
    else primary n first ws

def primary : Nat → Symbol → List Octets → Exec (Bool × List Octets)
  | 0, _, ws => return (false, ws)
  | n + 1, first, ws =>
    match first, ws with
    | .nothing, _ => return (false, ws)
    | .opening, _ =>
      let inner := ws.drop 1
      if symbol inner = .closing then return (false, inner)
      else do
        let (a, used) ← anyOf n (symbol inner) inner
        if symbol (used.drop 1) = .closing then return (a, used.drop 1)
        else senseless [] "closing paren expected"
    | .unary letter, op :: rest =>
      match rest with
      | [] => senseless op "argument expected"
      | t :: _ => return (← unary letter t, rest)
    | _, a :: rest =>
      match symbol rest, rest with
      | .binary name, op :: rest =>
        match rest with
        | [] => senseless op "argument expected"
        | b :: _ => return (← binary name a b, rest)
      | _, _ => return (a ≠ [], ws)
    | _, [] => return (false, ws)

end

/-- the verdict on words from this symbol on; none may be left over -/
def whole (first : Symbol) (ws : List Octets) : Exec Bool := do
  let (v, used) ← anyOf (8 * ws.length + 8) first ws
  match used with
  | op :: _ :: _ => senseless op "unexpected operator"
  | _ => return v

/-- the verdict on the words of a test -/
def verdict : Nat → List Octets → Exec Bool
  | 0, _ => return false
  | n + 1, ws => do
    let isComparison := ws.length = 3 && (operator? (ws.getD 1 [])).any Symbol.isBinary
    if ws = [] then return false
    else if isComparison then whole .operand ws
    else if ws.length = 3 || ws.length = 4 then
      if ws.head? = some ['('] && ws.getLast? = some [')'] then
        let inner := (ws.drop 1).dropLast
        whole (symbol inner) inner
      else if ws.head? = some ['!'] then return !(← verdict n (ws.drop 1))
      else whole (symbol ws) ws
    else whole (symbol ws) ws

/-- a test under its name; in brackets the last word closes them -/
def run (name : Octets) (args : List Octets) : Exec Nat := do
  let ws ← if name = ['['] then
      if args.getLast? = some [']'] then pure args.dropLast else refuse "missing ]"
    else pure args
  return if ← verdict 3 ws then 0 else 1

end RunnableDocs.Shell.Test

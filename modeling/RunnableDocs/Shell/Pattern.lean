/-
Patterns: a star stands for any characters, a question mark for one, brackets for one of several.

A character that is quoted stands for itself. A pattern matches a text only as a whole; cutting a pattern off a value
tries the beginnings (or ends) of the value from one side (`cutFront`, `cutBack`).
-/
import RunnableDocs.Text.Octets

namespace RunnableDocs.Shell

/-- a character, and whether it is quoted -/
abbrev Marked := Char × Bool

inductive Glob where
  | literal (c : Char)
  | one
  | many
  | oneOf (negated : Bool) (ranges : List (Char × Char))
  deriving DecidableEq, Repr

namespace Glob

/-- the characters of a class by its name -/
def classRanges (name : Octets) : List (Char × Char) :=
  match String.ofList name with
  | "alpha" => [('a', 'z'), ('A', 'Z')]
  | "digit" => [('0', '9')]
  | "alnum" => [('a', 'z'), ('A', 'Z'), ('0', '9')]
  | "upper" => [('A', 'Z')]
  | "lower" => [('a', 'z')]
  | "space" => [('\t', '\x0d'), (' ', ' ')]
  | "blank" => [('\t', '\t'), (' ', ' ')]
  | "punct" => [('!', '/'), (':', '@'), ('[', '\x60'), ('\x7b', '~')]
  | "xdigit" => [('0', '9'), ('a', 'f'), ('A', 'F')]
  | "print" => [(' ', '~')]
  | "graph" => [('!', '~')]
  | "cntrl" => [('\x00', '\x1f'), ('\x7f', '\x7f')]
  | _ => []

/-- the inside of brackets up to the closing one, and what follows; the first character is taken in any case -/
def bracket : Nat → Bool → List Marked → Option (List (Char × Char) × List Marked)
  | 0, _, _ => none
  | _ + 1, _, [] => none
  | n + 1, first, (c, q) :: rest =>
    if c = ']' && !q && !first then some ([], rest)
    else if c = '[' && !q && rest.head? = some (':', false) then
      let name := (rest.drop 1).takeWhile (·.1 ≠ ':')
      (bracket n false (rest.drop (name.length + 3))).map fun (ranges, after) =>
        (classRanges (name.map (·.1)) ++ ranges, after)
    else match rest with
      | ('-', false) :: (d, q') :: rest' =>
        if d = ']' && !q' then (bracket n false rest).map fun (ranges, after) => ((c, c) :: ranges, after)
        else (bracket n false rest').map fun (ranges, after) => ((c, d) :: ranges, after)
      | _ => (bracket n false rest).map fun (ranges, after) => ((c, c) :: ranges, after)

/-- the pattern that marked characters write -/
def ofMarked : Nat → List Marked → List Glob
  | 0, _ => []
  | _ + 1, [] => []
  | n + 1, (c, true) :: rest => literal c :: ofMarked n rest
  | n + 1, ('*', false) :: rest => many :: ofMarked n rest
  | n + 1, ('?', false) :: rest => one :: ofMarked n rest
  | n + 1, ('[', false) :: rest =>
    let negated := rest.head? = some ('!', false) || rest.head? = some ('^', false)
    match bracket (rest.length + 1) true (if negated then rest.drop 1 else rest) with
    | some (ranges, after) => oneOf negated ranges :: ofMarked n after
    | none => literal '[' :: ofMarked n rest
  | n + 1, (c, false) :: rest => literal c :: ofMarked n rest

def ofField (field : List Marked) : List Glob := ofMarked (field.length + 1) field

/-- the pattern takes this character for its next one -/
def admits (g : Glob) (c : Char) : Bool :=
  match g with
  | literal d => c = d
  | one => true
  | many => true
  | oneOf negated ranges => (ranges.any fun r => r.1 ≤ c && c ≤ r.2) != negated

/-- a pattern matches a text as a whole -/
def covers : List Glob → Octets → Bool
  | [], t => t.isEmpty
  | many :: rest, [] => covers rest []
  | many :: rest, c :: t => covers rest (c :: t) || covers (many :: rest) t
  | _ :: _, [] => false
  | g :: rest, c :: t => admits g c && covers rest t
termination_by g t => g.length + t.length

/-- the pattern holds more than plain characters -/
def isWild (g : List Glob) : Bool := g.any fun
  | literal _ => false
  | _ => true

/-- the pattern matches the first of several texts that zero octets keep apart -/
def coversFirst (g : List Glob) (t : Octets) : Bool := covers g (t.takeWhile (· ≠ '\x00'))

/-- a text without the beginning that the pattern matches -/
def cutFront (g : List Glob) (longest : Bool) (t : Octets) : Octets :=
  let lengths := List.range (t.length + 1)
  match (if longest then lengths.reverse else lengths).find? fun n => coversFirst g (t.take n) with
  | some n => t.drop n
  | none => t

/-- a text without the end that the pattern matches -/
def cutBack (g : List Glob) (longest : Bool) (t : Octets) : Octets :=
  let lengths := List.range (t.length + 1)
  match (if longest then lengths else lengths.reverse).find? fun n => coversFirst g (t.drop n) with
  | some n => t.take n
  | none => t

end Glob
end RunnableDocs.Shell

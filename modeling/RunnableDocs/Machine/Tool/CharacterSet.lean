/-
Sets of octets in order, as they are written for replacing: single ones, ranges, classes by name, and one repeated.

A backslash takes the meaning of what follows it. What a set is written as stays known as long as it matters for how two
sets go together: a class of letters of one case must meet such a class in the other set.
-/
import RunnableDocs.Machine.Complaint
import RunnableDocs.Shell.Pattern

namespace RunnableDocs.Machine.Tool

open Shell (Marked)

/-- a part of a set as it is written -/
inductive Part where
  | one (c : Char)
  | range (first last : Char)
  | named (name : Octets)
  | equivalents (c : Char)
  /-- with no number it is repeated as often as needed -/
  | repeated (c : Char) (times : Nat)
  deriving DecidableEq, Repr

namespace Part

def all : Octets := (List.range 256).map Char.ofNat

def classNames : List String :=
  ["alnum", "alpha", "blank", "cntrl", "digit", "graph", "lower", "print", "punct", "space", "upper", "xdigit"]

def classMembers (name : Octets) : Octets :=
  all.filter fun c => (Shell.Glob.classRanges name).any fun r => r.1 ≤ c && c ≤ r.2

def members : Part → Octets
  | one c => [c]
  | range a b => (List.range (b.toNat + 1 - a.toNat)).map fun k => Char.ofNat (a.toNat + k)
  | named name => classMembers name
  | equivalents c => [c]
  | repeated c n => List.replicate n c

def isIndefinite : Part → Bool
  | repeated _ 0 => true
  | _ => false

/-- the letters of one case: whether they are capitals -/
def case? : Part → Option Bool
  | named name => if name = "upper".toList then some true else if name = "lower".toList then some false else none
  | _ => none

def isClass : Part → Bool
  | named _ => true
  | _ => false

end Part

/-! ## Reading -/

/-- a character as it is shown in messages about sets -/
def shownInSet (c : Char) : Octets :=
  if c = '\\' then "\\\\".toList else if Octets.isPrintable c then [c] else Octets.escapedChar c

def shownSet (o : Octets) : Octets := o.flatMap shownInSet

/-- characters with what backslashes mean worked out, and warnings on the way -/
def unquoted : Nat → Octets → List Marked × List String
  | 0, _ => ([], [])
  | _ + 1, [] => ([], [])
  | _ + 1, ['\\'] => ([('\\', false)], ["warning: an unescaped backslash at end of string is not portable"])
  | n + 1, '\\' :: c :: rest =>
    let add (c : Char) (r : List Marked × List String) : List Marked × List String := ((c, true) :: r.1, r.2)
    if Octets.isOctal c then
      let digits : Octets := ((c :: rest).take 3).takeWhile Octets.isOctal
      if 255 < Octets.ofOctal digits then
        let r := unquoted n (rest.drop 1)
        let start : Octets := digits.take 2
        let next : Octets := digits.drop 2
        let shown := s!"\\0{start.shown}, {next.shown}"
        (((Char.ofNat (Octets.ofOctal start), true) :: r.1),
          s!"warning: the ambiguous octal escape \\{digits.shown} is being\n\tinterpreted as the 2-byte sequence {shown}"
            :: r.2)
      else add (Char.ofNat (Octets.ofOctal digits)) (unquoted n (rest.drop (digits.length - 1)))
    else
      let meant := match c with
        | 'a' => '\x07'
        | 'b' => '\x08'
        | 'f' => '\x0c'
        | 'n' => '\n'
        | 'r' => '\x0d'
        | 't' => '\t'
        | 'v' => '\x0b'
        | c => c
      add meant (unquoted n rest)
  | n + 1, c :: rest =>
    let r := unquoted n rest
    ((c, false) :: r.1, r.2)

/-- what stands before a mark with a closing bracket, and what follows these -/
def upToClosing (mark : Char) : List Marked → Option (Octets × List Marked)
  | [] => none
  | (c, escaped) :: rest =>
    if c = mark && !escaped && rest.head? = some (']', false) then some ([], rest.drop 1)
    else (upToClosing mark rest).map fun (inside, after) => (c :: inside, after)

/-- a star, digits and a closing bracket -/
def isRepeatTail : List Marked → Bool
  | ('*', false) :: rest =>
    (rest.dropWhile fun m => m.1.isDigit && !m.2).head? = some (']', false)
  | _ => false

/-- a character behind an opening bracket that is repeated: which one, how often, and what follows -/
def repeatAt (rest : List Marked) : Except String (Option (Part × List Marked)) :=
  match rest with
  | (c, _) :: ('*', false) :: more =>
    let plain := more.takeWhile fun m => m.1 ≠ ']' && !m.2
    match more.drop plain.length with
    | (']', false) :: after =>
      let digits := plain.map (·.1)
      let isOctalNumber := digits.head? = some '0'
      let isNumber := digits.all fun d => if isOctalNumber then Octets.isOctal d else d.isDigit
      let times := if isOctalNumber then Octets.ofOctal digits else (Octets.toNat? digits).getD 0
      if isNumber && times < 18446744073709551615 then .ok (some (.repeated c times, after))
      else .error s!"invalid repeat count {(shownSet digits).inQuotes.shown} in [c*n] construct"
    | _ => .ok none
  | _ => .ok none

/-- a class or a group of equal characters behind an opening bracket, and what follows -/
def bracketed (mark : Char) (rest : List Marked) : Except String (Option (Part × List Marked)) :=
  match upToClosing mark rest with
  | none => .ok none
  | some (inside, after) =>
    let shown := shownSet inside
    if mark = ':' then
      if inside = [] then .error "missing character class name '[::]'"
      else if Part.classNames.contains (String.ofList inside) then .ok (some (.named inside, after))
      else if isRepeatTail rest then .ok none
      else .error s!"invalid character class {shown.inQuotes.shown}"
    else match inside with
      | [] => .error "missing equivalence class character '[==]'"
      | [c] => .ok (some (.equivalents c, after))
      | _ =>
        if isRepeatTail rest then .ok none
        else .error s!"{shown.shown}: equivalence class operand must be a single character"

/-- the parts that a set is written as -/
def partsOf : Nat → List Marked → Except String (List Part)
  | 0, _ => .ok []
  | _ + 1, [] => .ok []
  | n + 1, (c, escaped) :: rest => do
    if rest.length < 2 then return .one c :: (← partsOf n rest)
    let named ← match escaped, c, rest with
      | false, '[', (':', false) :: inside => bracketed ':' inside
      | false, '[', ('=', false) :: inside => bracketed '=' inside
      | _, _, _ => .ok none
    let found ← match named with
      | some f => .ok (some f)
      | none => if c = '[' && !escaped then repeatAt rest else .ok none
    match found, rest with
    | some (part, after), _ => return part :: (← partsOf n after)
    | none, ('-', false) :: (d, _) :: after =>
      if d < c then
        let ends := s!"{(shownSet [c]).shown}-{(shownSet [d]).shown}"
        .error s!"range-endpoints of '{ends}' are in reverse collating sequence order"
      else return .range c d :: (← partsOf n after)
    | none, _ => return .one c :: (← partsOf n rest)

/-- a set as it is written, and warnings about it -/
def setOf (t : Octets) : Except String (List Part) × List String :=
  let (marked, warnings) := unquoted (t.length + 1) t
  (partsOf (marked.length + 1) marked, warnings)

end RunnableDocs.Machine.Tool

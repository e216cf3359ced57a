/-
Permissions in letters, and the changes of them that are asked for by numbers or by letters.

A change is a list of steps, each of which adds, takes away or sets bits. A step that names nobody means everybody, but
for the bits that new files do not get.
-/
import RunnableDocs.Text.Octets

namespace RunnableDocs.Machine.Tool.Permissions

/-- all bits that can be changed -/
def every : Nat := 0o7777

/-- bits taken away from others -/
def without (bits taken : Nat) : Nat := bits - (bits &&& taken)

/-! ## In letters -/

/-- the three letters of one kind of user; the last one tells of a special bit too -/
def triple (bits : Nat) (special : Bool) (mark : Char) : List Char :=
  let x := bits &&& 1 ≠ 0
  [if bits &&& 4 ≠ 0 then 'r' else '-', if bits &&& 2 ≠ 0 then 'w' else '-',
    if special then (if x then mark else mark.toUpper) else if x then 'x' else '-']

/-- permissions in nine letters -/
def shown (mode : Nat) : String :=
  String.ofList (triple (mode / 64) (mode &&& 0o4000 ≠ 0) 's' ++ triple (mode / 8) (mode &&& 0o2000 ≠ 0) 's' ++
    triple mode (mode &&& 0o1000 ≠ 0) 't')

/-- permissions in four octal digits -/
def digits (mode : Nat) : String :=
  let d := Nat.toDigits 8 (mode &&& every)
  String.ofList (List.replicate (4 - d.length) '0' ++ d)

/-! ## Changes -/

inductive Operation where
  | add
  | take
  | assign
  deriving DecidableEq, Repr

def Operation.ofChar? : Char → Option Operation
  | '+' => some add
  | '-' => some take
  | '=' => some assign
  | _ => none

/-- which bits a step is about -/
inductive Source where
  | bits (n : Nat)
  /-- those that somebody has already -/
  | those (n : Nat)
  /-- these, and the right to run what is a directory or can be run by somebody -/
  | orRunnable (n : Nat)
  deriving DecidableEq, Repr

structure Step where
  operation : Operation
  /-- the bits of those who are named; none if nobody is -/
  affected : Nat
  source : Source
  /-- the special bits of directories are left alone unless they are mentioned -/
  mentioned : Nat
  deriving DecidableEq, Repr

abbrev Change := List Step

def assignment (mode mentioned : Nat) : Step :=
  { operation := .assign, affected := every, source := .bits mode, mentioned }

/-- the bits of those who are named by letters -/
def who? : Char → Option Nat
  | 'u' => some 0o4700
  | 'g' => some 0o2070
  | 'o' => some 0o1007
  | 'a' => some every
  | _ => none

/-- what a letter behind an operation gives to everybody -/
def bit? : Char → Option Nat
  | 'r' => some 0o444
  | 'w' => some 0o222
  | 'x' => some 0o111
  | 'X' => some 0
  | 's' => some 0o6000
  | 't' => some 0o1000
  | _ => none

/-- the bits behind an operation, and what follows -/
def sourceAt (t : Octets) : Source × Octets :=
  match t with
  | 'u' :: rest => (.those 0o700, rest)
  | 'g' :: rest => (.those 0o070, rest)
  | 'o' :: rest => (.those 0o007, rest)
  | t =>
    let letters := t.takeWhile fun c => (bit? c).isSome
    let bits := (letters.filterMap bit?).foldl (· ||| ·) 0
    (if letters.contains 'X' then .orRunnable bits else .bits bits, t.drop letters.length)

def Source.value : Source → Nat
  | bits n => n
  | those n => n
  | orRunnable n => n

/-- the steps of one clause behind those who are named, and what follows -/
def stepsAt (affected : Nat) : Nat → Octets → Option (Change × Octets)
  | 0, _ => none
  | n + 1, t =>
    match t with
    | [] => none
    | c :: rest => (Operation.ofChar? c).bind fun operation =>
      let digits := rest.takeWhile Octets.isOctal
      if digits ≠ [] then
        let mode := Octets.ofOctal digits
        let after := rest.drop digits.length
        if every < mode || affected ≠ 0 || (after ≠ [] && after.head? ≠ some ',') then none
        else some ([{ assignment mode every with operation }], after)
      else
        let (source, after) := sourceAt rest
        let mentioned := if affected = 0 then source.value else affected &&& source.value
        let step : Step := { operation, affected, source, mentioned }
        if after.head?.any fun c => (Operation.ofChar? c).isSome then
          (stepsAt affected n after).map fun (more, rest) => (step :: more, rest)
        else some ([step], after)

/-- clauses with commas between them -/
def clauses : Nat → Octets → Option Change
  | 0, _ => none
  | n + 1, t =>
    let names := t.takeWhile fun c => (who? c).isSome
    let affected := (names.filterMap who?).foldl (· ||| ·) 0
    match stepsAt affected (n + 1) (t.drop names.length) with
    | some (steps, []) => some steps
    | some (steps, ',' :: rest) => (clauses n rest).map (steps ++ ·)
    | _ => none

/-- the change that a text writes -/
def ofText? (t : Octets) : Option Change :=
  if t.head?.any Octets.isOctal then
    let mode := Octets.ofOctal t
    if !t.all Octets.isOctal || every < mode then none
    else some [assignment mode (if t.length < 5 then (mode &&& 0o7000) ||| 0o777 else every)]
  else clauses (t.length + 1) t

/-- what somebody has given to everybody -/
def spread (bits : Nat) : Nat :=
  bits ||| (if bits &&& 0o444 ≠ 0 then 0o444 else 0) ||| (if bits &&& 0o222 ≠ 0 then 0o222 else 0) |||
    (if bits &&& 0o111 ≠ 0 then 0o111 else 0)

def Step.apply (isDirectory : Bool) (mask : Nat) (mode : Nat) (s : Step) : Nat :=
  let omitted := if isDirectory then without 0o6000 s.mentioned else 0
  let value := match s.source with
    | .bits n => n
    | .those n => spread (n &&& mode)
    | .orRunnable n => if isDirectory || mode &&& 0o111 ≠ 0 then n ||| 0o111 else n
  let value := without (value &&& (if s.affected = 0 then without every mask else s.affected)) omitted
  match s.operation with
  | .add => mode ||| value
  | .take => without mode value
  | .assign => (mode &&& ((if s.affected = 0 then 0 else without every s.affected) ||| omitted)) ||| value

/-- the permissions after a change -/
def Change.apply (c : Change) (isDirectory : Bool) (mask mode : Nat) : Nat :=
  c.foldl (Step.apply isDirectory mask) (mode &&& every)

end RunnableDocs.Machine.Tool.Permissions

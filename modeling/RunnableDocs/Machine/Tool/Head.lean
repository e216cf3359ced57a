/-
The beginning of files: so many lines or octets, or all but so many of the last.

From a file no more is used up than is put out; from a pipe whole blocks are, as far as lines are counted.
-/
import RunnableDocs.Machine.Tool.Input
import RunnableDocs.Machine.Tool.Size

namespace RunnableDocs.Machine.Tool.Head

open Exec

structure Measure where
  count : Nat := 10
  lines : Bool := true
  /-- all but so many of the last are meant -/
  butLast : Bool := false
  /-- what ends a line -/
  mark : Char := '\n'
  deriving DecidableEq, Repr

/-- how long so many lines from the start are, and how many are missing; some octets have been passed already -/
def extent (mark : Char) (passed : Nat) : Nat → Octets → Nat × Nat
  | 0, _ => (passed, 0)
  | n + 1, [] => (passed, n + 1)
  | n + 1, c :: rest => extent mark (passed + 1) (if c = mark then n else n + 1) rest

/-- how many lines there are; one that has no end counts too -/
def countLines (mark : Char) (o : Octets) : Nat :=
  o.count mark + (if o.getLast?.all (· = mark) then 0 else 1)

/-- the part of everything that is wanted, if the last so many are not -/
def Measure.withoutLast (m : Measure) (o : Octets) : Octets :=
  if m.lines then o.take (extent m.mark 0 (countLines m.mark o - m.count) o).1 else o.take (o.length - m.count)

/-- why an input did not come to its end -/
inductive Trouble where
  | reading (e : SystemError)
  /-- it has been told already -/
  | writing

def putOut (o : Octets) : Exec (Option Trouble) := return if ← printed o then none else some .writing

/-- what is read at once -/
def readSize : Nat := 8192

/-- so many lines put out -/
def putLines (mark : Char) (count fd : Nat) : Exec (Option Trouble) := do
  let use (state : Nat × Option Trouble) (block : Octets) : Exec (ForInStep (Nat × Option Trouble)) := do
    let (length, missing) := extent mark 0 state.1 block
    giveBack fd (block.length - length)
    match ← putOut (block.take length) with
    | some trouble => return .done (missing, some trouble)
    | none => return if missing = 0 then .done (0, none) else .yield (missing, none)
  if count = 0 then return none
  match ← eachBlock fd readSize use manyTimes (count, none) with
  | (_, some e) => return some (.reading e)
  | ((_, trouble), none) => return trouble

/-- so many octets put out -/
def putOctets (fd : Nat) : Nat → Nat → Exec (Option Trouble)
  | 0, _ => return none
  | _, 0 => return none
  | fuel + 1, count + 1 => do
    match ← readSome fd (min (count + 1) readSize) with
    | .error e => return some (.reading e)
    | .ok [] => return none
    | .ok block => do
      labour block.length
      match ← putOut block with
      | some trouble => return some trouble
      | none => putOctets fd fuel (count + 1 - block.length)

def Measure.putOut (m : Measure) (fd : Nat) : Exec (Option Trouble) := do
  if m.butLast then
    let (all, e) ← readToEnd fd
    let wanted := m.withoutLast all
    giveBack fd (all.length - wanted.length)
    match ← Head.putOut wanted with
    | some trouble => return some trouble
    | none => return e.map .reading
  else if m.lines then putLines m.mark m.count fd
  else putOctets fd manyTimes m.count

/-- inputs put out one after the other, each under its title if there are titles -/
def putAll (m : Measure) (titles : Bool) : Bool → List Octets → Nat → Exec (Option Nat)
  | _, [], status => return some status
  | isFirst, name :: rest, status => do
    let title := if name = dash then "standard input".toList else name
    let refused (e : SystemError) : Exec (Bool × Option Trouble) := do
      say s!"cannot open {quotedName name} for reading: {e.words}"
      return (true, none)
    let use (fd : Nat) : Exec (Bool × Option Trouble) := do
      if titles then print ((if isFirst then [] else ['\n']) ++ "==> ".toList ++ title ++ " <==\n".toList)
      return (false, ← m.putOut fd)
    match ← withInput name refused use with
    | (true, _) => putAll m titles isFirst rest 1
    | (false, none) => putAll m titles false rest status
    | (false, some .writing) => return none
    | (false, some (.reading e)) => do
      say s!"error reading {quotedName title}: {e.words}"
      putAll m titles false rest 1

/-! ## Arguments -/

/-- an amount as an option gives it -/
def Measure.ofValue (m : Measure) (lines : Bool) (value : Octets) : Except String Measure :=
  let butLast := value.head? = some '-'
  let digits := if butLast then value.drop 1 else value
  let unit := if lines then "lines" else "bytes"
  match Size.ofOctets digits with
  | .ok count => .ok { m with count, lines, butLast }
  | .error .invalid => .error s!"invalid number of {unit}: {quotedName digits}"
  | .error .tooLarge => .error s!"invalid number of {unit}: {quotedName digits}: Value too large for defined data type"

/-- what is asked for: how much, and which titles -/
structure Wish where
  measure : Measure := {}
  titles : Option Bool := none

def Wish.add (w : Wish) (g : Given) : Except String Wish :=
  let value := g.value.getD []
  match g.key with
  | 'c' => (w.measure.ofValue false value).map fun measure => { w with measure }
  | 'n' => (w.measure.ofValue true value).map fun measure => { w with measure }
  | 'q' => .ok { w with titles := some false }
  | 'v' => .ok { w with titles := some true }
  | _ => .ok { w with measure := { w.measure with mark := '\x00' } }

/-- a first argument that is a number and letters behind a dash: the letters, one after the other -/
def Wish.addLetters (digits : Octets) (w : Wish) (lines : Bool) (unit : Option Char) : Octets → Except String Wish
  | [] => (w.measure.ofValue lines (digits ++ unit.toList)).map fun measure => { w with measure }
  | c :: rest =>
    if c = 'c' then w.addLetters digits false none rest
    else if c = 'l' then w.addLetters digits true unit rest
    else if "bkm".toList.contains c then w.addLetters digits false (some c) rest
    else match if "qvz".toList.contains c then w.add { key := c } else .error s!"invalid trailing option -- {c}" with
      | .ok w => w.addLetters digits lines unit rest
      | .error e => .error e

def known : List Known :=
  [⟨'c', "bytes", .something, true⟩, ⟨'n', "lines", .something, true⟩, ⟨'q', "quiet", .nothing, true⟩,
    ⟨'q', "silent", .nothing, false⟩, ⟨'v', "verbose", .nothing, true⟩, ⟨'z', "zero-terminated", .nothing, true⟩]

/-- a complaint, and advice if an argument was not understood -/
def complainOf (message : String) : Exec Nat := do
  if message.startsWith "invalid number" then
    say message
    return 1
  else misused message

def run (args : List Octets) : Exec Nat := do
  let (first, rest) : Except String Wish × List Octets := match args with
    | ('-' :: c :: more) :: rest =>
      if c.isDigit then
        let digits := (c :: more).takeWhile Char.isDigit
        (({} : Wish).addLetters digits true none ((c :: more).drop digits.length), rest)
      else (.ok {}, args)
    | _ => (.ok {}, args)
  let a := Arguments.ofList known false rest
  match first.bind fun w => a.given.foldlM Wish.add w, a.misuse with
  | .error message, _ => complainOf message
  | .ok _, some message =>
    let digit := (List.range 10).map fun d => s!"invalid option -- '{d}'"
    if digit.contains message then
      misused s!"invalid trailing option -- {String.ofList ((message.toList.drop 19).take 1)}"
    else misused message
  | .ok w, none => do
    let names := if a.operands = [] then [dash] else a.operands
    match ← putAll w.measure (w.titles.getD (1 < names.length)) true names 0 with
    | none => return 1
    | some status => do
      if names.contains dash && (← lacksInput) then
        say s!"-: {SystemError.badDescriptor.words}"
        return 1
      return status

end RunnableDocs.Machine.Tool.Head

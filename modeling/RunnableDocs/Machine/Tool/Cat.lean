/-
Files put out one after the other, as they are or with marks: numbers before lines, signs for what cannot be seen.

Numbers, and what is known of the line before, go on from one file to the next.
-/
import RunnableDocs.Machine.Format
import RunnableDocs.Machine.Tool.Input

namespace RunnableDocs.Machine.Tool.Cat

open Exec

/-- which marks are made -/
structure Style where
  numbers : Bool
  /-- empty lines have no numbers -/
  onlyFilled : Bool
  /-- of several empty lines one is left -/
  squeezes : Bool
  showsEnds : Bool
  showsTabs : Bool
  showsHidden : Bool
  deriving DecidableEq, Repr

def Style.isPlain (s : Style) : Bool :=
  !(s.numbers || s.squeezes || s.showsEnds || s.showsTabs || s.showsHidden)

/-- where the output stands -/
structure Progress where
  /-- the lines that have been numbered -/
  number : Nat := 0
  /-- how many empty lines came just before, at the start of a line -/
  empty : Option Nat := some 0
  /-- a carriage return that may belong to the end of the line -/
  held : Bool := false
  /-- what is ready, last character first -/
  out : Octets := []
  deriving DecidableEq, Repr

def Progress.add (p : Progress) (o : Octets) : Progress := { p with out := o.reverseAux p.out }

def Progress.addNumber (p : Progress) : Progress :=
  let n := p.number + 1
  { p.add (Format.padded [] 6 (Octets.ofNat n) ++ ['\t']) with number := n }

/-- a character below 128 that is made visible -/
def visible (c : Char) : Octets :=
  if c = '\x7f' then "^?".toList
  else if c < ' ' then ['^', Char.ofNat (c.toNat + 64)]
  else [c]

/-- a character with the marks that a style asks for -/
def Style.shown (s : Style) (c : Char) : Octets :=
  if c = '\t' then (if s.showsTabs then visible c else [c])
  else if !s.showsHidden then [c]
  else if 128 ≤ c.toNat then "M-".toList ++ visible (Char.ofNat (c.toNat - 128))
  else visible c

/-- one character more -/
def Progress.feed (s : Style) (p : Progress) (c : Char) : Progress :=
  let p := if p.held then { p.add (if c = '\n' then "^M".toList else ['\x0d']) with held := false } else p
  if c = '\n' then
    let empty := (p.empty.map (· + 1)).getD 0
    if 2 ≤ empty && s.squeezes then { p with empty := some 2 }
    else
      let p := if 1 ≤ empty && s.numbers && !s.onlyFilled then p.addNumber else p
      { p.add (if s.showsEnds then ['$', '\n'] else ['\n']) with empty := some empty }
  else
    let p := if p.empty.isSome && s.numbers then p.addNumber else p
    if c = '\x0d' && s.showsEnds && !s.showsHidden then { p with empty := none, held := true }
    else { p.add (s.shown c) with empty := none }

/-- what is ready put out; whether that went well -/
def putOut (o : Octets) : Exec Bool := do
  match ← write? 1 o with
  | .ok () => return true
  | .error e => do
    say s!"write error: {e.words}"
    return false

/-- one input put out; nothing if there can be no more output -/
def copy (s : Style) (name : Octets) (fd : Nat) (p : Progress) : Exec (Option Progress × Nat) := do
  let refuse (why : String) : Exec (Option Progress × Nat) := do
    say s!"{plainName name}: {why}"
    return (some p, 1)
  match ← inspectAt? fd, ← inspectAt? 1 with
  | none, _ => refuse SystemError.badDescriptor.words
  | some input, output =>
    let offset := ((← openedAt? fd).map (·.offset)).getD 0
    if input.kind = .regular && output.any (·.target = input.target) && offset < input.size then
      refuse "input file is output file"
    else
      let use (q : Option Progress) (block : Octets) : Exec (ForInStep (Option Progress)) := do
        match q with
        | none => return .done none
        | some q => do
          let fed := if s.isPlain then q else block.foldl (Progress.feed s) q
          if ← putOut (if s.isPlain then block else fed.out.reverse) then return .yield (some { fed with out := [] })
          else return .done none
      match ← eachBlock fd blockSize use manyTimes (some p) with
      | (none, _) => return (none, 1)
      | (q, some e) => do
        say s!"{plainName name}: {e.words}"
        return (q, 1)
      | (q, none) => return (q, 0)

/-- inputs put out one after the other -/
def copyAll (s : Style) : List Octets → Progress → Nat → Exec (Option Progress × Nat)
  | [], p, status => return (some p, status)
  | name :: rest, p, status => do
    let refused (e : SystemError) : Exec (Option Progress × Nat) := do
      say s!"{plainName name}: {e.words}"
      return (some p, 1)
    match ← withInput name refused (copy s name · p) with
    | (none, status) => return (none, status)
    | (some p, more) => copyAll s rest p (max status more)

def known : List Known :=
  [⟨'b', "number-nonblank", .nothing, true⟩, ⟨'n', "number", .nothing, true⟩, ⟨'s', "squeeze-blank", .nothing, true⟩,
    ⟨'v', "show-nonprinting", .nothing, true⟩, ⟨'E', "show-ends", .nothing, true⟩,
    ⟨'T', "show-tabs", .nothing, true⟩, ⟨'A', "show-all", .nothing, true⟩] ++ letters "etu"

def run (args : List Octets) : Exec Nat :=
  withArguments known args fun a => do
    let style : Style :=
      { numbers := a.hasAny "nb"
        onlyFilled := a.has 'b'
        squeezes := a.has 's'
        showsEnds := a.hasAny "eEA"
        showsTabs := a.hasAny "tTA"
        showsHidden := a.hasAny "vetA" }
    if (← openedAt? 1).isNone then
      say s!"standard output: {SystemError.badDescriptor.words}"
      return 1
    let names := if a.operands = [] then [dash] else a.operands
    match ← copyAll style names {} 0 with
    | (none, status) => return status
    | (some p, status) => do
      let isWritten ← putOut (if p.held then ['\x0d'] else [])
      if names.contains dash && (← lacksInput) then
        say s!"closing standard input: {SystemError.badDescriptor.words}"
        return 1
      return if isWritten then status else 1

end RunnableDocs.Machine.Tool.Cat

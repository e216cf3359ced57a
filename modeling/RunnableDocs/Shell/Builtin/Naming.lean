/-
The commands of a shell on variables, arguments and aliases.
-/
import RunnableDocs.Shell.Builtin.Printing
import RunnableDocs.Shell.Expansion

namespace RunnableDocs.Shell.Builtin

open Machine (Exec Variable)
open Machine.Exec

/-! ## Variables -/

/-- the variables chosen, as commands that would make them -/
def listVariables (command : String) (choose : Variable → Bool) : Exec Unit := do
  let chosen := ((← ofShell (·.bindings)).filter choose).mergeSort fun a b => Text.inOrder a.name b.name
  for v in chosen do
    printLine (command.toList ++ v.name ++ (v.value.map fun t => '=' :: quoted t).getD [])

/-- variables declared, each perhaps with a value, and changed in what they are -/
def declare (command : String) (choose : Variable → Bool) (change : Variable → Variable) (args : List Octets) :
    Exec Nat := do
  let (options, names) ← optionsOf "p" args
  if options ≠ [] || names = [] then listVariables (command ++ " ") choose
  else for t in names do
    let (name, value) := assigned t
    match value, ← named? name with
    | none, some v => putVariable (change v)
    | value, _ => do
      checkName name
      setVariable name value change
  return 0

def export_ : List Octets → Exec Nat := declare "export" (·.exported) ({ · with exported := true })

def readonly : List Octets → Exec Nat := declare "readonly" (·.readOnly) ({ · with readOnly := true })

def unset (args : List Octets) : Exec Nat := do
  let (options, names) ← optionsOf "vf" args
  for name in names do
    if options.getLast?.map (·.1) = some 'f' then
      changeShell fun s => { s with functions := s.functions.filter (·.1 ≠ name) }
    else do
      checkName name
      setVariable name none id
  return 0

def local_ (args : List Octets) : Exec Nat := do
  if (← ofShell (·.locals)) = [] then refuse "not in a function"
  for t in args do makeLocal t false
  return 0

/-! ## Reading -/

/-- one line of the input with its characters marked as protected by a backslash or not; whether a line break ended it;
and how much of the text it takes -/
structure Line where
  marks : List Marked := []
  ended : Bool := false
  used : Nat := 0
  /-- a backslash stands at the end of what there is -/
  isOpen : Bool := false

/-- the line at the start of a text -/
def Line.ofText (raw : Bool) : Bool → Octets → Line
  | afterBackslash, [] => { isOpen := afterBackslash }
  | true, c :: rest =>
    let l := Line.ofText raw false rest
    if c = '\n' then { l with used := l.used + 1 } else { l with marks := (c, true) :: l.marks, used := l.used + 1 }
  | false, c :: rest =>
    if c = '\n' then { ended := true, used := 1 }
    else if c = '\\' && !raw then
      let l := Line.ofText raw true rest
      { l with used := l.used + 1 }
    else
      let l := Line.ofText raw false rest
      { l with marks := (c, false) :: l.marks, used := l.used + 1 }

/-- how much is looked at at once for the end of a line -/
def lineBlock : Nat := 4096

/-- the next line of the input, of which no more is taken than the line -/
def readLine (raw : Bool) : Nat → Bool → Exec Line
  | 0, _ => return {}
  | n + 1, afterBackslash => do
    match ← peek 0 with
    | .error _ => return {}
    | .ok [] => return {}
    | .ok available => do
      let l := Line.ofText raw afterBackslash (available.take lineBlock)
      skip 0 l.used
      if l.ended then return l
      else
        pass statementTime
        let more ← readLine raw n l.isOpen
        return { more with marks := l.marks ++ more.marks }

/-- a line on its way into fields -/
structure Parting where
  fields : List Octets := []
  /-- the field that is read, last character first -/
  current : Octets := []
  /-- white space has ended the field before -/
  spaced : Bool := false
  /-- the fields that are still wanted -/
  left : Nat
  /-- where the last field may end, since only white space has come since then -/
  mayEnd : Option Nat := none

def Parting.add (p : Parting) (c : Char) : Parting := { p with current := c :: p.current }

/-- one character of the line, which may be a mark between fields if no backslash protects it -/
def Parting.step (marks : Octets) (p : Parting) (m : Marked) : Parting :=
  let (c, isProtected) := m
  let isMark := marks.contains c
  let isSpace := isMark && (c = ' ' || c = '\t' || c = '\n')
  if isProtected then { p with spaced := false }.add c
  else if p.left = 0 then
    if isSpace then { p with mayEnd := some (p.mayEnd.getD p.current.length) }.add c
    else { p with mayEnd := if isMark && p.spaced then p.mayEnd else none, spaced := false }.add c
  else if p.spaced then
    if isSpace then p else if isMark then { p with spaced := false } else { p with spaced := false }.add c
  else if !isMark then p.add c
  else if isSpace && p.current = [] then p
  else if p.left = 1 then { p with left := 0, mayEnd := some p.current.length, spaced := isSpace }.add c
  else
    { fields := p.current.reverse :: p.fields, left := p.left - 1, spaced := isSpace }

/-- the fields of a line that is read into so many variables: the last one takes what is left over -/
def lineFields (marks : Octets) (count : Nat) (line : List Marked) : List Octets :=
  let p := line.foldl (Parting.step marks) { left := count }
  let last := (p.current.reverse).take (p.mayEnd.getD p.current.length)
  (if last = [] then p.fields else last :: p.fields).reverse

/-- values given to names in turn; names that are left over become empty -/
def assignAll : List Octets → List Octets → Exec Unit
  | [], _ => return ()
  | name :: names, values => do
    checkName name
    assign name (values.headD [])
    assignAll names (values.drop 1)

def read (args : List Octets) : Exec Nat := do
  let (options, names) ← optionsOf "p:r" args
  if names = [] then refuse "arg count"
  let line ← readLine (options.any (·.1 = 'r')) manyTimes false
  assignAll names (lineFields (← ifs) names.length (line.marks.filter (·.1 ≠ '\x00')))
  return if line.ended then 0 else 1

/-! ## Arguments -/

/-- the arguments of a script replaced -/
def setArguments (args : List Octets) : Exec Unit := changeShell fun s =>
  { s with args, optionIndex := 1, optionOffset := none }

def shift (args : List Octets) : Exec Nat := do
  let n ← match args with
    | [] => pure 1
    | t :: _ => number t
  let current ← ofShell (·.args)
  if current.length < n then refuse "can't shift that many"
  setArguments (current.drop n)
  return 0

def set_ (args : List Octets) : Exec Nat := do
  if args = [] then listVariables "" (·.value.isSome)
  else
    let h ← heedOptions false (args.length + 1) { rest := args }
    if h.dashes || h.rest ≠ [] then setArguments h.rest
  return 0

/-- what looking for the next option comes to -/
structure Sought where
  letter : Char := '?'
  done : Bool := false
  /-- the argument to look at next, counted from one, and how many of its letters have been looked at -/
  index : Nat
  offset : Option Nat := none
  argument : Option (Option Octets) := none
  complaint : Option String := none

/-- the next option among some arguments -/
def nextOption (known : Octets) (args : List Octets) (index : Nat) (offset : Option Nat) : Sought :=
  let silent := known.head? = some ':'
  let current := if index ≤ 1 then none else offset.bind fun o =>
    ((args[index - 2]?).filter (o ≤ ·.length)).map fun a => (a.drop o, o)
  let group : Option (Octets × Nat × Nat) := match current with
    | some (c :: letters, o) => some (c :: letters, o, index)
    | _ => match args[index - 1]? with
      | some ('-' :: c :: letters) => if c :: letters = ['-'] then none else some (c :: letters, 1, index + 1)
      | _ => none
  match group with
  | none =>
    let passed := (match current with
      | some (_ :: _, _) => false
      | _ => args[index - 1]? = some ['-', '-'])
    { done := true, index := if passed then index + 1 else index }
  | some (letters, o, index) =>
    let c := letters.headD '?'
    let rest := letters.drop 1
    let next : Sought := { index, offset := some (o + 1) }
    match (if c = ':' then none else takesArgument? known c) with
    | none =>
      if silent then { next with argument := some (some [c]) }
      else { next with argument := some none, complaint := some s!"Illegal option -{c}\n" }
    | some false => { next with letter := c, argument := some (some []) }
    | some true =>
      if rest ≠ [] then { index, letter := c, argument := some (some rest) }
      else match args[index - 1]? with
        | some a => { index := index + 1, letter := c, argument := some (some a) }
        | none =>
          if silent then { next with letter := ':', argument := some (some [c]) }
          else { next with argument := some none, complaint := some s!"No arg for -{c} option\n" }

def getopts (args : List Octets) : Exec Nat := do
  match args with
  | known :: name :: rest => do
    let s ← ofShell id
    let all := if rest = [] then s.args else rest
    let isIn := 1 ≤ s.optionIndex && s.optionIndex ≤ all.length + 1
    let found := nextOption known all (if isIn then s.optionIndex else 1) (if isIn then s.optionOffset else none)
    if let some words := found.complaint then complain words
    match found.argument with
    | none => pure ()
    | some value => setVariable "OPTARG".toList value id
    setVariable "OPTIND".toList (some (Octets.ofNat found.index)) id true
    checkName name
    assign name [found.letter]
    changeShell fun s => { s with optionIndex := found.index, optionOffset := found.offset }
    return if found.done then 1 else 0
  | _ => refuse "Usage: getopts optstring var [arg...]"

/-! ## Aliases -/

def aliasShown (a : Octets × Octets) : Octets := a.1 ++ '=' :: quoted a.2

def alias_ (args : List Octets) : Exec Nat := do
  let aliases ← ofShell (·.aliases)
  if args = [] then
    for a in aliases.mergeSort fun a b => bucket a.1 ≤ bucket b.1 do printLine (aliasShown a)
  let mut status := 0
  for t in args do
    let first := t.take 1
    let name := first ++ (t.drop 1).takeWhile (· ≠ '=')
    if name.length < t.length then
      let text := t.drop (name.length + 1)
      changeShell fun s =>
        { s with aliases :=
            if s.aliases.any (·.1 = name) then s.aliases.map fun a => if a.1 = name then (name, text) else a
            else s.aliases ++ [(name, text)] }
    else match (← ofShell (·.aliases)).lookup t with
      | some text => printLine (aliasShown (t, text))
      | none => do
        complain s!"alias: {t.shown} not found\n"
        status := 1
  return status

def unalias (args : List Octets) : Exec Nat := do
  let (options, names) ← optionsOf "a" args
  if options ≠ [] then
    changeShell fun s => { s with aliases := [] }
    return 0
  let mut status := 0
  for name in names do
    if ((← ofShell (·.aliases)).lookup name).isNone then
      complain s!"unalias: {name.shown} not found\n"
      status := 1
    else changeShell fun s => { s with aliases := s.aliases.filter (·.1 ≠ name) }
  return status

end RunnableDocs.Shell.Builtin

/-
A program run with other variables, or the variables shown.

Variables keep their places: one that is set again stays where it is, and a new one comes last.
-/
import RunnableDocs.Machine.Image
import RunnableDocs.Machine.Tool.Input

namespace RunnableDocs.Machine.Tool.Env

open Exec

/-- names with values, in order -/
abbrev Environment := List (Octets × Octets)

def put (e : Environment) (name value : Octets) : Environment :=
  if e.any (·.1 = name) then e.map fun v => if v.1 = name then (name, value) else v else e ++ [(name, value)]

/-- the status if the tool itself goes wrong -/
def failed : Nat := 125

/-! ## Arguments in one text -/

/-- the inside of a text that is cut into arguments: what has been read of the current one, if any, and its quotes -/
structure Cut where
  done : List Octets := []
  current : Option Octets := none
  quote : Option Char := none

def Cut.add (c : Cut) (o : Octets) : Cut := { c with current := some (c.current.getD [] ++ o) }

def Cut.finish (c : Cut) : Cut := { c with done := c.current.toList ++ c.done, current := none }

/-- what a backslash and a character stand for: outside of quotes a space ends an argument -/
def Cut.escaped (c : Cut) (e : Char) : Except String Cut :=
  match c.quote, e with
  | some '\'', '\\' => .ok (c.add ['\\'])
  | some '\'', '\'' => .ok (c.add ['\''])
  | some '\'', e => .ok (c.add ['\\', e])
  | q, '_' => .ok (if q = some '"' then c.add [' '] else c.finish)
  | _, 'f' => .ok (c.add ['\x0c'])
  | _, 'n' => .ok (c.add ['\n'])
  | _, 'r' => .ok (c.add ['\x0d'])
  | _, 't' => .ok (c.add ['\t'])
  | _, 'v' => .ok (c.add ['\x0b'])
  | _, e => if "\"#$'\\".toList.contains e then .ok (c.add [e]) else .error s!"invalid sequence '\\{e}' in -S"

/-- the arguments that a text is cut into -/
def Cut.run (e : Environment) : Nat → Cut → Octets → Except String (List Octets)
  | 0, c, _ => .ok c.finish.done.reverse
  | _ + 1, c, [] =>
    if c.quote.isSome then .error "no terminating quote in -S string" else .ok c.finish.done.reverse
  | n + 1, c, '\\' :: 'c' :: rest =>
    if c.quote = some '"' then .error "'\\c' must not appear in double-quoted -S string"
    else if c.quote.isNone then .ok c.finish.done.reverse
    else Cut.run e n (c.add "\\c".toList) rest
  | _ + 1, _, ['\\'] => .error "invalid backslash at end of string in -S"
  | n + 1, c, '\\' :: x :: rest => (c.escaped x).bind fun c => Cut.run e n c rest
  | n + 1, c, '$' :: rest =>
    if c.quote = some '\'' then Cut.run e n (c.add ['$']) rest
    else
      let name := (rest.drop 1).takeWhile fun x => x.isAlphanum || x = '_'
      let after := rest.drop (1 + name.length)
      if rest.head? = some '\x7b' && name ≠ [] && after.head? = some '\x7d' && !(name.head?.any Char.isDigit) then
        let c := match e.lookup name with
          | some value => c.add value
          | none => c
        Cut.run e n c (after.drop 1)
      else
        let shown : Octets := '$' :: rest
        .error s!"only $\x7bVARNAME\x7d expansion is supported, error at: {shown.shown}"
  | n + 1, c, x :: rest =>
    match c.quote with
    | some q => Cut.run e n (if x = q then { c with quote := none } else c.add [x]) rest
    | none =>
      if x = '\'' || x = '"' then Cut.run e n { c.add [] with quote := some x } rest
      else if Octets.isSpace x then Cut.run e n c.finish rest
      else if x = '#' && c.current.isNone then .ok c.finish.done.reverse
      else Cut.run e n (c.add [x]) rest

/-! ## Options -/

def known : List Known :=
  [⟨'i', "ignore-environment", .nothing, true⟩, ⟨'0', "null", .nothing, true⟩, ⟨'u', "unset", .something, true⟩,
    ⟨'C', "chdir", .something, true⟩, ⟨'d', "default-signal", .perhaps, false⟩,
    ⟨'g', "ignore-signal", .perhaps, false⟩, ⟨'b', "block-signal", .perhaps, false⟩,
    ⟨'v', "debug", .nothing, true⟩, ⟨'S', "split-string", .something, true⟩]

/-- the options before a text that is cut into arguments, and what comes after it, put together -/
def unfolded (e : Environment) : Nat → List Octets → Except String Arguments
  | 0, args => .ok (Arguments.ofList known true args)
  | n + 1, args =>
    let a := Arguments.ofList known true args
    match a.given.findIdx? (·.key = 'S') with
    | none => .ok a
    | some i =>
      match Cut.run e ((a.given.getD i { key := 'S' }).value.getD []).length.succ {}
          ((a.given.getD i { key := 'S' }).value.getD []) with
      | .error message => .error message
      | .ok cut =>
        let later : List Octets := (a.given.drop (i + 1)).flatMap fun g => ['-', g.key] :: g.value.toList
        (unfolded e n (cut ++ later ++ a.operands)).map fun inner =>
          { inner with given := a.given.take i ++ inner.given }

/-- signals by their names, or all -/
def signalsOf (names : Option Octets) : List Nat :=
  match names with
  | none => (List.range Signal.count).filter fun n => n ≠ 0 && !Signal.isInevitable n
  | some names => (Text.splitOn ',' names).filterMap fun name =>
      Signal.ofText? (if name.take 3 = "SIG".toList then name.drop 3 else name)

/-- what is told of each step, if that is asked for -/
def tell (a : Arguments) (words : String) : Exec Unit := do if a.has 'v' then complain s!"{words}\n"

/-- the variables that options leave -/
def left (a : Arguments) (e : Environment) : Except Octets Environment :=
  if a.has 'i' || a.operands.head? = some dash then .ok []
  else (a.given.filter (·.key = 'u')).foldlM (fun e g =>
    let name := g.value.getD []
    if name = [] || name.contains '=' then .error name else .ok (e.filter (·.1 ≠ name))) e

/-- the arguments that set variables, and what comes after them -/
def assignments : List Octets → Environment × List Octets
  | [] => ([], [])
  | arg :: rest =>
    if arg.contains '=' then
      let name := arg.takeWhile (· ≠ '=')
      let (more, command) := assignments rest
      ((name, arg.drop (name.length + 1)) :: more, command)
    else ([], arg :: rest)

def show_ (mark : Char) (e : Environment) : Exec Unit := do
  for (name, value) in e do print (name ++ '=' :: value ++ [mark])

/-- the program that takes over -/
def start (program : Environment → Image → Exec Unit) (a : Arguments) (e : Environment) (name : Octets)
    (args : List Octets) : Exec Nat := do
  for g in a.given do
    let signals := signalsOf g.value
    if g.key = 'g' then changeMe fun p => { p with ignored := signals ++ p.ignored }
    if g.key = 'd' then changeMe fun p => { p with ignored := p.ignored.filter (!signals.contains ·) }
  if let some dir := a.value? 'C' then
    tell a s!"chdir:    {quotedName dir}"
    if let .error e ← changeWorld (·.changeDirectory (Octets.toText dir)) then
      say s!"cannot change directory to {quotedName dir}: {e.words}"
      return failed
  tell a s!"executing: {name.shown}"
  for (arg, i) in (name :: args).zipIdx do tell a s!"   arg[{i}]= {quotedName arg}"
  let w ← lookWorld id
  let search := (e.lookup "PATH".toList).getD "/bin:/usr/bin".toList
  match Image.findWith (Image.orScript w · name args) search name with
  | .ok i => do
    program e i
    return 0
  | .error why => do
    say s!"{quotedName name}: {why.words}"
    if why = .noEntry && name.any Octets.isSpace then say "use -[v]S to pass options in shebang lines"
    return if why = .noEntry then 127 else 126

def run (program : Environment → Image → Exec Unit) (args : List Octets) : Exec Nat := do
  let before ← gets (·.me.environment)
  match unfolded before 20 args with
  | .error message => do
    say message
    return failed
  | .ok a =>
    match a.misuse with
    | some message => do
      say message
      if message.startsWith "invalid option -- ' '" then say "use -[v]S to pass options in shebang lines"
      adviseHelp
      return failed
    | none =>
      if a.has 'i' then tell a "cleaning environ"
      else for g in a.given do if g.key = 'u' then tell a s!"unset:    {(g.value.getD []).shown}"
      match left a before with
      | .error name => do
        say s!"cannot unset {quotedName name}: {SystemError.invalidArgument.words}"
        return failed
      | .ok kept => do
        let operands := if a.operands.head? = some dash then a.operands.drop 1 else a.operands
        let (set_, command) := assignments operands
        for (name, value) in set_ do
          let setting : Octets := name ++ '=' :: value
          tell a s!"setenv:   {setting.shown}"
        let e := set_.foldl (fun e v => put e v.1 v.2) kept
        match command with
        | [] =>
          if a.has 'C' then misused "must specify command with --chdir (-C)" failed
          else do
            show_ (if a.has '0' then '\x00' else '\n') e
            return 0
        | name :: args =>
          if a.has '0' then misused "cannot specify --null (-0) with command" failed
          else start program a e name args

end RunnableDocs.Machine.Tool.Env

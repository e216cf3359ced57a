/-
Statements carried out.

Everything is defined through a `Runner` for smaller parts, so that no definition here calls itself. The status of a
statement is given and noted; what signals ask for is done before and after each statement.
-/
import RunnableDocs.Shell.Lookup
import RunnableDocs.Shell.Redirections

namespace RunnableDocs.Shell

open Machine (Exec Stop Image)
open Machine.Exec

/-! ## Programs -/

/-- another program takes over the process at work -/
def Runner.takeOver (r : Runner) (environment : List (Octets × Octets)) (i : Image) : Exec Unit := do
  changeMe fun p => { p with environment, called := i.called, shell := {}, caught := [], printed := [], readAhead := [] }
  modify (·.closeDescriptors (·.isPrivate))
  pass programTime
  r.program i

/-- the first of some paths that can be run -/
def firstImage (w : World) (name : Octets) (args : List Octets) (e : SystemError) : List Octets →
    Except SystemError Image
  | [] => .error e
  | path :: rest =>
    match Image.orScript w path name args with
    | .ok i => .ok i
    | .error e' => firstImage w name args (if e' = .noEntry || e' = .notDirectory then e else e') rest

/-- the status of a shell that could not run a program -/
def refusalStatus (e : SystemError) : Nat :=
  if e = .noEntry || e = .notDirectory || e = .nameTooLong || e = .tooManyLevels then 127 else 126

/-- a program by its name takes over -/
def Runner.replace (r : Runner) (search name : Octets) (args : List Octets) : Exec Nat := do
  let w ← lookWorld id
  let hashed := (← ofShell (·.hashed)).lookup name
  let paths := if name.contains '/' then [name]
    else
      let all := Image.candidates search name
      match hashed with
      | some path => all.dropWhile (· ≠ path)
      | none => all
  match firstImage w name args .noEntry paths with
  | .ok i => do
    r.takeOver (← environment) i
    return 0
  | .error e => do
    warn s!"{name.shown}: {runWords e}"
    throw (.exit (refusalStatus e))

/-- a program run in a process of its own, or in this one if nothing follows; its status -/
def Runner.external (r : Runner) (duty : Duty) (search name : Octets) (args : List Octets) : Exec Nat := do
  let found ← if name.contains '/' then pure (.ok name) else locate search name
  match found with
  | .error e => do
    warn s!"{name.shown}: {runWords e}"
    return 127
  | .ok _ =>
    if duty.last && !(← hasTraps) then r.replace search name args
    else do
      let child ← r.split (r.replace search name args)
      waitForJob (← addJob [child])

/-! ## Simple statements -/

/-- a text as it stands in double quotes, worked out -/
def Runner.template (r : Runner) (t : Octets) : Exec Octets := do
  match (Reader.parts (20 * t.length + 100) .here []).run { rest := t } with
  | .ok (parts, _) => r.flat (Reader.joined parts)
  | .error _ => return t

/-- what is run shown beforehand, if that is asked for -/
def Runner.trace (r : Runner) (u : Undo) (assignments fields : List Octets) : Exec Unit := do
  let s ← ofShell id
  if s.options.contains 'x' && !s.isTracing then
    changeShell fun s => { s with isTracing := true }
    let start ← settled (r.template ((← value? "PS4".toList).getD []))
    changeShell fun s => { s with isTracing := false }
    match start with
    | .error e => throw e
    | .ok start =>
      let fd := ((u.lookup 2).bind id).getD 2
      write fd (start ++ [' '].intercalate (assignments ++ fields) ++ ['\n'])

/-- the fields of the first words that give any, and the words after them -/
def Runner.firstFields (r : Runner) : List Octets → List Word → Exec (List Octets × List Word)
  | [], w :: rest => do r.firstFields (← r.expand w) rest
  | fields, rest => return (fields, rest)

/-- the command that is to be run in the stead of the one that runs others -/
structure Chosen where
  fields : List Octets
  words : List Word
  /-- fields that stand before the command -/
  passed : List Octets := []
  /-- the search path that is used is the one of the system -/
  isDefault : Bool := false
  /-- functions do not count -/
  direct : Bool := false

/-- the options before the command that is to be run; nothing if there are others than one, or no command -/
def Runner.commandBehind (r : Runner) : Nat → Chosen → Exec (Option Chosen)
  | 0, _ => return none
  | n + 1, c => do
    let (fields, words) ← r.firstFields c.fields c.words
    match fields with
    | [] => return none
    | ['-', '-'] :: rest => do
      let (fields, words) ← r.firstFields rest words
      return if fields = [] then none else some { c with fields, words, passed := c.passed ++ [['-', '-']] }
    | ('-' :: 'p' :: letters) :: rest =>
      if letters.all (· = 'p') then
        let passed := c.passed ++ ['-' :: 'p' :: letters]
        r.commandBehind n { c with fields := rest, words, passed, isDefault := true }
      else return none
    | ('-' :: _ :: _) :: _ => return none
    | fields => return some { c with fields, words }

/-- what a command is, with the words that have been worked out to know it -/
inductive Kind where
  | nothing
  | builtin (name : Octets) (b : Builtin)
  | function (body : Statement)
  | program

/-- a command found out, through any number of those that run others -/
def Runner.findOut (r : Runner) : Nat → Chosen → Exec (Kind × Chosen)
  | 0, c => return (.nothing, c)
  | n + 1, c => do
    match c.fields with
    | [] => return (.nothing, c)
    | name :: rest => do
      let functions ← ofShell (·.functions)
      match (if c.direct then none else functions.lookup name), builtin? name with
      | some body, _ => return (.function body, c)
      | none, some b =>
        if name = "command".toList then
          match ← r.commandBehind (n + 1000) { c with fields := rest, passed := c.passed ++ [name] } with
          | some inner => r.findOut n { inner with direct := true }
          | none => do
            let (fields, words) ← r.firstFields rest c.words
            return (.builtin name b, { c with fields := name :: fields, words })
        else return (.builtin name b, c)
      | none, none => return (.program, c)

/-- functions that are being called may be nested so deep -/
def maxCalls : Nat := 1000

/-- a function called -/
def Runner.call (r : Runner) (duty : Duty) (body : Statement) (args : List Octets) : Exec Nat := do
  let before ← ofShell id
  if maxCalls ≤ before.calls then refuse s!"Maximum function recursion depth ({maxCalls}) reached"
  changeShell fun s =>
    { s with args, loops := 0, calls := s.calls + 1, optionIndex := 1, optionOffset := none }
  let result ← settled (r.statement { tested := duty.tested } body)
  changeShell fun s =>
    { s with
      args := before.args
      loops := before.loops
      calls := before.calls
      optionIndex := before.optionIndex
      optionOffset := before.optionOffset }
  match result with
  | .ok status => return status
  | .error (.returned status) => return status
  | .error e => throw e

/-- a script in a file run in this shell -/
def Runner.dot (r : Runner) (args : List Octets) : Exec Nat := do
  let (_, args) ← optionsOf "" args
  match args with
  | [] => return 0
  | name :: _ => do
    let w ← lookWorld id
    let isPlainFile (path : Octets) : Bool := w.isFile (Octets.toText path)
    let search ← searchPath
    let path? := if name.contains '/' then some name else (Image.candidates search name).find? isPlainFile
    match path? with
    | none => refuse s!"{name.shown}: not found"
    | some path => do
      let opened ← openPath .read path
      let descriptor ← gets (·.freeNumber keptFrom)
      modify (·.setDescriptor { number := descriptor, opened, isPrivate := true })
      let result ← inContext path (settled (r.source manyTimes { descriptor } 0))
      closeDescriptor descriptor
      match result with
      | .ok status => return status
      | .error (.returned status) => return status
      | .error e => throw e

/-- a part of the shell carried out: what it prints is handed on at its end -/
def Runner.builtin (r : Runner) (duty : Duty) (name : Octets) (b : Builtin) (args : List Octets) : Exec Nat :=
  inContext name do
    let run : Exec Nat := match b.run with
      | some run => run args
      | none => match String.ofList name with
        | "eval" => if args = [] then pure 0 else r.text { tested := duty.tested } ([' '].intercalate args)
        | "." => r.dot args
        | _ => match args with
          | [] => pure 0
          | program :: args => do r.replace (← searchPath) program args
    let result ← settled run
    match ← flush, result with
    | .error _, .ok status => do
      warn s!"{name.shown}: I/O error"
      return status ||| 1
    | _, .ok status => return status
    | _, .error e => throw e

/-- an assignment as one text -/
def Runner.assignment (r : Runner) (a : Octets × Word) : Exec Octets := return a.1 ++ '=' :: (← r.valueOf a.2)

/-- assignments carried out one after the other; what they are as texts -/
def Runner.assignEach (r : Runner) (put : Octets → Exec Unit) : List (Octets × Word) → Exec (List Octets)
  | [] => return []
  | a :: rest => do
    let t ← r.assignment a
    put t
    return t :: (← r.assignEach put rest)

/-- a simple statement -/
def Runner.simple (r : Runner) (duty : Duty) (line : Nat) (assignments : List (Octets × Word)) (words : List Word)
    (redirections : List Redirection) : Exec Nat := do
  changeShell fun s => { s with line, outputStatus := 0 }
  pass statementTime
  let (fields, rest) ← r.firstFields [] words
  let (kind, c) ← r.findOut (words.length + fields.length + 1) { fields, words := rest }
  let takes := match kind with
    | .builtin _ b => b.takesAssignments
    | _ => false
  let fields := c.fields ++ (← c.words.mapM (r.argument takes)).flatten
  let isDirect := c.passed = []
  let isSpecial := match kind with
    | .builtin _ b => b.isSpecial && isDirect
    | _ => false
  let isExec := match kind with
    | .builtin name _ => name = "exec".toList
    | _ => false
  let stays := kind matches .nothing || isSpecial
  let export_ := isExec && 1 < fields.length
  let put (t : Octets) : Exec Unit :=
    if stays then
      let (name, value) := assigned t
      setVariable name value fun v => { v with exported := v.exported || export_ }
    else makeLocal t true
  let run (u : Undo) (outcome : Except Nat Unit) : Exec Nat := do
    match outcome with
    | .error status => if isSpecial then fail status else return status
    | .ok () => do
      let done ← r.assignEach put assignments
      r.trace u done (c.passed ++ fields)
      match kind, fields with
      | .nothing, _ => ofShell (·.outputStatus)
      | .builtin name b, _ :: args => do
        match ← settled (r.builtin duty name b args) with
        | .error (.fault status) => if isSpecial then throw (.fault status) else return status
        | .error e => throw e
        | .ok status => return status
      | .function body, _ :: args => r.call duty body args
      | .program, name :: args => do
        let search ← if c.isDefault then pure Image.defaultSearchPath else searchPath
        r.external duty search name args
      | _, [] => return 0
  let whole := r.redirecting redirections run (pure isExec)
  if stays then whole else withLocals whole

/-! ## Several processes -/

/-- what a process in the background does about the keyboard and the input -/
def leaveTerminal (isFirst : Bool) : Exec Unit := do
  changeMe fun p =>
    let signals := [Machine.Signal.interrupt, Machine.Signal.quit]
    { p with
      ignored := signals ++ p.ignored.filter (!signals.contains ·)
      shell := { p.shell with untrappable := signals ++ p.shell.untrappable } }
  if isFirst then
    match ← openFile "/dev/null".toList { reads := true } with
    | .ok opened => setDescriptor 0 opened
    | .error _ => pure ()

/-- the program of a statement located beforehand, so that its place is known -/
def prehash : Statement → Exec Unit
  | .simple _ _ (w :: _) _ => do
    match plainText? w with
    | some name =>
      if isName name && (builtin? name).isNone && !(← ofShell (·.functions.any (·.1 = name))) then
        let _ ← locate (← searchPath) name
    | none => pure ()
  | _ => pure ()

/-- the stages of a pipeline started, each reading what the one before it writes; their numbers -/
def Runner.stages (r : Runner) (duty : Duty) (isBackground : Bool) (isFirst : Bool) (input : Option Nat) :
    List Statement → Exec (List Nat)
  | [] => return []
  | s :: rest => do
    prehash s
    let pipe ← if rest = [] then pure none else do pure (some (← openPipe))
    let child ← r.split do
      if isBackground then leaveTerminal isFirst
      if let some (reading, _) := pipe then closeDescriptor reading
      if let some fd := input then moveDescriptor fd 0
      if let some (_, writing) := pipe then moveDescriptor writing 1
      r.statement { tested := duty.tested, last := true } s
    if let some fd := input then closeDescriptor fd
    if let some (_, writing) := pipe then closeDescriptor writing
    return child :: (← r.stages duty isBackground false (pipe.map (·.1)) rest)

/-- processes noted as a job that is not waited for -/
def noteBackground (processes : List Nat) : Exec Unit := do
  let _ ← addJob processes
  changeShell fun s => { s with lastJob := processes.getLast? }

/-- statements in a shell of their own, redirections included; with nothing to follow that may be this one -/
def Runner.subshell (r : Runner) (duty : Duty) (line : Nat) (body : Statement) (redirections : List Redirection) :
    Exec Nat := do
  changeShell fun s => { s with line }
  let run : Exec Nat := do
    r.redirect redirections
    r.statement { tested := duty.tested, last := true } body
  if duty.last && !(← hasTraps) then run
  else waitForJob (← addJob [← r.split run])

def Runner.background (r : Runner) (line : Nat) (body : Statement) (redirections : List Redirection) : Exec Nat := do
  match body with
  | .pipeline false stages => noteBackground (← r.stages {} true true none stages)
  | _ => do
    changeShell fun s => { s with line }
    let child ← r.split do
      leaveTerminal true
      r.redirect redirections
      r.statement { last := true } body
    noteBackground [child]
  return 0

/-! ## Loops and choices -/

/-- what a round of a loop has come to -/
inductive Round where
  | done (status : Nat)
  | left

/-- one round of a loop, unless something leaves it -/
def loopRound (body : Exec Nat) : Exec Round := do
  match ← settled body with
  | .ok status => return .done status
  | .error (.leaveLoops n) => if n ≤ 1 then return .left else throw (.leaveLoops (n - 1))
  | .error (.nextRound n) => if n ≤ 1 then return .done 0 else throw (.nextRound (n - 1))
  | .error e => throw e

/-- an action as the inside of a loop -/
def inLoop (x : Exec Nat) : Exec Nat := do
  let loops ← ofShell (·.loops)
  changeShell fun s => { s with loops := loops + 1 }
  let result ← settled x
  changeShell fun s => { s with loops }
  match result with
  | .ok status => return status
  | .error e => throw e

/-- a condition looked at; nothing if the next round is asked for from within it -/
def Runner.holds (r : Runner) (until_ : Bool) (condition : Statement) : Exec (Option (Option Bool)) := do
  match ← settled (r.statement { tested := true } condition) with
  | .ok status => return some (some ((status = 0) != until_))
  | .error (.leaveLoops n) => if n ≤ 1 then return some none else throw (.leaveLoops (n - 1))
  | .error (.nextRound n) => if n ≤ 1 then return none else throw (.nextRound (n - 1))
  | .error e => throw e

/-- rounds as long as the condition holds, after a status -/
def Runner.rounds (r : Runner) (duty : Duty) (until_ : Bool) (condition body : Statement) : Nat → Nat → Exec Nat
  | 0, status => return status
  | n + 1, status => do
    match ← r.holds until_ condition with
    | none => r.rounds duty until_ condition body n status
    | some none => return status
    | some (some false) => return status
    | some (some true) => do
      match ← loopRound (r.statement { tested := duty.tested } body) with
      | .left => return 0
      | .done status => r.rounds duty until_ condition body n status

def Runner.forEach (r : Runner) (duty : Duty) (name : Octets) (body : Statement) : List Octets → Nat → Exec Nat
  | [], status => return status
  | v :: rest, _ => do
    assign name v
    match ← loopRound (r.statement { tested := duty.tested } body) with
    | .left => return 0
    | .done status => r.forEach duty name body rest status

/-- one of some patterns matches -/
def Runner.anyCovers (r : Runner) (t : Octets) : List Word → Exec Bool
  | [] => return false
  | w :: rest => do if Glob.covers (← r.pattern w) t then return true else r.anyCovers t rest

/-- the first arm with a pattern that matches -/
def Runner.chooseArm (r : Runner) (t : Octets) : List (List Word × Statement) → Exec (Option Statement)
  | [] => return none
  | (heads, body) :: rest => do
    if ← r.anyCovers t heads then return some body else r.chooseArm t rest

/-! ## Statements -/

/-- what a statement comes to, and whether its failure ends a shell that was told so -/
def Runner.outcome (r : Runner) (duty : Duty) : Statement → Exec (Nat × Bool)
  | .simple line assignments words redirections => do
    return (← r.simple duty line assignments words redirections, true)
  | .define name body => do
    changeShell fun s => { s with functions := (name, body) :: s.functions.filter (·.1 ≠ name) }
    return (0, false)
  | .pipeline negated [s] => do
    let status ← r.statement { tested := duty.tested || negated, last := duty.last && !negated } s
    return (if negated then (if status = 0 then 1 else 0) else status, false)
  | .pipeline negated stages => do
    let processes ← r.stages { tested := duty.tested || negated } false true none stages
    let status ← waitForJob (← addJob processes)
    return (if negated then (if status = 0 then 1 else 0) else status, !negated)
  | .both first second => do
    let status ← r.statement { tested := true } first
    if status = 0 then return (← r.statement duty second, false) else return (status, false)
  | .either first second => do
    let status ← r.statement { tested := true } first
    if status = 0 then return (status, false) else return (← r.statement duty second, false)
  | .sequence statements => do
    let mut status := 0
    for (s, left) in statements.zip (List.range statements.length).reverse do
      status ← r.statement (if left = 0 then duty else { tested := duty.tested }) s
    return (status, false)
  | .background line body redirections => do return (← r.background line body redirections, true)
  | .choice condition first second => do
    let status ← r.statement { tested := true } condition
    return (← r.statement duty (if status = 0 then first else second), false)
  | .repeated until_ condition body => do
    return (← inLoop (r.rounds duty until_ condition body manyTimes 0), false)
  | .each line name words body => do
    changeShell fun s => { s with line }
    let values ← match words with
      | none => ofShell (·.args)
      | some words => do pure (← words.mapM r.expand).flatten
    return (← inLoop (r.forEach duty name body values 0), false)
  | .cases line subject arms => do
    changeShell fun s => { s with line }
    let t ← r.joined subject
    match ← r.chooseArm t arms with
    | none => return (0, false)
    | some (.sequence []) => return (0, false)
    | some body => return (← r.statement duty body, false)
  | .subshell line body redirections => do return (← r.subshell duty line body redirections, true)
  | .redirected line body redirections => do
    changeShell fun s => { s with line }
    let run (_ : Undo) (outcome : Except Nat Unit) : Exec (Nat × Bool) := do
      match outcome with
      | .ok () => return (← r.statement { tested := duty.tested } body, false)
      | .error status => return (status, true)
    r.redirecting redirections run (pure false)

/-- a statement carried out -/
def Runner.run (r : Runner) (duty : Duty) (s : Statement) : Exec Nat := do
  if ← hasOption 'n' then return 0
  r.attend 100
  let (status, ends) ← r.outcome duty s
  setStatus status
  r.attend 100
  if ends && status ≠ 0 && !duty.tested then
    if ← hasOption 'e' then throw (.exit status)
  return status

end RunnableDocs.Shell

/-
What a word becomes before it is used: values are put in, the result is split into fields, and fields that are patterns
become the names of files.

Only what comes out of unquoted parts is split. A word with an empty quoted part is still one field, but the arguments
of a script, alone in quotes, are as many fields as there are arguments (`fields`).
-/
import RunnableDocs.Shell.Arithmetic
import RunnableDocs.Shell.Jobs
import RunnableDocs.Shell.Pattern
import RunnableDocs.Shell.Variables

namespace RunnableDocs.Shell

open Machine (Exec Stop State)
open Machine.Exec

/-! ## Home directories -/

/-- the homes of the users that a system has -/
def homes : List (String × String) :=
  [("root", "/root"), ("daemon", "/usr/sbin"), ("bin", "/bin"), ("sys", "/dev"), ("sync", "/bin"),
    ("games", "/usr/games"), ("man", "/var/cache/man"), ("lp", "/var/spool/lpd"), ("mail", "/var/mail"),
    ("news", "/var/spool/news"), ("uucp", "/var/spool/uucp"), ("proxy", "/bin"), ("www-data", "/var/www"),
    ("backup", "/var/backups"), ("list", "/var/list"), ("irc", "/run/ircd"), ("_apt", "/nonexistent"),
    ("nobody", "/nonexistent")]

/-- the home that a name behind a tilde stands for -/
def homeOf (own : Option Octets) (name : Octets) : Option Octets :=
  if name = [] then own else (homes.lookup (String.ofList name)).map String.toList

/-- the parts of a text whose tildes are replaced by homes: at its start, and behind colons if they count. More of the
word may follow, and then a name at the end is none. -/
def withHomes (own : Option Octets) (colons more : Bool) : Nat → Bool → Octets → Word
  | 0, _, t => [.text t false]
  | _ + 1, _, [] => []
  | n + 1, true, '~' :: t =>
    let name := t.takeWhile fun c => c ≠ '/' && !(colons && c = ':')
    let rest := t.drop name.length
    match (if rest = [] && more then none else homeOf own name) with
    | some home => .text home (home ≠ []) :: withHomes own colons more n false rest
    | none => .text ['~'] false :: withHomes own colons more n false t
  | n + 1, _, c :: t => .text [c] false :: withHomes own colons more n (colons && c = ':') t

/-- a word whose tildes are replaced by homes; where those behind colons count, they count also in words that stand for
missing values -/
def replaceTildes (own : Option Octets) (colons : Bool) : Bool → Word → Word
  | _, [] => []
  | start, .text t false :: rest =>
    let parts := withHomes own colons (!rest.isEmpty) (t.length + 1) start t
    (if parts = [] then [.text t false] else parts) ++ replaceTildes own colons (colons && t.getLast? = some ':') rest
  | _, .parameter name (.orElse colon w) false :: rest =>
    .parameter name (.orElse colon (if colons then replaceTildes own colons true w else w)) false ::
      replaceTildes own colons false rest
  | _, .parameter name (.andThen colon w) false :: rest =>
    .parameter name (.andThen colon (if colons then replaceTildes own colons true w else w)) false ::
      replaceTildes own colons false rest
  | _, p :: rest => p :: replaceTildes own colons false rest
termination_by _ w => sizeOf w

def tildesReplaced (colons : Bool) (w : Word) : Exec Word := do
  let mayHold := w.any fun
    | .text t false => t.contains '~'
    | .parameter _ .value _ => false
    | .parameter _ _ false => colons
    | _ => false
  if mayHold then
    return Reader.joined (replaceTildes (← value? "HOME".toList) colons true w)
  else return w

/-! ## Values -/

def ifs : Exec Octets := return (← value? "IFS".toList).getD [' ', '\t', '\n']

/-- the letters of the options that are set, in the order in which they are told -/
def optionLetters : Exec Octets := do
  let set ← ofShell (·.options)
  return "pubaCEVvxsnmiIfe".toList.filter set.contains

/-- the value of a parameter -/
def parameter? (name : Octets) : Exec (Option Octets) := do
  let s ← ofShell id
  match name with
  | ['#'] => return some (Octets.ofNat s.args.length)
  | ['?'] => return some (Octets.ofNat s.status)
  | ['$'] => return some (Octets.ofNat s.process)
  | ['!'] => return s.lastJob.map Octets.ofNat
  | ['-'] => return some (← optionLetters)
  | ['0'] => return some s.name
  | ['@'] => return some ([' '].intercalate s.args)
  | ['*'] => return some (((← ifs).take 1).intercalate s.args)
  | name =>
    if name.all Char.isDigit then return s.args[(Octets.toNat? name).getD 0 - 1]?
    else value? name

def charItems (t : Octets) (quoted : Bool) : List Item := t.map fun c => .char c quoted (!quoted)

/-- the arguments put into a word -/
def argumentItems (name : Octets) (quoted : Bool) : Exec (List Item) := do
  let args ← ofShell (·.args)
  if quoted && name = ['*'] then return charItems (((← ifs).take 1).intercalate args) true
  else
    let each := args.map fun a => if quoted then .something :: charItems a true else charItems a false
    return [.cut].intercalate each

/-- the octets of items that are not split, marked as quoted or not; what would part fields is only a mark then -/
def marked (mark : Octets) (items : List Item) : List Marked := items.flatMap fun
  | .char c quoted _ => [(c, quoted)]
  | .cut => mark.map (·, true)
  | .something => []

def Runner.unsplit (r : Runner) (w : Word) : Exec (List Marked) := do
  let items ← r.items w
  return marked ((← ifs).take 1) items

def Runner.flat (r : Runner) (w : Word) : Exec Octets := return (← r.unsplit w).map (·.1)

def Runner.pattern (r : Runner) (w : Word) : Exec (List Glob) := do
  return Glob.ofField (← r.unsplit (← tildesReplaced false w))

/-- what statements print, without the line breaks at its end -/
def Runner.outputOf (r : Runner) (body : Statement) : Exec Octets := do
  match body with
  | .sequence [] => return []
  | _ => do
    let (reading, writing) ← openPipe
    let child ← r.split do
      closeDescriptor reading
      moveDescriptor writing 1
      r.statement { last := true } body
    closeDescriptor writing
    let job ← addJob [child]
    let o := (← readAll reading manyTimes []).filter (· ≠ '\x00')
    closeDescriptor reading
    let status ← waitForJob job
    changeShell fun s => { s with outputStatus := status }
    return (o.reverse.dropWhile (· = '\n')).reverse

/-- the number that the value of a variable writes, in the base that its first digits tell -/
def Sum.ofValue (t : Octets) : Except Sum.Error Int :=
  let body := Octets.trim t
  let (negative, digits) := match body with
    | '-' :: rest => (true, rest)
    | '+' :: rest => (false, rest)
    | rest => (false, rest)
  if body = [] then .ok 0
  else match Sum.numberOf? digits with
    | some v => .ok (if negative then -v else v)
    | none => .error (.badNumber t)

/-- the value of an arithmetic expression -/
def evaluate (text : Octets) : Exec Int := do
  let bindings ← ofShell (·.bindings)
  let value (name : Octets) : Except Sum.Error Int :=
    match (bindings.find? (·.name = name)).bind (·.value) with
    | none => .ok 0
    | some t => Sum.ofValue t
  match (Sum.ofText text).bind fun e => (Sum.work e).run { value } with
  | .ok (v, scope) => do
    for (name, v) in scope.changed.reverse do assign name (Octets.ofInt v)
    return v
  | .error (.badNumber t) => refuse s!"Illegal number: {t.shown}"
  | .error e => refuse s!"arithmetic expression: {e.message}: \"{text.shown}\""

/-- the items of the arguments cut at one end; where they are kept apart, only the first of those seen from there counts -/
def trimmedItems (side : Side) (longest : Bool) (g : List Glob) (name : Octets) (quoted : Bool) (value : Octets) :
    Exec (List Item) := do
  let args ← ofShell (·.args)
  let apart := name = ['@'] && quoted
  let t := if apart then ['\x00'].intercalate args else value
  let cut := match side with
    | .front => Glob.cutFront g longest t
    | .back => Glob.cutBack g longest t
  if apart then
    return [.cut].intercalate ((Text.splitOn '\x00' cut).map fun a => .something :: charItems a true)
  else return charItems cut quoted

/-- what a parameter becomes -/
def Runner.parameterItems (r : Runner) (name : Octets) (use : Use) (quoted : Bool) : Exec (List Item) := do
  let value ← parameter? name
  let all := name = ['@'] || name = ['*']
  let present (colon : Bool) : Bool := if colon then value.any (· ≠ []) else value.isSome
  let itself : Exec (List Item) := if all then argumentItems name quoted else return charItems (value.getD []) quoted
  let checked : Exec (List Item) := do
    if value.isNone && !all && (← hasOption 'u') then refuse s!"{name.shown}: parameter not set"
    itself
  let unfolded (w : Word) : Exec Word := if quoted then pure w else tildesReplaced false w
  let word (w : Word) : Exec (List Item) := do
    return (← r.items (← unfolded w)).map fun
      | .char c q s => .char c q (s || !q)
      | item => item
  match use with
  | .value => checked
  | .bad => refuse "Bad substitution"
  | .length => do
    let _ ← checked
    return charItems (Octets.ofNat (value.getD []).length) quoted
  | .orElse colon w => if present colon then itself else word w
  | .andThen colon w => if present colon then word w else return []
  | .assign colon w =>
    if present colon then itself
    else do
      let v ← r.flat (← unfolded w)
      checkName name
      assign name v
      return charItems v quoted
  | .require colon w =>
    if present colon then itself
    else do
      let message ← r.flat (← tildesReplaced false w)
      if w = [] then refuse (name.shown ++ (if colon then ": parameter not set or null" else ": parameter not set"))
      else refuse s!"{name.shown}: {message.shown}"
  | .trim side longest w => do
    let _ ← checked
    trimmedItems side longest (← r.pattern w) name quoted (value.getD [])

/-- what one part of a word becomes -/
def Runner.partItems (r : Runner) : Part → Exec (List Item)
  | .text t quoted => return (if quoted then [.something] else []) ++ t.map fun c => .char c quoted false
  | .parameter name use quoted => r.parameterItems name use quoted
  | .output body quoted => return charItems (← r.outputOf body) quoted
  | .arithmetic e quoted => do return charItems (Octets.ofInt (← evaluate (← r.flat e))) quoted

def Runner.wordItems (r : Runner) (w : Word) : Exec (List Item) := return (← w.mapM r.partItems).flatten

/-! ## Fields -/

/-- the fields found so far, the last one first, and the one that is being read -/
structure Splitting where
  done : List (List Marked) := []
  current : List Marked := []
  started : Bool := false
  /-- the field before ended with white space, which may belong to a mark behind it -/
  spaced : Bool := false

def Splitting.finish (s : Splitting) : Splitting :=
  if s.started then { done := s.current.reverse :: s.done } else { done := s.done }

def Splitting.step (marks : Octets) (s : Splitting) : Item → Splitting
  | .something => { s with started := true }
  | .cut => s.finish
  | .char c quoted splits =>
    if splits && marks.contains c then
      if c = ' ' || c = '\t' || c = '\n' then
        if s.started then { s.finish with spaced := true } else s
      else if s.started then s.finish
      else if s.spaced then { s with spaced := false }
      else { s with done := [] :: s.done }
    else { s with current := (c, quoted) :: s.current, started := true, spaced := false }

/-- the fields that items are split into -/
def fields (marks : Octets) (items : List Item) : List (List Marked) :=
  (items.foldl (Splitting.step marks) {}).finish.done.reverse

/-! ## File names -/

/-- the names below a place that match, each behind what leads to it -/
def matching (w : World) (found : Octets × Location) (g : List Glob) : List (Octets × Location) :=
  let dots : List (Octets × Location) := [(['.'], found.2), (['.', '.'], found.2.dropLast)]
  let names := (w.childrenAt found.2).map fun n => (Octets.ofText n, found.2 ++ [n])
  (dots ++ names).filterMap fun (o, place) =>
    let hidden := o.head? = some '.' && g.head? ≠ some (.literal '.')
    if !hidden && Glob.covers g o then some (found.1 ++ o, place) else none

/-- the pieces of a field between slashes -/
def segments (field : List Marked) : List (List Marked) :=
  field.foldr (fun m acc => match acc with
    | [] => [[m]]
    | s :: rest => if m.1 = '/' then [] :: s :: rest else (m :: s) :: rest) [[]]

/-- the ways on from what has been found, through one more piece of a pattern -/
def follow (w : World) (last : Bool) (found : List (Octets × Location)) (segment : List Marked) :
    List (Octets × Location) :=
  let text := segment.map (·.1)
  let slash : Octets := if last then [] else ['/']
  let g := Glob.ofField segment
  if segment = [] || text = ['.'] then found.map fun f => (f.1 ++ text ++ slash, f.2)
  else if text = ['.', '.'] then found.map fun f => (f.1 ++ text ++ slash, f.2.dropLast)
  else
    let next := if Glob.isWild g then found.flatMap (matching w · g)
      else found.map fun f => (f.1 ++ text, f.2 ++ [Octets.toText text])
    (next.filter fun f => (w.find? f.2).isSome && (last || w.isDirectoryAt f.2)).map fun f => (f.1 ++ slash, f.2)

/-- where the pieces of a pattern start, with the pieces to go from there -/
def beginning (w : World) (absolute : Bool) (pieces : List (List Marked)) :
    Option (Octets × Location × List (List Marked)) :=
  if absolute then some (['/'], [], pieces.drop 1)
  else match w.cwd, w.wayOut with
    | some stand, _ => some ([], stand, pieces)
    | none, none => none
    | none, some (above, steps) =>
      let texts := pieces.map fun piece => piece.map (·.1)
      (World.behindSteps steps texts).map fun rest =>
        let up := texts.take (texts.length - rest.length)
        (up.flatMap (· ++ ['/']), above, pieces.drop up.length)

/-- the files whose names a field matches -/
def filesMatching (w : World) (field : List Marked) : List Octets :=
  let absolute := field.head?.map (·.1) = some '/'
  match beginning w absolute (segments field) with
  | none => []
  | some (start, place, pieces) =>
    let found := pieces.dropLast.foldl (follow w false) [(start, place)]
    let all := pieces.getLast?.toList.foldl (follow w true) found
    Text.sorted (all.map (·.1))

/-- a field as the files whose names it matches, or as it is -/
def globbed (field : List Marked) : Exec (List Octets) := do
  let text := field.map (·.1)
  if !Glob.isWild (Glob.ofField field) then return [text]
  else if ← hasOption 'f' then return [text]
  else
    match filesMatching (← lookWorld id) field with
    | [] => return [text]
    | names => return names

/-- the fields that a word becomes -/
def Runner.expand (r : Runner) (w : Word) : Exec (List Octets) := do
  let items ← r.items (← tildesReplaced false w)
  return (← (fields (← ifs) items).mapM globbed).flatten

/-- a word that stays one text -/
def Runner.joined (r : Runner) (w : Word) : Exec Octets := do r.flat (← tildesReplaced false w)

/-- the value that a word gives to a variable -/
def Runner.valueOf (r : Runner) (w : Word) : Exec Octets := do r.flat (← tildesReplaced true w)

/-- the fields that an argument becomes; where assignments are taken, one of them is not split -/
def Runner.argument (r : Runner) (takesAssignments : Bool) (w : Word) : Exec (List Octets) := do
  match (if takesAssignments then Reader.assignment? w else none) with
  | some (name, value) => return [name ++ '=' :: (← r.valueOf value)]
  | none => r.expand w

end RunnableDocs.Shell

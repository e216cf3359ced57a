/-
Options: those of the commands that are part of a shell, and those of the shell itself.

Letters may stand together behind one dash; a letter that takes an argument takes the rest of its group, or else what
comes next. Two dashes end the options.
-/
import RunnableDocs.Shell.Variables

namespace RunnableDocs.Shell

open Machine (Exec)
open Machine.Exec

/-! ## Options of commands -/

/-- what is known of a letter: whether it takes an argument -/
def takesArgument? (known : Octets) (letter : Char) : Option Bool :=
  match known.dropWhile (· ≠ letter) with
  | _ :: ':' :: _ => some true
  | _ :: _ => some false
  | [] => none

/-- the options at the start of some arguments, each with the argument that it takes, and what follows them. The letters
known are given like this: a colon behind one says that it takes an argument. -/
def readOptions (known : String) : Nat → List Octets → Exec (List (Char × Octets) × List Octets)
  | 0, args => return ([], args)
  | n + 1, args =>
    let letter (c : Char) (more : Octets) (rest : List Octets) : Exec (List (Char × Octets) × List Octets) := do
      match (if c = ':' then none else takesArgument? known.toList c) with
      | none => refuse s!"Illegal option -{c}"
      | some false => do
        if more.head? = some '-' then refuse "Illegal option --"
        let (options, rest) ← readOptions known n (if more = [] then rest else ('-' :: more) :: rest)
        return ((c, []) :: options, rest)
      | some true =>
        match more, rest with
        | [], [] => refuse s!"No arg for -{c} option"
        | [], a :: rest => do
          let (options, rest) ← readOptions known n rest
          return ((c, a) :: options, rest)
        | a, rest => do
          let (options, rest) ← readOptions known n rest
          return ((c, a) :: options, rest)
    match args with
    | ['-', '-'] :: rest => return ([], rest)
    | ('-' :: c :: more) :: rest => letter c more rest
    | _ => return ([], args)

/-- the options at the start of the arguments of a command -/
def optionsOf (known : String) (args : List Octets) : Exec (List (Char × Octets) × List Octets) :=
  readOptions known (args.foldl (fun n a => n + a.length + 1) 1) args

/-! ## Options of the shell -/

/-- the options by their long names, with the letters under which they are kept -/
def shellOptions : List (String × Char) :=
  [("errexit", 'e'), ("noglob", 'f'), ("ignoreeof", 'I'), ("interactive", 'i'), ("monitor", 'm'), ("noexec", 'n'),
    ("stdin", 's'), ("xtrace", 'x'), ("verbose", 'v'), ("vi", 'V'), ("emacs", 'E'), ("noclobber", 'C'),
    ("allexport", 'a'), ("notify", 'b'), ("nounset", 'u'), ("privileged", 'p'), ("nolog", '1'), ("debug", '2')]

/-- an option set or taken back; there is no terminal for which jobs could be controlled -/
def setOption (on : Bool) (letter : Char) : Exec Unit := do
  if on && letter = 'm' then warn "can't access tty; job control turned off"
  else changeShell fun s =>
    let others := s.options.filter (· ≠ letter)
    { s with options := if on then letter :: others else others }

def setNamedOption (on : Bool) (name : Octets) : Exec Unit := do
  match shellOptions.lookup (String.ofList name) with
  | some letter => setOption on letter
  | none => refuse s!"Illegal option -o {name.shown}"

/-- all options told, as a table or as the commands that would set them so -/
def listOptions (asTable : Bool) : Exec Unit := do
  let set ← ofShell (·.options)
  if asTable then print "Current option settings\n".toList
  for (name, letter) in shellOptions do
    let on := set.contains letter
    if asTable then
      let fill := String.ofList (List.replicate (16 - name.length) ' ')
      print (name ++ fill ++ (if on then "on\n" else "off\n")).toList
    else print ("set " ++ (if on then "-o " else "+o ") ++ name ++ "\n").toList

/-- what the arguments of a shell, or of the command that sets its options, begin with -/
structure Heeded where
  rest : List Octets
  /-- two dashes ended the options -/
  dashes : Bool := false
  /-- the script is given as an argument -/
  isCommand : Bool := false

/-- options set by letters and names up to the first argument that is none -/
def heedOptions (atStart : Bool) : Nat → Heeded → Exec Heeded
  | 0, h => return h
  | n + 1, h => do
    match h.rest with
    | [] => return h
    | arg :: rest =>
      match arg with
      | ['-'] => do
        if !atStart then
          changeShell fun s => { s with options := s.options.filter fun c => c ≠ 'x' && c ≠ 'v' }
        return { h with rest }
      | ['-', '-'] => return { h with rest, dashes := true }
      | sign :: letters =>
        if sign ≠ '-' && sign ≠ '+' then return h
        else
          let mut h := { h with rest }
          for c in letters do
            if c = 'c' && atStart then h := { h with isCommand := true }
            else if c = 'l' && atStart then pure ()
            else if c = 'o' then
              match h.rest with
              | [] => listOptions (sign = '-')
              | name :: rest => do
                setNamedOption (sign = '-') name
                h := { h with rest }
            else if c.isDigit || !shellOptions.any (·.2 = c) then refuse s!"Illegal option -{c}"
            else setOption (sign = '-') c
          heedOptions atStart n h
      | [] => return h

end RunnableDocs.Shell

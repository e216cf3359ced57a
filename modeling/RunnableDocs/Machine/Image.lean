/-
What a path becomes when it is to run: a program of the system with its arguments.

A file that begins with two marks names its interpreter in its first line, of which only so much is looked at; the
interpreter may be such a file again, a few times over.
-/
import RunnableDocs.Text.Octets
import RunnableDocs.World

namespace RunnableDocs.Machine

/-- a program of the system, the name by which it is called, and its arguments -/
structure Image where
  tool : Text
  called : Octets
  args : List Octets
  deriving DecidableEq, Repr

namespace Image

/-- the octets of a file that are looked at -/
def headSize : Nat := 256

def isBlank (c : Char) : Bool := c = ' ' || c = '\t'

def endsName (c : Char) : Bool := isBlank c || c = '\x00'

def trimEnd (t : Octets) : Octets := (t.reverse.dropWhile isBlank).reverse

/-- the interpreter that a file names in its first line, and the argument for it. A line that is cut may lose of the
argument, but not of the name. -/
def interpreter? (content : Octets) : Option (Octets × Option Octets) :=
  let head := content.take headSize ++ List.replicate (headSize - content.length) '\x00'
  match head with
  | '#' :: '!' :: rest =>
    let isWhole := rest.contains '\n'
    let line := if isWhole then rest.takeWhile (· ≠ '\n') else rest.dropLast
    let start := line.dropWhile isBlank
    if !isWhole && !(rest.dropWhile isBlank).any endsName then none
    else
      let line := trimEnd start
      let name := line.takeWhile (!endsName ·)
      let after := line.drop name.length
      let arg := if after.head? = some '\x00' then [] else (after.dropWhile isBlank).takeWhile (· ≠ '\x00')
      if name = [] then none else some (name, if arg = [] then none else some arg)
  | _ => none

/-- so many files may lead from one to the next -/
def maxLinks : Nat := 5

def load (w : World) : Nat → Octets → Octets → List Octets → Except SystemError Image
  | 0, _, _, _ => .error .tooManyLevels
  | n + 1, path, called, args => do
    match ← w.at? (Octets.toText path) with
    | .tool tool => .ok { tool, called, args }
    | .file content mode =>
      if mode &&& 0o111 = 0 then .error .accessDenied
      else match interpreter? (Octets.ofBytes (content.take headSize)) with
        | none => .error .notExecutable
        | some (name, arg) => load w n name name (arg.toList ++ path :: args)
    | _ => .error .accessDenied

/-- an argument may not be longer than this -/
def maxArgument : Nat := 131071

/-- the program at a path -/
def ofPath (w : World) (path called : Octets) (args : List Octets) : Except SystemError Image :=
  if args.any (maxArgument < ·.length) then .error .argumentsTooLong else load w (maxLinks + 1) path called args

/-- where programs are looked for unless something else is asked for -/
def defaultSearchPath : Octets := "/usr/local/sbin:/usr/local/bin:/usr/sbin:/usr/bin:/sbin:/bin".toList

/-- the paths that a name may stand for, in the order of a search path -/
def candidates (search name : Octets) : List Octets :=
  (Text.splitOn ':' search).map fun dir => if dir = [] then name else dir ++ '/' :: name

/-- the refusals that another candidate may make good -/
def isPassedOver (e : SystemError) : Bool := e = .noEntry || e = .notDirectory || e = .accessDenied

/-- the first of some paths that can be run; else why none can: that access is denied counts more than that there is
nothing -/
def firstOf (load : Octets → Except SystemError Image) (denied : Bool) : List Octets → Except SystemError Image
  | [] => .error (if denied then .accessDenied else .noEntry)
  | path :: rest =>
    match load path with
    | .ok i => .ok i
    | .error e => if isPassedOver e then firstOf load (denied || e = .accessDenied) rest else .error e

/-- a program by its name: a path if there is a slash in it, else found in a search path -/
def findWith (load : Octets → Except SystemError Image) (search name : Octets) : Except SystemError Image :=
  if name = [] then .error .noEntry
  else if name.contains '/' then load name
  else if World.maxNameLength < name.length then .error .nameTooLong
  else firstOf load false (candidates search name)

def find (w : World) (search name : Octets) (args : List Octets) : Except SystemError Image :=
  findWith (ofPath w · name args) search name

/-- a path that is to be run: what is not made for the system is a script -/
def orScript (w : World) (path called : Octets) (args : List Octets) : Except SystemError Image :=
  match ofPath w path called args with
  | .error .notExecutable => .ok { tool := "sh".toList, called := "/bin/sh".toList, args := path :: args }
  | found => found

end Image
end RunnableDocs.Machine

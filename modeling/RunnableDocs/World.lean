/-
The world that programs run in: a tree of files, and the directory that the process stands in.

The tree is kept as a list of places with what is there. `find?` looks a place up, and every change is told by what it
does to `find?` (`find?_put`, `find?_remove`). A process whose directory is removed stands nowhere (`cwd = none`); from
there only paths that lead up out of what was removed lead anywhere (`wayOut`). No path leads through a symbolic link:
there are none in the tree. Making and removing directories takes several steps, and those taken before a refusal stay.
-/
import RunnableDocs.Path
import RunnableDocs.Text.Utf8

namespace RunnableDocs

open Text (Bytes)

/-- a place in the tree: the names that lead to it from the root -/
abbrev Location := List Text

inductive Device where
  /-- takes everything and holds nothing -/
  | null
  /-- takes everything and holds zero bytes without end -/
  | zero
  /-- takes nothing and holds zero bytes without end -/
  | full
  /-- a terminal that there is not -/
  | terminal
  /-- whatever the descriptor of this number of the process that asks leads to -/
  | descriptor (n : Nat)
  deriving DecidableEq, Repr

/-- what is at a place -/
inductive Entry where
  | directory
  | file (content : Bytes) (mode : Nat)
  | device (d : Device)
  /-- a program that belongs to the system -/
  | tool (name : Text)
  deriving DecidableEq, Repr

/-- an entry at its place -/
structure Placed where
  place : Location
  entry : Entry
  /-- how many names lead to the place -/
  depth : Nat := place.length
  /-- when it was changed last, in milliseconds since an agreed moment -/
  changed : Int := 0
  /-- the permissions, if it is a directory -/
  mode : Nat := 0o755
  deriving DecidableEq, Repr

structure World where
  entries : List Placed := []
  /-- where the process stands, unless that was removed -/
  cwd : Option Location := some []
  /-- where the way up from a removed directory comes out: a directory that is left, and how many steps lead to it -/
  wayOut : Option (Location × Nat) := none
  /-- how many temporary directories have been made -/
  temporaries : Nat := 0
  /-- the time, in milliseconds since an agreed moment -/
  now : Int := 0
  deriving DecidableEq, Repr

namespace World

/-- the first entry of this depth for a place -/
def findIn (depth : Nat) (place : Location) : List Placed → Option Placed
  | [] => none
  | e :: rest => if e.depth = depth && e.place = place then some e else findIn depth place rest

def placed? (w : World) (place : Location) : Option Placed := findIn place.length place w.entries

/-- what is at a place; the root is always a directory -/
def find? (w : World) (place : Location) : Option Entry :=
  if place = [] then some .directory else (w.placed? place).map (·.entry)

def isDirectoryAt (w : World) (place : Location) : Bool := w.find? place = some .directory

/-- an entry is not the one at this place -/
def isElsewhere (depth : Nat) (place : Location) (e : Placed) : Bool := !(e.depth = depth && e.place = place)

/-- the entry put at a place, in the stead of what was there -/
def put (w : World) (place : Location) (e : Entry) : World :=
  { w with entries :=
      { place, entry := e, changed := w.now } :: w.entries.filter (isElsewhere place.length place) }

/-- the way out for a process when some places go; the directory that they were in is left -/
def wayOutAfter (w : World) (left : Location) (isGone : Location → Bool) : Option (Location × Nat) :=
  match w.cwd, w.wayOut with
  | some stand, _ => if isGone stand then some (left, stand.length - left.length) else none
  | none, some (above, steps) =>
    if isGone above then some (left, steps + (above.length - left.length)) else some (above, steps)
  | none, none => none

/-- a place and everything below it removed; a process that stands there stands nowhere from then on -/
def remove (w : World) (place : Location) : World :=
  { w with
    entries := w.entries.filter fun e => !place.isPrefixOf e.place
    cwd := w.cwd.filter fun stand => !place.isPrefixOf stand
    wayOut := w.wayOutAfter place.dropLast place.isPrefixOf }

/-- how many steps lead up from a place that may be gone, and to which directory -/
def wayUp (w : World) (place : Location) : Location × Nat :=
  let above := (List.range (place.length + 1)).reverse.map place.take
  match above.find? w.isDirectoryAt with
  | some left => (left, place.length - left.length)
  | none => ([], place.length)

theorem findIn_elsewhere (place q : Location) (entries : List Placed) :
    findIn q.length q (entries.filter (isElsewhere place.length place)) =
      if q = place then none else findIn q.length q entries := by
  induction entries with
  | nil => simp [findIn]
  | cons e rest ih =>
    by_cases hq : q = place
    · subst hq
      by_cases hd : e.depth = q.length <;> by_cases hp : e.place = q <;>
        simp_all [isElsewhere, findIn]
    · by_cases h : e.depth = place.length ∧ e.place = place
      · simp [isElsewhere, findIn, h, ih, hq, Ne.symm hq]
      · by_cases hd : e.depth = place.length <;> simp_all [isElsewhere, findIn]

theorem findIn_remaining (place q : Location) (entries : List Placed) :
    findIn q.length q (entries.filter fun e => !place.isPrefixOf e.place) =
      if place <+: q then none else findIn q.length q entries := by
  induction entries with
  | nil => simp [findIn]
  | cons e rest ih =>
    by_cases hp : place <+: e.place
    · have hn : ¬place <+: q → e.place ≠ q := fun hq h => hq (h ▸ hp)
      by_cases hq : place <+: q <;> simp_all [List.isPrefixOf_iff_prefix, findIn]
    · have hn : place <+: q → e.place ≠ q := fun hq h => hp (h ▸ hq)
      have hb : place.isPrefixOf e.place = false := Bool.eq_false_iff.2 (mt List.isPrefixOf_iff_prefix.1 hp)
      by_cases hq : place <+: q <;> simp_all [findIn]

theorem find?_put (w : World) (place : Location) (e : Entry) (q : Location) :
    (w.put place e).find? q = if q = [] then some .directory else if q = place then some e else w.find? q := by
  by_cases hq : q = []
  · simp [find?, hq]
  · by_cases h : q = place
    · subst h; simp [find?, placed?, put, findIn, hq]
    · simp [find?, placed?, put, findIn, hq, h, Ne.symm h, findIn_elsewhere]

theorem find?_remove (w : World) (place q : Location) :
    (w.remove place).find? q = if q = [] then some .directory else if place <+: q then none else w.find? q := by
  by_cases hq : q = []
  · simp [find?, hq]
  · by_cases h : place <+: q <;> simp [find?, placed?, remove, hq, h, findIn_remaining]

/-! ## From paths to places -/

/-- the bytes that a name may have -/
def maxNameLength : Nat := 255

/-- the bytes that a path must stay below -/
def pathLimit : Nat := 4096

/-- one name further; upwards the root leads to itself -/
def step (w : World) (place : Location) (name : Text) : Except SystemError Location :=
  match w.find? place with
  | some .directory =>
    if name = ['.', '.'] then .ok place.dropLast
    else if maxNameLength < (Text.encode name).length then .error .nameTooLong
    else .ok (place ++ [name])
  | some _ => .error .notDirectory
  | none => .error .noEntry

/-- the pieces of a path behind so many steps up, if it begins with them -/
def behindSteps : Nat → List Text → Option (List Text)
  | 0, pieces => some pieces
  | n + 1, ['.'] :: pieces => behindSteps (n + 1) pieces
  | n + 1, ['.', '.'] :: pieces => behindSteps n pieces
  | _ + 1, _ => none

/-- where a path starts, and the path to go from there -/
def origin (w : World) (p : Path) : Except SystemError (Location × Path) :=
  if p.contains '\x00' then .error .nullCharacter
  else if pathLimit ≤ (Text.encode p).length then .error .nameTooLong
  else if Path.isAbsolute p then .ok ([], p)
  else match w.cwd, w.wayOut with
    | some stand, _ => if p = [] then .error .noEntry else .ok (stand, p)
    | none, none => .error .noEntry
    | none, some (above, steps) =>
      match behindSteps steps (Path.pieces p) with
      | none => .error .noEntry
      | some [] => .ok (above, ['.'])
      | some pieces => .ok (above, ['/'].intercalate pieces ++ if Path.endsInSlash p then ['/'] else [])

/-- how many steps up a path leads that stays in directories that were removed with the one that the process stands in -/
def stepsInRemoved (w : World) (p : Path) : Option Nat :=
  match w.cwd, w.wayOut with
  | none, some (_, steps) =>
    let pieces := Path.pieces p
    let up := pieces.count ['.', '.']
    if !Path.isAbsolute p && pieces ≠ [] && pieces.all Path.isDots && up < steps then some up else none
  | _, _ => none

/-- what stands for the places of removed directories: no path leads there -/
def removedPlace : Location := [[]]

/-- the place that a path names: everything on the way has to be a directory, the place itself need not exist -/
def resolve (w : World) (p : Path) : Except SystemError Location := do
  if (w.stepsInRemoved p).isSome then return removedPlace
  let (start, way) ← w.origin p
  (Path.names way).foldlM w.step start

/-- what a path names -/
def at? (w : World) (p : Path) : Except SystemError Entry := do
  if (w.stepsInRemoved p).isSome then return .directory
  match w.find? (← w.resolve p) with
  | none => .error .noEntry
  | some .directory => .ok .directory
  | some e => if Path.namesDirectory p then .error .notDirectory else .ok e

def pathExists (w : World) (p : Path) : Bool := (w.at? p).toOption.isSome

def isFile (w : World) (p : Path) : Bool :=
  match w.at? p with
  | .ok (.file _ _) => true
  | .ok (.tool _) => true
  | _ => false

def isDirectory (w : World) (p : Path) : Bool :=
  match w.at? p with
  | .ok .directory => true
  | _ => false

/-- what a path names stands for something else -/
def isLink (w : World) (p : Path) : Bool :=
  !Path.namesDirectory p && match w.at? p with
    | .ok (.device (.descriptor _)) => true
    | .ok (.tool name) => name = "sh".toList
    | _ => false

/-- the permissions of what is at a place -/
def modeAt (w : World) (place : Location) : Nat :=
  match w.find? place with
  | some (.file _ mode) => mode
  | some .directory => ((w.placed? place).map (·.mode)).getD 0o755
  | some (.device _) => 0o666
  | some (.tool _) => 0o755
  | none => 0

/-- what is known of the entry at a place changed, but for the entry itself -/
def modifyAt (w : World) (place : Location) (f : Placed → Placed) : World :=
  { w with entries := w.entries.map fun e =>
      if e.depth = place.length && e.place = place then { f e with place := e.place, entry := e.entry, depth := e.depth }
      else e }

/-- permissions given to a file or directory -/
def setMode (w : World) (place : Location) (mode : Nat) : World :=
  match w.find? place with
  | some (.file content _) =>
    let changed := ((w.placed? place).map (·.changed)).getD w.now
    (w.put place (.file content mode)).modifyAt place ({ · with changed })
  | some .directory => w.modifyAt place ({ · with mode })
  | _ => w

/-- what the entry of a directory can be called -/
def isName (name : Text) : Bool :=
  name ≠ [] && name ≠ ['.'] && name ≠ ['.', '.'] && !name.contains '/' && !name.contains '\x00' &&
    (Text.encode name).length ≤ maxNameLength

/-- going up from a place, each directory on the way is in the one above it, as far as the root -/
def isInTree (w : World) (place : Location) : Bool :=
  place.all isName && (List.range (place.length + 1)).all fun n => w.isDirectoryAt (place.take n)

/-- the path of the directory that the process stands in, as the way up from it tells, however long that is -/
def currentPath (w : World) : Except SystemError Path :=
  match w.cwd with
  | some stand => if w.isInTree stand then .ok (Path.ofNames stand) else .error .noEntry
  | none => .error .noEntry

/-! ## Reading and changing the tree -/

/-- what a program of the system holds, as far as anybody looks: it is no text -/
def toolContent : Bytes := [0x7F, 0x45, 0x4C, 0x46, 2, 1, 1, 0, 0, 0, 0, 0, 0, 0, 0, 0, 3, 0, 0x3E, 0, 1, 0, 0, 0, 0xF0, 0]

def read (w : World) (p : Path) : Except SystemError Bytes := do
  match ← w.at? p with
  | .directory => .error .isDirectory
  | .file content _ => .ok content
  | .device .terminal => .error .noDevice
  | .device _ => .ok []
  | .tool _ => .ok toolContent

/-- the directory that holds the last piece of a path, the path beginning at a place -/
def holderFrom (w : World) (start : Location) (p : Path) : Except SystemError Location := do
  let dir ← ((Path.pieces p).dropLast.filter (· ≠ ['.'])).foldlM w.step start
  match w.find? dir with
  | some .directory => .ok dir
  | some _ => .error .notDirectory
  | none => .error .noEntry

/-- the place of a file that is opened to be written, and made if it is missing -/
def placeToWrite (w : World) (p : Path) : Except SystemError Location := do
  if (w.stepsInRemoved p).isSome then throw .isDirectory
  let (start, way) ← w.origin p
  match Path.lastPiece? way with
  | none => .error .isDirectory
  | some last =>
    let dir ← w.holderFrom start way
    if Path.isDots last || Path.endsInSlash way then .error .isDirectory else w.step dir last

/-- the permissions of a file that is new: to read for all, to write for its owner -/
def newFileMode : Nat := 0o644

/-- the content of a file replaced, the file made if it is new -/
def write (w : World) (p : Path) (content : Bytes) : Except SystemError World := do
  let place ← w.placeToWrite p
  match w.find? place with
  | some .directory => .error .isDirectory
  | some (.file _ mode) => .ok (w.put place (.file content mode))
  | some (.device .terminal) => .error .noDevice
  | some (.device .full) => if content = [] then .ok w else .error .noSpace
  | some (.device _) => .ok w
  | some (.tool _) => .error .accessDenied
  | none => .ok (w.put place (.file content newFileMode))

/-- the rest of a way made, one directory after the other; `made` tells that some of it was made already, and then a
file in the way is refused as one in the stead of a directory that was to be made -/
def makeWay (made : Bool) (w : World) (place : Location) : List Text → World × Except SystemError Location
  | [] => (w, .ok place)
  | name :: rest =>
    match w.step place name with
    | .error e => (w, .error e)
    | .ok next =>
      match w.find? next with
      | some .directory => makeWay made w next rest
      | some _ => (w, .error (if made || rest = [] then .alreadyExists else .notDirectory))
      | none => makeWay true (w.put next .directory) next rest

/-- a directory and those on the way to it made; the empty path asks for nothing. A path that ends in a dot names a
directory which must be there already, and only those on the way to it are made. -/
def makeDirectories (w : World) (p : Path) : World × Except SystemError Unit :=
  if p = [] || (w.stepsInRemoved p).isSome then (w, .ok ())
  else match w.origin p with
    | .error e => (w, .error e)
    | .ok (start, rest) =>
      if Path.lastPiece? rest = some ['.'] then
        if w.isDirectory p then (w, .ok ())
        else
          let (w, way) := makeWay false w start (Path.names rest).dropLast
          (w, way.bind fun _ => (w.at? p).map fun _ => ())
      else
        let (w, way) := makeWay false w start (Path.names rest)
        (w, way.map fun _ => ())

/-- what is below a place removed; a process that stands there stands nowhere from then on -/
def clear (w : World) (place : Location) : World :=
  let isBelow (q : Location) : Bool := place.length < q.length && place.isPrefixOf q
  { w with
    entries := w.entries.filter fun e => !isBelow e.place
    cwd := w.cwd.filter fun stand => !isBelow stand
    wayOut := w.wayOutAfter place isBelow }

/-- a directory removed: what it holds goes first, and then the directory, unless the path names it by dots. A way that
leads through what has gone leads nowhere by then, and that counts as done. -/
def removeDirectory (w : World) (p : Path) : World × Except SystemError Unit :=
  match w.origin p, w.at? p, w.resolve p with
  | .ok (start, way), .ok .directory, .ok place =>
    let cleared := w.clear place
    match cleared.holderFrom start way, Path.lastPiece? p with
    | .error .noEntry, _ => (cleared, .ok ())
    | .error e, _ => (cleared, .error e)
    | .ok _, some ['.'] => (cleared, .error .invalidArgument)
    | .ok _, some ['.', '.'] => (cleared, .error .directoryInUse)
    | .ok _, _ => (w.remove place, .ok ())
  | .error _, .ok .directory, _ =>
    (w, .error (if Path.lastPiece? p = some ['.'] then .invalidArgument else .directoryInUse))
  | _, .error e, _ => (w, .error e)
  | _, _, _ => (w, .error .notDirectory)

/-- the process put into a directory -/
def changeDirectory (w : World) (p : Path) : Except SystemError World := do
  match w.stepsInRemoved p with
  | some up => return { w with wayOut := w.wayOut.map fun (above, steps) => (above, steps - up) }
  | none => match ← w.at? p with
    | .directory => .ok { w with cwd := some (← w.resolve p), wayOut := none }
    | _ => .error .notDirectory

/-- the names directly below a place, sorted -/
def childrenAt (w : World) (place : Location) : List Text :=
  let depth := place.length + 1
  Text.sorted (w.entries.filterMap fun e =>
    if e.depth = depth && place.isPrefixOf e.place then e.place.getLast? else none)

/-- everything below a place, under the names that lead on from there; a directory comes right before what it holds, and
what is in one directory is sorted -/
def treeAt (w : World) (place : Location) : List (Location × Entry) :=
  let below := w.entries.filter fun e => place.isPrefixOf e.place && place ≠ e.place
  (below.map fun e => (e.place.drop place.length, e.entry)).mergeSort fun a b => !decide (b.1 < a.1)

/-- the prefix of the names of temporary directories -/
def temporaryPrefix : Text := "doctest".toList

/-- the name of the `n`th temporary directory -/
def temporaryName (n : Nat) : Text :=
  let digits := (toString n).toList
  temporaryPrefix ++ List.replicate (6 - digits.length) '0' ++ digits

/-- where temporary directories are made -/
def temporaryPlace : Location := ["tmp".toList]

/-- nothing is at a place, nor below it -/
def isFree (w : World) (place : Location) : Bool := w.entries.all fun e => !place.isPrefixOf e.place

/-- a directory made under a name that nothing had, if there is a place for it -/
def makeTemporary (w : World) : Except SystemError (World × Path) :=
  let candidates := (List.range (w.entries.length + 1)).map (w.temporaries + ·)
  match candidates.find? fun n => w.isFree (temporaryPlace ++ [temporaryName n]) with
  | none => .error .alreadyExists
  | some n =>
    match w.step temporaryPlace (temporaryName n) with
    | .error e => .error e
    | .ok place => .ok ({ w.put place .directory with temporaries := n + 1 }, Path.ofNames place)

end World
end RunnableDocs

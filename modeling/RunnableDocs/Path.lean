/-
Paths as they are written.

Joining appends a relative path behind one slash and lets an absolute one replace what stands before it. The names of a
path are what stands between its slashes, apart from the empty ones and the single dots; its last name is its file name
unless it points upwards. A path has a parent if it has a name.
-/
import RunnableDocs.Failure

namespace RunnableDocs.Path

def isAbsolute (p : Path) : Bool := p.head? = some '/'

/-- `q` as seen from `p`; joining an empty path leaves a slash at the end -/
def join (p q : Path) : Path :=
  if isAbsolute q || p = [] then q
  else if p.getLast? = some '/' then p ++ q
  else p ++ '/' :: q

/-- the names of a path, in order -/
def names (p : Path) : List Text := (Text.splitOn '/' p).filter fun name => name ≠ [] && name ≠ ['.']

/-- a path that ends in a slash, or in a dot after one, can only name a directory -/
def namesDirectory (p : Path) : Bool :=
  match (Text.splitOn '/' p).getLast? with
  | some last => last = [] || last = ['.'] || last = ['.', '.']
  | none => false

/-- what stands between the slashes of a path, dots included -/
def pieces (p : Path) : List Text := (Text.splitOn '/' p).filter (· ≠ [])

/-- the last piece of a path -/
def lastPiece? (p : Path) : Option Text := (pieces p).getLast?

def endsInSlash (p : Path) : Bool := p.getLast? = some '/'

/-- a piece that names no entry of its own: it stands for the directory it is in, or for the one above -/
def isDots (piece : Text) : Bool := piece = ['.'] || piece = ['.', '.']

/-- the path without its last name; nothing stands before the root and before nothing -/
def parent? (p : Path) : Option Path :=
  let first := if isAbsolute p then ['/'] else []
  let kept := (pieces p).zipIdx.filter fun (piece, index) => piece ≠ ['.'] || (index = 0 && !isAbsolute p)
  if kept = [] then none else some (first ++ ['/'].intercalate (kept.dropLast.map (·.1)))

def fileName? (p : Path) : Option Text :=
  match (names p).getLast? with
  | none => none
  | some name => if name = ['.', '.'] then none else some name

/-- a name without what follows its last dot; a dot at its start does not count -/
def stemOf (name : Text) : Text :=
  match (name.reverse.dropWhile (· ≠ '.')) with
  | [] => name
  | [_] => name
  | _ :: before => before.reverse

/-- the file name without its extension -/
def stem? (p : Path) : Option Text := (fileName? p).map stemOf

/-- the absolute path of a place in the file system, given by the names that lead to it -/
def ofNames : List Text → Path
  | [] => ['/']
  | names => names.flatMap ('/' :: ·)

end RunnableDocs.Path

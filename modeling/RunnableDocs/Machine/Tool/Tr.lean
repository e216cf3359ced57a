/-
Octets replaced, left out, or kept once where they are repeated.
-/
import RunnableDocs.Machine.Tool.CharacterSet
import RunnableDocs.Machine.Tool.Head

namespace RunnableDocs.Machine.Tool.Tr

open Exec

/-- how many octets parts stand for -/
def size (parts : List Part) : Nat := (parts.map fun
  | .repeated _ n => n
  | p => p.members.length).foldl (· + ·) 0

def members (parts : List Part) : Octets := parts.flatMap Part.members

/-- all octets but those of a set -/
def complement (set : Octets) : Octets := Part.all.filter (!set.contains ·)

/-- what is repeated as often as needed repeated so often that this many come out -/
def filledUp (wanted : Nat) (parts : List Part) : List Part :=
  let missing := wanted - size parts
  parts.flatMap fun
    | .repeated c 0 => if missing = 0 then [] else [.repeated c missing]
    | .repeated c n => [.repeated c (min n (wanted + 1))]
    | p => [p]

/-- letters of one case are two kinds of things at the same time: as many members, or one thing that must meet another -/
inductive Thing where
  | octet (c : Char)
  | letters (capital : Bool)
  deriving DecidableEq, Repr

def thingsOf (p : Part) : List Thing :=
  match p.case? with
  | some capital => [.letters capital]
  | none => p.members.map .octet

/-- the letters of one case in order -/
def lettersOf (capital : Bool) : Octets := Part.classMembers (if capital then "upper".toList else "lower".toList)

/-- why two sets do not go together -/
abbrev Misfit := String

/-- two sets side by side: what is replaced by what, and what is left of each -/
def paired : Nat → List Thing → List Thing → Except Misfit (List (Char × Char) × List Thing × List Thing)
  | 0, a, b => .ok ([], a, b)
  | n + 1, a, b =>
    match a, b with
    | .letters from_ :: a, .letters into :: b => do
      let (pairs, rest) ← paired n a b
      return ((lettersOf from_).zip (lettersOf into) ++ pairs, rest)
    | .octet _ :: _, .letters _ :: _ => .error "misaligned [:upper:] and/or [:lower:] construct"
    | .letters capital :: a, .octet d :: b => paired n ((lettersOf capital).map .octet ++ a) (.octet d :: b)
    | .octet c :: a, .octet d :: b => do
      let (pairs, rest) ← paired n a b
      return ((c, d) :: pairs, rest)
    | a, b => .ok ([], a, b)

/-- the octet that a set may be continued with -/
def lastOf? : List Part → Option Char
  | [] => none
  | [p] => p.members.getLast?
  | _ :: rest => lastOf? rest

/-- what is left of the first set replaced by the last octet of the second -/
def continued (pairs : List (Char × Char)) (left : List Thing) (target : List Part) :
    Except Misfit (List (Char × Char)) :=
  let isClass := target.getLast?.any Part.isClass
  match lastOf? target with
  | none => .error "when not truncating set1, string2 must be non-empty"
  | some c =>
    if isClass then
      .error "when translating with string1 longer than string2,\nthe latter string must not end with a character class"
    else
      let more := left.flatMap fun
        | .octet c => [c]
        | .letters capital => lettersOf capital
      .ok (pairs ++ more.map (·, c))

/-- what is replaced by what, if sets go together -/
def replacements (isComplement truncates : Bool) (first second : List Part) :
    Except Misfit (List (Char × Char)) := do
  let source := members first
  let rest := complement source
  let wanted := if isComplement then rest.length else size first
  if 1 < (second.filter Part.isIndefinite).length then
    .error "only one [c*] repeat construct may appear in string2"
  let target := filledUp wanted second
  if target.any fun p => p matches .equivalents _ then
    .error "[=c=] expressions may not appear in string2 when translating"
  if target.any fun p => p.isClass && p.case?.isNone then
    .error "when translating, the only character classes that may appear in\nstring2 are 'upper' and 'lower'"
  let hasClass := target.any Part.isClass
  let things := if isComplement then (rest.map Thing.octet, (members target).map Thing.octet)
    else if hasClass then (first.flatMap thingsOf, target.flatMap thingsOf)
    else (source.map Thing.octet, (members target).map Thing.octet)
  let (pairs, left, _) ← paired (wanted + size target + first.length + 1000) things.1 things.2
  let all ← if left = [] || truncates then pure pairs else continued pairs left target
  if isComplement && first.any Part.isClass then
    let targets := members target
    let isUniform := targets.all (targets.head? = some ·)
    if !isUniform || wanted < targets.length || (truncates && targets.length < wanted) then
      .error "when translating with complemented character classes,\nstring2 must map all characters in the domain to one"
  return all

/-- a table of what becomes of each octet; a later pair counts more -/
def tableOf (pairs : List (Char × Char)) : Array Char :=
  pairs.foldl (fun t (c, d) => t.setIfInBounds c.toNat d) Part.all.toArray

/-- which octets are in a set -/
def flagsOf (set : Octets) : Array Bool :=
  set.foldl (fun t c => t.setIfInBounds c.toNat true) (Array.replicate 256 false)

def isIn (flags : Array Bool) (c : Char) : Bool := flags.getD c.toNat false

/-- what is done to octets: some are left out, the others replaced, and some kept once if they are repeated -/
structure Change where
  drops : Array Bool := #[]
  table : Array Char := #[]
  squeezes : Array Bool := #[]

/-- a block changed, last octet first, given the octet before it -/
def Change.feed (c : Change) (state : Octets × Option Char) (o : Char) : Octets × Option Char :=
  if isIn c.drops o then state
  else
    let o := c.table.getD o.toNat o
    if state.2 = some o && isIn c.squeezes o then state else (o :: state.1, some o)

/-- the input changed and put out -/
def Change.run (c : Change) : Exec Nat := do
  let use (state : Option Char × Bool) (block : Octets) : Exec (ForInStep (Option Char × Bool)) := do
    let (changed, last) := block.foldl c.feed ([], state.1)
    print changed.reverse
    match ← gets (·.me.printError) with
    | none => return .yield (last, true)
    | some e => do
      changeMe fun p => { p with printed := [], printedSize := 0, printError := none }
      say s!"write error: {e.words}"
      return .done (last, false)
  match ← eachBlock 0 Head.readSize use manyTimes (none, true) with
  | (_, some e) => do
    say s!"read error: {e.words}"
    return 1
  | ((_, isWritten), none) => return if isWritten then 0 else 1

/-- the change that sets ask for -/
def changeOf (a : Arguments) (first : List Part) (second : Option (List Part)) : Except Misfit Change := do
  let isComplement := a.hasAny "cC"
  let deletes := a.has 'd'
  let squeezes := a.has 's'
  if first.any Part.isIndefinite then .error "the [c*] repeat construct may not appear in string1"
  let source := if isComplement then complement (members first) else members first
  match second with
  | none => return if deletes then { drops := flagsOf source } else { squeezes := flagsOf source }
  | some second =>
    if deletes then
      if second.any Part.isIndefinite then
        .error "the [c*] construct may appear in string2 only when translating"
      return { drops := flagsOf source, squeezes := flagsOf (members second) }
    else
      let pairs ← replacements isComplement (a.has 't') first second
      let target := members (filledUp (size first) second)
      return { table := tableOf pairs, squeezes := if squeezes then flagsOf target else #[] }

def known : List Known :=
  [⟨'c', "complement", .nothing, true⟩, ⟨'C', "", .nothing, true⟩, ⟨'d', "delete", .nothing, true⟩,
    ⟨'s', "squeeze-repeats", .nothing, true⟩, ⟨'t', "truncate-set1", .nothing, true⟩]

/-- a set read, with the warnings about it told -/
def readSet (t : Octets) : Exec (Except String (List Part)) := do
  let (set, warnings) := setOf t
  for w in warnings do say w
  return set

def run (args : List Octets) : Exec Nat :=
  withArguments known args (fun a => do
    let deletes := a.has 'd'
    let squeezes := a.has 's'
    let least := if deletes = squeezes then 2 else 1
    let most := if deletes && !squeezes then 1 else 2
    let given := a.operands.length
    if given = 0 then misused "missing operand"
    else if given < least then
      let why := if squeezes then "Two strings must be given when both deleting and squeezing repeats."
        else "Two strings must be given when translating."
      misused s!"missing operand after {quotedName (a.operands.getLast?.getD [])}\n{why}"
    else if most < given then
      let extra := quotedName (a.operands.getD most [])
      misused (s!"extra operand {extra}" ++
        if given = 2 then "\nOnly one string may be given when deleting without squeezing repeats." else "")
    else
      let first ← readSet (a.operands.headD [])
      let second ← match first, a.operands.drop 1 with
        | .ok _, t :: _ => do pure ((← readSet t).map some)
        | _, _ => pure (.ok none)
      match first.bind fun first => second.bind fun second => changeOf a first second with
      | .error message => do
        say message
        return 1
      | .ok change => change.run) true

end RunnableDocs.Machine.Tool.Tr

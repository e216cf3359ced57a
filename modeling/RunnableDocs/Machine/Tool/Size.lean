/-
Numbers with units, as tools take them: how many blocks, thousands or powers of 1024 are meant. And sizes as they are
shown: in units that are asked for, or in the greatest that fits, always rounded up.
-/
import RunnableDocs.Text.Octets

namespace RunnableDocs.Machine.Tool.Size

/-- why a text is no size -/
inductive Fault where
  | invalid
  | tooLarge
  deriving DecidableEq, Repr

/-- what a unit is worth, given which power of a thousand it stands for -/
def power? (c : Char) : Option Nat :=
  match c with
  | 'k' => some 1
  | 'K' => some 1
  | 'm' => some 2
  | 'M' => some 2
  | 'G' => some 3
  | 'T' => some 4
  | 'P' => some 5
  | 'E' => some 6
  | 'Z' => some 7
  | 'Y' => some 8
  | 'R' => some 9
  | 'Q' => some 10
  | _ => none

/-- what a unit behind a number multiplies it with -/
def factor? : Octets → Option Nat
  | [] => some 1
  | ['b'] => some 512
  | [c] => (power? c).map (Nat.pow 1024)
  | [c, 'B'] => (power? c).map (Nat.pow 1000)
  | [c, 'i', 'B'] => (power? c).map (Nat.pow 1024)
  | _ => none

/-- there are no sizes from here on -/
def limit : Nat := 18446744073709551616

/-- the size that a text writes; a unit alone stands for one of it -/
def ofOctets (t : Octets) : Except Fault Nat :=
  let t := t.dropWhile Octets.isSpace
  let body := if t.head? = some '+' then t.drop 1 else t
  let digits := body.takeWhile Char.isDigit
  let unit := body.drop digits.length
  if digits = [] && (unit = [] || t.head? = some '+') then .error .invalid
  else match factor? unit with
    | none => .error .invalid
    | some f =>
      let n := if digits = [] then 1 else (Octets.toNat? digits).getD 0
      if limit ≤ n * f then .error .tooLarge else .ok (n * f)

/-! ## Showing -/

/-- how sizes are shown -/
inductive Scale where
  /-- in units of so many octets, with a text behind each number -/
  | units (octets : Nat) (mark : String)
  /-- in the power of this number that fits -/
  | fitting (base : Nat)
  deriving DecidableEq, Repr

/-- the letters of units, by the power of a thousand or of 1024 that they stand for -/
def powerLetters : List Char := "KMGTPEZYRQ".toList

def powerLetter (base power : Nat) : Octets :=
  if power = 0 then []
  else if base = 1000 && power = 1 then ['k']
  else [powerLetters.getD (power - 1) '?']

/-- a quotient rounded up -/
def ceilDiv (n d : Nat) : Nat := (n + d - 1) / d

/-- a size in the greatest unit that it is not smaller than, with a digit behind the point if there is only one before -/
def fit (base n : Nat) : Octets :=
  let power := (List.range powerLetters.length).foldl
    (fun best k => if Nat.pow base (k + 1) ≤ n then k + 1 else best) 0
  let unit := Nat.pow base power
  let tenths := ceilDiv (n * 10) unit
  let whole := ceilDiv n unit
  if power = 0 then Octets.ofNat n
  else if tenths < 100 then
    Octets.ofNat (tenths / 10) ++ '.' :: Octets.ofNat (tenths % 10) ++ powerLetter base power
  else if whole = base then "1.0".toList ++ powerLetter base (power + 1)
  else Octets.ofNat whole ++ powerLetter base power

def Scale.shown (s : Scale) (n : Nat) : Octets :=
  match s with
  | units octets mark => Octets.ofNat (ceilDiv n octets) ++ mark.toList
  | fitting base => fit base n

/-- why a text asks for no scale -/
inductive Scale.Fault where
  | noNumber
  | badUnit
  | tooLarge
  deriving DecidableEq, Repr

/-- the power that a unit of a scale stands for -/
def Scale.power? (c : Char) : Option Nat :=
  if c = 'g' || c = 't' then Size.power? c.toUpper
  else if c = 'R' || c = 'Q' then none
  else Size.power? c

/-- the size of a unit, and what is shown of it -/
def Scale.unit? : Octets → Option (Nat × Octets)
  | [] => some (1, [])
  | c :: rest =>
    let unit (base : Nat) (mark : String) : Option (Nat × Octets) :=
      (Scale.power? c).map fun power => (Nat.pow base power, powerLetter base power ++ mark.toList)
    match rest with
    | [] => unit 1024 ""
    | ['B'] => unit 1000 "B"
    | ['i', 'B'] => unit 1024 "iB"
    | _ => none

/-- the scale that a text asks for: so many of a unit, or a unit alone, which is then shown -/
def Scale.ofOctets (t : Octets) : Except Scale.Fault Scale :=
  let t := t.dropWhile (· = '\'')
  let body := match t.dropWhile Octets.isSpace with
    | '+' :: rest => rest
    | rest => rest
  let digits := body.takeWhile Char.isDigit
  if digits = [] then
    if (t.head?.bind Scale.power?).isNone then .error .noNumber
    else match Scale.unit? t with
      | none => .error .badUnit
      | some (octets, mark) => if limit ≤ octets then .error .tooLarge else .ok (.units octets (String.ofList mark))
  else match Scale.unit? (body.drop digits.length) with
    | none => .error .badUnit
    | some (octets, _) =>
      let n := (Octets.toNat? digits).getD 0 * octets
      if limit ≤ n then .error .tooLarge
      else if n = 0 then .error .noNumber
      else .ok (.units n "")

end RunnableDocs.Machine.Tool.Size

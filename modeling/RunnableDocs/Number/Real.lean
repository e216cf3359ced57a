/-
Real numbers as machines keep them: a whole number of bounded size times a power of two, infinity, or no number at all.

Reading a number takes the nearest that a format has, of two equally near ones the even one; writing it with so many
places rounds in the same way (`halfEven`). Both are worked out exactly, in whole numbers.
-/
import RunnableDocs.Text.Octets

namespace RunnableDocs.Number

/-- a quotient rounded to the nearest whole number, and to the even one of two that are equally near -/
def halfEven (num den : Nat) : Nat :=
  let q := num / den
  let twice := 2 * (num % den)
  if twice < den then q else if den < twice then q + 1 else if q % 2 = 0 then q else q + 1

inductive Real where
  /-- `mantissa` times two to the power of `exponent` -/
  | finite (negative : Bool) (mantissa : Nat) (exponent : Int)
  | infinite (negative : Bool)
  | none (negative : Bool)
  deriving DecidableEq, Repr

/-- which numbers there are: the bits of the mantissa, and the least and the greatest exponent -/
structure Precision where
  bits : Nat
  least : Int
  greatest : Int
  deriving DecidableEq, Repr

/-- numbers of 64 bits in all -/
def Precision.double : Precision := ⟨53, -1074, 971⟩

/-- numbers of 80 bits in all -/
def Precision.extended : Precision := ⟨64, -16445, 16320⟩

def twoTo (n : Nat) : Nat := Nat.shiftLeft 1 n

/-- a fraction brought to a power of two: numerator and denominator of `num / den` over two to the power of `e` -/
def scaled (num den : Nat) (e : Int) : Nat × Nat :=
  if 0 ≤ e then (num, den * twoTo e.toNat) else (num * twoTo (-e).toNat, den)

/-- the number of a precision that is nearest to a fraction -/
def Real.ofFraction (p : Precision) (negative : Bool) (num den : Nat) : Real :=
  if num = 0 then .finite negative 0 0
  else
    let guess : Int := (num.log2 : Int) - den.log2
    let (a, b) := scaled num den guess
    let exact := if a < b then guess - 1 else guess
    let e := max (exact - (p.bits - 1 : Nat)) p.least
    let (a, b) := scaled num den e
    let m := halfEven a b
    let (m, e) := if m = twoTo p.bits then (twoTo (p.bits - 1), e + 1) else (m, e)
    if p.greatest < e then .infinite negative else .finite negative m e

def Real.isNegative : Real → Bool
  | finite negative _ _ => negative
  | infinite negative => negative
  | none negative => negative

/-- numerator and denominator of a finite number without its sign -/
def fractionOf (m : Nat) (e : Int) : Nat × Nat := if 0 ≤ e then (m * twoTo e.toNat, 1) else (m, twoTo (-e).toNat)

/-! ## Reading -/

def digitValue (c : Char) : Nat :=
  if c.isDigit then c.toNat - 48 else if 'a' ≤ c then c.toNat - 87 else c.toNat - 55

def isHexDigit (c : Char) : Bool := c.isDigit || ('a' ≤ c && c ≤ 'f') || ('A' ≤ c && c ≤ 'F')

def ofDigits (base : Nat) (digits : Octets) : Nat := digits.foldl (fun n c => n * base + digitValue c) 0

/-- an exponent behind its letter, if there is one, and what follows -/
def exponentAt (letter : Char) (t : Octets) : Int × Octets :=
  match t with
  | c :: rest =>
    if c.toLower ≠ letter then (0, t)
    else
      let (negative, body) := match rest with
        | '-' :: body => (true, body)
        | '+' :: body => (false, body)
        | body => (false, body)
      let digits := body.takeWhile Char.isDigit
      if digits = [] then (0, t)
      else
        let n : Int := ofDigits 10 digits
        (if negative then -n else n, body.drop digits.length)
  | [] => (0, t)

/-- a number read: what it is, what follows it, and whether it is in range -/
structure Read where
  value : Real
  rest : Octets
  inRange : Bool := true

/-- exponents beyond this are out of the range of every precision -/
def farAway : Int := 100000

/-- digits with a point in them, which make a number in base ten or sixteen together with an exponent -/
def Read.ofDigits? (p : Precision) (negative isHex : Bool) (t : Octets) : Option Read :=
  let valid := if isHex then isHexDigit else Char.isDigit
  let base := if isHex then 16 else 10
  let whole := t.takeWhile valid
  let (fraction, after) := match t.drop whole.length with
    | '.' :: more => (more.takeWhile valid, more.drop (more.takeWhile valid).length)
    | more => ([], more)
  if whole = [] && fraction = [] then none
  else
    let m := ofDigits base (whole ++ fraction)
    let (e, rest) := exponentAt (if isHex then 'p' else 'e') after
    let places : Int := fraction.length
    let size : Int := whole.length
    if m = 0 then some ⟨.finite negative 0 0, rest, true⟩
    else if farAway + 4 * places < e then some ⟨.infinite negative, rest, false⟩
    else if e < -farAway - 4 * size then some ⟨.finite negative 0 0, rest, false⟩
    else
      let value := if isHex then
          let e := e - 4 * places
          let (a, b) := if 0 ≤ e then (m * twoTo e.toNat, 1) else (m, twoTo (-e).toNat)
          Real.ofFraction p negative a b
        else
          let e := e - places
          let (a, b) := if 0 ≤ e then (m * Nat.pow 10 e.toNat, 1) else (m, Nat.pow 10 (-e).toNat)
          Real.ofFraction p negative a b
      let inRange := match value with
        | .finite _ m e => m ≠ 0 && (twoTo (p.bits - 1) ≤ m || p.least < e)
        | _ => false
      some ⟨value, rest, inRange⟩

/-- a word at the start of a text, in letters of any case, and what follows -/
def afterWord? (word : String) (t : Octets) : Option Octets :=
  if (t.take word.length).map Char.toLower = word.toList then some (t.drop word.length) else none

/-- the number at the start of a text, if there is one -/
def Read.ofText? (p : Precision) (t : Octets) : Option Read :=
  let t := t.dropWhile fun c => c = ' ' || ('\t' ≤ c && c ≤ '\x0d')
  let (negative, body) := match t with
    | '-' :: body => (true, body)
    | '+' :: body => (false, body)
    | body => (false, body)
  match afterWord? "infinity" body, afterWord? "inf" body, afterWord? "nan" body, afterWord? "0x" body with
  | some rest, _, _, _ => some ⟨.infinite negative, rest, true⟩
  | none, some rest, _, _ => some ⟨.infinite negative, rest, true⟩
  | none, none, some rest, _ =>
    let inside := (rest.drop 1).takeWhile fun c => c.isAlphanum || c = '_'
    let closed := rest.head? = some '(' && (rest.drop (1 + inside.length)).head? = some ')'
    some ⟨.none negative, if closed then rest.drop (2 + inside.length) else rest, true⟩
  | none, none, none, some digits =>
    match Read.ofDigits? p negative true digits with
    | some r => some r
    | none => some ⟨.finite negative 0 0, body.drop 1, true⟩
  | none, none, none, none => Read.ofDigits? p negative false body

/-! ## Writing -/

def decimal (n : Nat) : Octets := Nat.toDigits 10 n

/-- digits with a point before the last so many of them, which is left out if none follow -/
def pointed (digits : Octets) (places : Nat) (keepPoint : Bool) : Octets :=
  let digits := List.replicate (places + 1 - digits.length) '0' ++ digits
  let whole := digits.take (digits.length - places)
  whole ++ (if places ≠ 0 || keepPoint then ['.'] else []) ++ digits.drop whole.length

/-- with so many places behind the point -/
def fixed (m : Nat) (e : Int) (places : Nat) (keepPoint : Bool) : Octets :=
  let (a, b) := fractionOf m e
  pointed (decimal (halfEven (a * Nat.pow 10 places) b)) places keepPoint

/-- a fraction over a power of ten -/
def overTen (a b : Nat) (x : Int) : Nat × Nat :=
  if 0 ≤ x then (a, b * Nat.pow 10 x.toNat) else (a * Nat.pow 10 (-x).toNat, b)

/-- the digits of a number of which one stands before the point, and the power of ten that goes with them -/
def scientific (m : Nat) (e : Int) (places : Nat) : Octets × Int :=
  if m = 0 then (List.replicate (places + 1) '0', 0)
  else
    let (a, b) := fractionOf m e
    let guess : Int := ((decimal a).length : Int) - (decimal b).length
    let (n, d) := overTen a b guess
    let x := if n < d then guess - 1 else guess
    let (n, d) := overTen a b (x - places)
    let digits := decimal (halfEven n d)
    if places + 1 < digits.length then (digits.take (places + 1), x + 1) else (digits, x)

/-- an exponent with its sign, and at least so many digits -/
def signed (x : Int) (least : Nat) : Octets :=
  let digits := decimal x.natAbs
  (if x < 0 then '-' else '+') :: List.replicate (least - digits.length) '0' ++ digits

/-- with a power of ten -/
def exponential (m : Nat) (e : Int) (places : Nat) (keepPoint : Bool) : Octets :=
  let (digits, x) := scientific m e places
  pointed digits places keepPoint ++ 'e' :: signed x 2

/-- zeros behind the point left out, and the point too if nothing stays behind it -/
def withoutZeros (t : Octets) : Octets :=
  if t.contains '.' then
    let kept := t.reverse.dropWhile (· = '0')
    (if kept.head? = some '.' then kept.drop 1 else kept).reverse
  else t

/-- with so many digits in all, and a power of ten only where it is far from one -/
def general (m : Nat) (e : Int) (precision : Nat) (keepZeros : Bool) : Octets :=
  let p := max precision 1
  let (digits, x) := scientific m e (p - 1)
  let trim (t : Octets) : Octets := if keepZeros then t else withoutZeros t
  if x < -4 || (p : Int) ≤ x then trim (pointed digits (p - 1) keepZeros) ++ 'e' :: signed x 2
  else trim (fixed m e (p - 1 - x).toNat keepZeros)

/-- in base sixteen, with a power of two; the digit before the point takes `lead` bits of a mantissa of `bits` bits -/
def hexadecimal (bits lead : Nat) (least : Int) (m : Nat) (e : Int) (places : Option Nat) (keepPoint : Bool) :
    Octets :=
  if m = 0 then
    "0x0".toList ++ (if places.getD 0 ≠ 0 || keepPoint then ['.'] else []) ++ List.replicate (places.getD 0) '0' ++
      "p+0".toList
  else
    let shift := min (bits - 1 - m.log2) (e - least).toNat
    let m := m * twoTo shift
    let e := e - shift
    let inner := (bits - lead + 3) / 4
    let m := m * twoTo (4 * inner - (bits - lead))
    let x : Int := e + (bits - lead)
    let kept := (places.getD inner)
    let rounded := if kept < inner then halfEven m (twoTo (4 * (inner - kept))) else m * twoTo (4 * (kept - inner))
    let digits := Nat.toDigits 16 rounded
    let digits := List.replicate (kept + 1 - digits.length) '0' ++ digits
    let before := digits.take (digits.length - kept)
    let after := digits.drop before.length
    let after := if places.isNone then (after.reverse.dropWhile (· = '0')).reverse else after
    "0x".toList ++ before ++ (if after ≠ [] || keepPoint then ['.'] else []) ++ after ++ 'p' :: signed x 1

end RunnableDocs.Number

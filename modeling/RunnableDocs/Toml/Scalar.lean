/-
Scalars that are written without quotes: booleans, integers, floats, dates and times.

A scalar is read from the whole run of characters that can stand in one, and refused unless that run is one scalar to
its end.
-/
import RunnableDocs.Toml.Value

namespace RunnableDocs.Toml

/-- the value of a digit in a base up to sixteen -/
def digit? (base : Nat) (c : Char) : Option Nat :=
  let n :=
    if c.isDigit then some (c.toNat - 48)
    else if 'a' ≤ c ∧ c ≤ 'f' then some (c.toNat - 87)
    else if 'A' ≤ c ∧ c ≤ 'F' then some (c.toNat - 55)
    else none
  n.filter (· < base)

/-- digits, with single underscores between them; `value` is what the digits before say -/
def digitsFrom? (base value : Nat) : Text → Option Nat
  | [] => some value
  | '_' :: c :: rest => do digitsFrom? base (value * base + (← digit? base c)) rest
  | c :: rest => do digitsFrom? base (value * base + (← digit? base c)) rest

/-- a number in a base, from its digits -/
def digits? (base : Nat) : Text → Option Nat
  | [] => none
  | c :: rest => do digitsFrom? base (← digit? base c) rest

/-- decimal digits without a leading zero -/
def decimal? (s : Text) : Option Nat :=
  match s with
  | '0' :: _ :: _ => none
  | s => digits? 10 s

/-- a sign, and what follows it -/
def sign : Text → Int × Text
  | '-' :: rest => (-1, rest)
  | '+' :: rest => (1, rest)
  | s => (1, s)

def integer? (s : Text) : Option Int :=
  match s with
  | '0' :: 'x' :: rest => (digits? 16 rest).map Int.ofNat
  | '0' :: 'o' :: rest => (digits? 8 rest).map Int.ofNat
  | '0' :: 'b' :: rest => (digits? 2 rest).map Int.ofNat
  | s => (decimal? (sign s).2).map fun n => (sign s).1 * Int.ofNat n

/-- the exponent of a float, with its letter -/
def exponent? : Text → Option Int
  | 'e' :: rest => (digits? 10 (sign rest).2).map fun n => (sign rest).1 * Int.ofNat n
  | 'E' :: rest => (digits? 10 (sign rest).2).map fun n => (sign rest).1 * Int.ofNat n
  | _ => none

/-- the least number that counts as infinite in 64 bits: half a step above the greatest finite one -/
def infinite : Nat := Nat.shiftLeft 1 1024 - Nat.shiftLeft 1 970

/-- `value` times a power of ten is finite in 64 bits; `digits` is at least the number of digits of `value`, and the
number is not worked out where the count of digits decides -/
def isFinite (value digits : Nat) (exponent : Int) : Bool :=
  let scale := exponent + Int.ofNat digits
  if value = 0 || scale < 300 then true
  else if 310 + Int.ofNat digits < scale then false
  else if 0 ≤ exponent then value * Nat.pow 10 exponent.toNat < infinite
  else value < infinite * Nat.pow 10 exponent.natAbs

/-- an integer part, then a fraction, an exponent, or both; whether the float is in range -/
def float? (s : Text) : Option Bool := do
  let unsigned := (sign s).2
  let inPart (c : Char) : Bool := c.isDigit || c = '_'
  if unsigned = ['i', 'n', 'f'] || unsigned = ['n', 'a', 'n'] then some true
  else
    let whole := unsigned.takeWhile inPart
    let value ← decimal? whole
    match unsigned.dropWhile inPart with
    | '.' :: rest =>
      let fraction := rest.takeWhile inPart
      let _ ← digits? 10 fraction
      let value ← digitsFrom? 10 value fraction
      let places := (fraction.filter Char.isDigit).length
      let exponent ← if rest.dropWhile inPart = [] then some 0 else exponent? (rest.dropWhile inPart)
      some (isFinite value (whole.length + places) (exponent - places))
    | rest => do some (isFinite value whole.length (← exponent? rest))

/-- a number of exactly `width` digits at the start of a text -/
def fixed? (width : Nat) (s : Text) : Option (Nat × Text) := do
  let digits := s.take width
  if digits.length = width && digits.all Char.isDigit then some (← digits? 10 digits, s.drop width) else none

def daysIn (year month : Nat) : Nat :=
  if month = 2 then (if year % 4 = 0 && (year % 100 ≠ 0 || year % 400 = 0) then 29 else 28)
  else if month ∈ [4, 6, 9, 11] then 30 else 31

/-- what follows a date of the calendar -/
def date? (s : Text) : Option Text := do
  let (year, s) ← fixed? 4 s
  let (month, s) ← fixed? 2 (← Text.after? ['-'] s)
  let (day, s) ← fixed? 2 (← Text.after? ['-'] s)
  if 1 ≤ month && month ≤ 12 && 1 ≤ day && day ≤ daysIn year month then some s else none

/-- what follows the fraction of a second, if there is one -/
def fraction? : Text → Option Text
  | '.' :: rest => if (rest.takeWhile Char.isDigit) = [] then none else some (rest.dropWhile Char.isDigit)
  | s => some s

/-- what follows a time of day; the seconds may be left out, and a leap second is a time -/
def time? (s : Text) : Option Text := do
  let (hour, s) ← fixed? 2 s
  let (minute, s) ← fixed? 2 (← Text.after? [':'] s)
  if 23 < hour || 59 < minute then none
  else match s with
    | ':' :: rest => do
      let (second, s) ← fixed? 2 rest
      if 60 < second then none else fraction? s
    | s => some s

/-- an offset from universal time, or nothing -/
def isOffset (s : Text) : Bool :=
  match s with
  | [] => true
  | ['Z'] => true
  | ['z'] => true
  | c :: rest =>
    (c = '+' || c = '-') &&
      match fixed? 2 rest with
      | some (hour, ':' :: rest) => hour ≤ 23 && (fixed? 2 rest).any fun m => m.1 ≤ 59 && m.2 = []
      | _ => false

/-- a date, a time, or both with or without an offset -/
def isDateTime (s : Text) : Bool :=
  time? s = some [] ||
    match date? s with
    | some [] => true
    | some (c :: rest) => (c = 'T' || c = 't' || c = ' ') && (time? rest).any isOffset
    | none => false

/-- characters that stand in a scalar without quotes -/
def isScalarChar (c : Char) : Bool := c.isAlphanum || c = '+' || c = '-' || c = '_' || c = '.' || c = ':'

/-- the scalar that is written by exactly these characters -/
def scalarOf? (s : Text) : Option Value :=
  if s = ['t', 'r', 'u', 'e'] then some (.boolean true)
  else if s = ['f', 'a', 'l', 's', 'e'] then some (.boolean false)
  else match integer? s with
    | some n => some (.integer n)
    | none =>
      match float? s with
      | some inRange => some (.float inRange)
      | none => if isDateTime s then some .dateTime else none

/-- the scalar at the start of a text; a date and a time may stand apart by one space -/
def scalar? (s : Text) : Option (Value × Text) :=
  let first := s.takeWhile isScalarChar
  let rest := s.dropWhile isScalarChar
  match rest with
  | ' ' :: c :: more =>
    if date? first = some [] && c.isDigit then
      let second := (c :: more).takeWhile isScalarChar
      (scalarOf? (first ++ ' ' :: second)).map (·, (c :: more).dropWhile isScalarChar)
    else (scalarOf? first).map (·, rest)
  | rest => (scalarOf? first).map (·, rest)

end RunnableDocs.Toml

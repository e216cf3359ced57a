/-
Arithmetic in a shell: integers of 64 bits that wrap, variables, and assignments to them.

An expression is read as a whole before anything of it is worked out.
-/
import RunnableDocs.Shell.Statement

namespace RunnableDocs.Shell

inductive Sum where
  | number (n : Int)
  | named (name : Octets)
  | negate (a : Sum)
  | complement (a : Sum)
  | not (a : Sum)
  | binary (symbol : String) (a b : Sum)
  | choice (condition a b : Sum)
  | assign (symbol : String) (name : Octets) (a : Sum)
  deriving Repr

namespace Sum

/-- why an expression has no value -/
inductive Error where
  | noPrimary
  | noEnd
  | noParenthesis
  | noColon
  | zeroDivisor
  | badNumber (text : Octets)
  deriving DecidableEq, Repr

def Error.message : Error → String
  | noPrimary => "expecting primary"
  | noEnd => "expecting EOF"
  | noParenthesis => "expecting ')'"
  | noColon => "expecting ':'"
  | zeroDivisor => "division by zero"
  | badNumber _ => "Illegal number"

inductive Symbol where
  | number (n : Int)
  | name (t : Octets)
  | sign (s : String)
  /-- what has no place in an expression -/
  | other
  deriving DecidableEq

/-- the signs, the longer ones first -/
def signs : List String :=
  ["<<=", ">>=", "<=", ">=", "==", "!=", "&&", "||", "<<", ">>", "+=", "-=", "*=", "/=", "%=", "&=", "|=", "^=",
    "+", "-", "*", "/", "%", "(", ")", "<", ">", "!", "~", "&", "|", "^", "?", ":", "="]

def digitValue (c : Char) : Nat :=
  if c.isDigit then c.toNat - 48 else if 'a' ≤ c then c.toNat - 87 else c.toNat - 55

/-- the digits of a number at the start of a text -/
def numberAt (t : Octets) : Octets :=
  let hex (c : Char) : Bool := c.isDigit || ('a' ≤ c.toLower && c.toLower ≤ 'f')
  match t with
  | '0' :: x :: rest =>
    if (x = 'x' || x = 'X') && rest.head?.any hex then '0' :: x :: rest.takeWhile hex
    else '0' :: (x :: rest).takeWhile Octets.isOctal
  | t => t.takeWhile Char.isDigit

/-- the greatest number; greater ones are taken for it -/
def greatest : Nat := 9223372036854775807

/-- the number that digits write, in the base that its first ones tell -/
def numberOf? (t : Octets) : Option Int :=
  let value (base : Nat) (digits : Octets) : Option Int :=
    if digits ≠ [] && digits.all fun c => c.isAlphanum && digitValue c < base then
      some (min greatest (digits.foldl (fun n c => n * base + digitValue c) 0) : Nat)
    else none
  match t with
  | '0' :: 'x' :: digits => value 16 digits
  | '0' :: 'X' :: digits => value 16 digits
  | ['0'] => some 0
  | '0' :: digits => value 8 digits
  | digits => value 10 digits

/-- the symbols of a text -/
def symbols : Nat → Octets → List Symbol
  | 0, _ => []
  | _ + 1, [] => []
  | n + 1, c :: rest =>
    if c = ' ' || c = '\t' || c = '\n' then symbols n rest
    else if c.isDigit then
      let t := numberAt (c :: rest)
      ((numberOf? t).map Symbol.number).getD .other :: symbols n ((c :: rest).drop t.length)
    else if isNameStart c then
      let t := (c :: rest).takeWhile isNameChar
      .name t :: symbols n ((c :: rest).drop t.length)
    else match signs.find? fun s => s.toList.isPrefixOf (c :: rest) with
      | some s => .sign s :: symbols n ((c :: rest).drop s.length)
      | none => .other :: symbols n rest

/-- the signs of two operands, the weakest first -/
def levels : List (List String) :=
  [["||"], ["&&"], ["|"], ["^"], ["&"], ["==", "!="], ["<=", ">=", "<", ">"], ["<<", ">>"], ["+", "-"],
    ["*", "/", "%"]]

abbrev Reading := StateT (List Symbol) (Except Error)

def takeSign (wanted : List String) : Reading (Option String) := do
  match ← get with
  | .sign s :: rest =>
    if wanted.contains s then
      set rest
      return some s
    else return none
  | _ => return none

mutual

/-- an assignment or a choice -/
def whole : Nat → Reading Sum
  | 0 => throw .noPrimary
  | n + 1 => do
    match ← get with
    | .name t :: .sign s :: rest =>
      if s = "=" || (s.endsWith "=" && s ∉ ["<=", ">=", "==", "!="]) then do
        set rest
        return .assign (String.ofList (s.toList.dropLast)) t (← whole n)
      else chosen n
    | _ => chosen n

def chosen : Nat → Reading Sum
  | 0 => throw .noPrimary
  | n + 1 => do
    let condition ← operand n levels
    match ← takeSign ["?"] with
    | none => return condition
    | some _ => do
      let a ← whole n
      match ← takeSign [":"] with
      | none => throw .noColon
      | some _ => return .choice condition a (← chosen n)

/-- operands joined by signs of one level and the stronger ones -/
def operand : Nat → List (List String) → Reading Sum
  | 0, _ => throw .noPrimary
  | n + 1, [] => primary n
  | n + 1, level :: stronger => do
    let a ← operand n stronger
    chained n level stronger a

def chained : Nat → List String → List (List String) → Sum → Reading Sum
  | 0, _, _, _ => throw .noPrimary
  | n + 1, level, stronger, a => do
    match ← takeSign level with
    | none => return a
    | some s => do
      let b ← operand n stronger
      chained n level stronger (.binary s a b)

def primary : Nat → Reading Sum
  | 0 => throw .noPrimary
  | n + 1 => do
    match ← get with
    | .number v :: rest => do
      set rest
      return .number v
    | .name t :: rest => do
      set rest
      return .named t
    | .sign s :: rest =>
      set rest
      match s with
      | "-" => return .negate (← primary n)
      | "+" => primary n
      | "!" => return .not (← primary n)
      | "~" => return .complement (← primary n)
      | "(" => do
        let a ← whole n
        match ← takeSign [")"] with
        | some _ => return a
        | none => throw .noParenthesis
      | _ => throw .noPrimary
    | _ => throw .noPrimary

end

/-- the expression that a text writes -/
def ofText (t : Octets) : Except Error Sum := do
  let all := symbols (t.length + 1) t
  let (e, rest) ← (whole (30 * all.length + 100)).run all
  if rest = [] then return e else throw .noEnd

/-- an integer brought into 64 bits -/
def wrap (n : Int) : Int := (BitVec.ofInt 64 n).toInt

def truth (b : Bool) : Int := if b then 1 else 0

/-- two integers' bits put together -/
def bits (f : BitVec 64 → BitVec 64 → BitVec 64) (a b : Int) : Int := (f (BitVec.ofInt 64 a) (BitVec.ofInt 64 b)).toInt

def compute (symbol : String) (a b : Int) : Except Error Int :=
  match symbol with
  | "+" => .ok (wrap (a + b))
  | "-" => .ok (wrap (a - b))
  | "*" => .ok (wrap (a * b))
  | "/" => if b = 0 then .error .zeroDivisor else .ok (wrap (a.tdiv b))
  | "%" => if b = 0 then .error .zeroDivisor else .ok (a.tmod b)
  | "&" => .ok (bits (· &&& ·) a b)
  | "|" => .ok (bits (· ||| ·) a b)
  | "^" => .ok (bits (· ^^^ ·) a b)
  | "<<" => .ok (bits (fun x y => x <<< (y % 64)) a b)
  | ">>" => .ok (a >>> (b % 64).toNat)
  | "==" => .ok (truth (a = b))
  | "!=" => .ok (truth (a ≠ b))
  | "<" => .ok (truth (a < b))
  | ">" => .ok (truth (b < a))
  | "<=" => .ok (truth (a ≤ b))
  | ">=" => .ok (truth (b ≤ a))
  | _ => .ok b

/-- the variables, as far as arithmetic needs them, and those that it has changed -/
structure Scope where
  value : Octets → Except Error Int
  changed : List (Octets × Int) := []

abbrev Working := StateT Scope (Except Error)

def lookup (name : Octets) : Working Int := do
  let s ← get
  match s.changed.find? (·.1 = name) with
  | some (_, v) => return v
  | none => s.value name

/-- the value of an expression -/
def work : Sum → Working Int
  | number n => return wrap n
  | named name => lookup name
  | negate a => return wrap (-(← work a))
  | complement a => return wrap (-(← work a) - 1)
  | not a => return truth ((← work a) = 0)
  | binary symbol a b => do
    let x ← work a
    if symbol = "&&" then
      if x = 0 then return 0 else return truth ((← work b) ≠ 0)
    else if symbol = "||" then
      if x ≠ 0 then return 1 else return truth ((← work b) ≠ 0)
    else compute symbol x (← work b)
  | choice condition a b => do if (← work condition) ≠ 0 then work a else work b
  | assign symbol name a => do
    let v ← work a
    let result ← if symbol = "" then pure v else do compute symbol (← lookup name) v
    modify fun s => { s with changed := (name, result) :: s.changed }
    return result

end Sum
end RunnableDocs.Shell

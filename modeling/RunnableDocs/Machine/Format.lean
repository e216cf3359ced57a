/-
Texts with escapes, and texts made after a format.

The format is used again as long as arguments are left over and it takes any. The shell and the tool of the same name
speak two dialects: the tool knows more escapes, keeps numbers more precisely, and is stricter with flags.
-/
import RunnableDocs.Machine.Complaint
import RunnableDocs.Number.Real

namespace RunnableDocs.Format

open Number (Precision)

inductive Dialect where
  | shell
  | tool
  deriving DecidableEq, Repr

def Dialect.precision : Dialect → Precision
  | shell => .double
  | tool => .extended

/-- what is wrong with a format or an argument -/
inductive Complaint where
  | noNumber (argument : Octets)
  | notAllNumber (argument : Octets)
  | outOfRange (argument : Octets)
  /-- what follows a character that stands for its number -/
  | restIgnored (rest : Octets)
  | badDirective (directive : Octets)
  /-- the format ends where the kind of a conversion is expected -/
  | noKind
  /-- digits in base sixteen are missing behind an escape -/
  | noDigits
  | badCharacter (escape : Octets)
  deriving DecidableEq, Repr

/-- it ends all output -/
def Complaint.isFatal : Complaint → Bool
  | badDirective _ => true
  | noKind => true
  | noDigits => true
  | badCharacter _ => true
  | _ => false

/-! ## Escapes -/

/-- what a backslash and the characters behind it stand for -/
inductive Escape where
  | octets (o : Octets) (rest : Octets)
  /-- the backslash is only a backslash -/
  | plain
  | stop
  | fault (c : Complaint)
  deriving DecidableEq, Repr

/-- the escapes of one letter -/
def letterEscape? : Char → Option Char
  | 'a' => some '\x07'
  | 'b' => some '\x08'
  | 'e' => some '\x1b'
  | 'f' => some '\x0c'
  | 'n' => some '\n'
  | 'r' => some '\x0d'
  | 't' => some '\t'
  | 'v' => some '\x0b'
  | '\\' => some '\\'
  | _ => none

/-- a character by octal digits, of which there are at most three -/
def octalEscape (t : Octets) : Escape :=
  let digits := (t.take 3).takeWhile Octets.isOctal
  if digits = [] then .plain
  else .octets [Char.ofNat (Octets.ofOctal digits % 256)] (t.drop digits.length)

/-- a character by its number in the list of all characters; one outside ASCII stays an escape -/
def numberEscape (letter : Char) (t : Octets) : Escape :=
  let count := if letter = 'u' then 4 else 8
  let digits := t.take count
  if digits.length < count || !digits.all Number.isHexDigit then .fault .noDigits
  else
    let n := Number.ofDigits 16 digits
    let hex := Nat.toDigits 16 n
    let fill (width : Nat) : Octets := List.replicate (width - hex.length) '0'
    if n < 0x80 then .octets [Char.ofNat n] (t.drop count)
    else if 0xD800 ≤ n && n ≤ 0xDFFF then .fault (.badCharacter ('\\' :: letter :: fill count ++ hex))
    else
      let shown := if 0xFFFF < n then '\\' :: 'U' :: fill 8 ++ hex.map Char.toUpper
        else '\\' :: 'u' :: fill 4 ++ hex.map Char.toUpper
      .octets shown (t.drop count)

/-- the escape behind a backslash in a format -/
def escape (d : Dialect) (t : Octets) : Escape :=
  match t, d with
  | [], _ => .plain
  | c :: rest, d =>
    match letterEscape? c with
    | some e => .octets [e] rest
    | none =>
      if d = .shell then octalEscape t
      else match c with
        | '"' => .octets ['"'] rest
        | 'c' => .stop
        | 'x' =>
          let digits := (rest.take 2).takeWhile Number.isHexDigit
          if digits = [] then .fault .noDigits
          else .octets [Char.ofNat (Number.ofDigits 16 digits)] (rest.drop digits.length)
        | 'u' => numberEscape 'u' rest
        | 'U' => numberEscape 'U' rest
        | _ => octalEscape t

/-- the escape behind a backslash in an argument, where an octal number may start with a zero of its own -/
def argumentEscape (d : Dialect) : Octets → Escape
  | 'c' :: _ => .stop
  | '0' :: rest =>
    match octalEscape rest with
    | .plain => .octets ['\x00'] rest
    | e => e
  | rest => escape d rest

/-- escapes replaced as they are read, whether one ends all output, and what is wrong with one -/
def unescaped (read : Octets → Escape) : Nat → Octets → Octets × Bool × Option Complaint
  | 0, _ => ([], false, none)
  | _ + 1, [] => ([], false, none)
  | n + 1, '\\' :: rest =>
    match read rest with
    | .stop => ([], true, none)
    | .fault c => ([], true, some c)
    | .plain =>
      let (t, stop) := unescaped read n rest
      ('\\' :: t, stop)
    | .octets o rest =>
      let (t, stop) := unescaped read n rest
      (o ++ t, stop)
  | n + 1, c :: rest =>
    let (t, stop) := unescaped read n rest
    (c :: t, stop)

/-- the escapes of a text replaced that is only repeated; there is nothing wrong with any -/
def echoEscape (d : Dialect) : Octets → Escape
  | 'x' :: rest =>
    let digits := (rest.take 2).takeWhile Number.isHexDigit
    if d = .shell || digits = [] then .plain
    else .octets [Char.ofNat (Number.ofDigits 16 digits)] (rest.drop digits.length)
  | t => argumentEscape .shell t

/-- the escapes of each text replaced, the texts joined by blanks, and a line break at the end unless output ends -/
def echoed (d : Dialect) (newline : Bool) : List Octets → Octets
  | [] => if newline then ['\n'] else []
  | t :: rest =>
    let (o, stop, _) := unescaped (echoEscape d) (t.length + 1) t
    if stop then o
    else o ++ match rest with
      | [] => if newline then ['\n'] else []
      | _ :: _ => ' ' :: echoed d newline rest

/-! ## Directives -/

/-- a width or precision: a number, or the next argument -/
inductive Size where
  | none
  | number (n : Nat)
  | argument
  deriving DecidableEq, Repr

inductive Directive where
  | text (t : Octets)
  | convert (flags : Octets) (width precision : Size) (kind : Char)
  | stop
  | fault (c : Complaint)
  deriving DecidableEq, Repr

def size (t : Octets) : Size × Octets :=
  match t with
  | '*' :: rest => (.argument, rest)
  | t =>
    let digits := t.takeWhile Char.isDigit
    (if digits = [] then .none else .number ((Octets.toNat? digits).getD 0), t.drop digits.length)

/-- the kinds of conversion that go with flags and a precision -/
def admits (d : Dialect) (flags : Octets) (width precision : Size) (kind : Char) : Bool :=
  if d = Dialect.shell then "diouxXcsbaAeEfFgG".toList.contains kind
  else if kind = 'b' || kind = 'q' then flags = [] && width = Size.none && precision = Size.none
  else "aAcdeEfFgGiosuxX".toList.contains kind &&
      !(flags.any (fun f => f = '\'' || f = 'I') && "aAceEosxX".toList.contains kind) &&
      !(flags.contains '#' && "cdisu".toList.contains kind) &&
      !(flags.contains '0' && "cs".toList.contains kind) && !(precision ≠ Size.none && kind = 'c')

/-- the directives of a format -/
def directives (d : Dialect) : Nat → Octets → List Directive
  | 0, _ => []
  | _ + 1, [] => []
  | n + 1, '%' :: '%' :: rest => .text ['%'] :: directives d n rest
  | n + 1, '%' :: rest =>
    let known := if d = Dialect.shell then "-+ 0#" else "-+ 0#'I"
    let flags := rest.takeWhile fun c => known.toList.contains c
    let (width, after) := size (rest.drop flags.length)
    let (precision, after) : Size × Octets := match after with
      | '.' :: more =>
        let (p, more) := size more
        (if p = Size.none then Size.number 0 else p, more)
      | more => (Size.none, more)
    let after := if d = Dialect.tool then after.dropWhile fun c => "lLhjtz".toList.contains c else after
    match after with
    | kind :: more =>
      if admits d flags width precision kind then .convert flags width precision kind :: directives d n more
      else [.fault (.badDirective ('%' :: rest.take (rest.length - more.length)))]
    | [] => [.fault (if d = Dialect.shell then .noKind else .badDirective ('%' :: rest))]
  | n + 1, '\\' :: rest =>
    match escape d rest with
    | .octets o rest => .text o :: directives d n rest
    | .stop => [.stop]
    | .fault c => [.fault c]
    | .plain => .text ['\\'] :: directives d n rest
  | n + 1, c :: rest => .text [c] :: directives d n rest

/-! ## Conversions -/

/-- a text filled up to a width, on the right if a dash asks for it -/
def padded (flags : Octets) (width : Nat) (t : Octets) : Octets :=
  let fill := List.replicate (width - t.length) ' '
  if flags.contains '-' then t ++ fill else fill ++ t

/-- a number behind its sign filled up to a width, with zeros between the two if a zero asks for it -/
def filled (flags : Octets) (width : Nat) (zeros : Bool) (sign body : Octets) : Octets :=
  if zeros && flags.contains '0' && !flags.contains '-' then
    sign ++ List.replicate (width - sign.length - body.length) '0' ++ body
  else padded flags width (sign ++ body)

/-- the sign of a number of which it is known whether it is negative -/
def signOf (flags : Octets) (negative : Bool) : Octets :=
  if negative then ['-'] else if flags.contains '+' then ['+'] else if flags.contains ' ' then [' '] else []

/-- the digits of a number in a base -/
def digits (base : Nat) (upper : Bool) (n : Nat) : Octets :=
  let d := Nat.toDigits base n
  if upper then d.map Char.toUpper else d

/-- an integer in the form that a letter asks for -/
def shownNumber (flags : Octets) (width : Nat) (precision : Option Nat) (kind : Char) (n : Int) : Octets :=
  let unsigned := (BitVec.ofInt 64 n).toNat
  let body := match kind with
    | 'o' => digits 8 false unsigned
    | 'x' => digits 16 false unsigned
    | 'X' => digits 16 true unsigned
    | 'u' => digits 10 false unsigned
    | _ => digits 10 false n.natAbs
  let body := if precision = some 0 && n = 0 then [] else body
  let body := List.replicate (precision.getD 0 - body.length) '0' ++ body
  let body := if flags.contains '#' && kind = 'o' && body.head? ≠ some '0' then '0' :: body else body
  let sign := if kind = 'd' || kind = 'i' then signOf flags (n < 0)
    else if flags.contains '#' && n ≠ 0 then (match kind with
      | 'x' => ['0', 'x']
      | 'X' => ['0', 'X']
      | _ => [])
    else []
  filled flags width precision.isNone sign body

/-- a real number in the form that a letter asks for -/
def shownReal (d : Dialect) (flags : Octets) (width : Nat) (precision : Option Nat) (kind : Char) (v : Number.Real) :
    Octets :=
  let keep := flags.contains '#'
  let upper (t : Octets) : Octets := if kind.isUpper then t.map Char.toUpper else t
  let sign := signOf flags v.isNegative
  match v with
  | .infinite _ => filled flags width false sign (upper "inf".toList)
  | .none _ => filled flags width false sign (upper "nan".toList)
  | .finite _ m e =>
    let places := precision.getD 6
    match kind.toLower with
    | 'f' => filled flags width true sign (Number.fixed m e places keep)
    | 'e' => filled flags width true sign (upper (Number.exponential m e places keep))
    | 'g' => filled flags width true sign (upper (Number.general m e places keep))
    | _ =>
      let p := d.precision
      let t := Number.hexadecimal p.bits (if d = .shell then 1 else 4) p.least m e precision keep
      filled flags width true (sign ++ upper (t.take 2)) (upper (t.drop 2))

/-! ## Arguments -/

/-- what has been made so far -/
structure Made where
  /-- output and complaints as they come, last first -/
  pieces : List (Except Complaint Octets) := []
  args : List Octets
  taken : Bool := false
  stopped : Bool := false

def Made.add (m : Made) (o : Octets) : Made := { m with pieces := .ok o :: m.pieces }

def Made.complain (m : Made) (c : Complaint) : Made :=
  { m with pieces := .error c :: m.pieces, stopped := m.stopped || c.isFatal }

def Made.next (m : Made) : Option Octets × Made :=
  match m.args with
  | [] => (none, m)
  | a :: rest => (some a, { m with args := rest, taken := true })

/-- the integer at the start of a text, in the base that its first digits tell, and what follows it; nothing is read
where no digits are -/
def integerAt (t : Octets) : Int × Octets :=
  let trimmed := t.dropWhile fun c => c = ' ' || ('\t' ≤ c && c ≤ '\x0d')
  let (negative, body) := match trimmed with
    | '-' :: rest => (true, rest)
    | '+' :: rest => (false, rest)
    | rest => (false, rest)
  let value (base : Nat) (valid : Char → Bool) (start : Octets) : Int × Octets :=
    let d := start.takeWhile valid
    let v : Int := Number.ofDigits base d
    if d = [] then (0, t) else (if negative then -v else v, start.drop d.length)
  let isHex (rest : Octets) : Bool := rest.head?.any Number.isHexDigit
  match body with
  | '0' :: 'x' :: rest => if isHex rest then value 16 Number.isHexDigit rest else (0, 'x' :: rest)
  | '0' :: 'X' :: rest => if isHex rest then value 16 Number.isHexDigit rest else (0, 'X' :: rest)
  | '0' :: rest => value 8 Octets.isOctal ('0' :: rest)
  | rest => value 10 Char.isDigit rest

/-- the complaint about an argument of which this much is left over -/
def leftOver? (t rest : Octets) (inRange : Bool) : Option Complaint :=
  if rest ≠ [] then some (if rest = t then .noNumber t else .notAllNumber t)
  else if !inRange then some (.outOfRange t)
  else none

def Made.complain? (m : Made) (c : Option Complaint) : Made := (c.map m.complain).getD m

/-- an argument that stands for the number of its character behind a quote, and what is behind that -/
def quotedCharacter? (d : Dialect) : Octets → Option (Nat × Octets)
  | q :: rest =>
    if q ≠ '\'' && q ≠ '"' then none
    else match rest, d with
      | [], .shell => some (0, [])
      | [], .tool => none
      | c :: more, .shell => some (c.toNat, more.filter fun _ => false)
      | c :: more, .tool => some (c.toNat, more)
  | [] => none

/-- the next argument as an integer of 64 bits -/
def Made.nextInteger (d : Dialect) (signed : Bool) (m : Made) : Int × Made :=
  match m.next with
  | (none, m) => (0, m)
  | (some t, m) =>
    match quotedCharacter? d t with
    | some (n, rest) => (n, if rest = [] then m else m.complain (.restIgnored rest))
    | none =>
      let (v, rest) := integerAt t
      let low : Int := if signed then -9223372036854775808 else -18446744073709551615
      let high : Int := if signed then 9223372036854775807 else 18446744073709551615
      let inRange := low ≤ v && v ≤ high
      let kept := if inRange then v else if signed && v < 0 then low else high
      (kept, m.complain? (leftOver? t rest inRange))

/-- the next argument as a real number -/
def Made.nextReal (d : Dialect) (m : Made) : Number.Real × Made :=
  match m.next with
  | (none, m) => (.finite false 0 0, m)
  | (some t, m) =>
    match quotedCharacter? d t with
    | some (n, rest) => (Number.Real.ofFraction d.precision false n 1, if rest = [] then m else m.complain (.restIgnored rest))
    | none =>
      match Number.Read.ofText? d.precision t with
      | some r => (r.value, m.complain? (leftOver? t r.rest r.inRange))
      | none => (.finite false 0 0, m.complain? (leftOver? t t true))

def Made.nextSize (d : Dialect) (m : Made) : Size → Option Int × Made
  | .none => (none, m)
  | .number n => (some n, m)
  | .argument =>
    let (v, m) := m.nextInteger d true
    (some v, m)

/-- one directive carried out -/
def Made.step (d : Dialect) (m : Made) (directive : Directive) : Made :=
  if m.stopped then m
  else match directive with
    | .text t => m.add t
    | .stop => { m with stopped := true }
    | .fault c => m.complain c
    | .convert flags width precision kind =>
      let (width, m) := m.nextSize d width
      let (precision, m) := m.nextSize d precision
      let flags := if width.any (· < 0) then '-' :: flags else flags
      let width := (width.map Int.natAbs).getD 0
      let precision := (precision.filter (0 ≤ ·)).map Int.natAbs
      let cut (t : Octets) : Octets := (precision.map t.take).getD t
      match kind with
      | 's' =>
        let (a, m) := m.next
        m.add (padded flags width (cut (a.getD [])))
      | 'c' =>
        let (a, m) := m.next
        m.add (padded flags width [((a.getD []).headD '\x00')])
      | 'q' =>
        let (a, m) := m.next
        m.add ((a.map Octets.quotedIfOdd).getD [])
      | 'b' =>
        let (a, m) := m.next
        let (t, stop, fault) := unescaped (argumentEscape d) ((a.getD []).length + 1) (a.getD [])
        { (m.add (padded flags width (cut t))).complain? fault with stopped := stop }
      | kind =>
        if "aAeEfFgG".toList.contains kind then
          let (v, m) := m.nextReal d
          m.add (shownReal d flags width precision kind v)
        else
          let (n, m) := m.nextInteger d (kind = 'd' || kind = 'i')
          m.add (shownNumber flags width precision kind n)

/-- the format used until no argument is left over -/
def make (d : Dialect) (ds : List Directive) : Nat → Made → Made
  | 0, m => m
  | n + 1, m =>
    let m := ds.foldl (Made.step d) { m with taken := false }
    if m.stopped || m.args = [] || !m.taken then m else make d ds n m

/-- a text made after a format -/
structure Result where
  /-- output and complaints as they come -/
  pieces : List (Except Complaint Octets)
  /-- arguments that the format had no use for -/
  unused : List Octets

def Result.output (r : Result) : Octets := r.pieces.flatMap fun
  | .ok o => o
  | .error _ => []

def Result.complaints (r : Result) : List Complaint := r.pieces.filterMap fun
  | .ok _ => none
  | .error c => some c

def printed (d : Dialect) (format : Octets) (args : List Octets) : Result :=
  let m := make d (directives d (format.length + 1) format) (args.length + 1) { args }
  ⟨m.pieces.reverse, if m.stopped then [] else m.args⟩

end RunnableDocs.Format

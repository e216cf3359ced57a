/-
The grammar of shell scripts.

A script is read one complete command at a time, which ends with its line: what stands on later lines is read only after
that command has run, so a fault there does not undo it (`next?`). Every reader here is bounded by a number of nested
steps that the length of the script gives.
-/
import RunnableDocs.Shell.Token

namespace RunnableDocs.Shell
namespace Reader

/-- how a list of statements ends: with its line, where at least one statement is read, or anywhere -/
inductive Extent where
  | line
  | some_
  | any
  deriving DecidableEq

/-- a statement that is not waited for; redirections around it are its own then -/
def inBackground (line : Nat) : Statement → Statement
  | .redirected line body redirections => .background line body redirections
  | s => .background line s []

/-- a list as one statement -/
def sequenceOf : List Statement → Statement
  | [s] => s
  | l => .sequence l

/-- the arguments of the script and nothing else, which in quotes are no empty text if there are none -/
def isArguments : List Part → Bool
  | [.parameter ['@'] .value _] => true
  | _ => false

mutual

/-- the pieces of a word, after those that are known already, last first -/
def parts : Nat → Mode → List Part → Reader (List Part)
  | 0, _, _ => refuse "nesting too deep"
  | n + 1, mode, acc => do
    match ← peek with
    | none =>
      match mode.missing with
      | none => return acc.reverse
      | some message => refuse (if (← get).isHere && mode = .brace true then "Missing '\x7d'" else message)
    | some c =>
      if mode.ends c then do
        if mode ≠ .bare then skip
        return acc.reverse
      else
        skip
        let plain (t : Octets) := parts n mode (.text t mode.quotes :: acc)
        match c, mode with
        | '\\', _ =>
          match (← get).rest with
          | [] => parts n mode (.text ['\\'] true :: acc)
          | e :: _ =>
            if mode.escapes e then do
              skip
              parts n mode (.text [e] true :: acc)
            else plain ['\\']
        | '$', _ => parts n mode ((← dollar n mode.quotes).reverse ++ acc)
        | '\x60', _ =>
          match backQuoted mode.quotes (← get).rest with
          | none => refuse "EOF in backquote substitution"
          | some (inner, after) => do
            let body ← within inner (list n .any)
            modify fun c => { c with rest := after, line := c.line + inner.count '\n' }
            parts n mode (.output body mode.quotes :: acc)
        | '(', .expression depth => parts n (.expression (depth + 1)) (.text ['('] true :: acc)
        | ')', .expression 0 =>
          match ← peek with
          | some ')' => do
            skip
            return acc.reverse
          | _ => parts n (.expression 0) (.text [')'] true :: acc)
        | ')', .expression (depth + 1) => parts n (.expression depth) (.text [')'] true :: acc)
        | '\'', _ =>
          if mode.hasQuotes then do
            let t ← takeWhile (· ≠ '\'')
            if (← get).rest = [] then refuse "Unterminated quoted string"
            skip
            parts n mode (.text t true :: acc)
          else plain ['\'']
        | '"', _ =>
          if mode.hasQuotes || mode = .brace true then do
            let inner ← parts n .double []
            let mark : List Part := if isArguments inner then [] else [.text [] true]
            parts n mode (inner.reverse ++ mark ++ acc)
          else plain ['"']
        | c, _ => plain [c]

/-- what follows a dollar sign -/
def dollar : Nat → Bool → Reader (List Part)
  | 0, _ => refuse "nesting too deep"
  | n + 1, quoted => do
    match ← peek with
    | some '(' => do
      skip
      match ← peek with
      | some '(' => do
        skip
        return [.arithmetic (joined (← parts n (.expression 0) [])) quoted]
      | _ => do
        let body ← list n .any
        let t ← token n false .command
        if t.isOperator ")" then return [.output body quoted]
        else unexpected t (some (.operator ")"))
    | some '{' => do
      skip
      let _ ← peek
      let (name, use) ← braced n quoted
      return [.parameter name use quoted]
    | _ => do
      let rest := (← get).rest
      let name := (if (rest.headD ' ').isDigit then rest.take 1 else parameterName rest)
      if name = [] then return [.text ['$'] quoted]
      let _ ← name.mapM fun _ => skip
      return [.parameter name .value quoted]

/-- a parameter in braces, and what is made of it -/
def braced : Nat → Bool → Reader (Octets × Use)
  | 0, _ => refuse "nesting too deep"
  | n + 1, quoted => do
    let rest := (← get).rest
    let measured := parameterName (rest.drop 1)
    if rest.head? = some '#' && measured ≠ [] && (rest.drop (1 + measured.length)).head? = some '}' then
      let _ ← (rest.take (2 + measured.length)).mapM fun _ => skip
      return (measured, .length)
    let name := parameterName rest
    let _ ← name.mapM fun _ => skip
    let c ← peek
    let colon := c = some ':'
    if colon then skip
    let sign ← peek
    let word (make : Word → Use) : Reader (Octets × Use) := do
      skip
      return (name, make (joined (← parts n (.brace quoted) [])))
    let pattern (side : Side) : Reader (Octets × Use) := do
      skip
      let longest := (← peek) = sign
      if longest then skip
      return (name, .trim side longest (joined (← parts n (.brace false) [])))
    let bad : Reader (Octets × Use) := do
      let _ ← parts n (.brace quoted) []
      return (name, .bad)
    if name = [] then bad
    else match sign with
      | none => refuse "Missing '\x7d'"
      | some '-' => word (.orElse colon)
      | some '=' => word (.assign colon)
      | some '?' => word (.require colon)
      | some '+' => word (.andThen colon)
      | some '%' => if colon then bad else pattern .back
      | some '#' => if colon then bad else pattern .front
      | some '}' =>
        if colon then bad
        else
          skip
          return (name, .value)
      | some _ => bad

/-- the next token; line breaks before it may be passed over -/
def token : Nat → Bool → Look → Reader Token
  | 0, _, _ => refuse "nesting too deep"
  | n + 1, newlines, look => do
    let (t, eager) ← match (← get).held with
      | some t => do
        modify fun c => { c with held := none }
        pure (t, false)
      | none => do
        skipBlanks
        let eager ← leaveAliases
        noteWord
        let rest := (← get).rest
        match rest with
        | [] => pure (.endOfInput, eager)
        | '\n' :: _ => do
          skip
          pure (.newline, eager)
        | c :: more =>
          match startingWith operators rest, startingWith signs rest, startingWith signs more with
          | some symbol, _, _ => do
            modify fun c => { c with rest := rest.drop symbol.length }
            pure (.operator symbol, eager)
          | none, some symbol, _ => do
            modify fun c => { c with rest := rest.drop symbol.length }
            pure (.redirection none symbol, eager)
          | none, none, some symbol =>
            if c.isDigit then do
              modify fun c => { c with rest := more.drop symbol.length }
              pure (.redirection (some (c.toNat - 48)) symbol, eager)
            else do pure (.word (joined (← parts n .bare [])), eager)
          | none, none, none => do pure (.word (joined (← parts n .bare [])), eager)
    let look := if eager then look.withAliases else look
    match (if look.findsKeywords then Token.asKeyword t else t) with
    | .newline => if newlines then token n newlines look else return .newline
    | .word w =>
      if look.findsAliases then
        if ← replaceAlias w then token n newlines look else return .word w
      else return .word w
    | t => return t

/-- the target of a redirection -/
def redirection : Nat → Option Nat → String → Reader Redirection
  | 0, _, _ => refuse "nesting too deep"
  | n + 1, descriptor, symbol => do
    let t ← token n false .plain
    match t.asWord? with
    | none => unexpected t
    | some w =>
      let fd := descriptor.getD (if symbol.startsWith "<" then 0 else 1)
      match symbol with
      | "<" => return .mk fd .read w
      | ">" => return .mk fd .write w
      | ">|" => return .mk fd .clobber w
      | ">>" => return .mk fd .append w
      | "<>" => return .mk fd .both w
      | "<&" => return .mk fd .duplicate w
      | ">&" => return .mk fd .duplicate w
      | _ => do
        let (delimiter, quoted) := delimiterOf w
        let c ← get
        let body ← takeHere delimiter (symbol = "<<-")
        if quoted then return .mk fd .here [.text body true]
        else
          modify fun now => { now with line := c.line + c.ahead + 1 }
          let inner ← within body (parts n .here []) true
          modify fun now => { now with line := c.line }
          return .mk fd .here (joined inner)

/-- redirections up to another token -/
def redirections : Nat → List Redirection → Reader (List Redirection)
  | 0, _ => refuse "nesting too deep"
  | n + 1, acc => do
    match ← token n false .command with
    | .redirection descriptor symbol => do
      let r ← redirection n descriptor symbol
      redirections n (r :: acc)
    | t => holdReturn t acc.reverse

/-- words up to another token, which is given too -/
def wordsUntil : Nat → List Word → Reader (List Word × Token)
  | 0, _ => refuse "nesting too deep"
  | n + 1, acc => do
    match ← token n false .plain with
    | .word w => wordsUntil n (w :: acc)
    | t => return (acc.reverse, t)

/-- the patterns of one arm of a case statement -/
def patterns : Nat → Token → List Word → Reader (List Word)
  | 0, _, _ => refuse "nesting too deep"
  | n + 1, t, acc => do
    match t.asWord? with
    | none => unexpected t (some (.operator ")"))
    | some w =>
      let next ← token n false .plain
      if next.isOperator "|" then patterns n (← token n false .plain) (w :: acc)
      else if next.isOperator ")" then return (w :: acc).reverse
      else unexpected next (some (.operator ")"))

/-- the arms of a case statement -/
def arms : Nat → List (List Word × Statement) → Reader (List (List Word × Statement))
  | 0, _ => refuse "nesting too deep"
  | n + 1, acc => do
    let t ← token n true .named
    if t.isKeyword "esac" then return acc.reverse
    let first ← if t.isOperator "(" then token n false .plain else pure t
    let heads ← patterns n first []
    let body ← list n .any
    let acc := (heads, body) :: acc
    let t ← token n true .named
    if t.isKeyword "esac" then return acc.reverse
    else if t.isOperator ";;" then arms n acc
    else unexpected t (some (.operator ";;"))

/-- a keyword or operator that has to stand here -/
def expect : Nat → Token → Reader Unit
  | 0, _ => refuse "nesting too deep"
  | n + 1, wanted => do
    let t ← token n false .command
    if t.shown = wanted.shown then return () else unexpected t (some wanted)

/-- what follows the condition of an if statement -/
def branches : Nat → Statement → Reader Statement
  | 0, _ => refuse "nesting too deep"
  | n + 1, condition => do
    expect n (.keyword "then")
    let first ← list n .some_
    let t ← token n false .command
    if t.isKeyword "elif" then do
      let next ← list n .some_
      return .choice condition first (← branches n next)
    else if t.isKeyword "else" then do
      return .choice condition first (← list n .some_)
    else
      hold t
      return .choice condition first (.sequence [])

/-- a simple statement or the definition of a function -/
def simple : Nat → Nat → List (Octets × Word) → List Word → List Redirection → Reader Statement
  | 0, _, _, _, _ => refuse "nesting too deep"
  | n + 1, line, assignments, words, redirs => do
    let t ← token n false (if words = [] then .replaced else .plain)
    let finish : Reader Statement := do
      hold t
      if assignments = [] && words = [] && redirs = [] then unexpected t
      return .simple line assignments.reverse words.reverse redirs.reverse
    match t with
    | .word w =>
      match words, assignment? w with
      | [], some a => simple n line (a :: assignments) words redirs
      | _, _ => simple n line assignments (w :: words) redirs
    | .redirection descriptor symbol => do
      let r ← redirection n descriptor symbol
      simple n line assignments words (r :: redirs)
    | .operator "(" =>
      match words, assignments, redirs with
      | [w], [], [] => do
        expect n (.operator ")")
        match plainText? w with
        | some name =>
          if isName name && !isReserved name then return .define name (← command n true)
          else refuse "Bad function name"
        | none => refuse "Bad function name"
      | _, _, _ => finish
    | _ => finish

/-- a compound statement, a simple one, or the definition of a function -/
def command : Nat → Bool → Reader Statement
  | 0, _ => refuse "nesting too deep"
  | n + 1, newlines => do
    let t ← token n newlines .command
    let line := (← get).line
    let compound (s : Statement) : Reader Statement := do
      match ← redirections n [] with
      | [] => return s
      | redirs => return .redirected line s redirs
    match t with
    | .keyword "if" => do
      let condition ← list n .some_
      let s ← branches n condition
      expect n (.keyword "fi")
      compound s
    | .keyword "while" => do
      let condition ← list n .some_
      expect n (.keyword "do")
      let body ← list n .some_
      expect n (.keyword "done")
      compound (.repeated false condition body)
    | .keyword "until" => do
      let condition ← list n .some_
      expect n (.keyword "do")
      let body ← list n .some_
      expect n (.keyword "done")
      compound (.repeated true condition body)
    | .keyword "for" => do
      let name := match ← token n false .plain with
        | .word w => (plainText? w).filter isName
        | _ => none
      match name with
      | none => refuse "Bad for loop variable"
      | some name => do
        let t ← token n true .command
        let words ← if t.isKeyword "in" then do
            let (words, t) ← wordsUntil n []
            match t with
            | .newline => pure (some words)
            | .operator ";" => pure (some words)
            | t => unexpected t
          else do
            if !t.isOperator ";" then hold t
            pure none
        let t ← token n true .command
        if !t.isKeyword "do" then unexpected t (some (.keyword "do"))
        let body ← list n .some_
        expect n (.keyword "done")
        compound (.each line name words body)
    | .keyword "case" => do
      match ← token n false .plain with
      | .word w => do
        let t ← token n true .command
        if !t.isKeyword "in" then unexpected t (some (.keyword "in"))
        compound (.cases line w (← arms n []))
      | t => unexpected t (some (.word []))
    | .operator "(" => do
      let body ← list n .some_
      expect n (.operator ")")
      return .subshell line body (← redirections n [])
    | .keyword "\x7b" => do
      let body ← list n .some_
      expect n (.keyword "\x7d")
      compound (.sequence [body])
    | .word _ => do
      hold t
      simple n line [] [] []
    | .redirection _ _ => do
      hold t
      simple n line [] [] []
    | t => unexpected t

/-- the stages of a pipeline after those that are known, last first -/
def stages : Nat → List Statement → Reader (List Statement)
  | 0, _ => refuse "nesting too deep"
  | n + 1, acc => do
    let t ← token n false .plain
    if t.isOperator "|" then do
      let s ← command n true
      stages n (s :: acc)
    else holdReturn t acc.reverse

def pipeline : Nat → Bool → Reader Statement
  | 0, _ => refuse "nesting too deep"
  | n + 1, newlines => do
    let t ← token n newlines .command
    let negated := t.isKeyword "!"
    if !negated then hold t
    let first ← command n false
    match ← stages n [first], negated with
    | [s], false => return s
    | l, negated => return .pipeline negated l

/-- pipelines joined by what makes one depend on the other, after the ones that are known -/
def joinedPipelines : Nat → Statement → Reader Statement
  | 0, _ => refuse "nesting too deep"
  | n + 1, before => do
    let t ← token n false .plain
    if t.isOperator "&&" then do
      joinedPipelines n (.both before (← pipeline n true))
    else if t.isOperator "||" then do
      joinedPipelines n (.either before (← pipeline n true))
    else holdReturn t before

/-- the statements of a list after those that are known, last first -/
def statements : Nat → Extent → Bool → List Statement → Reader (List Statement)
  | 0, _, _, _ => refuse "nesting too deep"
  | n + 1, extent, mayEnd, acc => do
    let t ← token n (extent ≠ .line) .command
    match t with
    | .newline => return acc.reverse
    | .endOfInput => holdReturn t acc.reverse
    | t =>
      hold t
      if mayEnd && t.endsList then return acc.reverse
      let s ← joinedPipelines n (← pipeline n false)
      let t ← token n false .command
      match t with
      | .operator "&" => statements n extent (extent ≠ .line) (inBackground (← get).line s :: acc)
      | .operator ";" => statements n extent (extent ≠ .line) (s :: acc)
      | .newline => do
        hold t
        statements n extent (extent ≠ .line) (s :: acc)
      | .endOfInput => holdReturn t (s :: acc).reverse
      | t => if extent = .line then unexpected t else holdReturn t (s :: acc).reverse

def list : Nat → Extent → Reader Statement
  | 0, _ => refuse "nesting too deep"
  | n + 1, extent => return sequenceOf (← statements n extent (extent = .any) [])

end

end Reader

/-- what reading one command comes to -/
inductive Outcome where
  /-- there is nothing more -/
  | nothing
  /-- a command, and whether the end of the script ended it -/
  | command (s : Statement) (next : Cursor) (ended : Bool)
  | fault (f : Fault)

/-- the next complete command of a script -/
def next (c : Cursor) : Outcome :=
  if (Reader.dropBlanks c.rest 0).1 = [] && c.held.isNone then .nothing
  else
    let texts := c.aliases.foldl (fun n a => n + a.2.length + 1) 0
    match (Reader.list (20 * c.rest.length + 1000 * texts + 100) .line).run c with
    | .ok (s, c) => .command s { c with held := none } c.held.isSome
    | .error f => .fault f

end RunnableDocs.Shell

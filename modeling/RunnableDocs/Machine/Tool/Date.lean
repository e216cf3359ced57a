/-
Moments as dates, and dates as people write them.

Moments are whole seconds since the beginning of 1970. Days are counted in years that begin with March, so that the odd
day of leap years comes last.
-/
import RunnableDocs.Text.Octets

namespace RunnableDocs.Machine.Tool.Date

structure Day where
  year : Int
  month : Nat
  day : Nat
  deriving DecidableEq, Repr

/-- how many days lie between the beginning of 1970 and a day -/
def Day.number (d : Day) : Int :=
  let y := if d.month ≤ 2 then d.year - 1 else d.year
  let era := y.fdiv 400
  let yearOfEra := (y - era * 400).toNat
  let monthFromMarch := (d.month + 9) % 12
  let dayOfYear := (153 * monthFromMarch + 2) / 5 + d.day - 1
  era * 146097 + (yearOfEra * 365 + yearOfEra / 4 - yearOfEra / 100 + dayOfYear : Nat) - 719468

/-- the day that lies so many days behind the beginning of 1970 -/
def Day.ofNumber (n : Int) : Day :=
  let z := n + 719468
  let era := z.fdiv 146097
  let dayOfEra := (z - era * 146097).toNat
  let yearOfEra := (dayOfEra - dayOfEra / 1460 + dayOfEra / 36524 - dayOfEra / 146096) / 365
  let dayOfYear := dayOfEra - (365 * yearOfEra + yearOfEra / 4 - yearOfEra / 100)
  let monthFromMarch := (5 * dayOfYear + 2) / 153
  let day := dayOfYear - (153 * monthFromMarch + 2) / 5 + 1
  let month := if monthFromMarch < 10 then monthFromMarch + 3 else monthFromMarch - 9
  { year := era * 400 + yearOfEra + (if month ≤ 2 then 1 else 0), month, day }

def isLeap (year : Int) : Bool := year % 4 = 0 && (year % 100 ≠ 0 || year % 400 = 0)

def daysIn (year : Int) (month : Nat) : Nat :=
  if month = 2 then (if isLeap year then 29 else 28)
  else if month = 4 || month = 6 || month = 9 || month = 11 then 30 else 31

def Day.isValid (d : Day) : Bool := 1 ≤ d.month && d.month ≤ 12 && 1 ≤ d.day && d.day ≤ daysIn d.year d.month

def secondsADay : Int := 86400

/-- the day of a moment, and the seconds since it began -/
def split (moment : Int) : Day × Nat :=
  (Day.ofNumber (moment.fdiv secondsADay), (moment.fmod secondsADay).toNat)

def monthNames : List String :=
  ["Jan", "Feb", "Mar", "Apr", "May", "Jun", "Jul", "Aug", "Sep", "Oct", "Nov", "Dec"]

def twoDigits (n : Nat) : String := (if n < 10 then "0" else "") ++ toString n

/-- half a year, in seconds -/
def halfYear : Int := 15778476

/-- a moment as a list of files shows it: with the time of day if it is not long ago, else with the year -/
def listed (now moment : Int) : String :=
  let (d, seconds) := split moment
  let day := (if d.day < 10 then " " else "") ++ toString d.day
  let month := monthNames.getD (d.month - 1) ""
  let rest := if now - halfYear < moment && moment ≤ now then
      s!"{twoDigits (seconds / 3600)}:{twoDigits (seconds / 60 % 60)}"
    else s!" {d.year}"
  s!"{month} {day} {rest}"

/-! ## Reading -/

/-- the digits of a stamp: month, day, hour and minute, perhaps with a year before them and seconds behind -/
def ofStamp? (now : Int) (t : Octets) : Option Int :=
  let main := t.takeWhile (· ≠ '.')
  let seconds? := match t.drop main.length with
    | [] => some 0
    | ['.', a, b] => Octets.toNat? [a, b]
    | _ => none
  if !main.all Char.isDigit || !([8, 10, 12].contains main.length) then none
  else
    let pair (i : Nat) : Nat := (Octets.toNat? ((main.drop (2 * i)).take 2)).getD 0
    let skip := (main.length - 8) / 2
    let year : Int := match skip with
      | 0 => (split now).1.year
      | 1 => if pair 0 < 69 then 2000 + pair 0 else 1900 + pair 0
      | _ => pair 0 * 100 + pair 1
    let d : Day := ⟨year, pair skip, pair (skip + 1)⟩
    let hour := pair (skip + 2)
    let minute := pair (skip + 3)
    seconds?.bind fun seconds =>
      if d.isValid && hour < 24 && minute < 60 && seconds ≤ 60 then
        some (d.number * secondsADay + (hour * 3600 + minute * 60 + seconds : Nat))
      else none

/-- what has been understood of a date -/
structure Reading where
  day : Option Day := none
  /-- seconds since the day began -/
  time : Option Nat := none
  /-- how far the zone is ahead, in seconds -/
  zone : Option Int := none
  moment : Option Int := none
  /-- seconds and months to go on from there -/
  seconds : Int := 0
  months : Int := 0

/-- words and numbers of a date; signs stay with their numbers -/
def tokens : Nat → Octets → List Octets
  | 0, _ => []
  | _ + 1, [] => []
  | n + 1, c :: rest =>
    if Octets.isSpace c || c = ',' then tokens n rest
    else if c.isAlpha then
      let word := (c :: rest).takeWhile Char.isAlpha
      word.map Char.toLower :: tokens n ((c :: rest).drop word.length)
    else
      let number := rest.takeWhile fun c => c.isDigit || ":-/.".toList.contains c
      (c :: number) :: tokens n (rest.drop number.length)

/-- numbers with a mark between them -/
def numbers? (mark : Char) (t : Octets) : Option (List Nat) := (Text.splitOn mark t).mapM Octets.toNat?

/-- the time of day that a text writes -/
def timeOf? (t : Octets) : Option Nat :=
  match numbers? ':' (t.takeWhile (· ≠ '.')) with
  | some [h, m] => if h < 24 && m < 60 then some (h * 3600 + m * 60) else none
  | some [h, m, s] => if h < 24 && m < 60 && s ≤ 60 then some (h * 3600 + m * 60 + s) else none
  | _ => none

/-- the day that a text writes in numbers -/
def dayOf? (now : Int) (t : Octets) : Option Day :=
  let found : Option Day := match numbers? '-' t, numbers? '/' t, Octets.toNat? t with
    | some [y, m, d], _, _ => some ⟨y, m, d⟩
    | _, some [m, d], _ => some ⟨(split now).1.year, m, d⟩
    | _, some [a, b, c], _ => some (if 999 < a then ⟨a, b, c⟩ else ⟨c, a, b⟩)
    | _, _, some n => if t.length = 8 then some ⟨n / 10000, n / 100 % 100, n % 100⟩ else none
    | _, _, _ => none
  found.filter Day.isValid

/-- the seconds or the months in a unit -/
def unit? (word : Octets) : Option (Int × Int) :=
  let singular := if word.getLast? = some 's' && 3 < word.length then word.dropLast else word
  match String.ofList singular with
  | "sec" => some (1, 0)
  | "second" => some (1, 0)
  | "min" => some (60, 0)
  | "minute" => some (60, 0)
  | "hour" => some (3600, 0)
  | "day" => some (86400, 0)
  | "week" => some (604800, 0)
  | "fortnight" => some (1209600, 0)
  | "month" => some (0, 1)
  | "year" => some (0, 12)
  | _ => none

def Reading.add (r : Reading) (times : Int) (unit : Int × Int) : Reading :=
  { r with seconds := r.seconds + times * unit.1, months := r.months + times * unit.2 }

def month? (word : Octets) : Option Nat :=
  (monthNames.findIdx? fun m => 3 ≤ word.length && m.toList.map Char.toLower = word.take 3).map (· + 1)

/-- a zone by the digits of how far it is ahead -/
def zoneOf? (t : Octets) : Option Int :=
  match t with
  | sign :: digits =>
    let n? := match numbers? ':' digits with
      | some [h, m] => some (h * 3600 + m * 60)
      | some [n] => some (if digits.length ≤ 2 then n * 3600 else n / 100 * 3600 + n % 100 * 60)
      | _ => none
    n?.map fun n => if sign = '-' then -(n : Int) else n
  | [] => none

/-- a date as its words and numbers say it, one after the other -/
def Reading.run (now : Int) : Nat → Reading → List Octets → Option Reading
  | 0, _, _ => none
  | _ + 1, r, [] => some r
  | n + 1, r, t :: rest =>
    let today := (split now).1
    match String.ofList t with
    | "now" => Reading.run now n r rest
    | "today" => Reading.run now n r rest
    | "yesterday" => Reading.run now n (r.add (-1) (86400, 0)) rest
    | "tomorrow" => Reading.run now n (r.add 1 (86400, 0)) rest
    | "midnight" => Reading.run now n { r with time := some 0 } rest
    | "noon" => Reading.run now n { r with time := some 43200 } rest
    | "utc" => Reading.run now n { r with zone := some 0 } rest
    | "gmt" => Reading.run now n { r with zone := some 0 } rest
    | "z" => Reading.run now n { r with zone := some 0 } rest
    | "t" => if r.day.isSome then Reading.run now n r rest else none
    | "ago" => Reading.run now n { r with seconds := -r.seconds, months := -r.months } rest
    | _ =>
      let isSigned := t.head? = some '-' || t.head? = some '+'
      match t, rest with
      | '@' :: digits, _ => (Octets.toInt? (digits.takeWhile (· ≠ '.'))).bind fun m =>
          Reading.run now n { r with moment := some m } rest
      | _, unit :: more =>
        let times := match String.ofList t with
          | "next" => some 1
          | "last" => some (-1)
          | "this" => some 0
          | _ => Octets.toInt? t
        match times, unit? unit, (Octets.toNat? t).filter fun _ => !isSigned, month? unit with
        | some k, some u, _, _ => Reading.run now n (r.add k u) more
        | _, _, some day, some month =>
          let year? := (more.head?.bind Octets.toNat?).filter fun y => 31 < y
          let d : Day := ⟨(year?.map Int.ofNat).getD today.year, month, day⟩
          if d.isValid then Reading.run now n { r with day := some d } (if year?.isSome then more.drop 1 else more)
          else none
        | _, _, _, _ => single n r t (unit :: more) isSigned
      | _, [] => single n r t [] isSigned
where
  /-- a word or number that stands for itself -/
  single (n : Nat) (r : Reading) (t : Octets) (rest : List Octets) (isSigned : Bool) : Option Reading :=
    match timeOf? t, dayOf? now t, unit? t, month? t with
    | some time, _, _, _ => Reading.run now n { r with time := some time } rest
    | _, some day, _, _ => Reading.run now n { r with day := some day } rest
    | _, _, some u, _ => Reading.run now n (r.add 1 u) rest
    | _, _, _, some month =>
      let numbers := (rest.takeWhile fun t => (Octets.toNat? t).isSome).filterMap Octets.toNat?
      match numbers with
      | day :: year :: _ =>
        let d : Day := ⟨year, month, day⟩
        if d.isValid then Reading.run now n { r with day := some d } (rest.drop 2) else none
      | [day] =>
        let d : Day := ⟨(split now).1.year, month, day⟩
        if d.isValid then Reading.run now n { r with day := some d } (rest.drop 1) else none
      | [] => none
    | _, _, _, _ =>
      if isSigned && r.time.isSome then
        (zoneOf? t).bind fun z => Reading.run now n { r with zone := some z } rest
      else none

/-- so many months later; a day that the month does not have goes on into the next one -/
def Day.later (d : Day) (months : Int) : Day :=
  let all := d.year * 12 + (d.month - 1 : Nat) + months
  let year := all.fdiv 12
  let month := (all.fmod 12).toNat + 1
  Day.ofNumber ((⟨year, month, 1⟩ : Day).number + (d.day - 1 : Nat))

/-- the moment that a date as people write it means -/
def ofText? (now : Int) (t : Octets) : Option Int :=
  (Reading.run now (2 * t.length + 2) {} (tokens (t.length + 1) t)).bind fun r =>
    match r.moment with
    | some m => some (m + r.seconds)
    | none =>
      let (today, seconds) := split now
      let isRelative := r.seconds ≠ 0 || r.months ≠ 0 || !(tokens (t.length + 1) t).isEmpty
      let time := match r.time, r.day with
        | some time, _ => time
        | none, some _ => 0
        | none, none => if isRelative then seconds else 0
      let day := (r.day.getD today).later r.months
      some (day.number * secondsADay + time - r.zone.getD 0 + r.seconds)

end RunnableDocs.Machine.Tool.Date

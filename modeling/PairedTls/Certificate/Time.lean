import PairedTls.Der.Writer

namespace PairedTls

structure CertTime where
  year : Nat
  month : Nat
  day : Nat
  hour : Nat
  minute : Nat
  second : Nat
  millis : Nat
  /-- Seconds east of UTC. -/
  offset : Int
  deriving DecidableEq, Repr

namespace CertTime

def leap (y : Nat) : Bool :=
  y % 4 == 0 && (y % 100 != 0 || y % 400 == 0)

def daysIn (y m : Nat) : Nat :=
  if m = 2 then (if leap y then 29 else 28)
  else if m = 4 ∨ m = 6 ∨ m = 9 ∨ m = 11 then 30
  else if 1 ≤ m ∧ m ≤ 12 then 31
  else 0

def inCalendar (y m d : Nat) : Bool :=
  1 ≤ d && d ≤ daysIn y m

/-- Days from 1970-01-01, counted in years that begin in March. -/
def dayNumber (y m d : Nat) : Int :=
  let y' : Int := if m ≤ 2 then y - 1 else y
  let m' : Nat := (m + 9) % 12
  y' * 365 + y'.fdiv 4 - y'.fdiv 100 + y'.fdiv 400 + ((153 * m' + 2) / 5 : Nat) + d - 719469

def unix (t : CertTime) : Int :=
  dayNumber t.year t.month t.day * 86400 + (t.hour * 3600 + t.minute * 60 + t.second : Nat) - t.offset

def civil (days : Int) : Int × Nat × Nat :=
  let z := days + 719468
  let era := z.fdiv 146097
  let doe := (z - era * 146097).toNat
  let yoe := (doe - doe / 1460 + doe / 36524 - doe / 146096) / 365
  let doy := doe - (365 * yoe + yoe / 4 - yoe / 100)
  let mp := (5 * doy + 2) / 153
  let d := doy - (153 * mp + 2) / 5 + 1
  let m := if mp < 10 then mp + 3 else mp - 9
  (era * 400 + yoe + (if m ≤ 2 then 1 else 0), m, d)

def ofUnix? (seconds : Int) : Option CertTime :=
  let days := seconds.fdiv 86400
  let inDay := (seconds - days * 86400).toNat
  let (y, m, d) := civil days
  if 0 ≤ y ∧ y ≤ 9999 then
    some ⟨y.toNat, m, d, inDay / 3600, inDay / 60 % 60, inDay % 60, 0, 0⟩
  else none

def ofNanos? (nanos : Int) : Option CertTime :=
  ofUnix? (nanos.fdiv 1000000000)

def padLeft (width n : Nat) : String :=
  let digits := n.repr.toList
  String.ofList (List.replicate (width - digits.length) '0' ++ digits)

def fraction (millis : Nat) : String :=
  let digits := (padLeft 3 millis).toList
  String.ofList (digits.take 1 ++ ((digits.drop 1).reverse.dropWhile (· == '0')).reverse)

def offsetText (offset : Int) : String :=
  let n := offset.natAbs
  (if offset < 0 then "-" else "+") ++ padLeft 2 (n / 3600) ++ ":" ++ padLeft 2 (n / 60 % 60) ++ ":" ++
    padLeft 2 (n % 60)

def text (t : CertTime) : String :=
  padLeft 4 t.year ++ "-" ++ padLeft 2 t.month ++ "-" ++ padLeft 2 t.day ++ " " ++ t.hour.repr ++ ":" ++
    padLeft 2 t.minute ++ ":" ++ padLeft 2 t.second ++ "." ++ fraction t.millis ++ " " ++ offsetText t.offset

def digit? (b : UInt8) : Option Nat :=
  if 48 ≤ b ∧ b ≤ 57 then some (b.toNat - 48) else none

def twoDigits? : Bytes → Option (Nat × Bytes)
  | a :: b :: rest => do
    let x ← digit? a
    let y ← digit? b
    return (10 * x + y, rest)
  | _ => none

structure Clock where
  month : Nat
  day : Nat
  hour : Nat
  minute : Nat
  second : Nat

/-- Month to seconds; the seconds are left out when fewer than two bytes are left. -/
def readClock? (bs : Bytes) : Option (Clock × Bytes) := do
  let (month, bs) ← twoDigits? bs
  let (day, bs) ← twoDigits? bs
  let (hour, bs) ← twoDigits? bs
  let (minute, bs) ← twoDigits? bs
  let (second, bs) ←
    match bs with
    | [] => none
    | [_] => some (0, bs)
    | _ => twoDigits? bs
  if month ≤ 12 ∧ day ≤ 31 ∧ hour ≤ 23 ∧ minute ≤ 59 ∧ second ≤ 59 then
    some (⟨month, day, hour, minute, second⟩, bs)
  else none

def readOffset? : Bytes → Option Int
  | [90] => some 0
  | sign :: bs => do
    let (hours, bs) ← twoDigits? bs
    let (minutes, bs) ← twoDigits? bs
    if bs.isEmpty ∧ hours ≤ 25 ∧ minutes ≤ 59 then
      if sign = 43 then some (hours * 3600 + minutes * 60)
      else if sign = 45 then some (-(hours * 3600 + minutes * 60))
      else none
    else none
  | [] => none

def build? (year : Nat) (c : Clock) (millis : Nat) (offset : Int) : Option CertTime :=
  if inCalendar year c.month c.day then
    some ⟨year, c.month, c.day, c.hour, c.minute, c.second, millis, offset⟩
  else none

def readShort? (content : Bytes) : Option CertTime := do
  if content.any fun b => b < 0x20 ∨ 0x7F < b then none
  else
    let (yy, bs) ← twoDigits? content
    let (clock, bs) ← readClock? bs
    let offset ← readOffset? bs
    build? (if 50 ≤ yy then 1900 + yy else 2000 + yy) clock 0 offset

def readMillis? : Bytes → Option Nat
  | [] => some 0
  | 46 :: ds => do
    let values ← ds.mapM digit?
    match values with
    | [] => some 0
    | [a] => some (100 * a)
    | [a, b] => some (100 * a + 10 * b)
    | [a, b, c] => some (100 * a + 10 * b + c)
    | _ => none
  | _ => none

def readLong? (content : Bytes) : Option CertTime := do
  if content.getLast? ≠ some 90 then none
  else
    let (century, bs) ← twoDigits? content
    let (yy, bs) ← twoDigits? bs
    let (clock, bs) ← readClock? bs
    let millis ← readMillis? bs.dropLast
    build? (100 * century + yy) clock millis 0

def read? (e : Der.Element) : Option CertTime :=
  if e.number = Der.Tag.utcTime then readShort? e.content
  else if e.number = Der.Tag.generalizedTime then readLong? e.content
  else none

def digits (width n : Nat) : Bytes :=
  Bytes.ofString (padLeft width n)

def clockDigits (t : CertTime) : Bytes :=
  digits 2 t.month ++ digits 2 t.day ++ digits 2 t.hour ++ digits 2 t.minute ++ digits 2 t.second ++ [90]

def encode (t : CertTime) : Bytes :=
  if 1950 ≤ t.year ∧ t.year < 2050 then Der.write 0x17 (digits 2 (t.year % 100) ++ t.clockDigits)
  else Der.write 0x18 (digits 4 t.year ++ t.clockDigits)

end CertTime
end PairedTls

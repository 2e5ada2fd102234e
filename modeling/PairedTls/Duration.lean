import PairedTls.Text.Quoted

namespace PairedTls

structure Duration where
  secs : Nat
  nanos : Nat
  secs_lt : secs < UInt64.size
  nanos_lt : nanos < 1000000000
  deriving DecidableEq, Repr

inductive NumberFault where
  | empty
  | invalidDigit
  | overflow
  deriving DecidableEq, Repr

def NumberFault.message : NumberFault → String
  | .empty => "cannot parse integer from empty string"
  | .invalidDigit => "invalid digit found in string"
  | .overflow => "number too large to fit in target type"

inductive DurationFault where
  | number (fault : NumberFault)
  | tooLarge (text : String)
  deriving DecidableEq, Repr

def DurationFault.message : DurationFault → String
  | .number fault => fault.message
  | .tooLarge text => "duration '" ++ text ++ "' is too large"

namespace Duration

def nanosPerSecond : Nat := 1000000000

def ofSecs (n : Nat) (h : n < UInt64.size) : Duration :=
  ⟨n, 0, h, by decide⟩

def ofMillis (n : Nat) (h : n < UInt64.size) : Duration :=
  ⟨n / 1000, n % 1000 * 1000000, by omega, by omega⟩

def totalNanos (d : Duration) : Nat :=
  d.secs * nanosPerSecond + d.nanos

def totalMillis (d : Duration) : Nat :=
  d.secs * 1000 + d.nanos / 1000000

def gather (limit acc : Nat) : List Char → Except NumberFault Nat
  | [] => .ok acc
  | c :: rest =>
    if '0' ≤ c ∧ c ≤ '9' then
      let n := acc * 10 + (c.toNat - 48)
      if n < limit then gather limit n rest else .error .overflow
    else .error .invalidDigit

def readNumber (cs : List Char) : Except NumberFault Nat :=
  match cs with
  | [] => .error .empty
  | ['+'] => .error .invalidDigit
  | '+' :: rest => gather UInt64.size 0 rest
  | _ => gather UInt64.size 0 cs

def number (cs : List Char) : Except DurationFault Nat :=
  match readNumber cs with
  | .ok n => .ok n
  | .error fault => .error (.number fault)

def stem? (unit cs : List Char) : Option (List Char) :=
  if unit.isSuffixOf cs then some (cs.take (cs.length - unit.length)) else none

def secsOf (n : Nat) (tooLarge : DurationFault) : Except DurationFault Duration :=
  if h : n < UInt64.size then .ok (ofSecs n h) else .error tooLarge

/-- The unit `ms` is looked for before `s` and `m`, which it ends in or starts with. -/
def parse (s : String) : Except DurationFault Duration := do
  let cs := s.toList
  match stem? ['m', 's'] cs with
  | some stem =>
    let n ← number stem
    if h : n < UInt64.size then return ofMillis n h else .error (.number .overflow)
  | none =>
    match stem? ['s'] cs with
    | some stem => secsOf (← number stem) (.number .overflow)
    | none =>
      match stem? ['m'] cs with
      | some stem => secsOf ((← number stem) * 60) (.tooLarge s)
      | none => secsOf (← number cs) (.number .overflow)

/-- Seconds when there are no milliseconds beside them, milliseconds else; finer parts are dropped. -/
def format (d : Duration) : String :=
  if d.nanos / 1000000 = 0 then d.secs.repr ++ "s" else d.totalMillis.repr ++ "ms"

def fractionText (width n : Nat) : String :=
  let digits := n.repr.toList
  let padded := List.replicate (width - digits.length) '0' ++ digits
  let kept := (padded.reverse.dropWhile (· == '0')).reverse
  if kept.isEmpty then "" else "." ++ String.ofList kept

def debug (d : Duration) : String :=
  if 0 < d.secs then d.secs.repr ++ fractionText 9 d.nanos ++ "s"
  else if 1000000 ≤ d.nanos then (d.nanos / 1000000).repr ++ fractionText 6 (d.nanos % 1000000) ++ "ms"
  else if 1000 ≤ d.nanos then (d.nanos / 1000).repr ++ fractionText 3 (d.nanos % 1000) ++ "µs"
  else d.nanos.repr ++ "ns"

end Duration
end PairedTls

import PairedTls.Decimal.Binary

namespace PairedTls.Binary64

structure Digits where
  value : Nat
  exponent : Int
  deriving DecidableEq, Repr

/-- The two points of the grid of step `10 ^ exponent` on either side of a number, the nearer one first. -/
def neighbours (mantissa : Nat) (binary decimal : Int) : List Nat :=
  let num := mantissa * Nat.pow 2 binary.toNat * Nat.pow 10 (-decimal).toNat
  let den := Nat.pow 2 (-binary).toNat * Nat.pow 10 decimal.toNat
  let low := num / den
  if 2 * (num % den) ≤ den then [low, low + 1] else [low + 1, low]

def readsBack (mantissa : Nat) (binary : Int) (d : Digits) : Bool :=
  ofDecimal false d.value d.exponent == .finite false mantissa binary

def magnitude (mantissa : Nat) (binary : Int) : Int :=
  ((mantissa.log2 : Int) + binary) * 30103 / 100000

def onGrid? (mantissa : Nat) (binary decimal : Int) : Option Digits :=
  ((neighbours mantissa binary decimal).map (⟨·, decimal⟩)).find? (readsBack mantissa binary)

/-- From the coarsest grid to finer ones. -/
def search (mantissa : Nat) (binary : Int) : Nat → Int → Option Digits
  | 0, _ => none
  | fuel + 1, decimal => (onGrid? mantissa binary decimal).or (search mantissa binary fuel (decimal - 1))

def trimmed (d : Digits) : Nat → Digits
  | 0 => d
  | fuel + 1 => if d.value ≠ 0 ∧ d.value % 10 = 0 then trimmed ⟨d.value / 10, d.exponent + 1⟩ fuel else d

/-- The fewest digits that read back as the same number, and of those the nearest to it. -/
def shortest (mantissa : Nat) (binary : Int) : Digits :=
  if mantissa = 0 then ⟨0, 0⟩
  else trimmed ((search mantissa binary 20 (magnitude mantissa binary + 1)).getD ⟨0, 0⟩) 20

def zeros (n : Int) : String :=
  String.ofList (List.replicate n.toNat '0')

def Digits.positional (d : Digits) : String :=
  let text := d.value.repr
  let point : Int := text.length + d.exponent
  if 0 ≤ d.exponent then text ++ zeros d.exponent
  else if point ≤ 0 then "0." ++ zeros (-point) ++ text
  else (text.take point.toNat).toString ++ "." ++ (text.drop point.toNat).toString

def Digits.compact (d : Digits) : String :=
  let text := d.value.repr
  let point : Int := text.length + d.exponent
  if 0 ≤ d.exponent ∧ point ≤ 16 then d.positional ++ ".0"
  else if -5 < point ∧ point ≤ 16 then d.positional
  else
    let tail := (text.drop 1).toString
    (text.take 1).toString ++ (if tail.isEmpty then "" else "." ++ tail) ++ "e" ++ toString (point - 1)

def text (write : Digits → String) : Binary64 → String
  | .nan => "NaN"
  | .infinite negative => if negative then "-inf" else "inf"
  | .finite negative m e => (if negative then "-" else "") ++ write (shortest m e)

def positionalText (x : Binary64) : String :=
  x.text Digits.positional

def pointedText (x : Binary64) : String :=
  let shown := x.positionalText
  if x.isFinite && !shown.contains '.' then shown ++ ".0" else shown

def compactText (x : Binary64) : String :=
  x.text Digits.compact

end PairedTls.Binary64

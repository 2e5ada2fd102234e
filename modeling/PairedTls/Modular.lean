namespace PairedTls.Modular

def pow (base exponent modulus : Nat) : Nat :=
  if exponent = 0 then 1 % modulus
  else
    let half := pow (base * base % modulus) (exponent / 2) modulus
    if exponent % 2 = 1 then half * base % modulus else half
termination_by exponent

def bezout (r r' : Nat) (s s' : Int) : Nat × Int :=
  if r' = 0 then (r, s) else bezout r' (r % r') s' (s - (r / r' : Nat) * s')
termination_by r'
decreasing_by exact Nat.mod_lt _ (by omega)

def inverse? (a modulus : Nat) : Option Nat :=
  let (g, s) := bezout (a % modulus) modulus 1 0
  if g = 1 then some (s % modulus).toNat else none

def splitTwos (n : Nat) : Nat × Nat :=
  if n = 0 ∨ n % 2 = 1 then (0, n)
  else
    let (twos, odd) := splitTwos (n / 2)
    (twos + 1, odd)
termination_by n

def squaresTo (target modulus : Nat) : Nat → Nat → Bool
  | 0, _ => false
  | k + 1, x => x == target || squaresTo target modulus k (x * x % modulus)

def passes (n twos odd base : Nat) : Bool :=
  let x := pow base odd n
  x == 1 || squaresTo (n - 1) n twos x

def smallPrimes : List Nat :=
  [2, 3, 5, 7, 11, 13, 17, 19, 23, 29, 31, 37]

def probablyPrime (n : Nat) : Bool :=
  if smallPrimes.contains n then true
  else if n < 2 || smallPrimes.any (n % · == 0) then false
  else
    let (twos, odd) := splitTwos (n - 1)
    smallPrimes.all (passes n twos odd)

end PairedTls.Modular

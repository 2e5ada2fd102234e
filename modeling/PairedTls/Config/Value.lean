import PairedTls.Decimal.Shortest
import PairedTls.Text.Quoted

namespace PairedTls.Config

inductive Source where
  | file (shown : String)
  | environment
  | direct
  deriving DecidableEq, Repr

inductive Scalar where
  | null
  | bool (b : Bool)
  | unsigned (n : Nat)
  | signed (n : Int)
  /-- An integer that needs more than 64 bits. -/
  | wide (n : Int)
  | float (x : Binary64)
  | text (s : String)
  deriving DecidableEq, Repr

/-- Members of a map are in the order of their names. -/
inductive Value where
  | scalar (source : Source) (s : Scalar)
  | list (source : Source) (items : List Value)
  | map (source : Source) (members : List (String × Value))

namespace Scalar

/-- The number `mantissa · 10 ^ -places`; an integer if it has no places and fits in 64 bits. -/
def ofNumber (mantissa : Int) (places : Nat) : Scalar :=
  if places = 0 ∧ 0 ≤ mantissa ∧ mantissa < UInt64.size then .unsigned mantissa.toNat
  else if places = 0 ∧ -(UInt64.size / 2) ≤ mantissa ∧ mantissa < 0 then .signed mantissa
  else .float (.ofDecimal (decide (mantissa < 0)) mantissa.natAbs (-(places : Int)))

def wideText (n : Int) : String :=
  "integer \x60" ++ toString n ++ "\x60 as " ++ if n < 0 then "i128" else "u128"

def boolText (b : Bool) : String :=
  if b then "true" else "false"

end Scalar

inductive Found where
  | scalar (s : Scalar)
  | list
  | map
  deriving DecidableEq, Repr

namespace Found

def layered : Found → String
  | .scalar .null => "unit"
  | .scalar (.bool b) => "bool " ++ Scalar.boolText b
  | .scalar (.unsigned n) => "unsigned int \x60" ++ n.repr ++ "\x60"
  | .scalar (.signed n) => "signed int \x60" ++ toString n ++ "\x60"
  | .scalar (.wide n) => Scalar.wideText n
  | .scalar (.float x) => "float \x60" ++ x.positionalText ++ "\x60"
  | .scalar (.text s) => "string " ++ Text.quoted s
  | .list => "sequence"
  | .map => "map"

/-- In the words of a reader of one document; `null` and how floats are written differ between formats. -/
def documentText (null : String) (float : Binary64 → String) : Found → String
  | .scalar .null => null
  | .scalar (.bool b) => "boolean \x60" ++ Scalar.boolText b ++ "\x60"
  | .scalar (.unsigned n) => "integer \x60" ++ n.repr ++ "\x60"
  | .scalar (.signed n) => "integer \x60" ++ toString n ++ "\x60"
  | .scalar (.wide n) => Scalar.wideText n
  | .scalar (.float x) => "floating point \x60" ++ float x ++ "\x60"
  | .scalar (.text s) => "string " ++ Text.quoted s
  | .list => "sequence"
  | .map => "map"

def json : Found → String :=
  documentText "null" Binary64.compactText

def yaml : Found → String :=
  documentText "unit value" Binary64.pointedText

end Found

namespace Value

def source : Value → Source
  | .scalar s _ => s
  | .list s _ => s
  | .map s _ => s

def found : Value → Found
  | .scalar _ s => .scalar s
  | .list .. => .list
  | .map .. => .map

def insert (name : String) (v : Value) : List (String × Value) → List (String × Value)
  | [] => [(name, v)]
  | (other, w) :: rest =>
    if name = other then (name, v) :: rest
    else if name < other then (name, v) :: (other, w) :: rest
    else (other, w) :: insert name v rest

def ofMembers (source : Source) (members : List (String × Value)) : Value :=
  .map source (members.foldl (fun sorted (name, v) => insert name v sorted) [])

mutual
/-- `later` over `earlier`. -/
def merge (earlier : Value) : Value → Value
  | .map source members =>
    match earlier with
    | .map _ old => .map source (mergeMembers old members)
    | _ => .map source members
  | later => later

def mergeMembers (old : List (String × Value)) : List (String × Value) → List (String × Value)
  | [] => old
  | (name, v) :: rest =>
    let v := match old.lookup name with
      | some w => merge w v
      | none => v
    mergeMembers (insert name v old) rest
end

end Value
end PairedTls.Config

import PairedTls.Config.Value
import PairedTls.Hex
import PairedTls.Text.Blank

namespace PairedTls.Config.Environment

def blank (c : Char) : Bool :=
  c == ' ' || c == '\t' || c == '\n' || c == '\x0c' || c == '\r'

def separates (c : Char) : Bool :=
  c == ',' || c == '{' || c == '}' || c == '[' || c == ']'

def skipBlanks (cs : List Char) : List Char :=
  cs.dropWhile blank

def escapes : List (Char × Char) :=
  [('"', '"'), ('\\', '\\'), ('b', '\x08'), ('f', '\x0c'), ('n', '\n'), ('r', '\r'), ('t', '\t')]

def codePoint? (cs : List Char) : Option Char := do
  let n ← cs.foldlM (fun n c => (Hex.value? c).map (n * 16 + ·)) 0
  if h : n.isValidChar then some (Char.ofNatAux n h) else none

def codeWidth (c : Char) : Nat :=
  if c = 'u' then 4 else 8

def printable (c : Char) : Bool :=
  c == '\t' || (0x20 ≤ c.toNat && c.toNat != 0x7F)

def readQuoted? : Nat → List Char → Option (List Char × List Char)
  | 0, _ => none
  | _ + 1, [] => none
  | _ + 1, '"' :: rest => some ([], rest)
  | fuel + 1, '\\' :: c :: rest =>
    match escapes.lookup c with
    | some x => (readQuoted? fuel rest).map fun (text, rest) => (x :: text, rest)
    | none =>
      if c = 'u' ∨ c = 'U' then do
        let width := codeWidth c
        if rest.length < width then none
        else
          let x ← codePoint? (rest.take width)
          let (text, rest) ← readQuoted? fuel (rest.drop width)
          return (x :: text, rest)
      else none
  | fuel + 1, c :: rest =>
    if c ≠ '\\' ∧ printable c then (readQuoted? fuel rest).map fun (text, rest) => (c :: text, rest) else none

def word (cs : List Char) : Scalar :=
  let s := String.ofList cs
  let (negative, digits) := Binary64.splitSign cs
  let whole := !digits.isEmpty && digits.all Char.isDigit
  let n := Binary64.digitsValue digits
  match if cs.contains '.' then Binary64.parse? s else none with
  | some x => .float x
  | none =>
    if whole && !negative && n < UInt64.size then .unsigned n
    else if whole && negative && n ≤ UInt64.size / 2 then .signed (-n)
    else .text s

def stripWord? (stem : String) (cs : List Char) : Option (List Char) :=
  if stem.toList.isPrefixOf cs then some (cs.drop stem.length) else none

def isKeyChar (c : Char) : Bool :=
  c.isAlphanum || c == '_' || c == '-'

def readKey? (cs : List Char) : Option (String × List Char) :=
  match cs with
  | '"' :: rest => (readQuoted? (rest.length + 1) rest).map fun (text, rest) => (String.ofList text, rest)
  | _ =>
    let name := cs.takeWhile isKeyChar
    if name.isEmpty then none else some (String.ofList name, cs.drop name.length)

mutual
def readValue? : Nat → List Char → Option (Value × List Char)
  | 0, _ => none
  | fuel + 1, cs =>
    let cs := skipBlanks cs
    let scalar (s : Scalar) (rest : List Char) : Option (Value × List Char) :=
      some (.scalar .environment s, skipBlanks rest)
    match stripWord? "true" cs, stripWord? "false" cs with
    | some rest, _ => scalar (.bool true) rest
    | none, some rest => scalar (.bool false) rest
    | none, none =>
      match cs with
      | '{' :: rest =>
        (readMembers? fuel rest).map fun (members, rest) =>
          (.ofMembers .environment members, skipBlanks rest)
      | '[' :: rest => (readItems? fuel rest).map fun (items, rest) => (.list .environment items, skipBlanks rest)
      | '"' :: rest => do
        let (text, rest) ← readQuoted? (rest.length + 1) rest
        scalar (.text (String.ofList text)) rest
      | '\'' :: rest =>
        match rest with
        | c :: '\'' :: rest => scalar (.text c.toString) rest
        | _ => none
      | _ =>
        let read := cs.takeWhile (!separates ·)
        scalar (word (Text.trim read)) (cs.drop read.length)

def readItems? : Nat → List Char → Option (List Value × List Char)
  | 0, _ => none
  | _ + 1, ']' :: rest => some ([], rest)
  | fuel + 1, cs => do
    let (v, rest) ← readValue? fuel cs
    match rest with
    | ',' :: rest =>
      let (more, rest) ← readItems? fuel rest
      return (v :: more, rest)
    | ']' :: rest => return ([v], rest)
    | _ => none

def readMembers? : Nat → List Char → Option (List (String × Value) × List Char)
  | 0, _ => none
  | _ + 1, '}' :: rest => some ([], rest)
  | fuel + 1, cs => do
    let (name, rest) ← readKey? (skipBlanks cs)
    match skipBlanks rest with
    | '=' :: rest =>
      let (v, rest) ← readValue? fuel rest
      match rest with
      | ',' :: rest =>
        let (more, rest) ← readMembers? fuel rest
        return ((name, v) :: more, rest)
      | '}' :: rest => return ([(name, v)], rest)
      | _ => none
    | _ => none
end

/-- A truth value, a number, a quoted text, a list or a map; what cannot be read to its end is text as it stands. -/
def value (text : String) : Value :=
  let cs := text.toList
  match readValue? (2 * cs.length + 2) cs with
  | some (v, []) => v
  | _ => .scalar .environment (.text text)

def stem : String := "WOLF_TLS_"

def lower (s : String) : List Char :=
  s.toList.map Char.toLower

def dotted : List Char → List Char
  | '_' :: '_' :: rest => '.' :: dotted rest
  | c :: rest => c :: dotted rest
  | [] => []

/-- The names of the sections on the way to a setting; none if the variable is not meant for this program. -/
def path? (name : String) : Option (List String) :=
  let chars := (Text.trim name.toList).map Char.toLower
  let front := lower stem
  if front.isPrefixOf chars then
    let names := ((dotted (chars.drop front.length)).splitOn '.').map String.ofList
    if names.contains "" then none else some names
  else none

def nest (v : Value) : List String → Value
  | [] => v
  | name :: rest => .map .environment [(name, nest v rest)]

/-- All settings in the environment, a later variable over an earlier one. -/
def read (environment : List (String × String)) : Value :=
  environment.foldl (fun settings (name, text) =>
    match path? name with
    | some path => settings.merge (nest (value text) path)
    | none => settings) (.map .environment [])

end PairedTls.Config.Environment

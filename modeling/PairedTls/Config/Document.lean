import PairedTls.Config.Value
import PairedTls.Yaml.Event

namespace PairedTls.Config

namespace Plain

def nulls : List String := ["null", "Null", "NULL", "~"]
def trues : List String := ["true", "True", "TRUE"]
def falses : List String := ["false", "False", "FALSE"]
def infinities : List String := [".inf", ".Inf", ".INF"]
def notNumbers : List String := [".nan", ".NaN", ".NAN"]

def bool? (s : String) : Option Bool :=
  if trues.contains s then some true else if falses.contains s then some false else none

def digit? (radix : Nat) (c : Char) : Option Nat :=
  (Hex.value? c).filter (· < radix)

def digits? (radix : Nat) (cs : List Char) : Option Nat :=
  if cs.isEmpty then none else cs.foldlM (fun n c => (digit? radix c).map (n * radix + ·)) 0

def radices : List (List Char × Nat) :=
  [(['0', 'x'], 16), (['0', 'o'], 8), (['0', 'b'], 2)]

def isPadded : List Char → Bool
  | '0' :: rest => !rest.isEmpty && rest.all Char.isDigit
  | _ => false

def magnitude? (cs : List Char) : Option Nat :=
  (radices.findSome? fun (stem, radix) =>
    if stem.isPrefixOf cs then digits? radix (cs.drop 2) else none).or
  (if isPadded cs then none else digits? 10 cs)

def integer? (s : String) : Option Scalar := do
  let (negative, body) := Binary64.splitSign s.toList
  let n ← magnitude? body
  if negative then
    if n ≤ UInt64.size / 2 then some (.signed (-n)) else if n ≤ UInt64.size * UInt64.size / 2 then some (.wide (-n)) else none
  else if n < UInt64.size then some (.unsigned n)
  else if n < UInt64.size * UInt64.size then some (.wide n)
  else none

def float? (s : String) : Option Binary64 :=
  let (negative, body) := Binary64.splitSign s.toList
  if infinities.contains (String.ofList body) then some (.infinite negative)
  else if notNumbers.contains s then some .nan
  else if negative || !(body.head?.any fun c => c == '+' || c == '-') then
    (Binary64.parse? s).filter Binary64.isFinite
  else none

def scalar (s : String) : Scalar :=
  if s.isEmpty || nulls.contains s then .null
  else
    match bool? s with
    | some b => .bool b
    | none =>
      match integer? s with
      | some n => n
      | none =>
        match if isPadded (Binary64.splitSign s.toList).2 then none else float? s with
        | some x => .float x
        | none => .text s

end Plain

inductive DocumentFault where
  | yaml (fault : Yaml.Fault)
  | manyDocuments
  deriving DecidableEq, Repr

namespace Document
open Yaml

def coreTag (name : String) : String := "tag:yaml.org,2002:" ++ name

def invalid (text expected : String) (mark : Mark) : Fault :=
  .other ("invalid value: string " ++ Text.quoted text ++ ", expected " ++ expected) mark

/-- A tag of the core schema has to fit; any other one makes the scalar plain text. -/
def tagged (tag text : String) (plain : Bool) (mark : Mark) : Except Fault Scalar :=
  if tag = coreTag "bool" then
    match Plain.bool? text with
    | some b => .ok (.bool b)
    | none => .error (invalid text "a boolean" mark)
  else if tag = coreTag "int" then
    match Plain.integer? text with
    | some n => .ok n
    | none => .error (invalid text "an integer" mark)
  else if tag = coreTag "float" then
    match Plain.float? text with
    | some x => .ok (.float x)
    | none => .error (invalid text "a float" mark)
  else if tag = coreTag "null" then
    if Plain.nulls.contains text then .ok .null else .error (invalid text "null" mark)
  else if plain && tag.startsWith "!" then .ok (Plain.scalar text)
  else .ok (.text text)

def scalar (tag : Option String) (text : String) (plain : Bool) (mark : Mark) : Except Fault Scalar :=
  match tag with
  | some tag => tagged tag text plain mark
  | none => .ok (if plain then Plain.scalar text else .text text)

def wrapper? (tag : Option String) : Option String :=
  tag.bind fun t => if t.startsWith "!" then some (t.drop 1).toString else none

def wrap (source : Source) (tag : Option String) (v : Value) : Value :=
  match wrapper? tag with
  | some name => .map source [(name, v)]
  | none => v

/-- A node with a name: its value, its text if it is a scalar, and how many aliases it stands on. A node
that is still open has no value. -/
structure Anchored where
  value : Option Value
  text : Option String
  jumps : Nat
  mark : Mark

structure Progress where
  events : List (Event × Mark)
  fault : Option Fault
  anchors : List (String × Anchored)
  jumps : Nat
  limit : Nat

abbrev Reading := StateT Progress (Except Fault)

def maxDepth : Nat := 128

def next : Reading (Event × Mark) := do
  let p ← get
  match p.events with
  | e :: rest =>
    set { p with events := rest }
    return e
  | [] => throw (p.fault.getD (.other "EOF while parsing a value" .start))

def name (anchor : Option String) (a : Anchored) : Reading Unit :=
  match anchor with
  | some n => modify fun p => { p with anchors := (n, a) :: p.anchors }
  | none => pure ()

def follow (anchor : String) (mark : Mark) : Reading Anchored := do
  let p ← get
  match p.anchors.lookup anchor with
  | none => throw (.other "unknown anchor" mark)
  | some a =>
    let jumps := p.jumps + 1 + a.jumps
    if p.limit < jumps then throw (.malformed "repetition limit exceeded" .start none)
    set { p with jumps := jumps }
    return a

def notKey {α : Type} (found : Found) (mark : Mark) : Reading α :=
  throw (.other ("invalid type: " ++ found.yaml ++ ", expected a string") mark)

def key (event : Event) (mark : Mark) : Reading String := do
  match event with
  | .scalar anchor tag text plain =>
    name anchor ⟨some (.scalar .direct (if tag.isNone && plain then Plain.scalar text else .text text)), some text, 0, mark⟩
    return text
  | .aliasOf n =>
    let a ← follow n mark
    match a.text with
    | some text => return text
    | none => notKey ((a.value.map Value.found).getD .map) a.mark
  | .sequenceStart .. => notKey .list mark
  | _ => notKey .map mark

mutual
def node (source : Source) : Nat → Nat → Event → Mark → Reading Value
  | 0, _, _, mark => throw (.other "recursion limit exceeded" mark)
  | fuel + 1, depth, event, mark => do
    let before := (← get).jumps
    let finish (anchor tag : Option String) (text : Option String) (v : Value) : Reading Value := do
      let v := wrap source tag v
      name anchor ⟨some v, text, (← get).jumps - before, mark⟩
      return v
    let enter (anchor : Option String) : Reading Unit := do
      name anchor ⟨none, none, 0, mark⟩
      if maxDepth ≤ depth then throw (.other "recursion limit exceeded" mark)
    match event with
    | .aliasOf n =>
      let a ← follow n mark
      match a.value with
      | some v => return v
      | none => throw (.other "recursion limit exceeded" a.mark)
    | .scalar anchor tag text plain =>
      match scalar tag text plain mark with
      | .ok s => finish anchor tag (some text) (.scalar source s)
      | .error e => throw e
    | .sequenceStart anchor tag =>
      enter anchor
      let items ← items source fuel (depth + 1)
      finish anchor tag none (.list source items)
    | .mappingStart anchor tag =>
      enter anchor
      let members ← members source fuel (depth + 1)
      finish anchor tag none (.ofMembers source members)
    | _ => return .scalar source .null

def items (source : Source) : Nat → Nat → Reading (List Value)
  | 0, _ => return []
  | fuel + 1, depth => do
    match ← next with
    | (.sequenceEnd, _) => return []
    | (event, mark) =>
      let v ← node source fuel depth event mark
      return v :: (← items source fuel depth)

def members (source : Source) : Nat → Nat → Reading (List (String × Value))
  | 0, _ => return []
  | fuel + 1, depth => do
    match ← next with
    | (.mappingEnd, _) => return []
    | (event, mark) =>
      let k ← key event mark
      let (event, mark) ← next
      let v ← node source fuel depth event mark
      return (k, v) :: (← members source fuel depth)
end

def notMap (found : Found) (mark : Mark) : Fault :=
  .other ("invalid type: " ++ found.yaml ++ ", expected a map") mark

def topMembers (fuel : Nat) (source : Source) : Reading (List (String × Value)) := do
  match ← next with
  | (.mappingStart anchor _, mark) =>
    name anchor ⟨none, none, 0, mark⟩
    members source fuel 1
  | (.scalar _ tag text plain, mark) =>
    if plain && text.isEmpty then return []
    else
      match scalar tag text plain mark with
      | .ok s => throw (notMap (.scalar s) mark)
      | .error e => throw e
  | (_, mark) => throw (notMap .list mark)

def isOnlyEnd : List (Event × Mark) → Bool
  | [(.streamEnd, _)] => true
  | _ => false

/-- The map that a text holds. A fault of the text counts once everything in front of it has been read. -/
def read (source : Source) (text : List Char) : Except DocumentFault Value :=
  let (events, fault) := eventsOf text
  if isOnlyEnd events then .ok (.map source [])
  else
    let body := (events.dropWhile (·.1 == .documentStart)).takeWhile (·.1 != .documentEnd)
    let later := (events.dropWhile (·.1 != .documentEnd)).drop 1
    let ended := events.any (·.1 == .documentEnd)
    let progress : Progress := ⟨body, if ended then none else fault, [], 0, 100 * body.length⟩
    match (topMembers (2 * body.length + 4) source).run progress with
    | .error e => .error (.yaml e)
    | .ok (members, _) =>
      match fault, ended with
      | some e, false => .error (.yaml e)
      | _, _ => if isOnlyEnd later then .ok (.ofMembers source members) else .error .manyDocuments

end Document
end PairedTls.Config

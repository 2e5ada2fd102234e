namespace PairedTls.Yaml

structure Mark where
  index : Nat
  line : Nat
  column : Nat
  deriving DecidableEq, Repr

namespace Mark

def start : Mark := ⟨0, 0, 0⟩

def isStart (m : Mark) : Bool :=
  m.line == 0 && m.column == 0

def text (m : Mark) : String :=
  "line " ++ (m.line + 1).repr ++ " column " ++ (m.column + 1).repr

def suffix (m : Mark) : String :=
  if m.isStart then "" else " at " ++ m.text

end Mark

inductive Fault where
  | malformed (problem : String) (mark : Mark) (context : Option (String × Mark))
  | control (offset : Nat)
  | other (problem : String) (mark : Mark)
  deriving DecidableEq, Repr

namespace Fault

def contextText (mark : Mark) : Option (String × Mark) → String
  | none => ""
  | some (text, since) =>
    ", " ++ text ++ if since.isStart || (since.line == mark.line && since.column == mark.column) then ""
      else " at " ++ since.text

def message : Fault → String
  | .malformed problem mark context => problem ++ mark.suffix ++ contextText mark context
  | .control offset =>
    "control characters are not allowed" ++ if offset = 0 then "" else " at position " ++ offset.repr
  | .other problem mark => problem ++ mark.suffix

def isPlaced : Fault → Bool
  | .malformed _ mark (some (_, since)) => !mark.isStart || !(since.isStart)
  | .malformed _ mark none => !mark.isStart
  | .control _ => false
  | .other _ mark => !mark.isStart

end Fault

def isBreak (c : Char) : Bool :=
  c == '\n' || c == '\r' || c == '\x85' || c == '\u2028' || c == '\u2029'

def isBlank (c : Char) : Bool :=
  c == ' ' || c == '\t'

def endsWord : Option Char → Bool
  | none => true
  | some c => isBlank c || isBreak c

def isNameChar (c : Char) : Bool :=
  c.isAlphanum || c == '_' || c == '-'

def isAllowed (c : Char) : Bool :=
  let n := c.toNat
  n == 0x09 || n == 0x0A || n == 0x0D || (0x20 ≤ n && n ≤ 0x7E) || n == 0x85 || (0xA0 ≤ n && n ≤ 0xD7FF) ||
    (0xE000 ≤ n && n ≤ 0xFFFD) || 0x10000 ≤ n

def firstControl? (offset : Nat) : List Char → Option Nat
  | [] => none
  | c :: rest => if isAllowed c then firstControl? (offset + c.utf8Size) rest else some offset

structure Cursor where
  rest : List Char
  mark : Mark

namespace Cursor

def peek (c : Cursor) (n : Nat) : Option Char :=
  c.rest[n]?

def atChar (c : Cursor) (x : Char) : Bool :=
  c.rest.head? == some x

def skip (c : Cursor) (n : Nat) : Cursor :=
  ⟨c.rest.drop n, { c.mark with index := c.mark.index + n, column := c.mark.column + n }⟩

def readWhile (c : Cursor) (p : Char → Bool) : List Char × Cursor :=
  let read := c.rest.takeWhile p
  (read, c.skip read.length)

def skipWhile (c : Cursor) (p : Char → Bool) : Cursor :=
  (c.readWhile p).2

def nextLine (c : Cursor) (n : Nat) : Cursor :=
  ⟨c.rest.drop n, ⟨c.mark.index + n, c.mark.line + 1, 0⟩⟩

/-- A line break in the form in which it is kept, and what comes after it. Without one nothing is read. -/
def readBreak (c : Cursor) : List Char × Cursor :=
  match c.rest with
  | '\r' :: '\n' :: _ => (['\n'], c.nextLine 2)
  | x :: _ =>
    if x = '\n' ∨ x = '\r' ∨ x = '\x85' then (['\n'], c.nextLine 1)
    else if isBreak x then ([x], c.nextLine 1)
    else ([], c)
  | [] => ([], c)

def atBreak (c : Cursor) : Bool :=
  c.rest.head?.any isBreak

def skipComment (c : Cursor) : Cursor :=
  if c.atChar '#' then c.skipWhile (!isBreak ·) else c

def atIndicator (c : Cursor) (x : Char) : Bool :=
  c.mark.column == 0 && c.rest.take 3 == [x, x, x] && endsWord (c.peek 3)

end Cursor
end PairedTls.Yaml

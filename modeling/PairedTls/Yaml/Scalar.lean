import PairedTls.Hex
import PairedTls.Yaml.Cursor

namespace PairedTls.Yaml

/-- What lies between two words: blanks, or line breaks, of which the first is folded. -/
structure Gap where
  blanks : List Char
  first : List Char
  more : List Char
  broken : Bool

namespace Gap

def none : Gap := ⟨[], [], [], false⟩

def continued : Gap := ⟨[], [], [], true⟩

def text (g : Gap) : List Char :=
  if !g.broken then g.blanks
  else if g.first = ['\n'] then (if g.more.isEmpty then [' '] else g.more)
  else g.first ++ g.more

def addBreak (g : Gap) (read : List Char) : Gap :=
  if g.broken then { g with more := g.more ++ read } else ⟨[], read, [], true⟩

/-- Reads blanks and breaks. Fails at a tab in front of column `indent` of a new line. -/
def read (indent : Int) : Nat → Gap → Cursor → Except Cursor (Gap × Cursor)
  | 0, g, c => .ok (g, c)
  | fuel + 1, g, c =>
    match c.rest.head? with
    | some x =>
      if isBlank x then
        if g.broken && x == '\t' && decide ((c.mark.column : Int) < indent) then .error c
        else read indent fuel (if g.broken then g else { g with blanks := g.blanks ++ [x] }) (c.skip 1)
      else if isBreak x then
        let (kept, c) := c.readBreak
        read indent fuel (g.addBreak kept) c
      else .ok (g, c)
    | Option.none => .ok (g, c)

end Gap

namespace Plain

def flowEnds : List Char := [',', '[', ']', '{', '}']

/-- Reads up to where a plain word ends. The flag tells of a colon in a place where none may stand. -/
def word (flow : Bool) : List Char → List Char × Bool
  | [] => ([], false)
  | c :: rest =>
    if isBlank c || isBreak c then ([], false)
    else if flow && c == ':' && rest.head?.any ('?' :: flowEnds).contains then ([], true)
    else if c == ':' && endsWord rest.head? then ([], false)
    else if flow && flowEnds.contains c then ([], false)
    else
      let (more, fault) := word flow rest
      (c :: more, fault)

def context (since : Mark) : Option (String × Mark) :=
  some ("while scanning a plain scalar", since)

def readWords (flow : Bool) (indent : Int) (since : Mark) :
    Nat → List Char → Gap → Cursor → Except Fault (List Char × Bool × Cursor)
  | 0, text, gap, c => .ok (text, gap.broken, c)
  | fuel + 1, text, gap, c =>
    if c.atIndicator '-' || c.atIndicator '.' || c.atChar '#' then .ok (text, gap.broken, c)
    else
      let (read, fault) := word flow c.rest
      let text := if read.isEmpty then text else text ++ gap.text ++ read
      let gap := if read.isEmpty then gap else Gap.none
      let c := c.skip read.length
      if fault then .error (.malformed "found unexpected ':'" c.mark (context since))
      else if !c.rest.head?.any (fun x => isBlank x || isBreak x) then .ok (text, gap.broken, c)
      else
        match Gap.read indent c.rest.length gap c with
        | .error c =>
          .error (.malformed "found a tab character that violates indentation" c.mark (context since))
        | .ok (gap, c) =>
          if !flow && decide ((c.mark.column : Int) < indent) then .ok (text, gap.broken, c)
          else readWords flow indent since fuel text gap c

end Plain

def readPlain (flow : Bool) (indent : Int) (c : Cursor) : Except Fault (List Char × Bool × Cursor) :=
  Plain.readWords flow (indent + 1) c.mark (c.rest.length + 1) [] Gap.none c

namespace QuotedScalar

def escapes : List (Char × Char) :=
  [('0', '\x00'), ('a', '\x07'), ('b', '\x08'), ('t', '\t'), ('\t', '\t'), ('n', '\n'), ('v', '\x0b'),
   ('f', '\x0c'), ('r', '\r'), ('e', '\x1b'), (' ', ' '), ('"', '"'), ('/', '/'), ('\\', '\\'),
   ('N', '\x85'), ('_', '\xa0'), ('L', '\u2028'), ('P', '\u2029')]

def escapeWidths : List (Char × Nat) :=
  [('x', 2), ('u', 4), ('U', 8)]

def readHex? (acc : Nat) : Nat → List Char → Option Nat
  | 0, _ => some acc
  | _ + 1, [] => none
  | n + 1, c :: rest => (Hex.value? c).bind fun d => readHex? (acc * 16 + d) n rest

def context (since : Mark) : Option (String × Mark) :=
  some ("while parsing a quoted scalar", since)

def readEscape (since : Mark) (c : Cursor) : Except Fault (Char × Cursor) :=
  let unknown := Fault.malformed "found unknown escape character" c.mark (context since)
  match c.peek 1 with
  | none => .error unknown
  | some x =>
    match escapes.lookup x, escapeWidths.lookup x with
    | some y, _ => .ok (y, c.skip 2)
    | none, some width =>
      let c := c.skip 2
      match readHex? 0 width c.rest with
      | none => .error (.malformed "did not find expected hexdecimal number" c.mark (context since))
      | some n =>
        if h : n.isValidChar then .ok (Char.ofNatAux n h, c.skip width)
        else .error (.malformed "found invalid Unicode character escape code" c.mark (context since))
    | none, none => .error unknown

/-- Characters up to a blank, a break, the closing quote or the end. The flag tells of a line break that a
backslash takes away. -/
def readRun (quote : Char) (since : Mark) : Nat → List Char → Cursor → Except Fault (List Char × Bool × Cursor)
  | 0, text, c => .ok (text, false, c)
  | fuel + 1, text, c =>
    match c.rest with
    | [] => .ok (text, false, c)
    | x :: rest =>
      if isBlank x || isBreak x then .ok (text, false, c)
      else if quote == '\'' && x == '\'' && rest.head? == some '\'' then
        readRun quote since fuel (text ++ ['\'']) (c.skip 2)
      else if x == quote then .ok (text, false, c)
      else if quote == '"' && x == '\\' then
        if rest.head?.any isBreak then .ok (text, true, (c.skip 1).readBreak.2)
        else
          match readEscape since c with
          | .error e => .error e
          | .ok (y, c) => readRun quote since fuel (text ++ [y]) c
      else readRun quote since fuel (text ++ [x]) (c.skip 1)

def readBody (quote : Char) (since : Mark) : Nat → List Char → Cursor → Except Fault (List Char × Cursor)
  | 0, text, c => .ok (text, c)
  | fuel + 1, text, c => do
    let scanning := some ("while scanning a quoted scalar", since)
    if c.atIndicator '-' || c.atIndicator '.' then
      .error (.malformed "found unexpected document indicator" c.mark scanning)
    else if c.rest.isEmpty then .error (.malformed "found unexpected end of stream" c.mark scanning)
    else
      let (text, continued, c) ← readRun quote since c.rest.length text c
      if c.atChar quote then .ok (text, c.skip 1)
      else
        match Gap.read 0 c.rest.length (if continued then Gap.continued else Gap.none) c with
        | .ok (gap, c) => readBody quote since fuel (text ++ gap.text) c
        | .error c => .ok (text, c)

end QuotedScalar

def readQuoted (quote : Char) (c : Cursor) : Except Fault (List Char × Cursor) :=
  QuotedScalar.readBody quote c.mark (c.rest.length + 1) [] (c.skip 1)

namespace Block

inductive Chomping where
  | strip
  | clip
  | keep
  deriving DecidableEq

def context (since : Mark) : Option (String × Mark) :=
  some ("while scanning a block scalar", since)

def chomping? (c : Cursor) : Option Chomping :=
  match c.rest.head? with
  | some '+' => some .keep
  | some '-' => some .strip
  | _ => none

def readIndent (since : Mark) (c : Cursor) : Except Fault (Nat × Cursor) :=
  match c.rest.head? with
  | some x =>
    if x = '0' then .error (.malformed "found an indentation indicator equal to 0" c.mark (context since))
    else if x.isDigit then .ok (x.toNat - 48, c.skip 1)
    else .ok (0, c)
  | none => .ok (0, c)

def readHeader (since : Mark) (c : Cursor) : Except Fault (Chomping × Nat × Cursor) := do
  match chomping? c with
  | some chomping =>
    let (indent, c) ← readIndent since (c.skip 1)
    return (chomping, indent, c)
  | none =>
    let (indent, c) ← readIndent since c
    if indent = 0 then return (.clip, 0, c)
    else
      match chomping? c with
      | some chomping => return (chomping, indent, c.skip 1)
      | none => return (.clip, indent, c)

/-- Empty lines with spaces up to column `indent` in front of each; for `indent` zero, with any number of
spaces, of which the greatest is found. -/
def readBreaks (indent : Nat) (since : Mark) :
    Nat → Nat → List Char → Cursor → Except Fault (Nat × List Char × Cursor)
  | 0, deepest, breaks, c => .ok (deepest, breaks, c)
  | fuel + 1, deepest, breaks, c =>
    let spaces := c.rest.takeWhile (· == ' ')
    let c := c.skip (if indent = 0 then spaces.length else min spaces.length (indent - c.mark.column))
    let deepest := max deepest c.mark.column
    if (indent = 0 || c.mark.column < indent) && c.atChar '\t' then
      .error (.malformed "found a tab character where an indentation space is expected" c.mark (context since))
    else if c.atBreak then
      let (kept, c) := c.readBreak
      readBreaks indent since fuel deepest (breaks ++ kept) c
    else .ok (deepest, breaks, c)

/-- What has been read of the content: all lines but the last break, that break, and the empty lines after
it. -/
structure Lines where
  text : List Char
  last : List Char
  empty : List Char
  blankStart : Bool

/-- A folded break between two lines that both start with no blank becomes a space, or nothing if empty lines
follow it. -/
def Lines.join (literal blankStart : Bool) (l : Lines) : List Char :=
  if !literal && l.last == ['\n'] && !l.blankStart && !blankStart then
    l.text ++ (if l.empty.isEmpty then [' '] else l.empty)
  else l.text ++ l.last ++ l.empty

def readLines (literal : Bool) (indent : Nat) (since : Mark) : Nat → Lines → Cursor → Except Fault (Lines × Cursor)
  | 0, l, c => .ok (l, c)
  | fuel + 1, l, c => do
    if c.mark.column = indent ∧ ¬ c.rest.isEmpty then
      let blankStart := c.rest.head?.any isBlank
      let (line, c) := c.readWhile (!isBreak ·)
      let (last, c) := c.readBreak
      let (_, empty, c) ← readBreaks indent since (c.rest.length + 1) 0 [] c
      readLines literal indent since fuel ⟨l.join literal blankStart ++ line, last, empty, blankStart⟩ c
    else .ok (l, c)

def chomp (chomping : Chomping) (l : Lines) : List Char :=
  match chomping with
  | .strip => l.text
  | .clip => l.text ++ l.last
  | .keep => l.text ++ l.last ++ l.empty

end Block

/-- A scalar that takes up lines of its own, with the cursor at its indicator. The indentation is given, or
that of the first line that is not empty. -/
def readBlock (literal : Bool) (parent : Int) (c : Cursor) : Except Fault (List Char × Cursor) := do
  let since := c.mark
  let (chomping, given, c) ← Block.readHeader since (c.skip 1)
  let c := (c.skipWhile isBlank).skipComment
  if ¬ c.rest.isEmpty ∧ ¬ c.atBreak then
    .error (.malformed "did not find expected comment or line break" c.mark (Block.context since))
  else
    let c := c.readBreak.2
    let fixed := if given = 0 then 0 else (max parent 0).toNat + given
    let (deepest, empty, c) ← Block.readBreaks fixed since (c.rest.length + 1) 0 [] c
    let indent := if fixed = 0 then max (max deepest (parent + 1).toNat) 1 else fixed
    let (lines, c) ← Block.readLines literal indent since (c.rest.length + 1) ⟨[], [], empty, false⟩ c
    return (Block.chomp chomping lines, c)

end PairedTls.Yaml

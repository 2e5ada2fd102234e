import PairedTls.Yaml.Scalar

namespace PairedTls.Yaml

inductive Token where
  | versionDirective (major minor : Nat)
  | tagDirective (handle stem : String)
  | documentStart
  | documentEnd
  | blockSequenceStart
  | blockMappingStart
  | blockEnd
  | flowSequenceStart
  | flowSequenceEnd
  | flowMappingStart
  | flowMappingEnd
  | blockEntry
  | flowEntry
  | key
  | value
  | aliasOf (name : String)
  | anchor (name : String)
  | tag (handle suffix : String)
  | scalar (text : String) (plain : Bool)
  | streamEnd
  deriving DecidableEq, Repr

/-- What may prove to be a key: the number of its first token, and whether it has to be one. -/
structure SimpleKey where
  token : Nat
  required : Bool
  mark : Mark

structure Scanner where
  cursor : Cursor
  tokens : List (Token × Mark)
  indent : Int
  outer : List Int
  keyAllowed : Bool
  /-- The innermost flow collection comes first, and the block that holds them all last. -/
  keys : List (Option SimpleKey)

/-- A scan that fails keeps the tokens that it has. -/
abbrev Scan := ExceptT Fault (StateM Scanner)

namespace Scan

def longestKey : Nat := 1024

def cursor : Scan Cursor := return (← get).cursor

def setCursor (c : Cursor) : Scan Unit :=
  modify fun s => { s with cursor := c }

def inFlow : Scan Bool := return 1 < (← get).keys.length

def add (token : Token) (mark : Mark) : Scan Unit :=
  modify fun s => { s with tokens := s.tokens ++ [(token, mark)] }

def allowKey (allowed : Bool) : Scan Unit :=
  modify fun s => { s with keyAllowed := allowed }

def fail {α : Type} (problem : String) (mark : Mark) (context : Option (String × Mark)) : Scan α :=
  throw (.malformed problem mark context)

def lift {α : Type} : Except Fault α → Scan α
  | .ok a => pure a
  | .error e => throw e

def openBlock (column : Nat) (token : Token) (mark : Mark) (position : Option Nat) : Scan Unit := do
  let s ← get
  if !(← inFlow) && decide (s.indent < column) then
    let place := position.getD s.tokens.length
    set { s with indent := column, outer := s.indent :: s.outer, tokens := s.tokens.insertIdx place (token, mark) }

def closeBlocks (column : Int) : Scan Unit := do
  if !(← inFlow) then
    modify fun s =>
      let rec close (indent : Int) (outer : List Int) (tokens : List (Token × Mark)) :=
        match outer with
        | [] => { s with indent := indent, outer := [], tokens := tokens }
        | below :: more =>
          if column < indent then close below more (tokens ++ [(.blockEnd, s.cursor.mark)])
          else { s with indent := indent, outer := outer, tokens := tokens }
      close s.indent s.outer s.tokens

def missingColon {α : Type} (k : SimpleKey) : Scan α := do
  fail "could not find expected ':'" (← cursor).mark (some ("while scanning a simple key", k.mark))

/-- A key lies on one line and is not too long. -/
def dropStaleKeys : Scan Unit := do
  let s ← get
  let stale (k : SimpleKey) : Bool :=
    decide (k.mark.line < s.cursor.mark.line) || decide (k.mark.index + longestKey < s.cursor.mark.index)
  match (s.keys.reverse.filterMap id).find? fun k => stale k && k.required with
  | some k => missingColon k
  | none => set { s with keys := s.keys.map (Option.filter (!stale ·)) }

def forgetKey : Scan Unit := do
  match (← get).keys with
  | some k :: more => if k.required then missingColon k else modify fun s => { s with keys := none :: more }
  | _ => pure ()

def noteKey : Scan Unit := do
  let s ← get
  if s.keyAllowed then
    forgetKey
    let required := s.keys.length == 1 && s.indent == s.cursor.mark.column
    set { s with keys := some ⟨s.tokens.length, required, s.cursor.mark⟩ :: s.keys.tail }

/-- Skips blanks, comments and line breaks. A tab is blank where it cannot be taken for indentation. -/
def skipToToken : Nat → Scan Unit
  | 0 => pure ()
  | fuel + 1 => do
    let s ← get
    let flow ← inFlow
    let c := if s.cursor.mark.index == 0 && s.cursor.atChar '\ufeff' then s.cursor.skip 1 else s.cursor
    let tabs := flow || !s.keyAllowed
    let c := (c.skipWhile fun x => x == ' ' || (tabs && x == '\t')).skipComment
    if c.atBreak then
      set { s with cursor := c.readBreak.2, keyAllowed := if flow then s.keyAllowed else true }
      skipToToken fuel
    else setCursor c

def takeToken (token : Token) (count : Nat) : Scan Unit := do
  let c ← cursor
  setCursor (c.skip count)
  add token c.mark

def endStream : Scan Unit := do
  let mark := (← cursor).mark
  closeBlocks (-1)
  forgetKey
  allowKey false
  add .streamEnd (if mark.column = 0 then mark else ⟨mark.index, mark.line + 1, 0⟩)

def documentIndicator (token : Token) : Scan Unit := do
  closeBlocks (-1)
  forgetKey
  allowKey false
  takeToken token 3

def openFlow (token : Token) : Scan Unit := do
  noteKey
  modify fun s => { s with keys := none :: s.keys, keyAllowed := true }
  takeToken token 1

def closeFlow (token : Token) : Scan Unit := do
  forgetKey
  modify fun s => { s with keys := if 1 < s.keys.length then s.keys.tail else s.keys, keyAllowed := false }
  takeToken token 1

def flowEntry : Scan Unit := do
  forgetKey
  allowKey true
  takeToken .flowEntry 1

def requireKeyAllowed (problem : String) : Scan Unit := do
  let s ← get
  if !s.keyAllowed then fail problem s.cursor.mark none

def blockEntry : Scan Unit := do
  let c ← cursor
  if !(← inFlow) then
    requireKeyAllowed "block sequence entries are not allowed in this context"
    openBlock c.mark.column .blockSequenceStart c.mark none
  forgetKey
  allowKey true
  takeToken .blockEntry 1

def explicitKey : Scan Unit := do
  let c ← cursor
  let flow ← inFlow
  if !flow then
    requireKeyAllowed "mapping keys are not allowed in this context"
    openBlock c.mark.column .blockMappingStart c.mark none
  forgetKey
  allowKey (!flow)
  takeToken .key 1

def valueIndicator : Scan Unit := do
  let c ← cursor
  let flow ← inFlow
  match (← get).keys with
  | some k :: more =>
    modify fun s => { s with tokens := s.tokens.insertIdx k.token (.key, k.mark), keys := none :: more }
    openBlock k.mark.column .blockMappingStart k.mark (some k.token)
    allowKey false
  | _ =>
    if !flow then
      requireKeyAllowed "mapping values are not allowed in this context"
      openBlock c.mark.column .blockMappingStart c.mark none
    allowKey (!flow)
  takeToken .value 1

def namedNode (make : String → Token) (context : String) : Scan Unit := do
  noteKey
  allowKey false
  let c ← cursor
  let (name, after) := (c.skip 1).readWhile isNameChar
  let ended := endsWord after.rest.head? || after.rest.head?.any ['?', ':', ',', ']', '}', '%', '@', '\x60'].contains
  if name.isEmpty || !ended then
    fail "did not find expected alphabetic or numeric character" after.mark (some (context, c.mark))
  setCursor after
  add (make (String.ofList name)) c.mark

def uriChars : List Char :=
  [';', '/', '?', ':', '@', '&', '=', '+', '$', '.', '%', '!', '~', '*', '\'', '(', ')']

def readEscaped? (cs : List Char) : Option (List Char × Nat) := do
  let byte? (cs : List Char) : Option UInt8 :=
    match cs with
    | '%' :: a :: b :: _ => do return UInt8.ofNat ((← Hex.value? a) * 16 + (← Hex.value? b))
    | _ => none
  let lead ← byte? cs
  let width := if lead < 0x80 then 1 else if lead < 0xE0 then 2 else if lead < 0xF0 then 3 else 4
  let bytes ← (List.range width).mapM fun i => byte? (cs.drop (3 * i))
  let decoded ← String.fromUTF8? ⟨bytes.toArray⟩
  return (decoded.toList, 3 * width)

def readUri (wide : Bool) (context : String × Mark) : Nat → List Char → Cursor → Except Fault (List Char × Cursor)
  | 0, text, c => .ok (text, c)
  | fuel + 1, text, c =>
    match c.rest with
    | x :: _ =>
      if isNameChar x || uriChars.contains x || (wide && [',', '[', ']'].contains x) then
        if x == '%' then
          match readEscaped? c.rest with
          | some (read, count) => readUri wide context fuel (text ++ read) (c.skip count)
          | none => .error (.malformed "did not find URI escaped octet" c.mark (some context))
        else readUri wide context fuel (text ++ [x]) (c.skip 1)
      else .ok (text, c)
    | [] => .ok (text, c)

def readTagUri (wide : Bool) (start : List Char) (context : String × Mark) (c : Cursor) :
    Except Fault (List Char × Cursor) := do
  let (text, c) ← readUri wide context (c.rest.length + 1) start c
  if text.isEmpty then .error (.malformed "did not find expected tag URI" c.mark (some context))
  else return (text, c)

def readHandle (c : Cursor) : List Char × Cursor :=
  let (name, after) := (c.skip 1).readWhile isNameChar
  if after.atChar '!' then ('!' :: name ++ ['!'], after.skip 1) else ('!' :: name, after)

def isWholeHandle (handle : List Char) : Bool :=
  1 < handle.length && handle.getLast? == some '!'

def readTag (c : Cursor) : Except Fault (Token × Cursor) := do
  let context := ("while scanning a tag", c.mark)
  if c.peek 1 = some '<' then
    let (uri, after) ← readTagUri true [] context (c.skip 2)
    if after.atChar '>' then return (.tag "" (String.ofList uri), after.skip 1)
    else .error (.malformed "did not find the expected '>'" after.mark (some context))
  else
    let (handle, after) := readHandle c
    if isWholeHandle handle then
      let (suffix, after) ← readTagUri false [] context after
      return (.tag (String.ofList handle) (String.ofList suffix), after)
    else
      let (suffix, after) ← readUri false context (after.rest.length + 1) handle.tail after
      if suffix.isEmpty then return (.tag "" "!", after) else return (.tag "!" (String.ofList suffix), after)

def tag : Scan Unit := do
  noteKey
  allowKey false
  let c ← cursor
  let (token, after) ← lift (readTag c)
  if endsWord after.rest.head? || ((← inFlow) && after.atChar ',') then
    setCursor after
    add token c.mark
  else fail "did not find expected whitespace or line break" after.mark (some ("while scanning a tag", c.mark))

def readVersionNumber (context : String × Mark) (c : Cursor) : Except Fault (Nat × Cursor) := do
  let (digits, after) := c.readWhile Char.isDigit
  if digits.isEmpty then .error (.malformed "did not find expected version number" c.mark (some context))
  else if 9 < digits.length then
    .error (.malformed "found extremely long version number" (c.skip 9).mark (some context))
  else return (digits.foldl (fun n d => n * 10 + (d.toNat - 48)) 0, after)

def readVersion (since : Mark) (c : Cursor) : Except Fault (Token × Cursor) := do
  let context := ("while scanning a %YAML directive", since)
  let (major, c) ← readVersionNumber context (c.skipWhile isBlank)
  if c.atChar '.' then
    let (minor, c) ← readVersionNumber context (c.skip 1)
    return (.versionDirective major minor, c)
  else .error (.malformed "did not find expected digit or '.' character" c.mark (some context))

def readTagDirective (since : Mark) (c : Cursor) : Except Fault (Token × Cursor) := do
  let context := ("while scanning a %TAG directive", since)
  let c := c.skipWhile isBlank
  if !c.atChar '!' then .error (.malformed "did not find expected '!'" c.mark (some ("while scanning a directive", since)))
  else
    let (handle, c) := readHandle c
    if handle ≠ ['!'] ∧ !isWholeHandle handle then
      .error (.malformed "did not find expected '!'" c.mark (some ("while parsing a directive", since)))
    else if !c.rest.head?.any isBlank then
      .error (.malformed "did not find expected whitespace" c.mark (some context))
    else
      let (uri, c) ← readTagUri true [] context (c.skipWhile isBlank)
      if endsWord c.rest.head? then return (.tagDirective (String.ofList handle) (String.ofList uri), c)
      else .error (.malformed "did not find expected whitespace or line break" c.mark (some context))

def readDirective (c : Cursor) : Except Fault (Token × Cursor) := do
  let context := some ("while scanning a directive", c.mark)
  let (name, after) := (c.skip 1).readWhile isNameChar
  if name.isEmpty then .error (.malformed "could not find expected directive name" after.mark context)
  else if !endsWord after.rest.head? then
    .error (.malformed "found unexpected non-alphabetical character" after.mark context)
  else
    let (token, after) ←
      match String.ofList name with
      | "YAML" => readVersion c.mark after
      | "TAG" => readTagDirective c.mark after
      | _ => .error (.malformed "found unknown directive name" after.mark context)
    let after := (after.skipWhile isBlank).skipComment
    if after.rest.isEmpty || after.atBreak then return (token, after.readBreak.2)
    else .error (.malformed "did not find expected comment or line break" after.mark context)

def directive : Scan Unit := do
  closeBlocks (-1)
  forgetKey
  allowKey false
  let c ← cursor
  let (token, after) ← lift (readDirective c)
  setCursor after
  add token c.mark

def blockScalar (literal : Bool) : Scan Unit := do
  forgetKey
  allowKey true
  let c ← cursor
  let (text, after) ← lift (readBlock literal (← get).indent c)
  setCursor after
  add (.scalar (String.ofList text) false) c.mark

def quotedScalar (quote : Char) : Scan Unit := do
  noteKey
  allowKey false
  let c ← cursor
  let (text, after) ← lift (readQuoted quote c)
  setCursor after
  add (.scalar (String.ofList text) false) c.mark

def plainScalar : Scan Unit := do
  noteKey
  allowKey false
  let c ← cursor
  let (text, broken, after) ← lift (readPlain (← inFlow) (← get).indent c)
  setCursor after
  add (.scalar (String.ofList text) true) c.mark
  if broken then allowKey true

def indicators : List Char :=
  ['-', '?', ':', ',', '[', ']', '{', '}', '#', '&', '*', '!', '|', '>', '\'', '"', '%', '@', '\x60']

def startsPlain (flow : Bool) (x : Char) (next : Option Char) : Bool :=
  (!indicators.contains x && !endsWord (some x)) || (x == '-' && !next.any isBlank) ||
    (!flow && (x == '?' || x == ':') && !endsWord next)

/-- Reads one token, or at the end all that is left. Says whether that was the end. -/
def token : Scan Bool := do
  skipToToken ((← cursor).rest.length + 1)
  dropStaleKeys
  let c ← cursor
  closeBlocks c.mark.column
  let flow ← inFlow
  match c.rest with
  | [] => endStream; return true
  | x :: rest =>
    let next := rest.head?
    if c.mark.column == 0 && x == '%' then directive
    else if c.atIndicator '-' then documentIndicator .documentStart
    else if c.atIndicator '.' then documentIndicator .documentEnd
    else if x == '[' then openFlow .flowSequenceStart
    else if x == '{' then openFlow .flowMappingStart
    else if x == ']' then closeFlow .flowSequenceEnd
    else if x == '}' then closeFlow .flowMappingEnd
    else if x == ',' then flowEntry
    else if x == '-' && endsWord next then blockEntry
    else if x == '?' && (flow || endsWord next) then explicitKey
    else if x == ':' && (flow || endsWord next) then valueIndicator
    else if x == '*' then namedNode .aliasOf "while scanning an alias"
    else if x == '&' then namedNode .anchor "while scanning an anchor"
    else if x == '!' then tag
    else if x == '|' && !flow then blockScalar true
    else if x == '>' && !flow then blockScalar false
    else if x == '\'' || x == '"' then quotedScalar x
    else if startsPlain flow x next then plainScalar
    else
      fail "found character that cannot start any token" c.mark
        (some ("while scanning for the next token", c.mark))
    return false

def tokens : Nat → Scan Unit
  | 0 => pure ()
  | fuel + 1 => do
    if !(← token) then tokens fuel

def start (text : List Char) : Scanner :=
  ⟨⟨text, .start⟩, [], -1, [], true, [none]⟩

/-- Tokens of which it is not yet known whether a key begins in front of them are held back. -/
def settled (s : Scanner) : List (Token × Mark) :=
  match ((s.keys.filterMap id).map SimpleKey.token).min? with
  | some n => s.tokens.take n
  | none => s.tokens

end Scan

def tokensOf (text : List Char) : List (Token × Mark) × Option Fault :=
  match firstControl? 0 text with
  | some offset => ([], some (.control offset))
  | none =>
    match (Scan.tokens (text.length + 2)).run.run (Scan.start text) with
    | (.ok (), s) => (s.tokens, none)
    | (.error fault, s) => (Scan.settled s, some fault)

end PairedTls.Yaml

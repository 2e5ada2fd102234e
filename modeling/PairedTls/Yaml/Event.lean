import PairedTls.Yaml.Token

namespace PairedTls.Yaml

/-- The nodes of a text in order; what is left out, such as the value of a key with nothing after it, has an event of
its own. -/
inductive Event where
  | documentStart
  | documentEnd
  | aliasOf (name : String)
  | scalar (anchor tag : Option String) (text : String) (plain : Bool)
  | sequenceStart (anchor tag : Option String)
  | sequenceEnd
  | mappingStart (anchor tag : Option String)
  | mappingEnd
  | streamEnd
  deriving DecidableEq, Repr

inductive State where
  | document (implicit : Bool)
  | documentContent
  | documentEnd
  | blockNode
  | blockSequence (first : Bool)
  | indentlessSequence
  | blockKey (first : Bool)
  | blockValue
  | flowSequence (first : Bool)
  | pairKey
  | pairValue
  | pairEnd
  | flowKey (first : Bool)
  | flowValue (empty : Bool)
  | finished

structure Reader where
  tokens : List (Token × Mark)
  fault : Option Fault
  state : State
  pending : List State
  opened : List Mark
  handles : List (String × String)

abbrev Read := StateT Reader (Except Fault)

namespace Read

def fail {α : Type} (problem : String) (mark : Mark) (context : Option (String × Mark)) : Read α :=
  throw (.malformed problem mark context)

def peek : Read (Token × Mark) := do
  let r ← get
  match r.tokens, r.fault with
  | t :: _, _ => return t
  | [], some fault => throw fault
  | [], none => return (.streamEnd, .start)

def skip : Read Unit :=
  modify fun r => { r with tokens := r.tokens.tail }

def goto (state : State) : Read Unit :=
  modify fun r => { r with state := state }

def push (state : State) : Read Unit :=
  modify fun r => { r with pending := state :: r.pending }

def pop : Read Unit :=
  modify fun r => { r with state := r.pending.headD .finished, pending := r.pending.tail }

def opening (mark : Mark) : Read Unit :=
  modify fun r => { r with opened := mark :: r.opened }

def close : Read Mark := do
  let r ← get
  set { r with opened := r.opened.tail }
  return r.opened.headD .start

def emptyScalar (mark : Mark) : Read (Event × Mark) :=
  return (.scalar none none "" true, mark)

def resolveTag (since mark : Mark) (handle suffix : String) : Read String := do
  if handle.isEmpty then return suffix
  else
    match (← get).handles.lookup handle with
    | some stem => return stem ++ suffix
    | none => fail "found undefined tag handle" mark (some ("while parsing a node", since))

def anchor? : Read (Option String) := do
  match ← peek with
  | (.anchor name, _) => skip; return some name
  | _ => return none

def tag? (since : Mark) : Read (Option String) := do
  match ← peek with
  | (.tag handle suffix, mark) =>
    skip
    return some (← resolveTag since mark handle suffix)
  | _ => return none

def properties (since : Mark) : Read (Option String × Option String) := do
  match ← anchor? with
  | some name => return (some name, ← tag? since)
  | none =>
    match ← tag? since with
    | some tag => return (← anchor?, some tag)
    | none => return (none, none)

def node (block indentless : Bool) : Read (Event × Mark) := do
  match ← peek with
  | (.aliasOf name, mark) =>
    pop
    skip
    return (.aliasOf name, mark)
  | (_, since) =>
    let (anchor, tag) ← properties since
    let (token, mark) ← peek
    let start (event : Event) (state : State) : Read (Event × Mark) := do
      goto state
      return (event, since)
    match token with
    | .blockEntry =>
      if indentless then start (.sequenceStart anchor tag) .indentlessSequence else absent anchor tag since mark
    | .scalar text plain =>
      pop
      skip
      return (.scalar anchor (tag.filter (· != "!")) text plain, since)
    | .flowSequenceStart => start (.sequenceStart anchor tag) (.flowSequence true)
    | .flowMappingStart => start (.mappingStart anchor tag) (.flowKey true)
    | .blockSequenceStart =>
      if block then start (.sequenceStart anchor tag) (.blockSequence true) else absent anchor tag since mark
    | .blockMappingStart =>
      if block then start (.mappingStart anchor tag) (.blockKey true) else absent anchor tag since mark
    | _ => absent anchor tag since mark
where
  /-- A node of which there is nothing but perhaps an anchor or a tag. -/
  absent (anchor tag : Option String) (since mark : Mark) : Read (Event × Mark) := do
    if anchor.isSome || tag.isSome then
      pop
      return (.scalar anchor (tag.filter (· != "!")) "" true, since)
    else
      let context := if block then "while parsing a block node" else "while parsing a flow node"
      fail "did not find expected node content" mark (some (context, since))

/-- A node, unless one of the tokens comes that show that it is left out. -/
def nodeUnless (absent : Token → Bool) (indentless block : Bool) (next : State) (mark : Mark) :
    Read (Event × Mark) := do
  if absent (← peek).1 then
    goto next
    emptyScalar mark
  else
    push next
    node block indentless

def directives (version : Option (Nat × Nat)) (handles : List (String × String)) :
    List (Token × Mark) → Except Fault (List (String × String) × List (Token × Mark))
  | (.versionDirective major minor, mark) :: rest =>
    if version.isSome then .error (.malformed "found duplicate %YAML directive" mark none)
    else if major ≠ 1 ∨ (minor ≠ 1 ∧ minor ≠ 2) then
      .error (.malformed "found incompatible YAML document" mark none)
    else directives (some (major, minor)) handles rest
  | (.tagDirective handle stem, mark) :: rest =>
    if (handles.lookup handle).isSome then .error (.malformed "found duplicate %TAG directive" mark none)
    else directives version (handles ++ [(handle, stem)]) rest
  | rest => .ok (handles, rest)

def processDirectives : Read Unit := do
  let r ← get
  let (handles, rest) ← directives none [] r.tokens
  set { r with tokens := rest, handles := handles ++ [("!", "!"), ("!!", "tag:yaml.org,2002:")] }

def startsDocument : Token → Bool
  | .versionDirective .. | .tagDirective .. | .documentStart | .streamEnd => true
  | _ => false

def skipDocumentEnds : Read Unit :=
  modify fun r => { r with tokens := r.tokens.dropWhile (·.1 == .documentEnd) }

def document (implicit : Bool) : Read (Event × Mark) := do
  if !implicit then skipDocumentEnds
  let (token, mark) ← peek
  if implicit && !startsDocument token then
    processDirectives
    push .documentEnd
    goto .blockNode
    return (.documentStart, mark)
  else if token == .streamEnd then
    goto .finished
    return (.streamEnd, mark)
  else
    processDirectives
    let (token, place) ← peek
    if token != .documentStart then fail "did not find expected <document start>" place none
    push .documentEnd
    goto .documentContent
    skip
    return (.documentStart, mark)

def documentContent : Read (Event × Mark) := do
  let (token, mark) ← peek
  if startsDocument token || token == .documentEnd then
    pop
    emptyScalar mark
  else node true false

def documentEnd : Read (Event × Mark) := do
  let (token, mark) ← peek
  if token == .documentEnd then skip
  goto (.document false)
  return (.documentEnd, mark)

def begin (first : Bool) : Read Unit := do
  if first then
    opening (← peek).2
    skip

def endWith (event : Event) : Read (Event × Mark) := do
  let (_, mark) ← peek
  pop
  let _ ← close
  skip
  return (event, mark)

def blockSequence (first : Bool) : Read (Event × Mark) := do
  begin first
  let (token, mark) ← peek
  match token with
  | .blockEntry =>
    skip
    nodeUnless (fun t => t == .blockEntry || t == .blockEnd) false true (.blockSequence false) mark
  | .blockEnd => endWith .sequenceEnd
  | _ => fail "did not find expected '-' indicator" mark (some ("while parsing a block collection", ← close))

def indentlessSequence : Read (Event × Mark) := do
  let (token, mark) ← peek
  if token == .blockEntry then
    skip
    nodeUnless (fun t => t == .blockEntry || t == .key || t == .value || t == .blockEnd) false true
      .indentlessSequence mark
  else
    pop
    return (.sequenceEnd, mark)

def endsBlockPair (t : Token) : Bool :=
  t == .key || t == .value || t == .blockEnd

def blockKey (first : Bool) : Read (Event × Mark) := do
  begin first
  let (token, mark) ← peek
  match token with
  | .key =>
    skip
    nodeUnless endsBlockPair true true .blockValue mark
  | .blockEnd => endWith .mappingEnd
  | _ => fail "did not find expected key" mark (some ("while parsing a block mapping", ← close))

def blockValue : Read (Event × Mark) := do
  let (token, mark) ← peek
  if token == .value then
    skip
    nodeUnless endsBlockPair true true (.blockKey false) mark
  else
    goto (.blockKey false)
    emptyScalar mark

def separator (first : Bool) (last : Token) (problem context : String) : Read Unit := do
  let (token, mark) ← peek
  if !first && token != last then
    if token == .flowEntry then skip
    else fail problem mark (some (context, ← close))

def flowSequence (first : Bool) : Read (Event × Mark) := do
  begin first
  separator first .flowSequenceEnd "did not find expected ',' or ']'" "while parsing a flow sequence"
  let (token, mark) ← peek
  match token with
  | .key =>
    goto .pairKey
    skip
    return (.mappingStart none none, mark)
  | .flowSequenceEnd => endWith .sequenceEnd
  | _ =>
    push (.flowSequence false)
    node false false

def endsPair (t : Token) : Bool :=
  t == .flowEntry || t == .flowSequenceEnd

/-- A pair without a key takes the token after it away. -/
def pairKey : Read (Event × Mark) := do
  let (token, mark) ← peek
  if token == .value || endsPair token then
    skip
    goto .pairValue
    emptyScalar mark
  else
    push .pairValue
    node false false

def pairValue : Read (Event × Mark) := do
  let (token, mark) ← peek
  if token == .value then
    skip
    nodeUnless endsPair false false .pairEnd mark
  else
    goto .pairEnd
    emptyScalar mark

def pairEnd : Read (Event × Mark) := do
  let (_, mark) ← peek
  goto (.flowSequence false)
  return (.mappingEnd, mark)

def endsFlowPair (t : Token) : Bool :=
  t == .flowEntry || t == .flowMappingEnd

def flowKey (first : Bool) : Read (Event × Mark) := do
  begin first
  separator first .flowMappingEnd "did not find expected ',' or '\x7d'" "while parsing a flow mapping"
  let (token, mark) ← peek
  match token with
  | .key =>
    skip
    nodeUnless (fun t => t == .value || endsFlowPair t) false false (.flowValue false) mark
  | .flowMappingEnd => endWith .mappingEnd
  | _ =>
    push (.flowValue true)
    node false false

def flowValue (empty : Bool) : Read (Event × Mark) := do
  let (token, mark) ← peek
  if !empty && token == .value then
    skip
    nodeUnless endsFlowPair false false (.flowKey false) mark
  else
    goto (.flowKey false)
    emptyScalar mark

def event : Read (Event × Mark) := do
  match (← get).state with
  | .document implicit => document implicit
  | .documentContent => documentContent
  | .documentEnd => documentEnd
  | .blockNode => node true false
  | .blockSequence first => blockSequence first
  | .indentlessSequence => indentlessSequence
  | .blockKey first => blockKey first
  | .blockValue => blockValue
  | .flowSequence first => flowSequence first
  | .pairKey => pairKey
  | .pairValue => pairValue
  | .pairEnd => pairEnd
  | .flowKey first => flowKey first
  | .flowValue empty => flowValue empty
  | .finished => return (.streamEnd, .start)

def events : Nat → Reader → List (Event × Mark) × Option Fault
  | 0, _ => ([], none)
  | fuel + 1, r =>
    match event.run r with
    | .error fault => ([], some fault)
    | .ok ((.streamEnd, mark), _) => ([(.streamEnd, mark)], none)
    | .ok (e, r) =>
      let (more, fault) := events fuel r
      (e :: more, fault)

end Read

/-- A token has at most three events: its own, and those of what is left out on either side. -/
def eventsOf (text : List Char) : List (Event × Mark) × Option Fault :=
  let (tokens, fault) := tokensOf text
  Read.events (4 * tokens.length + 8) ⟨tokens, fault, .document true, [], [], []⟩

end PairedTls.Yaml

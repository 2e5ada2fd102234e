import PairedTls.Duration
import PairedTls.Log
import PairedTls.Text.Blank

namespace PairedTls.Log

structure Directive where
  target : Option String
  span : Option String
  fields : List (String × Option String)
  level : Option Level
  deriving DecidableEq, Repr

/-- The closest directive decides; those about spans are for nothing that happens outside of one. -/
structure Filter where
  directives : List Directive
  deriving DecidableEq, Repr

namespace Directive

def levels : List (String × Option Level) :=
  [("off", none), ("error", some .error), ("warn", some .warn), ("info", some .info), ("debug", some .debug),
   ("trace", some .trace)]

def level? (cs : List Char) : Option (Option Level) :=
  match Duration.readNumber cs with
  | .ok n => levels[n]?.map (·.2)
  | .error _ => levels.lookup (String.ofList (cs.map Char.toLower))

def starts (c : Char) : Bool :=
  c == '-' || c == ':' || c == '_' || c.isAlphanum || 128 ≤ c.toNat

def withLevel (d : Directive) (cs : List Char) : Option Directive :=
  if cs.isEmpty then some { d with level := some .trace }
  else (level? cs).map fun level => { d with level := level }

/-- A name alone is a level if there is one of that name, else a target. -/
def bare (cs : List Char) : Directive :=
  match level? cs with
  | some level => ⟨none, none, [], level⟩
  | none => ⟨some (String.ofList cs), none, [], some .trace⟩

def field (cs : List Char) : String × Option String :=
  let name := cs.takeWhile (· != '=')
  let value := if name.length < cs.length then some (String.ofList (cs.drop (name.length + 1))) else none
  (String.ofList name, value)

def afterSpan (d : Directive) : List Char → Option Directive
  | [] => some { d with level := some .trace }
  | '=' :: level => withLevel d level
  | _ => none

def inSpan (target : Option String) (cs : List Char) : Option Directive :=
  let name := cs.takeWhile fun c => c != ']' && c != '\x7b'
  match cs.drop name.length with
  | ']' :: rest => afterSpan ⟨target, some (String.ofList name), [], none⟩ rest
  | '\x7b' :: rest =>
    let inner := rest.takeWhile (· != '\x7d')
    let span := if name.isEmpty then none else some (String.ofList name)
    match rest.drop inner.length with
    | '\x7d' :: ']' :: rest =>
      if inner.isEmpty then none else afterSpan ⟨target, span, [field inner], none⟩ rest
    | _ => none
  | _ => none

/-- Where the parts of a directive are is found without the blanks around it; the parts are then cut from the
text as it stands. -/
def parse? (s : String) : Option Directive :=
  let cs := s.toList
  let outline := Text.trim cs
  let name := outline.takeWhile fun c => c != '=' && c != '['
  let target := some (String.ofList (cs.take name.length))
  match name, outline.drop name.length with
  | [], '[' :: _ => inSpan none (cs.drop 1)
  | [], _ => none
  | c :: _, [] => if starts c then some (bare cs) else none
  | c :: _, '=' :: _ =>
    if starts c then withLevel ⟨target, none, [], none⟩ (cs.drop (name.length + 1)) else none
  | c :: _, _ => if starts c then inSpan target (cs.drop (name.length + 1)) else none

def isStatic (d : Directive) : Bool :=
  d.span.isNone && d.fields.all (·.2.isNone)

def concerns (d : Directive) (e : Event) : Bool :=
  d.isStatic && d.target.all (fun t => e.target.startsWith t) &&
    d.fields.all fun f => f.1 == "message" || (e.fields.map (·.1)).contains f.1

def closeness (d : Directive) : Nat × Nat :=
  (d.target.elim 0 (·.utf8ByteSize + 1), d.fields.length)

def farther (d other : Directive) : Bool :=
  let (a, m) := d.closeness
  let (b, n) := other.closeness
  a < b || (a == b && m < n)

end Directive

namespace Filter

def parts (s : String) : List String :=
  (s.splitOn ",").filter (!·.isEmpty)

/-- A filter without any directive lets errors through. -/
def ofDirectives (ds : List Directive) : Filter :=
  ⟨if ds.isEmpty then [⟨none, none, [], some .error⟩] else ds⟩

def parse? (s : String) : Option Filter :=
  ((parts s).mapM Directive.parse?).map ofDirectives

def parseLossy (s : String) : Filter × List String :=
  (ofDirectives ((parts s).filterMap Directive.parse?), (parts s).filter fun p => (Directive.parse? p).isNone)

/-- The closest of the directives about an event; of two equally close ones the later. -/
def directive? (f : Filter) (e : Event) : Option Directive :=
  (f.directives.filter (·.concerns e)).foldl (fun best d =>
    match best with
    | some other => if d.farther other then some other else some d
    | none => some d) none

def admits (f : Filter) (e : Event) : Bool :=
  match f.directive? e with
  | some d => d.level.any fun finest => e.level.rank ≤ finest.rank
  | none => false

end Filter
end PairedTls.Log

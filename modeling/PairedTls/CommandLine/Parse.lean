import PairedTls.CommandLine.Basic

namespace PairedTls.CommandLine

/-- Where a value comes from; what is given wins over the environment, and that over a default. -/
inductive Origin where
  | usual
  | environment
  | given
  deriving DecidableEq, Repr

def Origin.rank : Origin → Nat
  | .usual => 0
  | .environment => 1
  | .given => 2

structure Setting where
  flag : Flag
  text : String
  origin : Origin
  deriving DecidableEq, Repr

structure Level where
  scope : Scope
  settings : List Setting
  /-- An option whose value has not come yet, or has not been looked at yet. -/
  pending : Option (Flag × Option String)
  deriving DecidableEq, Repr

namespace Level

def start (scope : Scope) : Level :=
  ⟨scope, [], none⟩

def setting? (l : Level) (flag : Flag) : Option Setting :=
  l.settings.find? (·.flag == flag)

def put (l : Level) (flag : Flag) (text : String) (origin : Origin) : Except Stop Level :=
  match flag.check text with
  | some stop => .error stop
  | none => .ok { l with settings := l.settings ++ [⟨flag, text, origin⟩] }

def give (l : Level) (flag : Flag) (text : String) : Except Stop Level :=
  if (l.setting? flag).isSome then .error .repeated else l.put flag text .given

def settle (l : Level) : Except Stop Level :=
  match l.pending with
  | none => .ok l
  | some (_, none) => .error .missingValue
  | some (flag, some text) => { l with pending := none }.give flag text

def meet (l : Level) (flag : Flag) (value : Option String) : Except Stop Level :=
  match flag.takesValue, value with
  | true, some text => do (← l.settle).give flag text
  | true, none => do return { ← l.settle with pending := some (flag, none) }
  | false, some _ => .error .surplusValue
  | false, none => do
    let l ← l.settle
    match flag with
    | .help => .error .help
    | .version => .error .version
    | _ => l.give flag ""

def longFlag? (l : Level) (name : String) : Option Flag :=
  l.scope.flags.find? (·.long == name)

def shortFlag? (l : Level) (c : Char) : Option Flag :=
  l.scope.flags.find? (·.short? == some c)

def long (l : Level) (cs : List Char) : Except Stop Level :=
  let name := cs.takeWhile (· != '=')
  let value := if name.length < cs.length then some (String.ofList (cs.drop (name.length + 1))) else none
  match l.longFlag? (String.ofList name) with
  | some flag => l.meet flag value
  | none => .error .unknownArgument

/-- Options by their letters. The first one that takes a value takes all that is left, without an equals sign
in front. -/
def short (l : Level) : List Char → Except Stop Level
  | [] => .ok l
  | c :: rest =>
    match l.shortFlag? c with
    | none => .error .unknownArgument
    | some flag =>
      if flag.takesValue then
        match rest with
        | [] => l.meet flag none
        | '=' :: value => l.meet flag (some (String.ofList value))
        | value => l.meet flag (some (String.ofList value))
      else do short (← l.meet flag none) rest

def isWaiting (l : Level) : Bool :=
  match l.pending with
  | some (_, none) => true
  | _ => false

def word (l : Level) (s : String) (onlyWords : Bool) : Except Stop Level :=
  match l.pending, onlyWords with
  | some (flag, none), false => .ok { l with pending := some (flag, some s) }
  | _, _ =>
    if l.scope.isGroup && !(onlyWords && l.scope.isCommand s) then .error .unknownCommand
    else .error .unknownArgument

def addEnvironment (l : Level) (environment : List (String × String)) : Except Stop Level :=
  l.scope.flags.foldlM (fun l flag =>
    match flag.variableName?.bind fun name => environment.lookup name with
    | some text => if (l.setting? flag).isSome then .ok l else l.put flag text .environment
    | none => .ok l) l

def addDefaults (l : Level) : Level :=
  if (l.setting? .logLevel).isSome then l
  else { l with settings := l.settings ++ [⟨.logLevel, "info", .usual⟩] }

def finish (l : Level) (environment : List (String × String)) (named : Bool) : Except Stop Level := do
  let l ← (← l.settle).addEnvironment environment
  if l.scope.needsCommand && !named then
    .error (if l.settings.isEmpty then .helpForGroup else .missingCommand)
  else return l.addDefaults

end Level

/-- The names behind the command for help have to be those of commands, each in the group before it. -/
def explain : List (String × Scope) → Bool → List String → Stop
  | _, _, [] => .help
  | commands, group, name :: rest =>
    match commands.lookup name with
    | some scope => explain scope.commands scope.isGroup rest
    | none => if group && name = Scope.helpName then explain [] false rest else .unknownCommand

def levels (environment : List (String × String)) (l : Level) (onlyWords : Bool) :
    List String → Except Stop (List Level)
  | [] => do return [← l.finish environment false]
  | s :: rest => do
    let command? := if onlyWords || l.isWaiting then none else l.scope.commands.lookup s
    match command? with
    | some scope =>
      let inner ← levels environment (.start scope) false rest
      return (← l.finish environment true) :: inner
    | none =>
      if !onlyWords && !l.isWaiting && l.scope.isCommand s then
        .error (explain l.scope.commands true rest)
      else if onlyWords then levels environment (← l.word s true) true rest
      else
        match s.toList with
        | ['-', '-'] => levels environment l true rest
        | '-' :: '-' :: name => levels environment (← l.long name) false rest
        | '-' :: c :: letters => levels environment (← l.short (c :: letters)) false rest
        | _ => levels environment (← l.word s false) false rest

/-- The setting that counts: the innermost of those with the strongest origin. -/
def setting? (flag : Flag) (ls : List Level) : Option Setting :=
  (ls.filterMap (·.setting? flag)).foldl (fun best s =>
    match best with
    | some b => if s.origin.rank < b.origin.rank then some b else some s
    | none => some s) none

def command? (ls : List Level) : Option Command :=
  match ls.getLast? with
  | some l =>
    match l.scope with
    | .serve => some .serve
    | .generate => some (.identity (.generate (l.setting? .force).isSome))
    | .show => some (.identity .show)
    | _ => none
  | none => none

/-- Reads the arguments behind the program's name. A value is looked at when something comes after it, so that of two
mistakes it is not always the first that is reported. -/
def parse (arguments : List String) (environment : List (String × String)) : Except Stop CommandLine := do
  let ls ← levels environment (.start .top) false arguments
  let text (flag : Flag) : Option String := (setting? flag ls).map (·.text)
  return {
    config := text .config
    port := (text .port).bind port?
    host := text .host
    logLevel := (text .logLevel).getD ""
    logFormat := text .logFormat
    command := command? ls }

end PairedTls.CommandLine

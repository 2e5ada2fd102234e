import PairedTls.Duration

namespace PairedTls

inductive IdentityCommand where
  | generate (force : Bool)
  | show
  deriving DecidableEq, Repr

inductive Command where
  | serve
  | identity (command : IdentityCommand)
  deriving DecidableEq, Repr

structure CommandLine where
  config : Option String
  port : Option UInt16
  host : Option String
  logLevel : String
  logFormat : Option String
  /-- Serving is what is done when no command is named. -/
  command : Option Command
  deriving DecidableEq, Repr

namespace CommandLine

inductive Flag where
  | config
  | port
  | host
  | logLevel
  | logFormat
  | force
  | help
  | version
  deriving DecidableEq, Repr

namespace Flag

def long : Flag → String
  | .config => "config"
  | .port => "port"
  | .host => "host"
  | .logLevel => "log-level"
  | .logFormat => "log-format"
  | .force => "force"
  | .help => "help"
  | .version => "version"

def short? : Flag → Option Char
  | .config => some 'c'
  | .port => some 'p'
  | .help => some 'h'
  | .version => some 'V'
  | _ => none

def takesValue : Flag → Bool
  | .config | .port | .host | .logLevel | .logFormat => true
  | .force | .help | .version => false

def variableName? : Flag → Option String
  | .config => some "WOLF_TLS_CONFIG"
  | .port => some "WOLF_TLS_PORT"
  | .host => some "WOLF_TLS_HOST"
  | .logLevel => some "WOLF_TLS_LOG_LEVEL"
  | .logFormat => some "WOLF_TLS_LOG_FORMAT"
  | _ => none

end Flag

inductive Scope where
  | top
  | serve
  | identity
  | generate
  | show
  deriving DecidableEq, Repr

namespace Scope

def shared : List Flag := [.config, .logLevel, .logFormat, .help]

def flags : Scope → List Flag
  | .top => [.config, .port, .host, .logLevel, .logFormat, .help, .version]
  | .generate => .force :: shared
  | _ => shared

def commands : Scope → List (String × Scope)
  | .top => [("serve", .serve), ("identity", .identity)]
  | .identity => [("generate", .generate), ("show", .show)]
  | _ => []

def isGroup (s : Scope) : Bool :=
  !s.commands.isEmpty

def helpName : String := "help"

def isCommand (s : Scope) (name : String) : Bool :=
  s.isGroup && (name == helpName || (s.commands.map (·.1)).contains name)

def needsCommand : Scope → Bool
  | .identity => true
  | _ => false

end Scope

inductive Stop where
  | help
  | version
  /-- Nothing at all was said behind a group that needs a command. -/
  | helpForGroup
  | missingCommand
  | unknownCommand
  | unknownArgument
  | missingValue
  | badValue
  | repeated
  | surplusValue
  deriving DecidableEq, Repr

def Stop.exitCode : Stop → Nat
  | .help | .version => 0
  | _ => 2

def Stop.message : Stop → String
  | .help => "help was asked for"
  | .version => "the version was asked for"
  | .helpForGroup | .missingCommand => "a command is missing"
  | .unknownCommand => "there is no such command"
  | .unknownArgument => "there is no such option"
  | .missingValue => "an option has no value"
  | .badValue => "an option has a value that does not fit"
  | .repeated => "an option is given more than once"
  | .surplusValue => "an option takes no value"

/-- A port is read as a signed number that then has to be in range. -/
def port? (s : String) : Option UInt16 :=
  let magnitude? (cs : List Char) : Option Nat :=
    match cs with
    | '+' :: _ => none
    | _ => (Duration.readNumber cs).toOption
  match s.toList with
  | '-' :: cs => if magnitude? cs = some 0 then some 0 else none
  | '+' :: cs => ((magnitude? cs).filter (· < 65536)).map UInt16.ofNat
  | cs => ((magnitude? cs).filter (· < 65536)).map UInt16.ofNat

def Flag.check : Flag → String → Option Stop
  | .config, "" => some .missingValue
  | .port, s => if (port? s).isSome then none else some .badValue
  | _, _ => none

end CommandLine
end PairedTls

import PairedTls.Text.Quoted
import PairedTls.Text.JsonText

namespace PairedTls.Log

inductive Level where
  | error
  | warn
  | info
  | debug
  | trace
  deriving DecidableEq, Repr

def Level.rank : Level → Nat
  | .error => 1
  | .warn => 2
  | .info => 3
  | .debug => 4
  | .trace => 5

def Level.name : Level → String
  | .error => "ERROR"
  | .warn => "WARN"
  | .info => "INFO"
  | .debug => "DEBUG"
  | .trace => "TRACE"

inductive Value where
  | shown (s : String)
  | quoted (s : String)
  | number (n : Nat)
  | flag (b : Bool)
  deriving DecidableEq, Repr

structure Event where
  level : Level
  target : String
  message : String
  fields : List (String × Value)
  deriving DecidableEq, Repr

def flagText (b : Bool) : String :=
  if b then "true" else "false"

def Value.text : Value → String
  | .shown s => s
  | .quoted s => Text.quoted s
  | .number n => n.repr
  | .flag b => flagText b

def Value.json : Value → JsonText
  | .shown s => .text s
  | .quoted s => .text s
  | .number n => .nat n
  | .flag b => .bool b

namespace Event

def line (e : Event) : String :=
  e.level.name ++ " " ++ e.target ++ ": " ++
    " ".intercalate (e.message :: e.fields.map fun (name, value) => name ++ "=" ++ value.text)

def jsonLine (e : Event) : String :=
  (JsonText.ofMembers
    [("fields", .ofMembers (("message", .text e.message) :: e.fields.map fun (n, v) => (n, v.json))),
     ("level", .text e.level.name), ("target", .text e.target)]).render

end Event
end PairedTls.Log

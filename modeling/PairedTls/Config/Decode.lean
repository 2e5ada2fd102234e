import PairedTls.Config.Basic
import PairedTls.Config.Value

namespace PairedTls.Config

inductive Mismatch where
  | wrongType (found : Found) (expected : String)
  | outOfRange (found : Found) (expected : String)
  | duration (fault : DurationFault)
  | tooLong (length : Nat)
  deriving DecidableEq, Repr

structure FieldFault where
  mismatch : Mismatch
  path : List String
  source : Source
  deriving DecidableEq, Repr

abbrev Decoder (α : Type) := Value → Except FieldFault α

namespace Decoder

def fail {α : Type} (v : Value) (m : Mismatch) : Except FieldFault α :=
  .error ⟨m, [], v.source⟩

def wrongType {α : Type} (v : Value) (expected : String) : Except FieldFault α :=
  fail v (.wrongType v.found expected)

def under {α : Type} (name : String) : Except FieldFault α → Except FieldFault α
  | .ok a => .ok a
  | .error e => .error { e with path := name :: e.path }

def text (expected : String) : Decoder String
  | .scalar _ (.text s) => .ok s
  | v => wrongType v expected

def string : Decoder String := text "a string"
def path : Decoder String := text "path string"

def bool : Decoder Bool
  | .scalar _ (.bool b) => .ok b
  | v => wrongType v "a boolean"

def portOf (v : Value) (n : Int) : Except FieldFault UInt16 :=
  if 0 ≤ n ∧ n < 65536 then .ok (UInt16.ofNat n.toNat) else fail v (.outOfRange v.found "u16")

def port : Decoder UInt16
  | .scalar s (.unsigned n) => portOf (.scalar s (.unsigned n)) n
  | .scalar s (.signed n) => portOf (.scalar s (.signed n)) n
  | v => wrongType v "u16"

def duration : Decoder Duration := fun v => do
  match Duration.parse (← string v) with
  | .ok d => .ok d
  | .error e => fail v (.duration e)

def itemsFrom {α : Type} (item : Decoder α) (index : Nat) : List Value → Except FieldFault (List α)
  | [] => .ok []
  | v :: rest => do
    let a ← under index.repr (item v)
    return a :: (← itemsFrom item (index + 1) rest)

def list {α : Type} (item : Decoder α) : Decoder (List α)
  | .list _ items => itemsFrom item 0 items
  | v => wrongType v "a sequence"

def member {α : Type} (members : List (String × Value)) (name : String) (read : Decoder α) (missing : α) :
    Except FieldFault α :=
  match members.lookup name with
  | some v => under name (read v)
  | none => .ok missing

def entry {α : Type} (items : List Value) (index : Nat) (read : Decoder α) (missing : α) : Except FieldFault α :=
  match items[index]? with
  | some v => under index.repr (read v)
  | none => .ok missing

inductive Surplus where
  | ignored
  | refused
  deriving DecidableEq, Repr

def checkLength (surplus : Surplus) (v : Value) (items : List Value) (settings : Nat) : Except FieldFault Unit :=
  if surplus = .refused ∧ settings < items.length then fail v (.tooLong items.length) else .ok ()

/-- A section is a map, of which unknown members are passed over, or a list of the settings in order. Members are
looked at in the order of their names, and the first one that does not fit is reported. -/
def server (surplus : Surplus) : Decoder ServerConfig
  | .map _ ms => do
    let d := defaultServer
    let handshakeTimeout ← member ms "handshake_timeout" duration d.handshakeTimeout
    let host ← member ms "host" string d.host
    let port ← member ms "port" port d.port
    let requestTimeout ← member ms "request_timeout" duration d.requestTimeout
    let requireClientCert ← member ms "require_client_cert" bool d.requireClientCert
    let sessionIdContext ← member ms "session_id_context" bool d.sessionIdContext
    return ⟨host, port, handshakeTimeout, requestTimeout, requireClientCert, sessionIdContext⟩
  | .list s xs => do
    let d := defaultServer
    let host ← entry xs 0 string d.host
    let port ← entry xs 1 port d.port
    let handshakeTimeout ← entry xs 2 duration d.handshakeTimeout
    let requestTimeout ← entry xs 3 duration d.requestTimeout
    let requireClientCert ← entry xs 4 bool d.requireClientCert
    let sessionIdContext ← entry xs 5 bool d.sessionIdContext
    checkLength surplus (.list s xs) xs 6
    return ⟨host, port, handshakeTimeout, requestTimeout, requireClientCert, sessionIdContext⟩
  | v => wrongType v "struct ServerConfig"

def identity (surplus : Surplus) : Decoder IdentityConfig
  | .map _ ms => do
    let d := defaultIdentity
    let certPath ← member ms "cert_path" path d.certPath
    let keyPath ← member ms "key_path" path d.keyPath
    let pairedCerts ← member ms "paired_certs" (list path) d.pairedCerts
    return ⟨keyPath, certPath, pairedCerts⟩
  | .list s xs => do
    let d := defaultIdentity
    let keyPath ← entry xs 0 path d.keyPath
    let certPath ← entry xs 1 path d.certPath
    let pairedCerts ← entry xs 2 (list path) d.pairedCerts
    checkLength surplus (.list s xs) xs 3
    return ⟨keyPath, certPath, pairedCerts⟩
  | v => wrongType v "struct IdentityConfig"

def config (surplus : Surplus) : Decoder Config
  | .map _ ms => do
    let identity ← member ms "identity" (identity surplus) defaultIdentity
    let server ← member ms "server" (server surplus) defaultServer
    return ⟨server, identity⟩
  | .list s xs => do
    let server ← entry xs 0 (server surplus) defaultServer
    let identity ← entry xs 1 (identity surplus) defaultIdentity
    checkLength surplus (.list s xs) xs 2
    return ⟨server, identity⟩
  | v => wrongType v "struct Config"

end Decoder

namespace Mismatch

def layered : Mismatch → String
  | .wrongType found expected => "invalid type: found " ++ found.layered ++ ", expected " ++ expected
  | .outOfRange found expected => "invalid value " ++ found.layered ++ ", expected " ++ expected
  | .duration fault => fault.message
  | .tooLong n => "invalid length " ++ n.repr

def json : Mismatch → String
  | .wrongType found expected => "invalid type: " ++ found.json ++ ", expected " ++ expected
  | .outOfRange found expected => "invalid value: " ++ found.json ++ ", expected " ++ expected
  | .duration fault => fault.message
  | .tooLong n => "invalid length " ++ n.repr ++ ", expected fewer elements in array"

end Mismatch

namespace Source

def environmentName : String := "\x60WOLF_TLS_\x60 environment variable(s)"

/-- Variables are named in capitals, and settings of a file as parts of a profile. -/
def keyText (path : List String) : Source → String
  | .environment => String.ofList ((".".intercalate path).toList.map Char.toUpper)
  | _ => ".".intercalate ("default" :: path)

def place : Source → String
  | .file shown => " in " ++ shown ++ " YAML file"
  | .environment => " in " ++ environmentName
  | .direct => ""

end Source

def FieldFault.message (f : FieldFault) : String :=
  let key := if f.path.isEmpty then "" else " for key " ++ Text.quoted (f.source.keyText f.path)
  f.mismatch.layered ++ key ++ f.source.place

end PairedTls.Config

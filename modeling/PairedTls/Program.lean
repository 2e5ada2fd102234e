import PairedTls.Api
import PairedTls.CommandLine.Parse
import PairedTls.Config.Load
import PairedTls.Log.Filter
import PairedTls.Tls.Server
import PairedTls.Trust

namespace PairedTls

inductive Exit where
  | success
  | failure
  deriving DecidableEq, Repr

def Exit.code : Exit → Nat
  | .success => 0
  | .failure => 1

namespace CommandLine

/-- Settings from the command line count more than those from anywhere else. -/
def override (line : CommandLine) (c : Config) : Config :=
  { c with server := { c.server with port := line.port.getD c.server.port, host := line.host.getD c.server.host } }

def loadConfig (line : CommandLine) (files : Files) (environment : List (String × String)) :
    Except ConfigError Config := do
  return line.override (← Config.load files environment line.config)

end CommandLine

namespace Program

def name : String := "wolf-tls"
def target : String := "wolf_tls"

/-- Log lines go to the output among the other lines, complaints to a place of their own. -/
structure State where
  world : World
  filter : Log.Filter
  json : Bool
  out : List String
  err : List String

abbrev Run := StateM State

def print (line : String) : Run Unit :=
  modify fun s => { s with out := s.out ++ [line] }

def complain (line : String) : Run Unit :=
  modify fun s => { s with err := s.err ++ [line] }

def log (e : Log.Event) : Run Unit := do
  let s ← get
  if s.filter.admits e then print (if s.json then e.jsonLine else e.line)

def act {ε α : Type} (a : Act ε α) : Run (Except ε α) := do
  let s ← get
  let (result, world) := a.run.run { s.world with log := [] }
  set { s with world := { world with log := [] } }
  world.log.forM log
  return result

def fail (message : String) (fields : List (String × Log.Value)) : Run Exit := do
  log ⟨.error, target, message, fields⟩
  return .failure

def paths (c : IdentityConfig) : IdentityPaths :=
  ⟨c.keyPath, c.certPath⟩

def generateAt (paths : IdentityPaths) : Act IdentityError ServerIdentity := do
  let id ← ServerIdentity.generate
  id.persist paths
  return id

/-- An identity that is there is only replaced on demand. -/
def generate (paths : IdentityPaths) (force : Bool) : Run Exit := do
  if paths.present (← get).world.files && !force then
    complain ("Identity already exists at " ++ paths.keyPath ++ " / " ++ paths.certPath ++
      " (use --force to replace it)")
    return .failure
  match ← act (generateAt paths) with
  | .ok id =>
    print ("Key:         " ++ paths.keyPath)
    print ("Certificate: " ++ paths.certPath)
    print ("SHA-256:     " ++ id.cert.fingerprint)
    return .success
  | .error e =>
    complain ("Failed to generate identity: " ++ ErrorKind.identity.render e.message)
    return .failure

def lines (pem : Bytes) : List String :=
  ((Utf8.textLossy pem).splitOn "\n").dropLast

def description (c : Certificate) : List (Except IdentityError (List String)) :=
  [c.subject.map fun n => ["Subject:     " ++ n.display],
   c.issuer.map fun n => ["Issuer:      " ++ n.display],
   c.serial.map fun bs => ["Serial:      " ++ Hex.encode bs],
   c.notBefore.map fun t => ["Not before:  " ++ t.text],
   c.notAfter.map fun t => ["Not after:   " ++ t.text],
   c.rsaParameters.map fun p =>
     ["Public key:  RSA " ++ p.modulusBits.repr ++ " bits, e=" ++ p.publicExponent.repr],
   .ok ["SHA-256:     " ++ c.fingerprint, ""],
   c.publicKeyPem.map lines]

def printParts : List (Except IdentityError (List String)) → Run Exit
  | [] => return .success
  | .ok part :: rest => do
    part.forM print
    printParts rest
  | .error e :: _ => do
    complain ("Failed to inspect certificate: " ++ ErrorKind.identity.render e.message)
    return .failure

def showIdentity (paths : IdentityPaths) : Run Exit := do
  match ← act (ServerIdentity.load paths) with
  | .ok id => printParts (description id.cert)
  | .error e =>
    complain ("Failed to load identity: " ++ ErrorKind.identity.render e.message)
    return .failure

def identityCommand (c : IdentityCommand) (paths : IdentityPaths) : Run Exit :=
  match c with
  | .generate force => generate paths force
  | .show => showIdentity paths

/-- A program that has not ended answers requests at its listener. -/
inductive Progress where
  | ended (exit : Exit)
  | serving (listener : Listener) (app : AppState)

def startListener (ip : IpAddress) (c : Config) (id : ServerIdentity) (paired : PairedClients)
    (opened : Except String Nat) : Run Progress := do
  let address : SocketAddress := ⟨ip, 0, c.server.port.toNat⟩
  log ⟨.info, target, "Starting Wolf TLS",
    [("version", .quoted Api.version), ("addr", .shown address.text), ("paired", .number paired.size),
     ("require_client_cert", .flag c.server.requireClientCert)]⟩
  let settings := TlsSettings.ofIdentity id (.ofRequired c.server.requireClientCert)
  match ← act (Listener.bind address opened settings (.ofConfig c.server)) with
  | .error e => return .ended (← fail ("Failed to start server: " ++ e.kind.render e.message) [])
  | .ok listener =>
    log ((Server.start listener.address listener.options.requestTimeout).event "Serving HTTPS")
    return .serving listener ⟨id.cert, paired⟩

def startServer (c : Config) (opened : Except String Nat) : Run Progress := do
  match IpAddress.parse? c.server.host with
  | none =>
    return .ended (← fail "Invalid bind address: invalid IP address syntax" [("host", .shown c.server.host)])
  | some ip =>
    match ← act (ServerIdentity.loadOrGenerate (paths c.identity)) with
    | .error e =>
      return .ended (← fail ("Failed to set up server identity: " ++ ErrorKind.identity.render e.message) [])
    | .ok id =>
      match ← act (PairedClients.loadFiles c.identity.pairedCerts) with
      | .error e =>
        return .ended (← fail ("Failed to load paired clients: " ++ ErrorKind.identity.render e.message) [])
      | .ok paired => startListener ip c id paired opened

def shutDown (l : Listener) : Run Exit := do
  log ⟨.info, target, "Shutdown signal received", []⟩
  match (Server.start l.address l.options.requestTimeout).logged? Server.quietShutdown with
  | some (_, events) => events.forM log
  | none => return .failure
  log ⟨.info, target, "Server shutdown complete", []⟩
  return .success

def carryOut (line : CommandLine) (environment : List (String × String)) (opened : Except String Nat) :
    Run Progress := do
  match line.loadConfig (← get).world.files environment with
  | .error e =>
    return .ended (← fail ("Failed to load configuration: " ++ ErrorKind.config.render e.message) [])
  | .ok c =>
    match line.command with
    | some (.identity command) => return .ended (← identityCommand command (paths c.identity))
    | _ => startServer c opened

def filterVariable : String := "RUST_LOG"

/-- A filter in the environment counts if all of it can be read, else the one of the command line does, without
what cannot be read of it. -/
def chooseFilter (line : CommandLine) (environment : List (String × String)) : Log.Filter × List String :=
  match (environment.lookup filterVariable).bind Log.Filter.parse? with
  | some filter => (filter, [])
  | none =>
    let (filter, unread) := Log.Filter.parseLossy line.logLevel
    (filter, unread.map fun d => "ignoring \x60" ++ d ++ "\x60: invalid filter directive")

def start (line : CommandLine) (environment : List (String × String)) (world : World) : State :=
  let (filter, complaints) := chooseFilter line environment
  ⟨world, filter, line.logFormat == some "json", [], complaints⟩

end Program
end PairedTls

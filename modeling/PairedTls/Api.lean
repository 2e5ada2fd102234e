import PairedTls.Http.Target
import PairedTls.Text.JsonText
import PairedTls.Tls.Peer
import PairedTls.Trust

namespace PairedTls

structure Request where
  method : String
  /-- Of the target, without query and fragment. -/
  path : Bytes
  peer : Option PeerCertificate

structure Response where
  status : Nat
  headers : List (String × String)
  body : Bytes
  deriving DecidableEq, Repr

inductive Route where
  | health
  | serverInfo
  | publicKey
  deriving DecidableEq, Repr

structure AppState where
  serverCert : Certificate
  paired : PairedClients

namespace Route

def path : Route → String
  | .health => "/health"
  | .serverInfo => "/serverinfo"
  | .publicKey => "/pubkey"

def all : List Route := [.health, .serverInfo, .publicKey]

def ofPath? (path : Bytes) : Option Route :=
  all.find? fun r => Bytes.ofString r.path == path

end Route

namespace Api

def version : String := "0.1.0"

structure Content where
  status : Nat
  mediaType : Option String
  body : Bytes

def json (status : Nat) (members : List (String × JsonText)) : Content :=
  ⟨status, some "application/json", Bytes.ofString (JsonText.ofMembers members).render⟩

def health : Content :=
  json 200 [("status", .text "healthy"), ("version", .text version)]

def verificationFailed : String :=
  "The client is not authorized. Certificate verification failed."

def noCertificate : String :=
  "The client is not authorized. No client certificate presented."

def unauthorized (message : String) : Content :=
  json 401 [("paired", .bool false), ("status_code", .nat 401), ("status_message", .text message)]

/-- For paired clients; the others are told why they do not get it. -/
def serverInfo (app : AppState) (peer : PeerCertificate) : Content :=
  match app.paired.evaluate peer.get with
  | .trusted =>
    json 200 [("paired", .bool true), ("server_fingerprint", .text app.serverCert.fingerprint)]
  | .untrusted => unauthorized verificationFailed
  | .anonymous => unauthorized noCertificate

def publicKey (app : AppState) : Content :=
  match app.serverCert.publicKeyPem with
  | .ok pem => ⟨200, some "text/plain; charset=utf-8", pem⟩
  | .error _ => ⟨500, none, []⟩

def content (app : AppState) (peer : PeerCertificate) : Route → Content
  | .health => health
  | .serverInfo => serverInfo app peer
  | .publicKey => publicKey app

def Content.response (c : Content) (withBody : Bool) : Response where
  status := c.status
  headers := ("content-length", c.body.length.repr) :: (c.mediaType.map ("content-type", ·)).toList
  body := if withBody then c.body else []

def notFound : Response := ⟨404, [], []⟩

def notAllowed : Response := ⟨405, [("allow", "GET,HEAD"), ("content-length", "0")], []⟩

/-- Asking for the head of an answer yields everything but the body. -/
def answer (app : AppState) (r : Request) : Response :=
  match Route.ofPath? r.path with
  | none => notFound
  | some route =>
    if r.method = "GET" ∨ r.method = "HEAD" then
      (content app (.ofRequest r.peer) route).response (r.method == "GET")
    else notAllowed

end Api
end PairedTls

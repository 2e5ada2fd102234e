import PairedTls.Certificate.Generate

namespace PairedTls

structure IdentityPaths where
  keyPath : String
  certPath : String
  deriving DecidableEq, Repr

structure ServerIdentity where
  key : ServerKey
  cert : Certificate
  deriving DecidableEq, Repr

def IdentityPaths.present (paths : IdentityPaths) (files : Files) : Bool :=
  files.present paths.keyPath && files.present paths.certPath

namespace ServerIdentity

def target : String := "wolf_tls::identity::store"

def writePem (path : String) (pem : Bytes) : Act IdentityError Unit := do
  match ← Act.writeFile path pem with
  | .written => return ()
  | .notOpened fault =>
    Act.log ⟨.error, target, "Unable to open file for writing",
      [("path", .shown path), ("error", .shown fault.message)]⟩
    throw (.openForWriting path fault)
  | .stopped fault =>
    Act.log ⟨.error, target, "Unable to write file to disk",
      [("path", .shown path), ("error", .shown fault.message)]⟩
    throw (.writing path fault)

/-- The key first, then the certificate. -/
def persist (id : ServerIdentity) (paths : IdentityPaths) : Act IdentityError Unit := do
  writePem paths.keyPath id.key.toPem
  writePem paths.certPath id.cert.toPem

def generate : Act IdentityError ServerIdentity := do
  let key ← ServerKey.generate
  let cert ← Certificate.generate key
  return ⟨key, cert⟩

def load (paths : IdentityPaths) : Act IdentityError ServerIdentity := do
  let key ← ServerKey.ofFile paths.keyPath
  let cert ← Certificate.ofFile paths.certPath
  return ⟨key, cert⟩

def regenerate (paths : IdentityPaths) : Act IdentityError ServerIdentity := do
  let id ← generate
  id.persist paths
  Act.log ⟨.info, target, "Generated new server identity", [("fingerprint", .shown id.cert.fingerprint)]⟩
  return id

def tryLoad (paths : IdentityPaths) : Act IdentityError (Except IdentityError ServerIdentity) :=
  tryCatch (do return .ok (← load paths)) fun e => return .error e

/-- Takes the identity that is on disk, and makes a new one when that cannot be done. -/
def loadOrGenerate (paths : IdentityPaths) : Act IdentityError ServerIdentity := do
  if paths.present (← get).files then
    match ← tryLoad paths with
    | .ok id =>
      Act.log ⟨.info, target, "Loaded server identity",
        [("cert", .shown paths.certPath), ("fingerprint", .shown id.cert.fingerprint)]⟩
      return id
    | .error e =>
      Act.log ⟨.warn, target, "Persisted identity unusable, regenerating",
        [("error", .shown (ErrorKind.identity.render e.message))]⟩
      regenerate paths
  else
    Act.log ⟨.info, target, "No server identity on disk, generating",
      [("key", .shown paths.keyPath), ("cert", .shown paths.certPath)]⟩
    regenerate paths

end ServerIdentity
end PairedTls

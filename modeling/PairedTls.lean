import PairedTls.Address
import PairedTls.Api
import PairedTls.Base64
import PairedTls.Bytes
import PairedTls.Certificate.Basic
import PairedTls.Certificate.Decode
import PairedTls.Certificate.Generate
import PairedTls.Certificate.Time
import PairedTls.CommandLine.Basic
import PairedTls.CommandLine.Parse
import PairedTls.Config.Basic
import PairedTls.Config.Decode
import PairedTls.Config.Document
import PairedTls.Config.Environment
import PairedTls.Config.Load
import PairedTls.Config.Value
import PairedTls.Decimal.Binary
import PairedTls.Decimal.Shortest
import PairedTls.Der.Element
import PairedTls.Der.ObjectId
import PairedTls.Der.Strict
import PairedTls.Der.Writer
import PairedTls.Duration
import PairedTls.Error
import PairedTls.Files
import PairedTls.Hex
import PairedTls.Http.Target
import PairedTls.Identity.ServerKey
import PairedTls.Identity.Store
import PairedTls.Idle
import PairedTls.Key.Ecdsa
import PairedTls.Key.Ed25519
import PairedTls.Key.Hash
import PairedTls.Key.Pair
import PairedTls.Key.Rsa
import PairedTls.Log
import PairedTls.Log.Filter
import PairedTls.Main
import PairedTls.Modular
import PairedTls.Pem.Buffer
import PairedTls.Pem.Envelope
import PairedTls.Pem.Section
import PairedTls.Program
import PairedTls.Session
import PairedTls.Sha2
import PairedTls.SystemError
import PairedTls.Text.Blank
import PairedTls.Text.JsonText
import PairedTls.Text.Quoted
import PairedTls.Text.Utf8
import PairedTls.Text.Visible
import PairedTls.Tls.Connection
import PairedTls.Tls.Failure
import PairedTls.Tls.Handshake
import PairedTls.Tls.Leaf
import PairedTls.Tls.Lifecycle
import PairedTls.Tls.Listener
import PairedTls.Tls.Peer
import PairedTls.Tls.Server
import PairedTls.Tls.Serving
import PairedTls.Tls.Settings
import PairedTls.Tls.Task
import PairedTls.Tls.Verifier
import PairedTls.Trust
import PairedTls.World
import PairedTls.Yaml.Cursor
import PairedTls.Yaml.Event
import PairedTls.Yaml.Scalar
import PairedTls.Yaml.Token
import PairedTls.Proofs.Base64
import PairedTls.Proofs.Sequences
import PairedTls.Proofs.PemBlock
import PairedTls.Proofs.PemSections
import PairedTls.Proofs.Acts
import PairedTls.Proofs.PemDocument
import PairedTls.Proofs.Calendar
import PairedTls.Proofs.DerReading
import PairedTls.Proofs.KeyEncoding
import PairedTls.Proofs.SelfSigned
import PairedTls.Proofs.MadeCertificate
import PairedTls.Proofs.PemReaders
import PairedTls.Proofs.Exchanges
import PairedTls.Proofs.ServerSteps
import PairedTls.Proofs.ServerRuns
import PairedTls.Proofs.FileWrites
import PairedTls.Proofs.PemCut
import PairedTls.Proofs.PemEnvelope
import PairedTls.Proofs.WrittenIdentity
import PairedTls.Proofs.StoredIdentity
import PairedTls.Proofs.IdentityRuns
import PairedTls.Proofs.IdentityRestart
import PairedTls.Proofs.SessionScopes
import PairedTls.Proofs.KeySections
import PairedTls.Proofs.KeyForms
import PairedTls.Proofs.KeyLoaders
import PairedTls.Proofs.ConfigMerge
import PairedTls.Proofs.ConfigSettings
import PairedTls.Proofs.IdleWaits
import PairedTls.Proofs.TaskRuns
import PairedTls.Proofs.ConfigEnvironment
import PairedTls.Proofs.ConfigLayers
import PairedTls.Proofs.LeafForm
import PairedTls.Proofs.Answers
import PairedTls.Proofs.BadCertificates
import PairedTls.Proofs.LifecycleRuns
import PairedTls.Proofs.PersistOutcome
import PairedTls.Proofs.IdentityFallback
import PairedTls.Proofs.DurationText
import PairedTls.Proofs.IdleRange
import PairedTls.Proofs.DurationGrammar
import PairedTls.Proofs.DurationValue
import PairedTls.Proofs.ConfigVariable
import PairedTls.Proofs.ConfigPath
import PairedTls.Proofs.DurationWritten
import PairedTls.Proofs.KeyText
import PairedTls.Proofs.SessionRuns
import PairedTls.Proofs.SessionContexts
import PairedTls.Proofs.PairedClients
import PairedTls.Proofs.FailureLog
import PairedTls.Proofs.UnsignedNumbers
import PairedTls.Proofs.HeldKeys
import PairedTls.Proofs.GeneratedCertificate
import PairedTls.Proofs.PemBuffer
import PairedTls.Proofs.ConnectionPaths
import PairedTls.Proofs.Characters
import PairedTls.Proofs.CommandOutput
import PairedTls.Proofs.IdentityCommands

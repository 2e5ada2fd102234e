import PairedTls.Config.Decode
import PairedTls.Config.Document
import PairedTls.Config.Environment
import PairedTls.Error
import PairedTls.Text.Utf8

namespace PairedTls

inductive ConfigError where
  | missingFile (path : String)
  | unreadable (shown : String) (fault : FileFault)
  | document (shown : String) (fault : Config.DocumentFault)
  | field (fault : Config.FieldFault)
  | logInstalled
  deriving DecidableEq, Repr

namespace ConfigError

def fileText (shown text : String) : String :=
  text ++ (Config.Source.file shown).place

def message : ConfigError → String
  | .missingFile path => "Config file not found: " ++ path
  | .unreadable shown fault => fileText shown fault.message
  | .document shown (.yaml fault) => fileText shown fault.message
  | .document shown .manyDocuments =>
    fileText shown "deserializing from YAML containing more than one document is not supported"
  | .field fault => fault.message
  | .logInstalled =>
    "Failed to install tracing subscriber: a global default trace dispatcher has already been set"

def isPlacedSyntax : ConfigError → Bool
  | .document _ (.yaml fault) => fault.isPlaced
  | _ => false

end ConfigError

namespace Config

def searchDirs (workingDir : Place) : List Place :=
  (List.range (workingDir.length + 1)).reverse.map workingDir.take

def parts (path : String) : List String :=
  (Files.names path).filter fun name => name ≠ "" ∧ name ≠ "."

/-- The way from one place to another, both without detours except those that `target` begins with. -/
def wayTo : Place → List String → List String
  | a :: source, b :: target => if a = b then wayTo source target else (a :: source).map (fun _ => "..") ++ b :: target
  | source, target => source.map (fun _ => "..") ++ target

def shownPath (workingDir : Place) (dir : Place) (path : String) : String :=
  "/".intercalate (wayTo workingDir (dir ++ parts path))

/-- The directory in which a path is a regular file. -/
def locate? (files : Files) (path : String) : Option Place :=
  if path.startsWith "/" then if files.isFile path then some [] else none
  else
    (searchDirs files.workingDir).find? fun dir =>
      match files.walk dir (Files.names path) with
      | .ok place =>
        match files.get? place with
        | some (.file _) => true
        | some .locked => true
        | _ => false
      | .error _ => false

def readAt (files : Files) (dir : Place) (path : String) : Except FileFault Bytes := do
  match files.get? (← files.walk dir (Files.names path)) with
  | some (.file content) => .ok content
  | some .locked => .error .denied
  | _ => .error .notFound

def fileValue (files : Files) (path : String) : Except ConfigError Value :=
  match locate? files path with
  | none => .ok (.map .direct [])
  | some dir =>
    let shown := shownPath files.workingDir dir path
    match readAt files dir path with
    | .error fault => .error (.unreadable shown fault)
    | .ok content =>
      match Utf8.decode? content with
      | none => .error (.unreadable shown .notText)
      | some text =>
        match Document.read (.file shown) text with
        | .ok v => .ok v
        | .error fault => .error (.document shown fault)

/-- The file over the defaults, and the environment over the file. The file has to be there; it is then looked for as
a regular file, and where there is no such file it says nothing. -/
def load (files : Files) (environment : List (String × String)) (path : Option String) :
    Except ConfigError Config := do
  let fromFile ← match path with
    | none => .ok (.map .direct [])
    | some path => if files.present path then fileValue files path else .error (.missingFile path)
  match Decoder.config .ignored (fromFile.merge (Environment.read environment)) with
  | .ok c => .ok c
  | .error fault => .error (.field fault)

end Config
end PairedTls

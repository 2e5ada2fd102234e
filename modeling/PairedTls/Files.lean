import PairedTls.Bytes
import PairedTls.SystemError

namespace PairedTls

inductive FileFault where
  | notFound
  | denied
  | notDirectory
  | isDirectory
  | nameTooLong
  | diskFull
  | badName
  | notText
  deriving DecidableEq, Repr

def FileFault.message : FileFault → String
  | .notFound => SystemError.message 2
  | .denied => SystemError.message 13
  | .notDirectory => SystemError.message 20
  | .isDirectory => SystemError.message 21
  | .nameTooLong => SystemError.message 36
  | .diskFull => SystemError.message 28
  | .badName => "file name contained an unexpected NUL byte"
  | .notText => "stream did not contain valid UTF-8"

inductive Node where
  | file (content : Bytes)
  | directory
  /-- A file that this program may neither read nor write. One that it may write and not read has no node. -/
  | locked
  deriving DecidableEq, Repr

/-- What may go wrong with one write besides what the tree itself says. -/
inductive WriteFault where
  | atOpen (fault : FileFault)
  | afterBytes (n : Nat) (fault : FileFault)
  deriving DecidableEq, Repr

abbrev Place := List String

structure Files where
  nodes : List (Place × Node)
  workingDir : Place

namespace Files

def inside (workingDir place : Place) : Bool :=
  place.isPrefixOf workingDir

def emptyAt (workingDir : Place) : Files :=
  ⟨[], workingDir⟩

/-- The root and the way to the working directory are always there. -/
def get? (fs : Files) (place : Place) : Option Node :=
  if inside fs.workingDir place then some .directory else fs.nodes.lookup place

def set (fs : Files) (place : Place) (node : Node) : Files :=
  { fs with nodes := (place, node) :: fs.nodes.filter (·.1 != place) }

def makeDirectory (fs : Files) (place : Place) : Files :=
  if (fs.get? place).isSome then fs else fs.set place .directory

def names (path : String) : List String :=
  (path.toList.splitOn '/').map String.ofList

def placeOf (fs : Files) (path : String) : Place :=
  (names path).foldl (fun here name =>
    if name = "" ∨ name = "." then here else if name = ".." then here.dropLast else here ++ [name])
    (if path.startsWith "/" then [] else fs.workingDir)

def install (fs : Files) (path : String) (node : Node) : Files :=
  let place := fs.placeOf path
  let above := (List.range place.length).map place.take
  (above.foldl makeDirectory fs).set place node

def remove (fs : Files) (place : Place) : Files :=
  { fs with nodes := fs.nodes.filter (·.1 != place) }

/-- Follows names; every place that is left by one has to be a directory. -/
def walk (fs : Files) (here : Place) : List String → Except FileFault Place
  | [] => .ok here
  | name :: rest =>
    match fs.get? here with
    | none => .error .notFound
    | some .directory =>
      if name = "" ∨ name = "." then fs.walk here rest
      else if name = ".." then fs.walk here.dropLast rest
      else if 255 < name.utf8ByteSize then .error .nameTooLong
      else fs.walk (here ++ [name]) rest
    | some _ => .error .notDirectory

def resolve (fs : Files) (path : String) : Except FileFault Place :=
  if path = "" then .error .notFound
  else if path.toList.contains '\x00' then .error .badName
  else fs.walk (if path.startsWith "/" then [] else fs.workingDir) (names path)

def find (fs : Files) (path : String) : Except FileFault Node := do
  let place ← fs.resolve path
  match fs.get? place with
  | some node => .ok node
  | none => .error .notFound

def present (fs : Files) (path : String) : Bool :=
  match fs.find path with
  | .ok _ => true
  | .error _ => false

def read (fs : Files) (path : String) : Except FileFault Bytes := do
  match ← fs.find path with
  | .file content => .ok content
  | .directory => .error .isDirectory
  | .locked => .error .denied

def isFile (fs : Files) (path : String) : Bool :=
  match fs.find path with
  | .ok (.file _) => true
  | .ok .locked => true
  | _ => false

/-- Where a file of this path is created or replaced. -/
def target (fs : Files) (path : String) : Except FileFault Place := do
  let place ← fs.resolve path
  match fs.get? place with
  | some .directory => .error .isDirectory
  | some .locked => .error .denied
  | some (.file _) => .ok place
  | none => if path.endsWith "/" then .error .isDirectory else .ok place

inductive WriteOutcome where
  | written
  | notOpened (fault : FileFault)
  | stopped (fault : FileFault)
  deriving DecidableEq, Repr

/-- Opening empties the file, so a write that stops leaves a part of the new content. -/
def write (fs : Files) (path : String) (content : Bytes) (fault : Option WriteFault) : Files × WriteOutcome :=
  match fs.target path with
  | .error e => (fs, .notOpened e)
  | .ok place =>
    match fault with
    | some (.atOpen e) => (fs, .notOpened e)
    | some (.afterBytes n e) => (fs.set place (.file (content.take n)), .stopped e)
    | none => (fs.set place (.file content), .written)

end Files
end PairedTls

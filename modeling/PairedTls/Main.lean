import PairedTls.Program
import Std.Time.DateTime.Timestamp

namespace PairedTls.Shell

def variableOf (entry : Bytes) : String × String :=
  let name := entry.takeWhile (· != 0x3D)
  (Utf8.textLossy name, Utf8.textLossy (entry.drop (name.length + 1)))

def environment : IO (List (String × String)) := do
  let content ← IO.FS.readBinFile "/proc/self/environ"
  return ((content.toList.splitBy fun a _ => a != 0).map fun entry => entry.filter (· != 0)).filterMap
    fun entry => if entry.isEmpty then none else some (variableOf entry)

def directoryCode : UInt32 := 21

def node? (path : String) : IO (Option Node) := do
  try
    return some (.file (← IO.FS.readBinFile path).toList)
  catch
    | .permissionDenied .. => return some .locked
    | .inappropriateType _ code _ => return if code = directoryCode then some .directory else none
    | _ => return none

def read (files : Files) (path : String) : IO Files := do
  match ← node? path with
  | some node => return files.install path node
  | none => return files

def configPaths (workingDir : Place) (path : String) : List String :=
  if path.startsWith "/" then [path]
  else (List.range (workingDir.length + 1)).map fun n => String.join (List.replicate n "../") ++ path

def identityPaths (c : IdentityConfig) : List String :=
  c.keyPath :: c.certPath :: c.pairedCerts

def write (before after : Files) (path : String) : IO Unit := do
  match after.read path with
  | .ok content =>
    if (before.read path).toOption != some content then IO.FS.writeBinFile path ⟨content.toArray⟩
  | .error _ => return ()

def tries : Nat := 4000
def width : Nat := 128

def candidate (bytes : Bytes) : Nat :=
  Bytes.toNat bytes ||| (3 <<< (8 * width - 2)) ||| 1

def randoms : IO (List Nat) :=
  (List.range tries).mapM fun _ => do
    return candidate (← IO.getRandomBytes width.toUSize).toList

def display (s : Program.State) : IO Unit := do
  s.out.forM fun line => IO.println line
  s.err.forM fun line => IO.eprintln line

def freePort : Nat := 49152

/-- The files that a command may look at are read before it is carried out, and those that it may have changed are
written afterwards. -/
def carryOut (line : CommandLine) (environment : List (String × String)) : IO UInt32 := do
  let here : Files := .emptyAt (((← IO.currentDir).toString.splitOn "/").filter (· != ""))
  let withConfig ← match line.config with
    | some path => (configPaths here.workingDir path).foldlM read here
    | none => pure here
  let paths := match line.loadConfig withConfig environment with
    | .ok c => identityPaths c.identity
    | .error _ => []
  let files ← paths.foldlM read withConfig
  let now := (← Std.Time.Timestamp.now).toNanosecondsSinceUnixEpoch.val
  let start := Program.start line environment ⟨files, now, ← randoms, [], []⟩
  let (progress, s) := (Program.carryOut line environment (.ok freePort)).run start
  paths.forM (write files s.world.files)
  display s
  match progress with
  | .ended exit => return exit.code.toUInt32
  | .serving listener _ =>
    let _ ← (← IO.getStdin).getLine
    let (exit, s) := (Program.shutDown listener).run { s with out := [], err := [] }
    display s
    return exit.code.toUInt32

def usage : String :=
  let names (s : CommandLine.Scope) : String := ", ".intercalate (s.commands.map (·.1))
  "Usage: " ++ Program.name ++ " [options] [command]\n\nCommands: " ++ names .top ++
    "\nCommands of identity: " ++ names .identity ++
    "\nOptions: " ++ ", ".intercalate (CommandLine.Scope.top.flags.map fun f => "--" ++ f.long)

end PairedTls.Shell

open PairedTls in
def main (arguments : List String) : IO UInt32 := do
  let environment ← Shell.environment
  match CommandLine.parse arguments environment with
  | .ok line => Shell.carryOut line environment
  | .error stop =>
    match stop with
    | .help => IO.println Shell.usage
    | .version => IO.println (Program.name ++ " " ++ Api.version)
    | stop => IO.eprintln ("error: " ++ stop.message ++ "\n\n" ++ Shell.usage)
    return stop.exitCode.toUInt32

import PairedTls.Error
import PairedTls.Log

namespace PairedTls

/-- What the identity operations act on; the faults in store are those of the next writes. -/
structure World where
  files : Files
  /-- Nanoseconds from 1970 to now. -/
  now : Int
  randoms : List Nat
  /-- One entry for each write to come; a write without an entry meets no fault. -/
  writeFaults : List (Option WriteFault)
  log : List Log.Event

/-- An operation that fails keeps what it did before it failed. -/
abbrev Act (ε : Type) := ExceptT ε (StateM World)

namespace Act
variable {ε : Type}

def log (event : Log.Event) : Act ε Unit :=
  modify fun w => { w with log := w.log ++ [event] }

def writeFile (path : String) (content : Bytes) : Act ε Files.WriteOutcome := do
  let w ← get
  let (files, outcome) := w.files.write path content (w.writeFaults.head?.getD none)
  set { w with files := files, writeFaults := w.writeFaults.tail }
  return outcome

def ofExcept {α : Type} : Except ε α → Act ε α
  | .ok a => pure a
  | .error e => throw e

end Act
end PairedTls

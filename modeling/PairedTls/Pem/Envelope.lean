import PairedTls.Pem.Buffer
import PairedTls.Text.Blank

namespace PairedTls.Pem.Envelope

inductive Fault where
  | malformedFraming
  | missingBeginTag
  | missingEndTag
  | mismatchedTags (opening closing : String)
  | invalidHeader (line : String)
  | notText
  | invalidData
  deriving DecidableEq, Repr

def Fault.message : Fault → String
  | .malformedFraming => "malformedframing"
  | .missingBeginTag => "missing BEGIN tag"
  | .missingEndTag => "missing END tag"
  | .mismatchedTags a b => "mismatching BEGIN (\"" ++ a ++ "\") and END (\"" ++ b ++ "\") tags"
  | .invalidHeader line => "invalid header: " ++ line
  | .notText => "not valid text"
  | .invalidData => "invalid data"

/-- What comes before and after the first place where `mark` is matched. A byte that breaks off a
partial match is not tried again as the start of another. -/
def splitAt (mark : Bytes) (todo seen : Bytes) : Bytes → Option (Bytes × Bytes)
  | [] => none
  | b :: rest =>
    match todo with
    | [] => none
    | [m] => if b = m then some ((seen.drop (mark.length - 1)).reverse, rest) else splitAt mark mark (b :: seen) rest
    | m :: more => if b = m then splitAt mark more (b :: seen) rest else splitAt mark mark (b :: seen) rest

def splitOn (mark bs : Bytes) : Option (Bytes × Bytes) :=
  splitAt mark mark [] bs

def blank (b : UInt8) : Bool :=
  b == 32 || b == 9 || b == 10 || b == 13

structure Captured where
  opening : Bytes
  headers : Bytes
  data : Bytes
  closing : Bytes

def emptyLine : Bytes := [10, 10]
def emptyLineReturn : Bytes := [13, 10, 13, 10]

def splitHeaders (body : Bytes) : Bytes × Bytes :=
  match splitOn emptyLine body with
  | some parts => parts
  | none => (splitOn emptyLineReturn body).getD ([], body)

/-- One block wherever it stands, whatever its label and its line structure. -/
def capture (text : Bytes) : Option Captured := do
  let (_, rest) ← splitOn beginMark text
  let (opening, rest) ← splitOn dashes rest
  let (body, rest) ← splitOn endMark (rest.dropWhile blank)
  let (closing, _) ← splitOn dashes rest
  let (headers, data) := splitHeaders body
  return ⟨opening, headers, data, closing⟩

def text (bs : Bytes) : Except Fault String :=
  match Utf8.text? bs with
  | some s => .ok s
  | none => .error .notText

def withoutReturn (line : Bytes) : Bytes :=
  if line.getLast? = some 13 then line.dropLast else line

def headerLines (bs : Bytes) : List Bytes :=
  let pieces := bs.splitOn 10
  let last := pieces.getLast?.getD []
  pieces.dropLast.map withoutReturn ++ if last.isEmpty then [] else [last]

def checkHeaders : List Bytes → Except Fault Unit
  | [] => .ok ()
  | line :: rest => do
    if line.contains 58 then checkHeaders rest
    else
      let shown ← text line
      .error (.invalidHeader shown)

def decodeData (data : Bytes) : Except Fault Bytes :=
  match Utf8.decode? data with
  | none => .error .notText
  | some cs =>
    match Base64.decodeExact? (Utf8.encode (cs.filter (!Text.whiteSpace ·))) with
    | some der => .ok der
    | none => .error .invalidData

def read (pem : Bytes) : Except Fault Bytes :=
  match capture pem with
  | none => .error .malformedFraming
  | some c => do
    let opening ← text c.opening
    if opening.isEmpty then .error .missingBeginTag
    else
      let closing ← text c.closing
      if closing.isEmpty then .error .missingEndTag
      else if opening ≠ closing then .error (.mismatchedTags opening closing)
      else
        let der ← decodeData c.data
        checkHeaders (headerLines c.headers)
        return der

end PairedTls.Pem.Envelope

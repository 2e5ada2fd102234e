import PairedTls.Pem.Buffer

namespace PairedTls.Pem

inductive Kind where
  | certificate
  | publicKey
  | rsaPrivateKey
  | privateKey
  | ecPrivateKey
  | revocationList
  | signingRequest
  | helloConfig
  deriving DecidableEq, Repr

/-- Sections with any other label are passed over without a look inside. -/
def labels : List (Bytes × Kind) :=
  [(certificateLabel, .certificate), (publicKeyLabel, .publicKey),
   (Bytes.ofString "RSA PRIVATE KEY", .rsaPrivateKey), (privateKeyLabel, .privateKey),
   (Bytes.ofString "EC PRIVATE KEY", .ecPrivateKey), (Bytes.ofString "X509 CRL", .revocationList),
   (Bytes.ofString "CERTIFICATE REQUEST", .signingRequest), (Bytes.ofString "ECHCONFIG", .helloConfig)]

def kindOf? (label : Bytes) : Option Kind :=
  labels.lookup label

inductive Fault where
  | illegalStart (line : Bytes)
  | missingEnd (label : Bytes)
  | badBase64
  | nothingFound
  deriving DecidableEq, Repr

def decimalList (bs : Bytes) : String :=
  "[" ++ ", ".intercalate (bs.map fun b => b.toNat.repr) ++ "]"

def Fault.message : Fault → String
  | .illegalStart line => "illegal section start: " ++ decimalList line
  | .missingEnd label => "missing section end marker: " ++ decimalList label
  | .badBase64 => "base64 decode error"
  | .nothingFound => "no items found"

def lineBreak (b : UInt8) : Bool :=
  b == 10 || b == 13

def lines : Bytes → List Bytes
  | [] => []
  | b :: rest =>
    if lineBreak b then [b] :: lines rest
    else
      match lines rest with
      | [] => [[b]]
      | l :: ls => (b :: l) :: ls

def withoutBreak (line : Bytes) : Bytes :=
  line.filter (!lineBreak ·)

/-- Counts the dashes at the end of a reversed line, blanks among them skipped; also yields what comes
before the foremost of these dashes. -/
def trailingDashes (count : Nat) (before : Bytes) : Bytes → Nat × Bytes
  | [] => (count, before)
  | b :: rest =>
    if b = 45 then trailingDashes (count + 1) rest rest
    else if b = 32 ∨ lineBreak b then trailingDashes count before rest
    else (count, before)

/-- The label on a line that starts with the begin mark: exactly five dashes have to close it. -/
def openingLabel? (line : Bytes) : Option Bytes :=
  let reversed := line.reverse
  let (count, before) := trailingDashes 0 reversed reversed
  if count = 5 then some (before.reverse.drop beginMark.length) else none

structure Open where
  label : Bytes
  collected : Bytes

/-- All that a reader meets in order, up to and with the first fault. A section runs to the first line that starts
with its end line; lines outside of all sections are ignored. -/
def items : Option Open → List Bytes → List (Except Fault (Kind × Bytes))
  | none, [] => []
  | some o, [] => [.error (.missingEnd o.label)]
  | s, line :: rest =>
    if beginMark.isPrefixOf line then
      match openingLabel? line with
      | none => [.error (.illegalStart line)]
      | some label => items (some ⟨label, (s.map Open.collected).getD []⟩) rest
    else
      match s with
      | none => items none rest
      | some o =>
        if (endLine o.label).isPrefixOf line then
          match kindOf? o.label with
          | none => items none rest
          | some kind =>
            match Base64.decodeLoose? o.collected with
            | none => [.error .badBase64]
            | some der => .ok (kind, der) :: items none rest
        else items (some ⟨o.label, o.collected ++ line⟩) rest

def itemsOfText (text : Bytes) : List (Except Fault (Kind × Bytes)) :=
  items none ((lines text).map withoutBreak)

def itemsOfFile (content : Bytes) : List (Except Fault (Kind × Bytes)) :=
  items none (lines content)

def first {α : Type} (keep : Kind → Bytes → Option α) : List (Except Fault (Kind × Bytes)) → Except Fault α
  | [] => .error .nothingFound
  | .error e :: _ => .error e
  | .ok (kind, der) :: rest =>
    match keep kind der with
    | some a => .ok a
    | none => first keep rest

def every {α : Type} (keep : Kind → Bytes → Option α) :
    List (Except Fault (Kind × Bytes)) → Except Fault (List α)
  | [] => .ok []
  | .error e :: _ => .error e
  | .ok (kind, der) :: rest => do
    let more ← every keep rest
    return match keep kind der with
      | some a => a :: more
      | none => more

def certificate? : Kind → Bytes → Option Bytes
  | .certificate, der => some der
  | _, _ => none

end PairedTls.Pem

namespace PairedTls

inductive JsonText where
  | null
  | bool (b : Bool)
  | nat (n : Nat)
  | text (s : String)
  | object (members : List (String × JsonText))

namespace JsonText

def hex4 (n : Nat) : String :=
  let digits := Nat.toDigits 16 n
  String.ofList (List.replicate (4 - digits.length) '0' ++ digits)

def escaped (c : Char) : String :=
  match c with
  | '"' => "\\\""
  | '\\' => "\\\\"
  | '\n' => "\\n"
  | '\r' => "\\r"
  | '\t' => "\\t"
  | '\x08' => "\\b"
  | '\x0c' => "\\f"
  | c => if c.toNat < 32 then "\\u" ++ hex4 c.toNat else c.toString

def quoted (s : String) : String :=
  "\"" ++ String.join (s.toList.map escaped) ++ "\""

def sorted {α : Type} (members : List (String × α)) : List (String × α) :=
  members.mergeSort fun a b => decide (a.1 ≤ b.1)

mutual
def render : JsonText → String
  | .null => "null"
  | .bool b => if b then "true" else "false"
  | .nat n => n.repr
  | .text s => quoted s
  | .object members => "\x7b" ++ ",".intercalate (renderMembers members) ++ "\x7d"

def renderMembers : List (String × JsonText) → List String
  | [] => []
  | (name, value) :: rest => (quoted name ++ ":" ++ value.render) :: renderMembers rest
end

def ofMembers (members : List (String × JsonText)) : JsonText :=
  .object (sorted members)

end JsonText
end PairedTls

import PairedTls.Text.Visible

namespace PairedTls.Text

def hexText (n : Nat) : String :=
  String.ofList (Nat.toDigits 16 n)

def escaped (c : Char) : String :=
  match c with
  | '"' => "\\\""
  | '\\' => "\\\\"
  | '\n' => "\\n"
  | '\r' => "\\r"
  | '\t' => "\\t"
  | '\x00' => "\\0"
  | c => if visible c then c.toString else "\\u\x7b" ++ hexText c.toNat ++ "\x7d"

def quoted (s : String) : String :=
  "\"" ++ String.join (s.toList.map escaped) ++ "\""

def quotedOption : Option String → String
  | none => "None"
  | some s => "Some(" ++ quoted s ++ ")"

/-- A value shown with the name of its type and of each field; `cut` stands for fields left out. -/
def record (name : String) (fields : List (String × String)) (cut : Bool) : String :=
  let shown := fields.map fun (field, value) => field ++ ": " ++ value
  name ++ " \x7b " ++ ", ".intercalate (shown ++ if cut then [".."] else []) ++ " \x7d"

end PairedTls.Text

import PatternLint.Scan.Violation

namespace PatternLint.Report

inductive Json where
  | text (value : String)
  | number (value : Nat)
  | list (items : List Json)
  | object (members : List (String × Json))

namespace Json

def hexDigit (value : Nat) : Char :=
  if value < 10 then Char.ofNat (48 + value) else Char.ofNat (87 + value)

def escapeChar (char : Char) : List Char :=
  match char with
  | '"' => ['\\', '"']
  | '\\' => ['\\', '\\']
  | '\x08' => ['\\', 'b']
  | '\x0c' => ['\\', 'f']
  | '\n' => ['\\', 'n']
  | '\r' => ['\\', 'r']
  | '\t' => ['\\', 't']
  | _ =>
    if char.toNat < 0x20 then
      ['\\', 'u', '0', '0', hexDigit (char.toNat / 16), hexDigit (char.toNat % 16)]
    else [char]

def quote (text : String) : List Char := '"' :: (text.toList.flatMap escapeChar ++ ['"'])

def indent (depth : Nat) : List Char := '\n' :: List.replicate (2 * depth) ' '

/-- Parts between two brackets, each on a line of its own one level deeper; brackets without parts
stand side by side. -/
def enclose (depth : Nat) (left right : Char) : List (List Char) → List Char
  | [] => [left, right]
  | parts =>
    left :: ([','].intercalate (parts.map (indent (depth + 1) ++ ·)) ++ (indent depth ++ [right]))

mutual

def write (depth : Nat) : Json → List Char
  | .text value => quote value
  | .number value => (toString value).toList
  | .list items => enclose depth '[' ']' (writeItems (depth + 1) items)
  | .object members => enclose depth '\x7b' '\x7d' (writeMembers (depth + 1) members)

def writeItems (depth : Nat) : List Json → List (List Char)
  | [] => []
  | item :: items => write depth item :: writeItems depth items

def writeMembers (depth : Nat) : List (String × Json) → List (List Char)
  | [] => []
  | (key, value) :: members =>
    (quote key ++ ':' :: ' ' :: write depth value) :: writeMembers depth members

end

def render (json : Json) : String := String.ofList (write 0 json)

end Json

def violationJson (violation : Violation) : Json :=
  .object [("path", .text violation.path), ("line", .number violation.line),
    ("column", .number violation.column), ("matched", .text violation.matched),
    ("message", .text violation.message)]

def skippedJson (skipped : Skipped) : Json :=
  .object [("path", .text skipped.path), ("reason", .text skipped.reason)]

def resultJson (result : ScanResult) : Json :=
  .object [("violations", .list (result.violations.map violationJson)),
    ("skipped", .list (result.skipped.map skippedJson)),
    ("summary", .object [("violations", .number result.violations.length),
      ("files", .number result.files), ("skipped", .number result.skipped.length)])]

end PatternLint.Report

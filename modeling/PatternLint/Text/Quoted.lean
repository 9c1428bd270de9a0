import PatternLint.Unicode.Property

namespace PatternLint.Text

def hexDigits (number : Nat) : List Char := Nat.toDigits 16 number

/-- The categories whose characters leave no mark of their own; a plain blank is excepted. -/
def invisible : CodeSet :=
  Unicode.categories ["cc", "cf", "co", "cn", "zl", "zp", "zs"]

def extending : CodeSet := (Unicode.binary? "graphemeextend").getD CodeSet.empty

def quoteChar (char : Char) : List Char :=
  match char with
  | '\x00' => ['\\', '0']
  | '\t' => ['\\', 't']
  | '\x0d' => ['\\', 'r']
  | '\n' => ['\\', 'n']
  | '"' => ['\\', '"']
  | '\\' => ['\\', '\\']
  | ' ' => [' ']
  | _ =>
    if extending.contains char || invisible.contains char then
      ['\\', 'u', '\x7b'] ++ hexDigits char.toNat ++ ['\x7d']
    else [char]

def quote (text : String) : String :=
  String.ofList ('"' :: (text.toList.flatMap quoteChar ++ ['"']))

def quoteList (texts : List String) : String :=
  "[" ++ ", ".intercalate (texts.map quote) ++ "]"

end PatternLint.Text

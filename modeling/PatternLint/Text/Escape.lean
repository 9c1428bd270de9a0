import PatternLint.Text.Number

namespace PatternLint.Text

/-- The character with a given number; surrogates and numbers beyond the last plane have none. -/
def charOfHex? (digits : List Char) : Option Char := do
  let number ← natural? 16 digits
  if number.isValidChar then some (Char.ofNat number) else none

def digitCount? : Char → Option Nat
  | 'x' => some 2
  | 'u' => some 4
  | 'U' => some 8
  | _ => none

/-- The character that an escape stands for, and what follows; the backslash is already read and
`letters` tells what single letters stand for. -/
def readEscape (letters : List (Char × Char)) : List Char → Option (Char × List Char)
  | [] => none
  | letter :: rest =>
    match digitCount? letter with
    | none => (letters.lookup letter).map fun char => (char, rest)
    | some count =>
      if rest.length < count then none
      else (charOfHex? (rest.take count)).map fun char => (char, rest.drop count)

end PatternLint.Text

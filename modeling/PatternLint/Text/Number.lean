import PatternLint.Unicode.Property

namespace PatternLint.Text

def isDigitOf (base : Nat) (char : Char) : Bool := (Unicode.hexValue? char).any (· < base)

def numberOf (base : Nat) (digits : List Char) : Nat :=
  digits.foldl (fun number digit => base * number + (Unicode.hexValue? digit).getD 0) 0

def natural? (base : Nat) (text : List Char) : Option Nat :=
  if text.isEmpty || !text.all (isDigitOf base) then none else some (numberOf base text)

end PatternLint.Text

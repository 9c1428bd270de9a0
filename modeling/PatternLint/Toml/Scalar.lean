import PatternLint.Text.Number
import PatternLint.Toml.Value

namespace PatternLint.Toml

def digits? (isDigit : Char → Bool) : List Char → Option (List Char)
  | [] => none
  | [char] => if isDigit char then some [char] else none
  | char :: '_' :: rest =>
    if isDigit char then (digits? isDigit rest).map (char :: ·) else none
  | char :: rest =>
    if isDigit char then (digits? isDigit rest).map (char :: ·) else none

def decimal? (text : List Char) : Option (List Char) := do
  let digits ← digits? Char.isDigit text
  if digits.head? = some '0' ∧ text.length ≠ 1 then none else some digits

def radix? : Char → Option Nat
  | 'x' => some 16
  | 'o' => some 8
  | 'b' => some 2
  | _ => none

def sign : List Char → Bool × List Char
  | '-' :: rest => (true, rest)
  | '+' :: rest => (false, rest)
  | text => (false, text)

/-- What fits into a signed or an unsigned number of 128 bits. -/
def isKept (value : Int) : Bool :=
  -0x80000000000000000000000000000000 ≤ value && value < 0x100000000000000000000000000000000

def integer? (text : List Char) : Option Int := do
  let value ←
    match text with
    | '0' :: letter :: rest => do
      let base ← radix? letter
      pure (Int.ofNat (Text.numberOf base (← digits? (Text.isDigitOf base) rest)))
    | _ => do
      let (negative, text) := sign text
      let number := Int.ofNat (Text.numberOf 10 (← decimal? text))
      pure (if negative then -number else number)
  if isKept value then some value else none

def isExponent (text : List Char) : Bool := (digits? Char.isDigit (sign text).2).isSome

def splitAt? (isMark : Char → Bool) (text : List Char) : Option (List Char × List Char) :=
  match text.dropWhile (!isMark ·) with
  | [] => none
  | _ :: after => some (text.takeWhile (!isMark ·), after)

def isFraction (text : List Char) : Bool :=
  let text := (sign text).2
  if text = ['i', 'n', 'f'] ∨ text = ['n', 'a', 'n'] then true
  else
    let exponent := splitAt? (fun char => char = 'e' || char = 'E') text
    let body := (exponent.map Prod.fst).getD text
    let fraction := splitAt? (· = '.') body
    let whole := (fraction.map Prod.fst).getD body
    (exponent.isSome || fraction.isSome) && (decimal? whole).isSome &&
      (fraction.all fun part => (digits? Char.isDigit part.2).isSome) &&
      exponent.all fun part => isExponent part.2

def fixed? (count : Nat) (text : List Char) : Option Nat :=
  if text.length = count ∧ text.all Char.isDigit then some (Text.numberOf 10 text) else none

def isLeapYear (year : Nat) : Bool := year % 4 = 0 && (year % 100 ≠ 0 || year % 400 = 0)

def daysOf (year month : Nat) : Nat :=
  if month = 2 then if isLeapYear year then 29 else 28
  else if month = 4 ∨ month = 6 ∨ month = 9 ∨ month = 11 then 30
  else 31

def isDate (text : List Char) : Bool :=
  match text with
  | [y, e, a, r, '-', m, o, '-', d, z] =>
    match fixed? 4 [y, e, a, r], fixed? 2 [m, o], fixed? 2 [d, z] with
    | some year, some month, some day =>
      1 ≤ month && month ≤ 12 && 1 ≤ day && day ≤ daysOf year month
    | _, _, _ => false
  | _ => false

def isBelow (bound : Nat) (text : List Char) : Bool := (fixed? 2 text).any (· < bound)

/-- Hours and minutes, and perhaps seconds with a fraction; a minute may have a leap second. -/
def isTime (text : List Char) : Bool :=
  match text with
  | h :: o :: ':' :: m :: i :: rest =>
    isBelow 24 [h, o] && isBelow 60 [m, i] &&
      match rest with
      | [] => true
      | [':', s, e] => isBelow 61 [s, e]
      | ':' :: s :: e :: '.' :: fraction =>
        isBelow 61 [s, e] && !fraction.isEmpty && fraction.all Char.isDigit
      | _ => false
  | _ => false

def isZone (text : List Char) : Bool :=
  match text with
  | ['Z'] => true
  | ['z'] => true
  | [mark, h, o, ':', m, i] =>
    (mark = '+' || mark = '-') && isBelow 24 [h, o] && isBelow 60 [m, i]
  | _ => false

def isZoneMark (char : Char) : Bool := char = 'Z' || char = 'z' || char = '+' || char = '-'

def isZonedTime (text : List Char) : Bool :=
  let time := text.takeWhile (!isZoneMark ·)
  let zone := text.dropWhile (!isZoneMark ·)
  isTime time && (zone.isEmpty || isZone zone)

def isMoment (text : List Char) : Bool :=
  isTime text || isDate text ||
    (isDate (text.take 10) &&
      match text.drop 10 with
      | mark :: time => (mark = 'T' || mark = 't' || mark = ' ') && isZonedTime time
      | [] => false)

def scalar? (text : List Char) : Option Value :=
  if text = ['t', 'r', 'u', 'e'] then some (.flag true)
  else if text = ['f', 'a', 'l', 's', 'e'] then some (.flag false)
  else
    match integer? text with
    | some value => some (.integer value)
    | none => if isFraction text || isMoment text then some .other else none

def isScalarChar (char : Char) : Bool :=
  char.isAlphanum || char = '+' || char = '-' || char = '_' || char = '.' || char = ':'

/-- Reads a scalar. A blank behind a date belongs to it if a digit follows. -/
def readScalar (text : List Char) : Option (Value × List Char) :=
  let word := text.takeWhile isScalarChar
  let rest := text.dropWhile isScalarChar
  match rest with
  | ' ' :: digit :: _ =>
    if isDate word && digit.isDigit then
      let time := (rest.drop 1).takeWhile isScalarChar
      (scalar? (word ++ ' ' :: time)).map fun value =>
        (value, (rest.drop 1).dropWhile isScalarChar)
    else (scalar? word).map fun value => (value, rest)
  | _ => (scalar? word).map fun value => (value, rest)

end PatternLint.Toml

import Mathlib.Data.List.Basic

/-!
The grammar of JSON, with what each text stands for. Blanks may stand around every part; objects
keep their members in order, and numbers keep their digits. Two escapes that make up a surrogate
pair are one character, and half a pair stands for nothing.
-/

namespace PatternLint.JsonGrammar

structure Decimal where
  negative : Bool
  digits : Nat
  exponent : Int
deriving DecidableEq, Repr

inductive Value where
  | null
  | flag (value : Bool)
  | number (value : Decimal)
  | text (value : String)
  | array (items : List Value)
  | object (members : List (String × Value))

def isBlank (char : Char) : Bool := char = ' ' || char = '\t' || char = '\n' || char = '\r'

/-- A text begins with blanks, or with none; `rest` stands behind them. -/
def Blanks (text rest : List Char) : Prop :=
  ∃ blanks, text = blanks ++ rest ∧ ∀ char ∈ blanks, isBlank char = true

def escaped? : Char → Option Char
  | '"' => some '"'
  | '\\' => some '\\'
  | '/' => some '/'
  | 'b' => some '\x08'
  | 'f' => some '\x0c'
  | 'n' => some '\n'
  | 'r' => some '\r'
  | 't' => some '\t'
  | _ => none

def hexValue? (char : Char) : Option Nat :=
  if '0' ≤ char ∧ char ≤ '9' then some (char.toNat - 48)
  else if 'a' ≤ char ∧ char ≤ 'f' then some (char.toNat - 87)
  else if 'A' ≤ char ∧ char ≤ 'F' then some (char.toNat - 55)
  else none

def unit? (first second third fourth : Char) : Option Nat := do
  return (((← hexValue? first) * 16 + (← hexValue? second)) * 16 + (← hexValue? third)) * 16 +
    (← hexValue? fourth)

inductive Letter : List Char → Char → List Char → Prop
  | plain (char : Char) (rest : List Char) :
    char ≠ '"' → char ≠ '\\' → 0x20 ≤ char.toNat → Letter (char :: rest) char rest
  | escape (mark char : Char) (rest : List Char) :
    escaped? mark = some char → Letter ('\\' :: mark :: rest) char rest
  | unit (first second third fourth char : Char) (rest : List Char) :
    unit? first second third fourth = some char.toNat →
      Letter ('\\' :: 'u' :: first :: second :: third :: fourth :: rest) char rest
  | pair (first second third fourth fifth sixth seventh eighth char : Char) (high low : Nat)
    (rest : List Char) :
    unit? first second third fourth = some (0xd800 + high) → high < 0x400 →
      unit? fifth sixth seventh eighth = some (0xdc00 + low) → low < 0x400 →
        char.toNat = 0x10000 + high * 0x400 + low →
          Letter ('\\' :: 'u' :: first :: second :: third :: fourth ::
            '\\' :: 'u' :: fifth :: sixth :: seventh :: eighth :: rest) char rest

inductive Chars : List Char → List Char → List Char → Prop
  | close (rest : List Char) : Chars ('"' :: rest) [] rest
  | letter (text after value rest : List Char) (char : Char) :
    Letter text char after → Chars after value rest → Chars text (char :: value) rest

def AllDigits (text : List Char) : Prop := ∀ char ∈ text, char.isDigit = true

def natural (digits : List Char) : Nat := Nat.ofDigitChars 10 digits 0

inductive Whole : List Char → Prop
  | zero : Whole ['0']
  | digits (first : Char) (rest : List Char) :
    first ≠ '0' → AllDigits (first :: rest) → Whole (first :: rest)

/-- A point and digits, which are told again, or nothing. -/
inductive Fraction : List Char → List Char → Prop
  | none : Fraction [] []
  | some (digits : List Char) : digits ≠ [] → AllDigits digits → Fraction ('.' :: digits) digits

inductive Sign : List Char → Bool → Prop
  | none : Sign [] false
  | plus : Sign ['+'] false
  | minus : Sign ['-'] true

inductive Exponent : List Char → Int → Prop
  | none : Exponent [] 0
  | some (mark : Char) (sign digits : List Char) (negative : Bool) :
    mark = 'e' ∨ mark = 'E' → Sign sign negative → digits ≠ [] → AllDigits digits →
      Exponent (mark :: (sign ++ digits)) (if negative then -natural digits else natural digits)

inductive Unsigned : List Char → Nat → Int → Prop
  | parts (whole fraction digits exponent : List Char) (power : Int) :
    Whole whole → Fraction fraction digits → Exponent exponent power →
      Unsigned (whole ++ (fraction ++ exponent)) (natural (whole ++ digits))
        (power - digits.length)

inductive Number : List Char → Decimal → Prop
  | positive (text : List Char) (digits : Nat) (exponent : Int) :
    Unsigned text digits exponent → Number text ⟨false, digits, exponent⟩
  | negative (text : List Char) (digits : Nat) (exponent : Int) :
    Unsigned text digits exponent → Number ('-' :: text) ⟨true, digits, exponent⟩

/-- What a text can be read as: a value, an item or a member with the blanks before it, or the
inside of an array or object that is not empty. -/
inductive Phrase where
  | value (value : Value)
  | item (item : Value)
  | member (member : String × Value)
  | items (items : List Value)
  | members (members : List (String × Value))

/-- `Reads text phrase rest`: a text begins with a phrase, and `rest` stands behind it. Items and
members are read with the bracket that ends them. -/
inductive Reads : List Char → Phrase → List Char → Prop
  | null (rest : List Char) : Reads ('n' :: 'u' :: 'l' :: 'l' :: rest) (.value .null) rest
  | yes (rest : List Char) : Reads ('t' :: 'r' :: 'u' :: 'e' :: rest) (.value (.flag true)) rest
  | no (rest : List Char) :
    Reads ('f' :: 'a' :: 'l' :: 's' :: 'e' :: rest) (.value (.flag false)) rest
  | number (text digits rest : List Char) (decimal : Decimal) :
    text = digits ++ rest → Number digits decimal → Reads text (.value (.number decimal)) rest
  | text (body value rest : List Char) :
    Chars body value rest → Reads ('"' :: body) (.value (.text (String.ofList value))) rest
  | emptyArray (body rest : List Char) :
    Blanks body (']' :: rest) → Reads ('[' :: body) (.value (.array [])) rest
  | array (body rest : List Char) (items : List Value) :
    Reads body (.items items) rest → Reads ('[' :: body) (.value (.array items)) rest
  | emptyObject (body rest : List Char) :
    Blanks body ('\x7d' :: rest) → Reads ('\x7b' :: body) (.value (.object [])) rest
  | object (body rest : List Char) (members : List (String × Value)) :
    Reads body (.members members) rest → Reads ('\x7b' :: body) (.value (.object members)) rest
  | item (text start rest : List Char) (item : Value) :
    Blanks text start → Reads start (.value item) rest → Reads text (.item item) rest
  | lastItem (text finish rest : List Char) (item : Value) :
    Reads text (.item item) finish → Blanks finish (']' :: rest) → Reads text (.items [item]) rest
  | moreItems (text finish after rest : List Char) (item : Value) (items : List Value) :
    Reads text (.item item) finish → Blanks finish (',' :: after) →
      Reads after (.items items) rest → Reads text (.items (item :: items)) rest
  | member (text key name colon after start rest : List Char) (value : Value) :
    Blanks text ('"' :: key) → Chars key name colon → Blanks colon (':' :: after) →
      Blanks after start → Reads start (.value value) rest →
        Reads text (.member (String.ofList name, value)) rest
  | lastMember (text finish rest : List Char) (member : String × Value) :
    Reads text (.member member) finish → Blanks finish ('\x7d' :: rest) →
      Reads text (.members [member]) rest
  | moreMembers (text finish after rest : List Char) (member : String × Value)
    (members : List (String × Value)) :
    Reads text (.member member) finish → Blanks finish (',' :: after) →
      Reads after (.members members) rest → Reads text (.members (member :: members)) rest

def Denotes (text : String) (value : Value) : Prop :=
  ∃ start finish, Blanks text.toList start ∧ Reads start (.value value) finish ∧ Blanks finish []

end PatternLint.JsonGrammar

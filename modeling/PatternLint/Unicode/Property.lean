import PatternLint.Unicode.CodeSet
import PatternLint.Unicode.Table.Age
import PatternLint.Unicode.Table.Binary
import PatternLint.Unicode.Table.Break
import PatternLint.Unicode.Table.CaseOrbit
import PatternLint.Unicode.Table.Category
import PatternLint.Unicode.Table.Script
import PatternLint.Unicode.Table.ScriptExtension

namespace PatternLint.Unicode

def hexValue? (char : Char) : Option Nat :=
  if '0' ≤ char ∧ char ≤ '9' then some (char.toNat - 48)
  else if 'a' ≤ char ∧ char ≤ 'f' then some (char.toNat - 87)
  else if 'A' ≤ char ∧ char ≤ 'F' then some (char.toNat - 55)
  else none

def hexNumber (text : String) : Nat :=
  text.foldl (fun value char => value * 16 + (hexValue? char).getD 0) 0

def words (text : String) : List String :=
  (text.splitOn "\n").flatMap fun line => (line.splitOn " ").filter fun word => word ≠ ""

def spanOf (word : String) : Span :=
  match word.splitOn "-" with
  | [first, last] => ⟨hexNumber first, hexNumber last⟩
  | _ => ⟨hexNumber word, hexNumber word⟩

structure Row where
  names : List String
  body : String

def Row.set (row : Row) : CodeSet := ⟨(words row.body).map spanOf⟩

def rowOf? (text : String) : Option Row :=
  match text.splitOn ":" with
  | [names, body] => some ⟨words names, body⟩
  | _ => none

def rows (table : String) : List Row := (table.splitOn ";").filterMap rowOf?

def row? (table name : String) : Option Row := (rows table).find? fun row => row.names.contains name

def lookup? (table name : String) : Option CodeSet := (row? table name).map Row.set

def unionOf (sets : List CodeSet) : CodeSet :=
  CodeSet.ofSpans (sets.flatMap CodeSet.spans)

def categoryGroups : List (List String × List String) :=
  [(["c", "other"], ["cc", "cf", "cn", "co"]),
   (["l", "letter"], ["ll", "lm", "lo", "lt", "lu"]),
   (["lc", "casedletter"], ["ll", "lt", "lu"]),
   (["m", "mark", "combiningmark"], ["mc", "me", "mn"]),
   (["n", "number"], ["nd", "nl", "no"]),
   (["p", "punctuation", "punct"], ["pc", "pd", "pe", "pf", "pi", "po", "ps"]),
   (["s", "symbol"], ["sc", "sk", "sm", "so"]),
   (["z", "separator"], ["zl", "zp", "zs"])]

def categories (names : List String) : CodeSet :=
  unionOf (names.filterMap (lookup? Table.categories))

def category? (name : String) : Option CodeSet :=
  match categoryGroups.find? fun group => group.1.contains name with
  | some (_, members) => some (categories members)
  | none =>
    match name with
    | "any" => some CodeSet.all
    | "ascii" => some ⟨[⟨0, 0x7F⟩]⟩
    | "assigned" => some ((lookup? Table.categories "cn").getD CodeSet.empty).complement
    | _ => lookup? Table.categories name

def script? (name : String) : Option CodeSet := lookup? Table.scripts name

def binary? (name : String) : Option CodeSet := lookup? Table.binaries name

def age? (name : String) : Option CodeSet :=
  let versions := rows Table.ages
  if versions.any fun row => row.names.contains name then
    let before := versions.takeWhile fun row => !row.names.contains name
    let reached := (versions.drop before.length).take 1
    some (unionOf ((before ++ reached).map Row.set))
  else none

def decimalDigits : CodeSet := categories ["nd"]

/-- White space as the table of properties has it, written out because all trimming asks for it. -/
def whiteSpace : CodeSet :=
  ⟨[⟨0x9, 0xD⟩, ⟨0x20, 0x20⟩, ⟨0x85, 0x85⟩, ⟨0xA0, 0xA0⟩, ⟨0x1680, 0x1680⟩, ⟨0x2000, 0x200A⟩,
    ⟨0x2028, 0x2029⟩, ⟨0x202F, 0x202F⟩, ⟨0x205F, 0x205F⟩, ⟨0x3000, 0x3000⟩]⟩

/-- Letters, marks, decimal digits, connecting punctuation and the two joiners. -/
def wordChars : CodeSet :=
  unionOf [(binary? "alphabetic").getD CodeSet.empty, categories ["mc", "me", "mn", "nd", "pc"],
    ⟨[⟨0x200C, 0x200D⟩]⟩]

def alphabetic : CodeSet := (binary? "alphabetic").getD CodeSet.empty

def numeric : CodeSet := categories ["nd", "nl", "no"]

def isBlank (char : Char) : Bool := whiteSpace.contains char

def orbits : List (List Nat) :=
  (Table.caseOrbits.splitOn ";").filterMap fun group =>
    match (words group).map hexNumber with
    | [] => none
    | codes => some codes

def foldCase (set : CodeSet) : CodeSet :=
  let added := orbits.flatMap fun orbit =>
    if orbit.any set.holds then orbit.map fun code => Span.mk code code else []
  if added.isEmpty then set else CodeSet.ofSpans (set.spans ++ added)

def foldAsciiCase (set : CodeSet) : CodeSet :=
  let added := (List.range 26).flatMap fun index =>
    if set.holds (65 + index) || set.holds (97 + index) then
      [Span.mk (65 + index) (65 + index), Span.mk (97 + index) (97 + index)]
    else []
  if added.isEmpty then set else CodeSet.ofSpans (set.spans ++ added)

end PatternLint.Unicode

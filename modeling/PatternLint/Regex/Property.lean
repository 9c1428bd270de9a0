import PatternLint.Regex.Ast
import PatternLint.Regex.Fault
import PatternLint.Unicode.Property

namespace PatternLint.Regex

def isLooseSeparator (char : Char) : Bool := char == ' ' || char == '_' || char == '-'

def withoutIs : List Char → Bool × List Char
  | 'i' :: 's' :: rest => (true, rest)
  | 'i' :: 'S' :: rest => (true, rest)
  | 'I' :: 's' :: rest => (true, rest)
  | 'I' :: 'S' :: rest => (true, rest)
  | name => (false, name)

/-- The form in which names are compared; `isc` is a name of its own and not `is` before `c`. -/
def looseName (name : String) : String :=
  let (cut, rest) := withoutIs name.toList
  let kept := (rest.filter fun char => char.toNat < 0x80 && !isLooseSeparator char).map Char.toLower
  if cut && kept == ['c'] then "isc" else String.ofList kept

/-- Properties that are known but are not sets of code points by themselves. -/
def otherProperties : List String :=
  ["cjkaccountingnumeric", "kaccountingnumeric", "cjkothernumeric", "kothernumeric",
   "cjkprimarynumeric", "kprimarynumeric", "nv", "numericvalue", "bmg", "bidimirroringglyph",
   "bpb", "bidipairedbracket", "cf", "casefolding", "cjkcompatibilityvariant",
   "kcompatibilityvariant", "dm", "decompositionmapping", "equideo",
   "equivalentunifiedideograph", "fcnfkc", "fcnfkcclosure", "lc", "lowercasemapping", "nfkccf",
   "nfkccasefold", "nfkcscf", "nfkcsimplecasefold", "scf", "simplecasefolding", "sfc", "slc",
   "simplelowercasemapping", "stc", "simpletitlecasemapping", "suc", "simpleuppercasemapping",
   "tc", "titlecasemapping", "uc", "uppercasemapping", "cjkiicore", "kiicore", "cjkirggsource",
   "kirggsource", "cjkirghsource", "kirghsource", "cjkirgjsource", "kirgjsource",
   "cjkirgkpsource", "kirgkpsource", "cjkirgksource", "kirgksource", "cjkirgmsource",
   "kirgmsource", "cjkirgssource", "kirgssource", "cjkirgtsource", "kirgtsource",
   "cjkirguksource", "kirguksource", "cjkirgusource", "kirgusource", "cjkirgvsource",
   "kirgvsource", "cjkrsunicode", "krsunicode", "unicoderadicalstroke", "urs", "isc",
   "isocomment", "jsn", "jamoshortname", "na", "name", "na1", "unicode1name", "namealias",
   "blk", "block", "bc", "bidiclass", "bpt", "bidipairedbrackettype", "ccc",
   "canonicalcombiningclass", "dt", "decompositiontype", "ea", "eastasianwidth", "hst",
   "hangulsyllabletype", "incb", "indicconjunctbreak", "inpc", "indicpositionalcategory", "insc",
   "indicsyllabiccategory", "jg", "joininggroup", "jt", "joiningtype", "lb", "linebreak", "nfcqc",
   "nfcquickcheck", "nfdqc", "nfdquickcheck", "nfkcqc", "nfkcquickcheck", "nfkdqc",
   "nfkdquickcheck", "nt", "numerictype", "vo", "verticalorientation", "ce",
   "compositionexclusion", "compex", "fullcompositionexclusion", "cwkcf",
   "changeswhennfkccasefolded", "xonfc", "expandsonnfc", "xonfd", "expandsonnfd", "xonfkc",
   "expandsonnfkc", "xonfkd", "expandsonnfkd", "idsu", "idsunaryoperator", "idcompatmathcontinue",
   "idcompatmathstart", "mcm", "modifiercombiningmark"]

/-- A category, a script or a version may be named alone where the name is not also a property's. -/
def namedSet? (name : String) : Option CodeSet :=
  match Unicode.binary? name with
  | some set => some set
  | none => (Unicode.category? name).orElse fun _ => Unicode.script? name

def valuesOf? : String → Option (String → Option CodeSet)
  | "gc" | "generalcategory" => some Unicode.category?
  | "sc" | "script" => some Unicode.script?
  | "scx" | "scriptextensions" => some (Unicode.lookup? Unicode.Table.scriptExtensions)
  | "age" => some Unicode.age?
  | "gcb" | "graphemeclusterbreak" => some (Unicode.lookup? Unicode.Table.graphemeBreaks)
  | "wb" | "wordbreak" => some (Unicode.lookup? Unicode.Table.wordBreaks)
  | "sb" | "sentencebreak" => some (Unicode.lookup? Unicode.Table.sentenceBreaks)
  | _ => none

/-- Values that are named by the standard and hold no character, or have no set of their own. -/
def emptyValues : List String :=
  ["cs", "surrogate", "zzzz", "unknown", "hrkt", "katakanaorhiragana"]

def PropertyQuery.set : PropertyQuery → Except Fault CodeSet
  | .named name =>
    match namedSet? (looseName name) with
    | some set => .ok set
    | none =>
      if emptyValues.contains (looseName name) then .error .propertyValueNotFound
      else .error .propertyNotFound
  | .valued property value =>
    let property := looseName property
    match valuesOf? property with
    | some values =>
      match values (looseName value) with
      | some set => .ok set
      | none => .error .propertyValueNotFound
    | none =>
      if otherProperties.contains property || (Unicode.binary? property).isSome then
        .error .propertyValueNotFound
      else .error .propertyNotFound

def PosixClass.set : PosixClass → CodeSet
  | .alnum => ⟨[⟨0x30, 0x39⟩, ⟨0x41, 0x5A⟩, ⟨0x61, 0x7A⟩]⟩
  | .alpha => ⟨[⟨0x41, 0x5A⟩, ⟨0x61, 0x7A⟩]⟩
  | .ascii => ⟨[⟨0x00, 0x7F⟩]⟩
  | .blank => ⟨[⟨0x09, 0x09⟩, ⟨0x20, 0x20⟩]⟩
  | .cntrl => ⟨[⟨0x00, 0x1F⟩, ⟨0x7F, 0x7F⟩]⟩
  | .digit => ⟨[⟨0x30, 0x39⟩]⟩
  | .graph => ⟨[⟨0x21, 0x7E⟩]⟩
  | .lower => ⟨[⟨0x61, 0x7A⟩]⟩
  | .print => ⟨[⟨0x20, 0x7E⟩]⟩
  | .punct => ⟨[⟨0x21, 0x2F⟩, ⟨0x3A, 0x40⟩, ⟨0x5B, 0x60⟩, ⟨0x7B, 0x7E⟩]⟩
  | .space => ⟨[⟨0x09, 0x0D⟩, ⟨0x20, 0x20⟩]⟩
  | .upper => ⟨[⟨0x41, 0x5A⟩]⟩
  | .word => ⟨[⟨0x30, 0x39⟩, ⟨0x41, 0x5A⟩, ⟨0x5F, 0x5F⟩, ⟨0x61, 0x7A⟩]⟩
  | .xdigit => ⟨[⟨0x30, 0x39⟩, ⟨0x41, 0x46⟩, ⟨0x61, 0x66⟩]⟩

def PerlClass.asciiSet : PerlClass → CodeSet
  | .digit => PosixClass.digit.set
  | .space => PosixClass.space.set
  | .word => PosixClass.word.set

def PerlClass.unicodeSet : PerlClass → CodeSet
  | .digit => Unicode.decimalDigits
  | .space => Unicode.whiteSpace
  | .word => Unicode.wordChars

end PatternLint.Regex

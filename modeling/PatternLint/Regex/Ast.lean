namespace PatternLint.Regex

inductive Flag where
  | caseInsensitive
  | multiLine
  | dotAll
  | swapGreed
  | unicode
  | crlf
  | verbose
deriving BEq, DecidableEq, Repr

abbrev FlagSetting := Flag × Bool

/-- A character as written; `hexPair` marks one written as `\x` and two digits. -/
structure Literal where
  char : Char
  hexPair : Bool
deriving BEq, Repr

inductive PerlClass where
  | digit
  | space
  | word
deriving BEq, Repr

inductive PosixClass where
  | alnum | alpha | ascii | blank | cntrl | digit | graph
  | lower | print | punct | space | upper | word | xdigit
deriving BEq, Repr

/-- A property asked for by its own name, or as a value of a named property. -/
inductive PropertyQuery where
  | named (name : String)
  | valued (name value : String)
deriving BEq, Repr

inductive SetOperator where
  | intersection
  | difference
  | symmetricDifference
deriving BEq, Repr

inductive ClassSet where
  | empty
  | literal (literal : Literal)
  | range (first last : Literal)
  | posix (negated : Bool) (kind : PosixClass)
  | property (negated : Bool) (query : PropertyQuery)
  | perl (negated : Bool) (kind : PerlClass)
  | union (items : List ClassSet)
  | bracketed (negated : Bool) (body : ClassSet)
  | operation (operator : SetOperator) (left right : ClassSet)

inductive Assertion where
  | startLine
  | endLine
  | startText
  | endText
  | wordBoundary
  | notWordBoundary
  | wordStart
  | wordEnd
  | wordStartHalf
  | wordEndHalf
deriving BEq, Repr

structure Count where
  least : Nat
  most : Option Nat
deriving BEq, Repr

inductive Ast where
  | empty
  | flags (settings : List FlagSetting)
  | literal (literal : Literal)
  | dot
  | assertion (assertion : Assertion)
  | property (negated : Bool) (query : PropertyQuery)
  | perl (negated : Bool) (kind : PerlClass)
  | bracketed (negated : Bool) (body : ClassSet)
  | repetition (count : Count) (greedy : Bool) (body : Ast)
  | group (settings : List FlagSetting) (captures : Bool) (body : Ast)
  | alternation (branches : List Ast)
  | concat (parts : List Ast)

namespace ClassSet

mutual

def depth : ClassSet → Nat
  | .union items => depthOfAll items + 1
  | .bracketed _ body => body.depth + 1
  | .operation _ left right => max left.depth right.depth + 1
  | _ => 0

def depthOfAll : List ClassSet → Nat
  | [] => 0
  | item :: items => max item.depth (depthOfAll items)

end

def ofItems : List ClassSet → ClassSet
  | [] => .empty
  | [item] => item
  | items => .union items

end ClassSet

namespace Ast

mutual

def depth : Ast → Nat
  | .bracketed _ body => body.depth + 1
  | .repetition _ _ body => body.depth + 1
  | .group _ _ body => body.depth + 1
  | .alternation branches => depthOfAll branches + 1
  | .concat parts => depthOfAll parts + 1
  | _ => 0

def depthOfAll : List Ast → Nat
  | [] => 0
  | part :: parts => max part.depth (depthOfAll parts)

end

def ofParts : List Ast → Ast
  | [] => .empty
  | [part] => part
  | parts => .concat parts

def ofBranches : List Ast → Ast
  | [branch] => branch
  | branches => .alternation branches

end Ast

end PatternLint.Regex

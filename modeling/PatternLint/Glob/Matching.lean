import PatternLint.Glob.Basic

/-!
Which texts a glob matches. Tokens are taken from the last to the first, and for each of them one
row of answers is kept: whether the tokens from there on match the text from each place on. The work
is the number of tokens times the length of the text.
-/

namespace PatternLint.Glob

namespace Token

def inRanges (ranges : List CharRange) (char : Char) : Bool :=
  ranges.any fun range => range.first ≤ char && char ≤ range.last

/-- Whether a token that stands for one character accepts it; only a `/` accepts a `/`. -/
def accepts : Token → Char → Bool
  | .literal own, char => own == char
  | .one, char => char != '/'
  | .bracket negated ranges, char => char != '/' && (inRanges ranges char != negated)
  | _, _ => false

def singleRow (token : Token) : List Char → List Bool → List Bool
  | [], _ => [false]
  | char :: text, after =>
    (token.accepts char && after.tail.headD false) :: singleRow token text after.tail

def runRow : List Char → List Bool → List Bool
  | [], after => [after.headD false]
  | char :: text, after =>
    let rest := runRow text after.tail
    (after.headD false || (char != '/' && rest.headD false)) :: rest

/-- Whether some later place right behind a `/` has a positive answer. -/
def slashRow : List Char → List Bool → List Bool
  | [], _ => [false]
  | char :: text, after =>
    let rest := slashRow text after.tail
    ((char == '/' && after.tail.headD false) || rest.headD false) :: rest

def treeRow (text : List Char) (after : List Bool) : List Bool :=
  List.zipWith or after (slashRow text after)

end Token

def row : List Token → List Char → List Bool
  | [], text => text.map (fun _ => false) ++ [true]
  | [.tree], text => text.map (fun _ => true) ++ [true]
  | token :: tokens, text =>
    let after := row tokens text
    match token with
    | .run => Token.runRow text after
    | .tree => Token.treeRow text after
    | _ => token.singleRow text after

def matchesChars (glob : Glob) (text : List Char) : Bool := (row glob.tokens text).headD false

/-- Whether a glob matches the directory `text` written with a slash after it; asked only of globs
that end in `**`. -/
def coversDir (glob : Glob) (text : List Char) : Bool :=
  glob.hasTreeTail && glob.matchesChars (text ++ ['/'])

end PatternLint.Glob

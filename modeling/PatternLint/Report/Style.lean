namespace PatternLint.Report

inductive Colour where
  | red
  | green
  | yellow
  | blue
  | cyan
deriving BEq, DecidableEq, Repr

def Colour.code : Colour → String
  | red => "31"
  | green => "32"
  | yellow => "33"
  | blue => "34"
  | cyan => "36"

def switch (code : String) : String := "\x1b[" ++ code ++ "m"

def bold (text : String) : String := switch "1" ++ text ++ switch "0"

def coloured (colour : Colour) (text : String) : String :=
  switch colour.code ++ text ++ switch "39"

inductive Notice where
  | error
  | warning
  | note
  | info
deriving BEq, DecidableEq, Repr

def Notice.word : Notice → String
  | error => "error:"
  | warning => "warning:"
  | note => "note:"
  | info => "info:"

def Notice.colour : Notice → Colour
  | error => .red
  | warning => .yellow
  | note => .cyan
  | info => .blue

def Notice.mark (colours : Bool) (notice : Notice) : String :=
  if colours then bold (coloured notice.colour notice.word) else notice.word

def Notice.line (colours : Bool) (notice : Notice) (text : String) : String :=
  notice.mark colours ++ " " ++ text ++ "\n"

end PatternLint.Report

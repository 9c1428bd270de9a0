namespace PatternLint.Toml

/-- How a table came to be: on the way to another one by a header or by a dotted key, under a header
of its own, or in braces. -/
inductive Origin where
  | header
  | dotted
  | explicit
  | braces
deriving BEq, DecidableEq, Repr

/-- Numbers with a fraction, dates and times are told from all else but not kept. A list of tables
made by headers holds the last one apart, because later statements go there. -/
inductive Value where
  | text (value : String)
  | integer (value : Int)
  | flag (value : Bool)
  | other
  | list (items : List Value)
  | table (origin : Origin) (members : List (String × Value))
  | tables (earlier : List (List (String × Value))) (last : List (String × Value))

abbrev Members := List (String × Value)

/-- A header, a header of one of many tables, or an assignment. Keys lead down from the top or from
the last header, and their last one names what is defined. -/
inductive Statement where
  | table (path : List String) (key : String)
  | element (path : List String) (key : String)
  | assignment (path : List String) (key : String) (value : Value)

end PatternLint.Toml

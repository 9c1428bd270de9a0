import PatternLint.Toml.Value

namespace PatternLint.Toml

def Members.value? (members : Members) (key : String) : Option Value :=
  (List.find? (fun member => member.1 = key) members).map Prod.snd

def Members.replace (members : Members) (key : String) (value : Value) : Members :=
  members.map fun member => if member.1 = key then (key, value) else member

/-- Follows keys down and changes the members found there. Missing tables are made on the way; a
dotted key does not lead into tables that have a header. -/
def within (dotted : Bool) (act : Origin → Members → Option Members) :
    List String → Origin → Members → Option Members
  | [], origin, members => act origin members
  | key :: rest, _, members =>
    match members.value? key with
    | none =>
      let origin := if dotted then Origin.dotted else Origin.header
      (within dotted act rest origin []).map fun inner => members ++ [(key, .table origin inner)]
    | some (.table origin inner) =>
      if origin = .braces ∨ (dotted ∧ origin = .explicit) then none
      else
        (within dotted act rest origin inner).map fun inner =>
          members.replace key (.table origin inner)
    | some (.tables earlier last) =>
      (within dotted act rest .explicit last).map fun last =>
        members.replace key (.tables earlier last)
    | some _ => none

/-- A header opens a new table, or one that was only passed through by other headers. -/
def openTable (key : String) (_ : Origin) (members : Members) : Option Members :=
  match members.value? key with
  | none => some (members ++ [(key, .table .explicit [])])
  | some (.table .header inner) => some (members.replace key (.table .explicit inner))
  | some _ => none

def openElement (key : String) (_ : Origin) (members : Members) : Option Members :=
  match members.value? key with
  | none => some (members ++ [(key, .tables [] [])])
  | some (.tables earlier last) => some (members.replace key (.tables (earlier ++ [last]) []))
  | some _ => none

/-- A dotted key defines something only in a table that dotted keys have made. -/
def assign (dotted : Bool) (key : String) (value : Value) (origin : Origin) (members : Members) :
    Option Members :=
  if dotted ∧ origin ≠ .dotted then none
  else if (members.value? key).isSome then none
  else some (members ++ [(key, value)])

def put (path : List String) (key : String) (value : Value) (origin : Origin) (members : Members) :
    Option Members :=
  within true (assign (!path.isEmpty) key value) path origin members

def build : (place : List String) → Members → List Statement → Option Members
  | _, members, [] => some members
  | _, members, .table path key :: rest => do
    build (path ++ [key]) (← within false (openTable key) path .explicit members) rest
  | _, members, .element path key :: rest => do
    build (path ++ [key]) (← within false (openElement key) path .explicit members) rest
  | place, members, .assignment path key value :: rest => do
    build place (← within false (put path key value) place .explicit members) rest

def ofStatements? (statements : List Statement) : Option Members := build [] [] statements

end PatternLint.Toml

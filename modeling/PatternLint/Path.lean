import PatternLint.Text.Piece
import PatternLint.Text.Raw

/-!
Paths: their components, joining, and what lies above them. Repeated and trailing slashes and dots
inside a path do not count; a dot at the beginning does.
-/

namespace PatternLint.Path

def slash : UInt8 := 47

def dot : UInt8 := 46

inductive Component where
  | root
  | here
  | up
  | name (bytes : RawText)
deriving BEq, DecidableEq, Repr

def component? (piece : RawText) : Option Component :=
  if piece = [] ∨ piece = [dot] then none
  else if piece = [dot, dot] then some .up
  else some (.name piece)

def firstComponent (piece : RawText) : Component :=
  if piece = [] then .root
  else if piece = [dot] then .here
  else if piece = [dot, dot] then .up
  else .name piece

def components (path : RawText) : List Component :=
  match Text.pieces slash path with
  | [] => []
  | first :: rest =>
    if path = [] then [] else firstComponent first :: rest.filterMap component?

def Component.bytes : Component → RawText
  | .root => [slash]
  | .here => [dot]
  | .up => [dot, dot]
  | .name bytes => bytes

def Component.text (component : Component) : List Char := Text.lossy component.bytes

/-- The components as texts with single slashes between them; a root is a component of its own. -/
def normalize (path : RawText) : List Char :=
  ['/'].intercalate ((components path).map Component.text)

/-- A path as it is told from a root: without the components of the root, if it begins with them,
and whole otherwise. -/
def relative (root path : RawText) : List Char :=
  if components root <+: components path then
    ['/'].intercalate (((components path).drop (components root).length).map Component.text)
  else normalize path

def isAbsolute (text : RawText) : Bool := text.head? = some slash

/-- An absolute path replaces what it is joined to. -/
def join (base path : RawText) : RawText :=
  if isAbsolute path || base.isEmpty then path
  else if base.getLast? = some slash then base ++ path
  else base ++ slash :: path

/-- The beginning of a path that is never cut off: its root, or a dot it begins with. -/
def headLength (path : RawText) : Nat :=
  if isAbsolute path ∨ path = [dot] ∨ [dot, slash] <+: path then 1 else 0

def cutPiece (body : RawText) : RawText × RawText :=
  (body.takeWhile (· ≠ slash), (body.dropWhile (· ≠ slash)).drop 1)

def trimEnd : (fuel : Nat) → RawText → RawText
  | 0, body => body
  | _, [] => []
  | fuel + 1, body =>
    match cutPiece body with
    | (piece, rest) => if (component? piece.reverse).isNone then trimEnd fuel rest else body

/-- The path without its last component; nothing lies above the root or the empty path. -/
def parent? (text : RawText) : Option (RawText) :=
  let head := text.take (headLength text)
  let body := (text.drop (headLength text)).reverse
  match trimEnd body.length body with
  | [] => if head = [dot] then some [] else none
  | trimmed =>
    let rest := (cutPiece trimmed).2
    some (head ++ (trimEnd rest.length rest).reverse)

theorem trimEnd_length_le (fuel : Nat) (body : RawText) :
    (trimEnd fuel body).length ≤ body.length := by
  fun_induction trimEnd fuel body with
  | case1 => exact Nat.le_refl _
  | case2 => exact Nat.le_refl _
  | case3 fuel body _ piece rest cut _ ih =>
    have shorter : rest.length ≤ body.length := by
      have same : rest = (cutPiece body).2 := by rw [cut]
      rw [same]
      simp only [cutPiece, List.length_drop]
      have := (List.dropWhile_sublist (· ≠ slash) : (body.dropWhile (· ≠ slash)).Sublist body)
      have := this.length_le
      omega
    exact Nat.le_trans ih shorter
  | case4 => exact Nat.le_refl _

theorem cutPiece_length_lt (body : RawText) (given : body ≠ []) :
    (cutPiece body).2.length < body.length := by
  have parts : body.takeWhile (· ≠ slash) ++ body.dropWhile (· ≠ slash) = body :=
    List.takeWhile_append_dropWhile
  have lengths := congrArg List.length parts
  rw [List.length_append] at lengths
  have positive := List.length_pos_iff.mpr given
  simp only [cutPiece, List.length_drop]
  omega

theorem parent?_length_lt (text above : RawText) (found : parent? text = some above) :
    above.length < text.length := by
  unfold parent? at found
  have parts := congrArg List.length (List.take_append_drop (headLength text) text)
  rw [List.length_append] at parts
  have within := trimEnd_length_le (text.drop (headLength text)).reverse.length
    (text.drop (headLength text)).reverse
  rw [List.length_reverse] at within
  simp only at found
  split at found
  · split at found
    · rename_i same
      injection found with found
      rw [same] at parts
      simp only [← found, List.length_nil, List.length_cons] at parts ⊢
      omega
    · simp at found
  · rename_i trimmed given
    injection found with found
    have cut := cutPiece_length_lt _ given
    have rest := trimEnd_length_le (cutPiece (trimEnd (text.drop (headLength text)).reverse.length
      (text.drop (headLength text)).reverse)).2.length (cutPiece (trimEnd
      (text.drop (headLength text)).reverse.length (text.drop (headLength text)).reverse)).2
    simp only [← found, List.length_append, List.length_reverse] at *
    omega

def chain (path : RawText) : List RawText :=
  path ::
    match _above : parent? path with
    | some parent => chain parent
    | none => []
  termination_by path.length
  decreasing_by exact parent?_length_lt _ _ _above

/-- What stands behind the last dot of the last name; a dot at the beginning of the name does not
count. -/
def extension? (text : RawText) : Option (RawText) :=
  match (components text).getLast? with
  | some (.name name) =>
    let backward := name.reverse
    match backward.dropWhile (· ≠ dot) with
    | _ :: _ :: _ => some (backward.takeWhile (· ≠ dot)).reverse
    | _ => none
  | _ => none

end PatternLint.Path

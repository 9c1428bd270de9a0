namespace PatternLint

abbrev RawText := List UInt8

namespace Text

def encode (chars : List Char) : RawText := chars.flatMap String.utf8EncodeChar

def raw (text : String) : RawText := encode text.toList

def readChar? (bytes : RawText) : Option (Char × RawText) :=
  (bytes.toByteArray.utf8DecodeChar? 0).map fun char => (char, bytes.drop char.utf8Size)

def followers (first : UInt8) : List (UInt8 × UInt8) :=
  if first < 0xc2 then []
  else if first < 0xe0 then [(0x80, 0xbf)]
  else if first = 0xe0 then [(0xa0, 0xbf), (0x80, 0xbf)]
  else if first = 0xed then [(0x80, 0x9f), (0x80, 0xbf)]
  else if first < 0xf0 then [(0x80, 0xbf), (0x80, 0xbf)]
  else if first = 0xf0 then [(0x90, 0xbf), (0x80, 0xbf), (0x80, 0xbf)]
  else if first < 0xf4 then [(0x80, 0xbf), (0x80, 0xbf), (0x80, 0xbf)]
  else if first = 0xf4 then [(0x80, 0x8f), (0x80, 0xbf), (0x80, 0xbf)]
  else []

def dropFollowers : List (UInt8 × UInt8) → RawText → RawText
  | (low, high) :: ranges, byte :: rest =>
    if low ≤ byte ∧ byte ≤ high then dropFollowers ranges rest else byte :: rest
  | _, rest => rest

theorem dropFollowers_length_le (ranges : List (UInt8 × UInt8)) (bytes : RawText) :
    (dropFollowers ranges bytes).length ≤ bytes.length := by
  fun_induction dropFollowers ranges bytes with
  | case1 low high ranges byte rest _ ih => exact Nat.le_succ_of_le ih
  | case2 => exact Nat.le_refl _
  | case3 => exact Nat.le_refl _

theorem readChar?_length_lt (bytes : RawText) (char : Char) (rest : RawText)
    (read : readChar? bytes = some (char, rest)) : rest.length < bytes.length := by
  obtain ⟨_, decoded, same⟩ := Option.map_eq_some_iff.mp read
  cases same
  have within := ByteArray.le_size_of_utf8DecodeChar?_eq_some decoded
  have positive := char.utf8Size_pos
  rw [List.size_toByteArray] at within
  rw [List.length_drop]
  omega

/-- The text that is shown for bytes: what cannot go on as a character becomes a mark. -/
def lossy : RawText → List Char
  | [] => []
  | first :: rest =>
    match _read : readChar? (first :: rest) with
    | some (char, after) => char :: lossy after
    | none => '\ufffd' :: lossy (dropFollowers (followers first) rest)
  termination_by bytes => bytes.length
  decreasing_by
    · exact readChar?_length_lt _ _ _ _read
    · exact Nat.lt_succ_of_le (dropFollowers_length_le _ _)

def display (bytes : RawText) : String := String.ofList (lossy bytes)

end Text

end PatternLint

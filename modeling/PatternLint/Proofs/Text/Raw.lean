import Mathlib.Data.String.Basic
import PatternLint.Text.Raw

namespace PatternLint.Text

theorem readChar?_eq_some_iff (bytes : RawText) (char : Char) (rest : RawText) :
    readChar? bytes = some (char, rest) ↔ bytes = String.utf8EncodeChar char ++ rest := by
  rw [readChar?, Option.map_eq_some_iff]
  constructor
  · rintro ⟨_, decoded, same⟩
    cases same
    have whole := ByteArray.eq_of_utf8DecodeChar?_eq_some decoded
    have parts := congrArg (fun all => all.data.toList) whole
    simp only [List.data_toByteArray, ByteArray.data_append, ByteArray.data_extract,
      Array.toList_append, List.extract_toArray, List.extract_eq_take_drop,
      List.size_toByteArray] at parts
    rwa [List.take_of_length_le (by rw [List.length_drop])] at parts
  · rintro rfl
    refine ⟨char, ?_, ?_⟩
    · rw [List.toByteArray_append]
      exact ByteArray.utf8DecodeChar?_utf8EncodeChar_append
    · rw [← String.length_utf8EncodeChar, List.drop_left]

theorem lossy_encodeChar_append (char : Char) (rest : RawText) :
    lossy (String.utf8EncodeChar char ++ rest) = char :: lossy rest := by
  have read := (readChar?_eq_some_iff _ char rest).mpr rfl
  cases bytes : String.utf8EncodeChar char ++ rest with
  | nil => exact absurd (List.append_eq_nil_iff.mp bytes).1 String.utf8EncodeChar_ne_nil
  | cons first others =>
    rw [bytes] at read
    rw [lossy]
    split
    · rename_i found
      rw [read] at found
      cases found
      rfl
    · rename_i none
      rw [read] at none
      cases none

theorem encode_append (first second : List Char) :
    encode (first ++ second) = encode first ++ encode second :=
  List.flatMap_append

theorem encode_cons (char : Char) (rest : List Char) :
    encode (char :: rest) = String.utf8EncodeChar char ++ encode rest :=
  List.flatMap_cons

@[simp]
theorem lossy_encode (chars : List Char) : lossy (encode chars) = chars := by
  induction chars with
  | nil => rw [encode, List.flatMap_nil, lossy]
  | cons char rest ih => rw [encode_cons, lossy_encodeChar_append, ih]

theorem encode_injective : Function.Injective encode :=
  Function.LeftInverse.injective lossy_encode

@[simp]
theorem display_raw (text : String) : display (raw text) = text := by
  rw [display, raw, lossy_encode, String.ofList_toList]

/-- From the left, bytes are a character and what follows, or begin with one that is part of no
character. -/
theorem lossy_induction {holds : RawText → Prop} (nothing : holds [])
    (char : ∀ char rest, holds rest → holds (String.utf8EncodeChar char ++ rest))
    (stray : ∀ first rest, readChar? (first :: rest) = none →
      holds (dropFollowers (followers first) rest) → holds (first :: rest))
    (bytes : RawText) : holds bytes := by
  match bytes with
  | [] => exact nothing
  | first :: rest =>
    cases read : readChar? (first :: rest) with
    | none => exact stray first rest read (lossy_induction nothing char stray _)
    | some found =>
      have shorter := readChar?_length_lt _ _ _ read
      rw [(readChar?_eq_some_iff _ _ _).mp read]
      exact char found.1 found.2 (lossy_induction nothing char stray _)
  termination_by bytes.length
  decreasing_by
    · exact Nat.lt_succ_of_le (dropFollowers_length_le _ _)
    · exact shorter

theorem lossy_stray (first : UInt8) (rest : RawText) (none : readChar? (first :: rest) = none) :
    lossy (first :: rest) = '\ufffd' :: lossy (dropFollowers (followers first) rest) := by
  rw [lossy]
  split
  · rename_i found
    rw [none] at found
    cases found
  · rfl

theorem dropFollowers_suffix (ranges : List (UInt8 × UInt8)) (bytes : RawText) :
    dropFollowers ranges bytes <:+ bytes := by
  fun_induction dropFollowers ranges bytes with
  | case1 low high ranges byte rest _ ih => exact ih.trans (List.suffix_cons byte rest)
  | case2 => exact List.suffix_refl _
  | case3 => exact List.suffix_refl _

/-- A character that is shown is the mark, or its bytes are there. -/
theorem mem_lossy (bytes : RawText) (char : Char) (shown : char ∈ lossy bytes) :
    char = '\ufffd' ∨ String.utf8EncodeChar char <:+: bytes := by
  induction bytes using lossy_induction with
  | nothing =>
    rw [lossy] at shown
    cases shown
  | char first rest ih =>
    rw [lossy_encodeChar_append] at shown
    rcases List.mem_cons.mp shown with rfl | later
    · exact .inr (List.prefix_append _ _).isInfix
    · exact (ih later).imp_right fun inside => inside.trans (List.suffix_append _ _).isInfix
  | stray first rest none ih =>
    rw [lossy_stray first rest none] at shown
    rcases List.mem_cons.mp shown with mark | later
    · exact .inl mark
    · refine (ih later).imp_right fun inside => inside.trans ?_
      exact ((dropFollowers_suffix _ _).trans (List.suffix_cons first rest)).isInfix

theorem eq_encode_of_lossy (bytes : RawText) (clean : '\ufffd' ∉ lossy bytes) :
    bytes = encode (lossy bytes) := by
  induction bytes using lossy_induction with
  | nothing =>
    rw [lossy]
    rfl
  | char first rest ih =>
    rw [lossy_encodeChar_append] at clean ⊢
    rw [encode_cons, ← ih (fun mark => clean (List.mem_cons_of_mem first mark))]
  | stray first rest none =>
    rw [lossy_stray first rest none] at clean
    exact absurd List.mem_cons_self clean

theorem lossy_eq_iff_of_clean (bytes : RawText) (chars : List Char) (clean : '\ufffd' ∉ chars) :
    lossy bytes = chars ↔ bytes = encode chars := by
  constructor
  · rintro rfl
    exact eq_encode_of_lossy bytes clean
  · rintro rfl
    exact lossy_encode chars

/-- Bytes below 128 stand for themselves and are part of no other character. -/
theorem ascii_mem_encodeChar_iff (byte : UInt8) (ascii : byte.toNat < 128) (char : Char) :
    byte ∈ String.utf8EncodeChar char ↔ char.val.toNat = byte.toNat := by
  -- All bytes of a character that takes more than one are 128 or more.
  have high : ∀ number, 128 ≤ number % 256 → byte ≠ UInt8.ofNat number := by
    rintro number large rfl
    rw [UInt8.toNat_ofNat'] at ascii
    omega
  simp only [String.utf8EncodeChar]
  split
  · rw [List.mem_singleton, ← UInt8.toNat_inj, UInt8.toNat_ofNat']
    omega
  · refine iff_of_false ?_ (by omega)
    split
    · simp only [List.mem_cons, List.not_mem_nil, or_false, not_or]
      exact ⟨high _ (by omega), high _ (by omega)⟩
    · split
      · simp only [List.mem_cons, List.not_mem_nil, or_false, not_or]
        exact ⟨high _ (by omega), high _ (by omega), high _ (by omega)⟩
      · simp only [List.mem_cons, List.not_mem_nil, or_false, not_or]
        exact ⟨high _ (by omega), high _ (by omega), high _ (by omega), high _ (by omega)⟩

theorem mem_encode_iff_of_ascii (byte : UInt8) (char : Char) (same : char.val.toNat = byte.toNat)
    (ascii : byte.toNat < 128) (chars : List Char) : byte ∈ encode chars ↔ char ∈ chars := by
  rw [encode, List.mem_flatMap]
  constructor
  · rintro ⟨other, member, inside⟩
    have value := (ascii_mem_encodeChar_iff byte ascii other).mp inside
    have equal : other = char := Char.ext (UInt32.toNat_inj.mp (value.trans same.symm))
    exact equal ▸ member
  · intro member
    exact ⟨char, member, (ascii_mem_encodeChar_iff byte ascii char).mpr same⟩

theorem mem_of_mem_lossy_ascii (byte : UInt8) (char : Char) (same : char.val.toNat = byte.toNat)
    (ascii : byte.toNat < 128) (bytes : RawText) (shown : char ∈ lossy bytes) : byte ∈ bytes := by
  rcases mem_lossy bytes char shown with rfl | inside
  · have large : '\ufffd'.val.toNat = 65533 := rfl
    omega
  · exact inside.subset ((ascii_mem_encodeChar_iff byte ascii char).mpr same)

theorem lossy_eq_nil_iff (bytes : RawText) : lossy bytes = [] ↔ bytes = [] :=
  lossy_eq_iff_of_clean bytes [] (by decide)

end PatternLint.Text

import PatternLint.Proofs.Path.Components

/-!
The way up from a path. A parent has all components but the last, whatever slashes and dots stand
between them in the text, so the way ends after as many steps as there are components below the
root.
-/

namespace PatternLint.Path

def innerComponents (text : RawText) : List Component :=
  (Text.pieces slash text).filterMap component?

theorem innerComponents_append (before after : RawText) :
    innerComponents (before ++ slash :: after) =
      innerComponents before ++ innerComponents after := by
  rw [innerComponents, Text.pieces_append_mark, List.filterMap_append]
  rfl

theorem innerComponents_slash (text : RawText) :
    innerComponents (slash :: text) = innerComponents text :=
  innerComponents_append [] text

theorem innerComponents_piece (piece : RawText) (bare : slash ∉ piece) :
    innerComponents piece = (component? piece).toList := by
  rw [innerComponents, Text.pieces_of_notMem slash piece bare, List.filterMap_cons]
  cases component? piece with
  | none => rfl
  | some component => rfl

theorem component?_ne_root (piece : RawText) : component? piece ≠ some .root := by
  unfold component?
  split
  · exact nofun
  split <;> exact nofun

theorem bare_cutPiece (body : RawText) : slash ∉ (cutPiece body).1 := by
  intro inside
  simpa using List.mem_takeWhile_imp inside

theorem cutPiece_cases (body : RawText) :
    body = (cutPiece body).1 ∧ (cutPiece body).2 = [] ∨
      body = (cutPiece body).1 ++ slash :: (cutPiece body).2 := by
  have parts : (cutPiece body).1 ++ body.dropWhile (· ≠ slash) = body :=
    List.takeWhile_append_dropWhile
  have rest : (cutPiece body).2 = (body.dropWhile (· ≠ slash)).drop 1 := rfl
  have stops := List.head?_dropWhile_not (· ≠ slash) body
  cases left : body.dropWhile (· ≠ slash) with
  | nil =>
    rw [left] at parts rest
    exact .inl ⟨parts.symm.trans (List.append_nil _), rest⟩
  | cons char after =>
    rw [left] at parts rest stops
    obtain rfl : char = slash := by simpa using stops
    exact .inr (by rw [rest]; exact parts.symm)

theorem innerComponents_cutPiece (body : RawText) :
    innerComponents body.reverse = innerComponents (cutPiece body).2.reverse ++
      (component? (cutPiece body).1.reverse).toList := by
  have bare := bare_cutPiece body
  rw [← List.mem_reverse] at bare
  rw [← innerComponents_piece _ bare]
  rcases cutPiece_cases body with ⟨whole, nothing⟩ | parts
  · rw [nothing, ← whole]
    rfl
  · rw [← innerComponents_append]
    congr 1
    conv_lhs => rw [parts]
    simp

theorem innerComponents_trimEnd (fuel : Nat) (body : RawText) :
    innerComponents (trimEnd fuel body).reverse = innerComponents body.reverse := by
  fun_induction trimEnd fuel body with
  | case1 => rfl
  | case2 => rfl
  | case3 fuel body _ piece rest cut none ih =>
    have empty : component? (cutPiece body).1.reverse = .none := by
      rw [cut]
      exact Option.isNone_iff_eq_none.mp none
    rw [ih, innerComponents_cutPiece body, empty, cut]
    exact (List.append_nil _).symm
  | case4 => rfl

/-- With fuel enough, what is left is nothing or ends in a component. -/
theorem trimEnd_cases (fuel : Nat) (body : RawText) (enough : body.length ≤ fuel) :
    trimEnd fuel body = [] ∨
      ∃ last, component? (cutPiece (trimEnd fuel body)).1.reverse = some last := by
  fun_induction trimEnd fuel body with
  | case1 body => exact .inl (List.eq_nil_of_length_eq_zero (Nat.le_zero.mp enough))
  | case2 => exact .inl rfl
  | case3 fuel body given piece rest cut _ ih =>
    have shorter := cutPiece_length_lt body given
    simp only [cut] at shorter
    exact ih (by omega)
  | case4 fuel body _ piece rest cut some =>
    rw [cut]
    exact .inr (Option.ne_none_iff_exists'.mp fun none => some (by rw [none]; rfl))

def Begins (text part : RawText) : Prop :=
  part = [] ∨ part = text ∨ ∃ rest, text = part ++ slash :: rest

theorem Begins.trans {text middle part : RawText} (first : Begins text middle)
    (second : Begins middle part) : Begins text part := by
  rcases second with rfl | rfl | ⟨rest, rfl⟩
  · exact .inl rfl
  · exact first
  · rcases first with empty | rfl | ⟨more, rfl⟩
    · simp at empty
    · exact .inr (.inr ⟨rest, rfl⟩)
    · exact .inr (.inr ⟨rest ++ slash :: more, by simp⟩)

theorem begins_cutPiece (body : RawText) : Begins body.reverse (cutPiece body).2.reverse := by
  rcases cutPiece_cases body with ⟨_, nothing⟩ | parts
  · rw [nothing]
    exact .inl rfl
  · refine .inr (.inr ⟨(cutPiece body).1.reverse, ?_⟩)
    conv_lhs => rw [parts]
    simp

theorem begins_trimEnd (fuel : Nat) (body : RawText) :
    Begins body.reverse (trimEnd fuel body).reverse := by
  fun_induction trimEnd fuel body with
  | case1 => exact .inr (.inl rfl)
  | case2 => exact .inl rfl
  | case3 fuel body _ piece rest cut _ ih =>
    have first := begins_cutPiece body
    rw [cut] at first
    exact first.trans ih
  | case4 => exact .inr (.inl rfl)

/-- The component that is never cut off. -/
def leading (text : RawText) : List Component :=
  if isAbsolute text then [.root]
  else if text = [dot] ∨ [dot, slash] <+: text then [.here]
  else []

/-- A path begins with a slash, or is a dot, or begins with a dot and a slash, or has nothing that
is never cut off. -/
theorem leading_cases (text : RawText) :
    (∃ rest, text = slash :: rest) ∨ text = [dot] ∨ (∃ rest, text = dot :: slash :: rest) ∨
      headLength text = 0 ∧ leading text = [] ∧ isAbsolute text = false ∧ text ≠ [dot] ∧
        ∀ rest, text ≠ dot :: slash :: rest := by
  by_cases absolute : isAbsolute text = true
  · have first : text.head? = some slash := by simpa [isAbsolute] using absolute
    exact .inl (List.head?_eq_some_iff.mp first)
  by_cases alone : text = [dot]
  · exact .inr (.inl alone)
  by_cases dotted : [dot, slash] <+: text
  · obtain ⟨rest, whole⟩ := dotted
    exact .inr (.inr (.inl ⟨rest, whole.symm⟩))
  · refine .inr (.inr (.inr ⟨?_, ?_, by simpa using absolute, alone, ?_⟩))
    · rw [headLength, if_neg (by simp [absolute, alone, dotted])]
    · rw [leading, if_neg absolute, if_neg (by simp [alone, dotted])]
    · rintro rest rfl
      exact dotted ⟨rest, rfl⟩

theorem components_eq_innerComponents (text : RawText) (bare : isAbsolute text = false)
    (alone : text ≠ [dot]) (dotted : ∀ rest, text ≠ dot :: slash :: rest) :
    components text = innerComponents text := by
  by_cases given : text = []
  · subst given
    rfl
  · refine components_eq_filterMap text given bare fun here => ?_
    obtain ⟨head, rest, parts⟩ := List.exists_cons_of_ne_nil (Text.pieces_ne_nil slash text)
    rw [components_eq text head rest given parts, List.head?_cons, Option.some.injEq] at here
    have first : head = [dot] := by
      have same :=
        bytes_firstComponent head (head_ne_nil_of_relative text head rest given bare parts)
      rw [here] at same
      exact same.symm
    obtain ⟨_, ⟨whole, _⟩ | ⟨later, whole, _⟩⟩ := (Text.pieces_eq_cons_iff slash text _ _).mp parts
    · exact alone (whole.trans first)
    · exact dotted later (by rw [whole, first]; rfl)

theorem components_of_begins (text part : RawText)
    (begins : Begins (text.drop (headLength text)) part) :
    components (text.take (headLength text) ++ part) = leading text ++ innerComponents part := by
  rcases leading_cases text with
    ⟨rest, rfl⟩ | rfl | ⟨rest, rfl⟩ | ⟨length, none, bare, alone, dotted⟩
  · have parts := Text.pieces_append_mark slash [] part
    exact components_eq (slash :: part) [] _ (List.cons_ne_nil _ _) parts
  · have nothing : part = [] := by
      rcases begins with nothing | nothing | ⟨rest, whole⟩
      · exact nothing
      · exact nothing
      · simp [headLength] at whole
    rw [nothing]
    rfl
  · have shape : part = [] ∨ ∃ after, part = slash :: after := by
      rcases begins with nothing | whole | ⟨more, whole⟩
      · exact .inl nothing
      · exact .inr ⟨rest, whole⟩
      · cases part with
        | nil => exact .inl rfl
        | cons char after => exact .inr ⟨after, by rw [(List.cons.inj whole).1]⟩
    rcases shape with rfl | ⟨after, rfl⟩
    · rfl
    · have parts := Text.pieces_append_mark slash [dot] after
      rw [innerComponents_slash]
      exact components_eq (dot :: slash :: after) [dot] _ (List.cons_ne_nil _ _) parts
  · rw [length] at begins ⊢
    rw [none]
    have plain : isAbsolute part = false ∧ part ≠ [dot] ∧ ∀ rest, part ≠ dot :: slash :: rest := by
      rcases begins with rfl | rfl | ⟨rest, whole⟩
      · exact ⟨rfl, by decide, by simp⟩
      · exact ⟨bare, alone, dotted⟩
      · subst whole
        refine ⟨?_, ?_, ?_⟩
        · cases part with
          | nil => rfl
          | cons char after => exact bare
        · rintro rfl
          exact dotted rest rfl
        · rintro after rfl
          exact dotted _ rfl
    exact components_eq_innerComponents part plain.1 plain.2.1 plain.2.2

def trimmedBody (text : RawText) : RawText :=
  trimEnd (text.drop (headLength text)).reverse.length (text.drop (headLength text)).reverse

theorem begins_trimmedBody (text : RawText) :
    Begins (text.drop (headLength text)) (trimmedBody text).reverse := by
  have begins := begins_trimEnd (text.drop (headLength text)).reverse.length
    (text.drop (headLength text)).reverse
  rwa [List.reverse_reverse] at begins

theorem components_eq_trimmedBody (text : RawText) :
    components text = leading text ++ innerComponents (trimmedBody text).reverse := by
  have whole := components_of_begins text _ (.inr (.inl rfl))
  rwa [List.take_append_drop, ← List.reverse_reverse (text.drop (headLength text)),
    ← innerComponents_trimEnd] at whole

theorem parent?_of_nil (text : RawText) (nothing : trimmedBody text = []) :
    parent? text = if text.take (headLength text) = [dot] then some [] else none := by
  rw [trimmedBody] at nothing
  simp only [parent?, nothing]

theorem parent?_of_ne_nil (text : RawText) (given : trimmedBody text ≠ []) :
    parent? text = some (text.take (headLength text) ++
      (trimEnd (cutPiece (trimmedBody text)).2.length
        (cutPiece (trimmedBody text)).2).reverse) := by
  rw [trimmedBody] at given ⊢
  simp only [parent?]

/-- A parent has all components but the last, which is never the root. Where there is no parent
there is no component but the root. -/
theorem parent?_cases (text : RawText) :
    parent? text = none ∧ (components text = [] ∨ components text = [.root]) ∨
      ∃ above last, parent? text = some above ∧ last ≠ .root ∧
        components text = components above ++ [last] := by
  have whole := components_eq_trimmedBody text
  by_cases nothing : trimmedBody text = []
  · rw [parent?_of_nil text nothing]
    rw [nothing] at whole
    rcases leading_cases text with ⟨rest, rfl⟩ | rfl | ⟨rest, rfl⟩ | ⟨length, none, _⟩
    · exact .inl ⟨rfl, .inr whole⟩
    · exact .inr ⟨[], .here, rfl, by decide, whole⟩
    · exact .inr ⟨[], .here, rfl, by decide, whole⟩
    · rw [none] at whole
      rw [length]
      exact .inl ⟨rfl, .inl whole⟩
  · obtain ⟨last, made⟩ : ∃ last, component? (cutPiece (trimmedBody text)).1.reverse = some last :=
      (trimEnd_cases _ _ (Nat.le_refl _)).resolve_left nothing
    have begins := (begins_trimmedBody text).trans ((begins_cutPiece (trimmedBody text)).trans
      (begins_trimEnd (cutPiece (trimmedBody text)).2.length _))
    have named : last ≠ .root := by
      rintro rfl
      exact component?_ne_root _ made
    refine .inr ⟨_, last, parent?_of_ne_nil text nothing, named, ?_⟩
    rw [whole, innerComponents_cutPiece, components_of_begins text _ begins,
      innerComponents_trimEnd, List.append_assoc, made, Option.toList_some]

def depth (path : RawText) : Nat := ((components path).filter (· ≠ .root)).length

theorem depth_of_parent? {text above : RawText} (found : parent? text = some above) :
    depth text = depth above + 1 := by
  rcases parent?_cases text with ⟨none, _⟩ | ⟨other, last, same, named, parts⟩
  · rw [none] at found
    cases found
  · rw [same] at found
    cases found
    simp [depth, parts, named]

theorem depth_of_none {text : RawText} (none : parent? text = none) : depth text = 0 := by
  rcases parent?_cases text with ⟨_, empty | root⟩ | ⟨above, _, same, _⟩
  · rw [depth, empty]
    rfl
  · rw [depth, root]
    rfl
  · rw [none] at same
    cases same

def above? (start : RawText) : (steps : Nat) → Option (RawText)
  | 0 => some start
  | steps + 1 => (above? start steps).bind parent?

theorem above?_add (start : RawText) (steps more : Nat) :
    above? start (steps + more) = (above? start steps).bind fun path => above? path more := by
  induction more with
  | zero => exact (Option.bind_fun_some _).symm
  | succ more ih =>
    rw [← Nat.add_assoc, above?, ih, Option.bind_assoc]
    rfl

theorem above?_succ (start : RawText) (steps : Nat) :
    above? start (steps + 1) = (parent? start).bind fun path => above? path steps := by
  rw [Nat.add_comm, above?_add]
  rfl

/-- The way up ends after just as many steps as there are components below the root. -/
theorem above?_isSome_iff (start : RawText) (steps : Nat) :
    (above? start steps).isSome = true ↔ steps ≤ depth start := by
  induction steps generalizing start with
  | zero => exact iff_of_true rfl (Nat.zero_le _)
  | succ steps ih =>
    rw [above?_succ]
    cases found : parent? start with
    | none =>
      rw [depth_of_none found]
      exact iff_of_false Bool.false_ne_true (Nat.not_succ_le_zero steps)
    | some path =>
      rw [depth_of_parent? found, Option.bind_some, ih path]
      exact Nat.add_le_add_iff_right.symm

theorem chain_of_parent? {path above : RawText} (found : parent? path = some above) :
    chain path = path :: chain above := by
  rw [chain]
  split
  · rename_i other same
    rw [Option.some.inj (same.symm.trans found)]
  · rename_i none
    cases none.symm.trans found

theorem getElem?_chain (start : RawText) (steps : Nat) :
    (chain start)[steps]? = above? start steps := by
  induction steps generalizing start with
  | zero =>
    rw [chain]
    rfl
  | succ steps ih =>
    rw [chain, List.getElem?_cons_succ, above?_succ]
    split
    · rename_i path found
      rw [found, ih path]
      rfl
    · rename_i none
      rw [none]
      rfl

end PatternLint.Path

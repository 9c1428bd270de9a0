import Mathlib.Data.List.Infix
import PatternLint.Glob.Basic
import PatternLint.Proofs.Attempt

namespace PatternLint.Glob

/-- The tokens that a text stands for, `before` being the character in front of it. -/
inductive Written : Option Char → List Char → List Token → Prop where
  | nothing (before : Option Char) : Written before [] []
  | one (before : Option Char) (rest : List Char) (tokens : List Token) :
    Written (some '?') rest tokens → Written before ('?' :: rest) (.one :: tokens)
  | run (before : Option Char) (rest : List Char) (tokens : List Token) :
    rest.head? ≠ some '*' → Written (some '*') rest tokens →
      Written before ('*' :: rest) (.run :: tokens)
  | treeEnd (before : Option Char) :
    before.all (· = '/') = true → Written before ['*', '*'] [.tree]
  | tree (before : Option Char) (rest : List Char) (tokens : List Token) :
    before.all (· = '/') = true → Written (some '/') rest tokens →
      Written before ('*' :: '*' :: '/' :: rest) (.tree :: tokens)
  | bracket (before : Option Char) (body rest : List Char) (negated : Bool)
    (ranges : List CharRange) (tokens : List Token) :
    bracket? (body ++ ']' :: rest) = some (.bracket negated ranges, rest) →
      Written (some ']') rest tokens →
        Written before ('[' :: (body ++ ']' :: rest)) (.bracket negated ranges :: tokens)
  | literal (before : Option Char) (char : Char) (rest : List Char) (tokens : List Token) :
    char ≠ '?' → char ≠ '*' → char ≠ '[' → Written (some char) rest tokens →
      Written before (char :: rest) (.literal char :: tokens)

theorem treeRest_eq_ok (place : Nat) (before : Option Char) (rest next : List Char)
    (read : treeRest place before rest = .ok next) :
    before.all (· = '/') = true ∧ (rest = [] ∧ next = [] ∨ rest = '/' :: next) := by
  unfold treeRest at read
  split at read
  · rename_i allowed
    refine ⟨allowed, ?_⟩
    split at read
    · exact .inl ⟨rfl, (Except.ok.inj read).symm⟩
    · exact .inr (by rw [Except.ok.inj read])
    · cases read
  · cases read

theorem bracketBody?_eq_some (text body after : List Char)
    (read : bracketBody? text = some (body, after)) :
    ∃ first inner, body = first :: inner ∧ ']' ∉ inner ∧ text = body ++ ']' :: after := by
  unfold bracketBody? at read
  split at read
  · cases read
  · rename_i first rest
    have parts : rest.takeWhile (· ≠ ']') ++ rest.dropWhile (· ≠ ']') = rest :=
      List.takeWhile_append_dropWhile
    split at read
    · cases read
    · rename_i closing later found
      have stops : closing = ']' := by
        have head := List.head?_dropWhile_not (fun char : Char => decide (char ≠ ']')) rest
        rw [found] at head
        simpa using head
      obtain ⟨rfl, rfl⟩ : first :: rest.takeWhile (· ≠ ']') = body ∧ later = after := by
        simpa using read
      have free : ']' ∉ rest.takeWhile (· ≠ ']') := by
        intro member
        simpa using List.all_eq_true.mp List.all_takeWhile _ member
      rw [found, stops] at parts
      exact ⟨first, _, rfl, free, by rw [List.cons_append, parts]⟩

theorem bracket?_eq_some (text after : List Char) (token : Token)
    (read : bracket? text = some (token, after)) :
    ∃ negated first inner, token = .bracket negated (ranges (first :: inner)) ∧ ']' ∉ inner ∧
      (negated = false → first ≠ '!') ∧
        text = ((if negated then ['!'] else []) ++ first :: inner) ++ ']' :: after := by
  unfold bracket? at read
  split at read
  · rename_i rest
    obtain ⟨⟨body, later⟩, found, same⟩ := Option.map_eq_some_iff.mp read
    obtain ⟨rfl, rfl⟩ := Prod.mk.inj same
    obtain ⟨first, inner, rfl, closed, parts⟩ := bracketBody?_eq_some rest body later found
    exact ⟨true, first, inner, rfl, closed, nofun, by rw [parts]; rfl⟩
  · rename_i plain
    obtain ⟨⟨body, later⟩, found, same⟩ := Option.map_eq_some_iff.mp read
    obtain ⟨rfl, rfl⟩ := Prod.mk.inj same
    obtain ⟨first, inner, rfl, closed, parts⟩ := bracketBody?_eq_some text body later found
    refine ⟨false, first, inner, rfl, closed, ?_, parts⟩
    rintro - rfl
    exact plain _ parts

theorem written_of_readTokens (fuel place : Nat) (before : Option Char) (text : List Char)
    (tokens : List Token) (enough : text.length ≤ fuel)
    (read : readTokens fuel place before text = .ok tokens) : Written before text tokens := by
  fun_induction readTokens fuel place before text generalizing tokens with
  | case1 fuel place before =>
    cases read
    exact .nothing before
  | case2 place before text more =>
    exact absurd (List.length_eq_zero_iff.mp (Nat.le_zero.mp enough)) more
  | case3 before fuel place rest ih =>
    obtain ⟨later, first, last⟩ := (bind_eq_ok_iff _ _ _).mp read
    cases last
    exact .one before rest later (ih later (Nat.le_of_succ_le_succ enough) first)
  | case4 => cases read
  | case5 fuel place before after few ih =>
    obtain ⟨next, cut, read⟩ := (bind_eq_ok_iff _ _ _).mp read
    obtain ⟨later, first, last⟩ := (bind_eq_ok_iff _ _ _).mp read
    cases last
    obtain ⟨allowed, ⟨rfl, rfl⟩ | rfl⟩ := treeRest_eq_ok place before after next cut
    · cases fuel with
      | zero => simp at enough
      | succ fuel =>
        cases first
        exact .treeEnd before allowed
    · have shorter : next.length ≤ fuel := by
        simp only [List.length_cons] at enough
        omega
      exact .tree before next later allowed (ih next later shorter first)
  | case6 fuel place before rest _ single ih =>
    obtain ⟨later, first, last⟩ := (bind_eq_ok_iff _ _ _).mp read
    cases last
    refine .run before rest later ?_ (ih later (Nat.le_of_succ_le_succ enough) first)
    intro star
    obtain ⟨after, parts⟩ := List.head?_eq_some_iff.mp star
    exact single after parts
  | case7 => cases read
  | case8 before fuel place rest token next found taken ih =>
    obtain ⟨later, reads, last⟩ := (bind_eq_ok_iff _ _ _).mp read
    cases last
    obtain ⟨negated, first, inner, rfl, _, _, rfl⟩ := bracket?_eq_some rest next token found
    have shorter : next.length ≤ fuel := by
      simp only [List.length_cons, List.length_append] at enough
      omega
    exact .bracket before _ next negated _ later found (ih later shorter reads)
  | case9 before fuel place char rest noOne noStar noBracket ih =>
    obtain ⟨later, first, last⟩ := (bind_eq_ok_iff _ _ _).mp read
    cases last
    exact .literal before char rest later noOne noStar noBracket
      (ih later (Nat.le_of_succ_le_succ enough) first)

theorem written_of_compile (text : String) (glob : Glob) (compiled : compile text = .ok glob) :
    glob.text = text ∧ Written none text.toList glob.tokens := by
  unfold compile at compiled
  split at compiled
  · rename_i tokens read
    cases compiled
    have enough : text.toList.length ≤ text.length := le_of_eq String.length_toList
    exact ⟨rfl, written_of_readTokens text.length 0 none _ tokens enough read⟩
  · cases compiled

theorem suffix_of_suffix_append (mark : Char) (ending before rest : List Char)
    (other : mark ∉ ending) (ends : ending <:+ before ++ mark :: rest) : ending <:+ rest := by
  rcases List.suffix_or_suffix_of_suffix ends (List.suffix_append before (mark :: rest)) with
    short | long
  · rcases List.suffix_cons_iff.mp short with whole | short
    · exact absurd (whole ▸ List.mem_cons_self) other
    · exact short
  · exact absurd (long.subset List.mem_cons_self) other

theorem getLast?_tail (token last : Token) (tokens : List Token) (other : token ≠ last)
    (ends : (token :: tokens).getLast? = some last) : tokens.getLast? = some last := by
  cases tokens with
  | nil => exact absurd (by simpa using ends) other
  | cons next tokens => simpa using ends

namespace Written

variable {before : Option Char} {text : List Char} {tokens : List Token}

theorem getLast?_of_stars (written : Written before text tokens) (stars : ['*', '*'] <:+ text) :
    tokens.getLast? = some .tree := by
  induction written with
  | nothing => simp at stars
  | one before rest tokens _ ih =>
    have later := suffix_of_suffix_append '?' ['*', '*'] [] rest (by decide) stars
    rw [List.getLast?_cons, ih later, Option.getD_some]
  | run before rest tokens single _ ih =>
    rcases List.suffix_cons_iff.mp stars with whole | later
    · obtain ⟨_, rfl⟩ := List.cons.inj whole
      exact absurd rfl single
    · rw [List.getLast?_cons, ih later, Option.getD_some]
  | treeEnd => rfl
  | tree before rest tokens _ _ ih =>
    have later := suffix_of_suffix_append '/' ['*', '*'] ['*', '*'] rest (by decide) stars
    rw [List.getLast?_cons, ih later, Option.getD_some]
  | bracket before body rest negated ranges tokens _ _ ih =>
    have later := suffix_of_suffix_append ']' ['*', '*'] ('[' :: body) rest (by decide) stars
    rw [List.getLast?_cons, ih later, Option.getD_some]
  | literal before char rest tokens _ noStar _ _ ih =>
    have later := suffix_of_suffix_append char ['*', '*'] [] rest (by simpa using noStar) stars
    rw [List.getLast?_cons, ih later, Option.getD_some]

/-- A glob that ends in a literal slash is written with a slash at its end, and with no two stars
before it. -/
theorem slash_of_getLast? (written : Written before text tokens)
    (last : tokens.getLast? = some (.literal '/')) :
    text.getLast? = some '/' ∧ ¬ ['*', '*', '/'] <:+ text := by
  induction written with
  | nothing => cases last
  | one before rest tokens _ ih =>
    obtain ⟨slash, noStars⟩ := ih (getLast?_tail _ _ tokens (by simp) last)
    refine ⟨by rw [List.getLast?_cons, slash, Option.getD_some], ?_⟩
    intro stars
    exact noStars (suffix_of_suffix_append '?' _ [] rest (by decide) stars)
  | run before rest tokens single _ ih =>
    obtain ⟨slash, noStars⟩ := ih (getLast?_tail _ _ tokens (by simp) last)
    refine ⟨by rw [List.getLast?_cons, slash, Option.getD_some], ?_⟩
    intro stars
    rcases List.suffix_cons_iff.mp stars with whole | later
    · obtain ⟨_, rfl⟩ := List.cons.inj whole
      exact absurd rfl single
    · exact noStars later
  | treeEnd => cases last
  | tree before rest tokens _ written ih =>
    obtain ⟨slash, noStars⟩ := ih (getLast?_tail _ _ tokens (by simp) last)
    refine ⟨by simp [List.getLast?_cons, slash], ?_⟩
    intro stars
    simp only [List.suffix_cons_iff] at stars
    rcases stars with whole | whole | whole | later
    · obtain rfl : rest = [] := by simpa using whole.symm
      cases slash
    · simp at whole
    · simp at whole
    · exact noStars later
  | bracket before body rest negated ranges tokens _ _ ih =>
    obtain ⟨slash, noStars⟩ := ih (getLast?_tail _ _ tokens (by simp) last)
    refine ⟨by simp [List.getLast?_cons, List.getLast?_append, slash], ?_⟩
    intro stars
    exact noStars (suffix_of_suffix_append ']' _ ('[' :: body) rest (by decide) stars)
  | literal before char rest tokens _ noStar _ written ih =>
    by_cases final : tokens = []
    · subst final
      obtain rfl : char = '/' := by simpa using last
      cases written
      exact ⟨rfl, by decide⟩
    · obtain ⟨slash, noStars⟩ := ih (by cases tokens <;> simp_all)
      refine ⟨by rw [List.getLast?_cons, slash, Option.getD_some], ?_⟩
      intro stars
      rcases List.suffix_cons_iff.mp stars with whole | later
      · exact noStar (List.cons.inj whole).1.symm
      · exact noStars later

end Written

end PatternLint.Glob

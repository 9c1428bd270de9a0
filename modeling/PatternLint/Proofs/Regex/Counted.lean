import PatternLint.Proofs.Attempt
import PatternLint.Proofs.Regex.Layout
import PatternLint.Regex.Basic

/-!
A compiled pattern asks for no more repetitions than it allows: bounds the wrong way round are
refused when the pattern is read, and nothing later turns bounds round.
-/

namespace PatternLint.Regex

namespace Ast

mutual

/-- No repetition asks for more than it allows. -/
def Counted : Ast → Prop
  | .repetition count _ body => (∀ bound ∈ count.most, count.least ≤ bound) ∧ body.Counted
  | .group _ _ body => body.Counted
  | .alternation branches => AllCounted branches
  | .concat parts => AllCounted parts
  | _ => True

def AllCounted : List Ast → Prop
  | [] => True
  | part :: parts => part.Counted ∧ AllCounted parts

end

theorem allCounted_iff (parts : List Ast) : AllCounted parts ↔ ∀ part ∈ parts, part.Counted := by
  induction parts with
  | nil => simp [AllCounted]
  | cons part parts ih => rw [AllCounted, ih, List.forall_mem_cons]

theorem counted_ofParts (parts : List Ast) (counted : ∀ part ∈ parts, part.Counted) :
    (ofParts parts).Counted := by
  unfold ofParts
  split
  · trivial
  · exact counted _ List.mem_cons_self
  · exact (allCounted_iff _).mpr counted

theorem counted_ofBranches (branches : List Ast) (counted : ∀ branch ∈ branches, branch.Counted) :
    (ofBranches branches).Counted := by
  unfold ofBranches
  split
  · exact counted _ List.mem_cons_self
  · exact (allCounted_iff _).mpr counted

end Ast

namespace Reader

variable {Value Result : Type}

def Yields (reader : Reader Value) (holds : Value → Prop) : Prop :=
  ∀ cursor value after, reader cursor = .ok (value, after) → holds value

namespace Yields

variable {holds : Value → Prop}

theorem any (reader : Reader Value) : reader.Yields fun _ => True := fun _ _ _ _ => trivial

theorem pure (value : Value) (holding : holds value) : Yields (Pure.pure value) holds := by
  intro cursor other after same
  cases same
  exact holding

theorem throw (fault : Fault) : Yields (MonadExcept.throw fault) holds := by
  intro cursor value after same
  cases same

theorem bind {first : Reader Value} {next : Value → Reader Result} {holding : Result → Prop}
    (before : first.Yields holds) (after : ∀ value, holds value → (next value).Yields holding) :
    Yields (first >>= next) holding := by
  intro cursor result last read
  obtain ⟨⟨value, middle⟩, reads, rest⟩ := (bind_eq_ok_iff (first cursor) _ _).mp read
  exact after value (before cursor value middle reads) middle result last rest

theorem ite {condition : Prop} [Decidable condition] {yes no : Reader Value}
    (first : condition → yes.Yields holds) (second : ¬ condition → no.Yields holds) :
    Yields (if condition then yes else no) holds := by
  split
  · rename_i given
    exact first given
  · rename_i given
    exact second given

/-- What follows a check is reached only if the check is passed. -/
theorem check {condition : Prop} [Decidable condition] {fault : Fault} {next : Unit → Reader Value}
    (after : ¬ condition → (next ()).Yields holds) :
    Yields (if condition then MonadExcept.throw fault >>= next else next ()) holds := by
  have never : Yields (MonadExcept.throw fault : Reader Unit) fun _ => False := throw fault
  exact ite (fun _ => bind never fun _ => False.elim) after

end Yields

theorem repeatable_yields (parts : List Ast) (counted : ∀ part ∈ parts, part.Counted) :
    (repeatable parts).Yields fun found =>
      found.1.Counted ∧ ∀ part ∈ found.2, part.Counted := by
  unfold repeatable
  split
  · exact .throw _
  · exact .throw _
  · exact .throw _
  · exact .pure _ (List.forall_mem_cons.mp counted)

theorem counted_repetition (count : Count) (greedy : Bool) (part : Ast) (before : List Ast)
    (bounded : ∀ bound ∈ count.most, count.least ≤ bound)
    (counted : part.Counted ∧ ∀ part ∈ before, part.Counted) :
    ∀ next ∈ Ast.repetition count greedy part :: before, next.Counted := by
  refine List.forall_mem_cons.mpr ⟨?_, counted.2⟩
  rw [Ast.Counted]
  exact ⟨bounded, counted.1⟩

theorem uncounted_yields (count : Count) (parts : List Ast)
    (bounded : ∀ bound ∈ count.most, count.least ≤ bound) (counted : ∀ part ∈ parts, part.Counted) :
    (uncounted count parts).Yields fun parts => ∀ part ∈ parts, part.Counted := by
  unfold uncounted
  refine .bind (repeatable_yields parts counted) fun (part, before) both => ?_
  refine .bind (.any _) fun more _ => .ite (fun _ => ?_) fun _ => ?_
  all_goals
    refine .bind (.any _) fun isLazy _ => .pure _ ?_
    exact counted_repetition count (!isLazy) part before bounded both

theorem counted_yields (parts : List Ast) (counted : ∀ part ∈ parts, part.Counted) :
    (Reader.counted parts).Yields fun parts => ∀ part ∈ parts, part.Counted := by
  unfold Reader.counted
  refine .bind (repeatable_yields parts counted) fun (part, before) both => ?_
  refine .bind (.any _) fun more _ => .check fun _ => ?_
  refine .bind (.any _) fun count _ => .bind (.any _) fun closed _ => .check fun _ => ?_
  refine .bind (.any _) fun also _ => .ite (fun _ => ?_) fun _ => ?_
  all_goals
    refine .bind (.any _) fun isLazy _ => .check fun ordered => .pure _ ?_
    refine counted_repetition count (!isLazy) part before ?_ both
    intro bound member
    simp only [Option.any_eq_true, decide_eq_true_eq, not_exists, not_and] at ordered
    exact Nat.le_of_not_lt (ordered bound member)

theorem counted_toAst (primitive : Primitive) : primitive.toAst.Counted := by
  cases primitive <;> trivial

theorem branches_yields (fuel : Nat) (inGroup : Bool) (parts done : List Ast)
    (counted : ∀ part ∈ parts, part.Counted) (also : ∀ branch ∈ done, branch.Counted) :
    (branches fuel inGroup parts done).Yields Ast.Counted := by
  induction fuel generalizing inGroup parts done with
  | zero => exact .throw _
  | succ fuel ih =>
    have current : (Ast.ofParts parts.reverse).Counted :=
      Ast.counted_ofParts _ (by simpa using counted)
    have closed : ∀ branch ∈ Ast.ofParts parts.reverse :: done, branch.Counted :=
      List.forall_mem_cons.mpr ⟨current, also⟩
    have finished : (Ast.ofBranches (Ast.ofParts parts.reverse :: done).reverse).Counted := by
      apply Ast.counted_ofBranches
      intro branch member
      exact closed branch (List.mem_reverse.mp member)
    have next (part : Ast) (holds : part.Counted) :
        (branches fuel inGroup (part :: parts) done).Yields Ast.Counted :=
      ih inGroup (part :: parts) done (List.forall_mem_cons.mpr ⟨holds, counted⟩) also
    have repeated {reader : Reader (List Ast)}
        (yields : reader.Yields fun parts => ∀ part ∈ parts, part.Counted) :
        Yields (reader >>= fun parts => branches fuel inGroup parts done) Ast.Counted :=
      .bind yields fun parts holds => ih inGroup parts done holds also
    rw [branches]
    refine .bind (.any _) fun _ _ => .bind (.any _) fun char _ => ?_
    -- the cases are those of the next character: none, `)`, `|`, `(`, `[`, the marks of
    -- repetition, and any other
    split
    · exact .ite (fun _ => .throw _) fun _ => .pure _ finished
    · exact .check fun _ => .pure _ finished
    · exact .bind (.any _) fun _ _ => ih inGroup [] _ (by simp) closed
    · refine .bind (.any _) fun cursor _ => .bind (.any _) fun opening _ => ?_
      split
      · split
        · exact .bind (.any _) fun _ _ => next (.flags _) trivial
        · exact next (.flags _) trivial
      · refine .bind (.any _) fun _ _ => ?_
        refine .bind (ih true [] [] (by simp) (by simp)) fun body holds => ?_
        exact .bind (.any _) fun _ _ => .bind (.any _) fun _ _ => next (.group _ _ body) holds
    · refine .bind (.any _) fun (negated, body) _ => next (.bracketed negated body) trivial
    · exact repeated (uncounted_yields _ parts (by simp) counted)
    · exact repeated (uncounted_yields _ parts (by simp) counted)
    · exact repeated (uncounted_yields _ parts (by simp) counted)
    · exact repeated (counted_yields parts counted)
    · exact .bind (.any _) fun primitive _ => next _ (counted_toAst primitive)

end Reader

theorem Ast.counted_of_ofPattern (pattern : String) (ast : Ast)
    (read : Ast.ofPattern pattern = .ok ast) : ast.Counted := by
  obtain ⟨⟨found, cursor⟩, reads, rest⟩ := (bind_eq_ok_iff _ _ _).mp read
  have counted : found.Counted :=
    Reader.branches_yields _ false [] [] (by simp) (by simp) _ found cursor reads
  dsimp only at rest
  split at rest
  · cases rest
  · cases rest
    exact counted

namespace Expr

theorem counted_sequence (parts : List Expr) (counted : ∀ part ∈ parts, part.Counted) :
    (sequence parts).Counted := by
  fun_induction sequence parts with
  | case1 => trivial
  | case2 part => exact counted part List.mem_cons_self
  | case3 part parts _ ih =>
    obtain ⟨here, others⟩ := List.forall_mem_cons.mp counted
    exact ⟨here, ih others⟩

theorem counted_choice (branches : List Expr) (counted : ∀ branch ∈ branches, branch.Counted) :
    (choice branches).Counted := by
  fun_induction choice branches with
  | case1 => trivial
  | case2 branch => exact counted branch List.mem_cons_self
  | case3 branch branches _ ih =>
    obtain ⟨here, others⟩ := List.forall_mem_cons.mp counted
    exact ⟨here, ih others⟩

/-- Where one time is as good as many, both bounds are cut at one. -/
theorem counted_repeated (least : Nat) (most : Option Nat) (greedy : Bool) (body : Expr)
    (bounded : ∀ bound ∈ most, least ≤ bound) (counted : body.Counted) :
    (repeated least most greedy body).Counted := by
  have cut : ∀ bound ∈ some ((most.map (min · 1)).getD 1), min least 1 ≤ bound := by
    intro bound member
    cases Option.mem_some_iff.mp member
    cases most with
    | none => exact Nat.min_le_right least 1
    | some most =>
      have ordered := bounded most rfl
      simp only [Option.map_some, Option.getD_some]
      omega
  unfold repeated
  split
  split
  · trivial
  split
  · exact counted
  -- a repetition stays, with the bounds that were chosen
  rename_i chosen _ _
  refine ⟨?_, counted⟩
  split at chosen
  · cases chosen
    exact cut
  · cases chosen
    exact bounded

theorem counted_literal (mode : Mode) (written : Literal) (expr : Expr)
    (read : mode.literal written = .ok expr) : expr.Counted := by
  obtain ⟨char, _, rest⟩ := (bind_eq_ok_iff _ _ _).mp read
  split at rest
  · cases rest
    trivial
  · cases rest
    trivial

theorem counted_dot (mode : Mode) (expr : Expr) (read : mode.dot = .ok expr) : expr.Counted := by
  unfold Mode.dot at read
  split at read
  · cases read
  split at read
  · cases read
    trivial
  split at read
  · cases read
    trivial
  · cases read
    trivial

mutual

theorem counted_ofAst (mode : Mode) (ast : Ast) (counted : ast.Counted) (expr : Expr) (after : Mode)
    (read : ofAst mode ast = .ok (expr, after)) : expr.Counted := by
  match ast with
  | .empty | .flags _ | .assertion _ =>
    cases read
    trivial
  | .literal written =>
    rw [ofAst] at read
    obtain ⟨found, reads, same⟩ := (bind_eq_ok_iff _ _ _).mp read
    cases same
    exact counted_literal mode written expr reads
  | .dot =>
    rw [ofAst] at read
    obtain ⟨found, reads, same⟩ := (bind_eq_ok_iff _ _ _).mp read
    cases same
    exact counted_dot mode expr reads
  | .property _ _ | .perl _ _ =>
    rw [ofAst] at read
    obtain ⟨_, _, same⟩ := (bind_eq_ok_iff _ _ _).mp read
    cases same
    trivial
  | .bracketed _ _ =>
    rw [ofAst] at read
    obtain ⟨_, _, rest⟩ := (bind_eq_ok_iff _ _ _).mp read
    obtain ⟨_, _, same⟩ := (bind_eq_ok_iff _ _ _).mp rest
    cases same
    trivial
  | .repetition count greedy body =>
    rw [ofAst] at read
    rw [Ast.Counted] at counted
    obtain ⟨⟨inner, mode⟩, reads, same⟩ := (bind_eq_ok_iff _ _ _).mp read
    cases same
    exact counted_repeated _ _ _ inner counted.1 (counted_ofAst _ body counted.2 inner _ reads)
  | .group settings captures body =>
    rw [ofAst] at read
    rw [Ast.Counted] at counted
    obtain ⟨⟨inner, mode⟩, reads, same⟩ := (bind_eq_ok_iff _ _ _).mp read
    have inside := counted_ofAst _ body counted inner _ reads
    cases same
    cases captures
    · exact inside
    · exact inside
  | .alternation branches =>
    rw [ofAst] at read
    rw [Ast.Counted] at counted
    obtain ⟨⟨found, mode⟩, reads, same⟩ := (bind_eq_ok_iff _ _ _).mp read
    cases same
    exact counted_choice found (counted_ofAsts _ branches counted found _ reads)
  | .concat parts =>
    rw [ofAst] at read
    rw [Ast.Counted] at counted
    obtain ⟨⟨found, mode⟩, reads, same⟩ := (bind_eq_ok_iff _ _ _).mp read
    cases same
    exact counted_sequence found (counted_ofAsts _ parts counted found _ reads)

theorem counted_ofAsts (mode : Mode) (parts : List Ast) (counted : Ast.AllCounted parts)
    (exprs : List Expr) (after : Mode) (read : ofAsts mode parts = .ok (exprs, after)) :
    ∀ expr ∈ exprs, expr.Counted := by
  match parts with
  | [] =>
    cases read
    simp
  | part :: parts =>
    rw [ofAsts] at read
    rw [Ast.AllCounted] at counted
    obtain ⟨⟨first, middle⟩, reads, rest⟩ := (bind_eq_ok_iff _ _ _).mp read
    obtain ⟨⟨others, last⟩, also, same⟩ := (bind_eq_ok_iff _ _ _).mp rest
    cases same
    exact List.forall_mem_cons.mpr ⟨counted_ofAst mode part counted.1 first middle reads,
      counted_ofAsts middle parts counted.2 others _ also⟩

end

theorem counted_of_ofPattern (pattern : String) (expr : Expr)
    (read : ofPattern pattern = .ok expr) : expr.Counted := by
  obtain ⟨ast, reads, rest⟩ := (bind_eq_ok_iff _ _ _).mp read
  obtain ⟨⟨found, mode⟩, means, same⟩ := (bind_eq_ok_iff _ _ _).mp rest
  cases same
  exact counted_ofAst {} ast (ast.counted_of_ofPattern pattern reads) expr mode means

end Expr

/-- What a pattern compiles to keeps its meaning. -/
theorem expr_of_compile (pattern : String) (regex : Regex)
    (compiled : compile pattern = .ok regex) :
    Expr.ofPattern pattern = .ok regex.expr := by
  obtain ⟨expr, reads, rest⟩ := (bind_eq_ok_iff _ _ _).mp compiled
  dsimp only at rest
  split at rest
  · cases rest
  · cases rest
    exact reads

end PatternLint.Regex

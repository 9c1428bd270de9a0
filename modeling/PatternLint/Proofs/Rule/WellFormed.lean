import PatternLint.Proofs.Rule.Argument

namespace PatternLint

namespace Text

theorem dropBlanks_eq_nil_iff (chars : List Char) :
    dropBlanks chars = [] ↔ ∀ char ∈ chars, Unicode.isBlank char = true :=
  List.dropWhile_eq_nil_iff

theorem head_dropBlanks (chars : List Char) (given : dropBlanks chars ≠ []) :
    Unicode.isBlank ((dropBlanks chars).head given) = false :=
  List.head_dropWhile_not Unicode.isBlank given

theorem exists_filled_of_trimChars (chars : List Char) (given : trimChars chars ≠ []) :
    ∃ char ∈ trimChars chars, Unicode.isBlank char = false := by
  have kept : dropBlanks (dropBlanks chars).reverse ≠ [] := by
    intro nothing
    exact given (by rw [trimChars, nothing, List.reverse_nil])
  exact ⟨_, List.mem_reverse.mpr (List.head_mem kept), head_dropBlanks _ kept⟩

theorem blank_of_dropBlanks (chars : List Char)
    (blank : ∀ char ∈ dropBlanks chars, Unicode.isBlank char = true) :
    ∀ char ∈ chars, Unicode.isBlank char = true := by
  by_cases given : dropBlanks chars = []
  · exact (dropBlanks_eq_nil_iff chars).mp given
  · have first := blank _ (List.head_mem given)
    rw [head_dropBlanks chars given] at first
    cases first

theorem trimChars_eq_nil_iff (chars : List Char) :
    trimChars chars = [] ↔ ∀ char ∈ chars, Unicode.isBlank char = true := by
  rw [trimChars, List.reverse_eq_nil_iff, dropBlanks_eq_nil_iff]
  simp only [List.mem_reverse]
  constructor
  · exact blank_of_dropBlanks chars
  · intro blank char member
    exact blank char ((List.dropWhile_sublist _).mem member)

theorem trim_ne_empty_iff (text : String) :
    trim text ≠ "" ↔ ∃ char ∈ text.toList, Unicode.isBlank char = false := by
  rw [trim, ne_eq, String.ofList_eq_empty_iff, trimChars_eq_nil_iff]
  simp

theorem trim_trim_ne_empty (text : String) (given : trim text ≠ "") : trim (trim text) ≠ "" := by
  have filled : trimChars text.toList ≠ [] := by simpa [trim] using given
  rw [trim_ne_empty_iff, trim, String.toList_ofList]
  exact exists_filled_of_trimChars text.toList filled

end Text

namespace RuleSpec

/-- Something is asked for, and the message is more than blanks, if there is one. -/
structure WellFormed (spec : RuleSpec) : Prop where
  pattern : spec.pattern ≠ ""
  message : ∀ message, spec.message = some message → Text.trim message ≠ ""

theorem wellFormed_of_ofArgument (argument : String) (spec : RuleSpec)
    (read : ofArgument argument = .ok spec) : spec.WellFormed := by
  obtain ⟨pattern, _, _, told⟩ := written_of_ofArgument argument spec read
  refine ⟨pattern, ?_⟩
  intro message given
  rcases told with ⟨_, none⟩ | ⟨text, _, _, same⟩
  · rw [none] at given
    cases given
  · rw [given, messageOf] at same
    split at same
    · cases same
    · rename_i filled
      injection same with same
      exact same ▸ Text.trim_trim_ne_empty text filled

theorem wellFormed_noHttp : noHttp.WellFormed := by
  refine ⟨by decide, ?_⟩
  intro message given
  cases given
  exact (Text.trim_ne_empty_iff _).mpr ⟨'h', by decide, by decide⟩

theorem wellFormed_of_preset (name : String) (rules : List RuleSpec)
    (named : preset name = .ok rules) : ∀ rule ∈ rules, rule.WellFormed := by
  unfold preset at named
  split at named
  · injection named with same
    subst same
    exact List.forall_mem_singleton.mpr wellFormed_noHttp
  · cases named

theorem toList_defaultMessage (pattern : String) :
    (defaultMessage pattern).toList = "disallowed pattern: ".toList ++ pattern.toList :=
  String.toList_append

/-- What is reported for such a rule is never blank, its own message or not. -/
theorem WellFormed.trim_report (spec : RuleSpec) (formed : spec.WellFormed) :
    Text.trim spec.report ≠ "" := by
  unfold report
  cases given : spec.message with
  | some message => exact formed.message message given
  | none =>
    have begins : 'd' ∈ (defaultMessage spec.pattern).toList := by
      rw [toList_defaultMessage]
      exact List.mem_append_left _ (by decide)
    rw [Option.getD_none, Text.trim_ne_empty_iff]
    exact ⟨'d', begins, by decide⟩

end RuleSpec

end PatternLint

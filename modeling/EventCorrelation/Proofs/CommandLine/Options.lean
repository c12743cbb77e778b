import EventCorrelation.CommandLine.Arguments

/-!
# Options with their values

An option whose value stands behind an equals sign in its word may have any value at all. A command
reads such words as the options that they were made from, in their order, as long as it has them and
none stands there more often than it may.
-/

namespace EventCorrelation

variable {command : CommandRule} {option : String × String}
  {given rest options : List (String × String)}

/-- The word that gives an option with its value. -/
def optionWord (option : String × String) : String := "--" ++ option.1 ++ "=" ++ option.2

/-- Among these options the command takes this one: it has an option of that name which may have the
value, and which may be repeated or stands there once. -/
structure CommandRule.Accepts (command : CommandRule) (options : List (String × String))
    (option : String × String) (rule : OptionRule) : Prop where
  plain : '=' ∉ option.1.toList
  found : command.options.find? (·.name == option.1) = some rule
  takesValue : rule.takesValue = true
  allows : rule.allows option.2 = true
  once : rule.role = .repeated ∨ (options.map (·.1)).count option.1 = 1

theorem ofString_optionWord (plain : '=' ∉ option.1.toList) :
    ArgumentWord.ofString (optionWord option) = .long option.1 (some option.2) := by
  have letters : (optionWord option).toList =
      '-' :: '-' :: (option.1.toList ++ '=' :: option.2.toList) := by
    simp [optionWord]
  have before : ∀ symbol ∈ option.1.toList, (symbol != '=') = true := by
    intro symbol isMember
    rw [bne_iff_ne]
    rintro rfl
    exact plain isMember
  have front : (option.1.toList ++ '=' :: option.2.toList).takeWhile (· != '=') =
      option.1.toList := by
    rw [List.takeWhile_append_of_pos before]
    simp
  have back : (option.1.toList ++ '=' :: option.2.toList).dropWhile (· != '=') =
      '=' :: option.2.toList := by
    rw [List.dropWhile_append_of_pos before]
    simp
  unfold ArgumentWord.ofString
  rw [letters]
  split
  · next same => simp at same
  · next tail _ same =>
    cases same
    simp only [front, back, String.ofList_toList]
  · next letter tail notAlone notLong same =>
    cases same
    exact (notLong rfl).elim
  · next notAlone notLong notShort => exact (notLong _ rfl).elim

namespace Arguments

theorem readWord_option {rule : OptionRule}
    (accepts : command.Accepts (given ++ option :: rest) option rule) :
    readWord command (optionWord option) ⟨given, none, false⟩ =
      .ok ⟨given ++ [option], none, false⟩ := by
  have named : rule.name = option.1 := by simpa using List.find?_some accepts.found
  have fresh : (rule.role != .repeated && (Arguments.mk given none false).has rule.name) = false := by
    rcases accepts.once with repeated | once
    · simp [repeated]
    · have absent : option.1 ∉ given.map (·.1) := by
        simp only [List.map_append, List.map_cons, List.count_append, List.count_cons_self] at once
        exact List.count_eq_zero.mp (by omega)
      simp only [has, named, Bool.and_eq_false_iff]
      right
      rw [List.any_eq_false]
      intro other isOther same
      exact absent (eq_of_beq same ▸ List.mem_map_of_mem isOther)
  unfold readWord
  rw [if_neg (by simp), ofString_optionWord accepts.plain]
  simp only [readLong, accepts.found, accepts.takesValue, if_true, resolve, bind, Except.bind, accept,
    fresh, accepts.allows]
  rw [named]
  rfl

theorem scan_options (noCommands : command.commands = [])
    (accepts : ∀ option ∈ rest, ∃ rule, command.Accepts (given ++ rest) option rule) :
    scan command ⟨given, none, false⟩ (rest.map optionWord) =
      .ok (⟨given ++ rest, none, false⟩, none) := by
  induction rest generalizing given with
  | nil => rw [List.append_nil]; rfl
  | cons option rest ih =>
    obtain ⟨rule, acceptsFirst⟩ := accepts option (List.mem_cons_self ..)
    have splits : given ++ option :: rest = (given ++ [option]) ++ rest := by simp
    rw [splits] at accepts
    rw [List.map_cons, scan, readWord_option acceptsFirst, splits]
    simp only [noCommands, List.contains_nil, Bool.and_false]
    exact ih fun other isOther => accepts other (List.mem_cons_of_mem _ isOther)

/-- A command without subcommands reads options that it takes, if all required ones are among them. -/
theorem readAll_options (noCommands : command.commands = [])
    (accepts : ∀ option ∈ options, ∃ rule, command.Accepts options option rule)
    (complete : ∀ name ∈ command.required, name ∈ options.map (·.1)) :
    readAll command (options.map optionWord) = .ok ⟨options, none, false⟩ := by
  have scanned : scan command ⟨[], none, false⟩ (options.map optionWord) =
      .ok (⟨[] ++ options, none, false⟩, none) := scan_options noCommands accepts
  have nothingMissing : command.required.find? (fun name => !has name ⟨options, none, false⟩) = none := by
    rw [List.find?_eq_none]
    intro name isRequired missing
    obtain ⟨option, isOption, rfl⟩ := List.mem_map.mp (complete name isRequired)
    have found : has option.1 ⟨options, none, false⟩ = true :=
      List.any_eq_true.mpr ⟨option, isOption, beq_self_eq_true _⟩
    rw [found] at missing
    cases missing
  rw [readAll, empty, scanned]
  simp only [bind, Except.bind, resolve, checkRequired, List.nil_append, nothingMissing]
  rfl

end Arguments

end EventCorrelation

import Provision.CommandLine.Arguments

/-!
# Command lines without questions

The words of a pass and of an update that forbid questions and print a table. A word that names a
path stands behind its option; a word that could be an option itself is refused there, and so is the
empty one.

Results:

* `Arguments.IsPathWord`: the words that are taken for paths.
* `Arguments.ofWords?_resolveWords`, `Arguments.ofWords?_updateWords`: what the words ask for.
-/

namespace Provision

namespace Arguments

/-- Whether a word behind an option is taken for a path. -/
def IsPathWord (word : String) : Prop :=
  takesNext word = true ∧ word ≠ ""

instance (word : String) : Decidable (IsPathWord word) :=
  inferInstanceAs (Decidable (_ ∧ _))

theorem takesNext_of_head {word : String} {c : Char} {cs : List Char} (h : word.toList = c :: cs)
    (hc : c ≠ '-') : takesNext word = true := by
  have hdash : word.startsWith "-" = false := by
    rw [String.startsWith_string_eq_false_iff, h]
    intro hprefix
    exact hc (List.cons_prefix_cons.1 hprefix).1.symm
  simp [takesNext, hdash]

theorem isPathWord_of_head {word : String} {c : Char} {cs : List Char}
    (h : word.toList = c :: cs) (hc : c ≠ '-') : IsPathWord word := by
  refine ⟨takesNext_of_head h hc, ?_⟩
  rintro rfl
  cases h

/-- The words of a pass without questions. -/
def resolveWords (declarations overrides : String) : List String :=
  ["resolve", "-d", declarations, "-o", overrides, "--non-interactive", "--format", "toml"]

/-- The words of an update without questions, with or without overrides. -/
def updateWords (declarations origin previous : String) : Option String → List String
  | none => ["update", "-d", declarations, "--from", origin, "-p", previous, "--non-interactive",
      "--format", "toml"]
  | some overrides => ["update", "-d", declarations, "--from", origin, "-p", previous, "-o",
      overrides, "--non-interactive", "--format", "toml"]

variable {command : CommandName} {given : Given}
  {word value declarations origin previous : String} {rest : List String}

/-- An option that has no path yet takes the next word for it. -/
theorem readWords?_path {option : OptionName} (next : String → Given) (hdash : word ≠ "--")
    (hword : readWord? command given word = some (given, some option))
    (hhelp : given.help = false)
    (hnext : given.setOption? option value = (newPath? none value).map next) :
    readWords? command none given (word :: value :: rest) =
      if IsPathWord value then readWords? command none (next value) rest else none := by
  simp only [readWords?, if_neg hdash, hword, hhelp, hnext]
  by_cases htakes : takesNext value = true <;> by_cases hempty : value = "" <;>
    simp [IsPathWord, newPath?, htakes, hempty]

theorem readWords?_quietTable (hquiet : given.nonInteractive = false)
    (hformat : given.format = none) (hhelp : given.help = false) :
    readWords? command none given ["--non-interactive", "--format", "toml"] =
      some { given with nonInteractive := true, format := some .toml } := by
  have hflag : readWord? command given "--non-interactive" =
      some ({ given with nonInteractive := true }, none) := by
    have hword : readWord? command given "--non-interactive" =
        given.setNonInteractive?.map (·, none) := rfl
    simp [hword, Given.setNonInteractive?, hquiet]
  have hoption : ∀ given : Given, readWord? command given "--format" =
      some (given, some .format) := fun _ => rfl
  have htable : Format.ofName? "toml" = some .toml := Format.ofName?_name .toml
  have htakes : takesNext "toml" = true := takesNext_of_head rfl (by decide)
  simp [readWords?, hflag, hoption, hhelp, Given.setOption?, hformat, htable, htakes]

theorem ofWords?_resolveWords (environment : Option String) (declarations overrides : String) :
    ofWords? environment (resolveWords declarations overrides) =
      if IsPathWord declarations ∧ IsPathWord overrides then
        some (.invoke ⟨false, true, .resolve ⟨declarations, some overrides, .toml⟩⟩)
      else none := by
  have hread : readWords? .resolve none .nothing (resolveWords declarations overrides).tail =
      if IsPathWord declarations then
        if IsPathWord overrides then
          some { Given.nothing with
            declarations := some declarations, overrides := some overrides,
            nonInteractive := true, format := some .toml }
        else none
      else none := by
    rw [resolveWords, List.tail_cons,
      readWords?_path (fun path => { Given.nothing with declarations := some path })
        (by decide) rfl rfl rfl,
      readWords?_path (fun path =>
        { Given.nothing with declarations := some declarations, overrides := some path })
        (by decide) rfl rfl rfl, readWords?_quietTable rfl rfl rfl]
  have hrequest : ofWords? environment (resolveWords declarations overrides) =
      request? environment false .resolve (resolveWords declarations overrides).tail := by
    simp [ofWords?, resolveWords, readRequest?, CommandName.ofName?]
  rw [hrequest, request?, hread]
  by_cases hdeclarations : IsPathWord declarations <;>
    by_cases hoverrides : IsPathWord overrides <;>
    simp [hdeclarations, hoverrides, Given.nothing, nonInteractive?, Given.command?]

/-- The three paths that every update is given. -/
theorem readWords?_update (hdeclarations : IsPathWord declarations) (horigin : IsPathWord origin)
    (hprevious : IsPathWord previous) (rest : List String) :
    readWords? .update none .nothing
        ("-d" :: declarations :: "--from" :: origin :: "-p" :: previous :: rest) =
      readWords? .update none { Given.nothing with
        declarations := some declarations, origin := some origin, previous := some previous }
        rest := by
  rw [readWords?_path (fun path => { Given.nothing with declarations := some path })
      (by decide) rfl rfl rfl, if_pos hdeclarations,
    readWords?_path (fun path =>
      { Given.nothing with declarations := some declarations, origin := some path })
      (by decide) rfl rfl rfl, if_pos horigin,
    readWords?_path (fun path => { Given.nothing with
      declarations := some declarations, origin := some origin, previous := some path })
      (by decide) rfl rfl rfl, if_pos hprevious]

theorem ofWords?_updateWords {overrides : Option String} (hdeclarations : IsPathWord declarations)
    (horigin : IsPathWord origin) (hprevious : IsPathWord previous)
    (hoverrides : ∀ path, overrides = some path → IsPathWord path) (environment : Option String) :
    ofWords? environment (updateWords declarations origin previous overrides) =
      some (.invoke ⟨false, true, .update ⟨declarations, overrides, .toml⟩ origin previous⟩) := by
  have hread : readWords? .update none .nothing
      (updateWords declarations origin previous overrides).tail =
        some { Given.nothing with
          declarations := some declarations, origin := some origin, previous := some previous,
          overrides := overrides, nonInteractive := true, format := some .toml } := by
    cases overrides with
    | none =>
      rw [updateWords, List.tail_cons, readWords?_update hdeclarations horigin hprevious]
      exact readWords?_quietTable rfl rfl rfl
    | some path =>
      rw [updateWords, List.tail_cons, readWords?_update hdeclarations horigin hprevious,
        readWords?_path (fun path => { Given.nothing with
          declarations := some declarations, origin := some origin, previous := some previous,
          overrides := some path }) (by decide) rfl rfl rfl, if_pos (hoverrides path rfl)]
      exact readWords?_quietTable rfl rfl rfl
  have hrequest : ofWords? environment (updateWords declarations origin previous overrides) =
      request? environment false .update
        (updateWords declarations origin previous overrides).tail := by
    cases overrides <;> simp [ofWords?, updateWords, readRequest?, CommandName.ofName?]
  rw [hrequest, request?, hread]
  simp [Given.nothing, nonInteractive?, Given.command?]

end Arguments

end Provision

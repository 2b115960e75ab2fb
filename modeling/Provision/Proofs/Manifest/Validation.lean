import Provision.Proofs.Installation.Update
import Provision.Proofs.Manifest
import Provision.Proofs.Pass.Failure
import Provision.Proofs.Toml.Document

/-!
# Validation of names

A manifest is valid if none of its names is empty, none has a character that is not an ASCII letter,
a digit or an underscore, and no two are the same. Any other manifest is refused for the first of
its names that breaks a rule, and for the first rule that this name breaks. A pass looks for
repeated names by itself, and where nothing else is wrong with the names it finds the same one.

Results:

* `NameCharacter`, `isNameChar_iff`: the characters in names.
* `ValidNames`, `FaultyAfter`: names without a fault, and the fault of the first one that has one.
* `Manifest.firstFault?_eq_some_iff`: the first fault of a list is that of one name, behind valid
  ones.
* `reconfigure_duplicate_iff`, `update_duplicate_iff`: where a revision finds a repeated name.
* `Manifest.validate_exact`: which manifests are valid, how the others are refused, and what this
  says of passes.
-/

namespace Provision

/-! ## Names -/

/-- An ASCII letter, a digit or an underscore. -/
def NameCharacter (c : Char) : Prop :=
  ('A' ≤ c ∧ c ≤ 'Z') ∨ ('a' ≤ c ∧ c ≤ 'z') ∨ ('0' ≤ c ∧ c ≤ '9') ∨ c = '_'

theorem isNameChar_iff {c : Char} : isNameChar c = true ↔ NameCharacter c := by
  have hupper : c.isUpper = true ↔ 'A' ≤ c ∧ c ≤ 'Z' := decide_eq_true_iff
  have hlower : c.isLower = true ↔ 'a' ≤ c ∧ c ≤ 'z' :=
    Bool.and_eq_true_iff.trans (and_congr decide_eq_true_iff decide_eq_true_iff)
  have hdigit : c.isDigit = true ↔ '0' ≤ c ∧ c ≤ '9' :=
    Bool.and_eq_true_iff.trans (and_congr decide_eq_true_iff decide_eq_true_iff)
  have hclasses : c.isAlphanum = ((c.isUpper || c.isLower) || c.isDigit) := rfl
  rw [isNameChar, hclasses, NameCharacter]
  simp only [Bool.or_eq_true, hupper, hlower, hdigit, beq_iff_eq, or_assoc]

/-- Names without a fault. -/
structure ValidNames (names : List String) : Prop where
  nonempty : ∀ name ∈ names, name ≠ ""
  characters : ∀ name ∈ names, ∀ c ∈ name.toList, NameCharacter c
  distinct : names.Nodup

/-- A name behind others breaks a rule, and all that come before this rule are kept. -/
inductive FaultyAfter (front : List String) : String → Failure → Prop where
  | empty : FaultyAfter front "" (.invalidName "" .empty)
  | characters {name : String} : name ≠ "" → (∃ c ∈ name.toList, ¬ NameCharacter c) →
      FaultyAfter front name (.invalidName name .characters)
  | repeated {name : String} : name ≠ "" → (∀ c ∈ name.toList, NameCharacter c) → name ∈ front →
      FaultyAfter front name (.duplicateParameter name)

theorem isName_toList_iff {name : String} :
    isName name.toList = true ↔ name ≠ "" ∧ ∀ c ∈ name.toList, NameCharacter c := by
  simp [isName, isNameChar_iff]

theorem validNames_iff {names : List String} :
    ValidNames names ↔ (∀ name ∈ names, isName name.toList = true) ∧ names.Nodup := by
  simp only [isName_toList_iff]
  constructor
  · rintro ⟨hnonempty, hcharacters, hnd⟩
    exact ⟨fun name hname => ⟨hnonempty name hname, hcharacters name hname⟩, hnd⟩
  · rintro ⟨hnames, hnd⟩
    exact ⟨fun name hname => (hnames name hname).1, fun name hname => (hnames name hname).2, hnd⟩

/-! ## The first fault -/

namespace Manifest

variable {m valid : Manifest} {before front names : List String} {name : String}
  {failure : Failure}

theorem faultOf?_reverse : faultOf? front.reverse name = faultOf? front name := by
  simp [faultOf?]

theorem faultOf?_eq_some_iff :
    faultOf? front name = some failure ↔ FaultyAfter front name failure := by
  unfold faultOf?
  constructor
  · intro h
    split_ifs at h with hempty hcharacters hrepeated
    · cases h
      rw [String.isEmpty_iff] at hempty
      subst hempty
      exact .empty
    · cases h
      have hbad : ∃ c ∈ name.toList, ¬ NameCharacter c := by
        simpa [isNameChar_iff] using hcharacters
      exact .characters (mt String.isEmpty_iff.2 hempty) hbad
    · cases h
      have hkept : ∀ c ∈ name.toList, NameCharacter c := by
        simpa [isNameChar_iff] using hcharacters
      exact .repeated (mt String.isEmpty_iff.2 hempty) hkept hrepeated
  · intro h
    cases h with
    | empty => simp
    | characters hne hbad =>
      have hcharacters : (!name.toList.all isNameChar) = true := by
        simpa [isNameChar_iff] using hbad
      rw [if_neg (mt String.isEmpty_iff.1 hne), if_pos hcharacters]
    | repeated hne hkept hrepeated =>
      have hcharacters : ¬ (!name.toList.all isNameChar) = true := by
        simpa [isNameChar_iff] using hkept
      rw [if_neg (mt String.isEmpty_iff.1 hne), if_neg hcharacters, if_pos hrepeated]

/-- The fault of a list is the fault of one name, where those in front have none. -/
theorem firstFault?_eq_some_iff :
    firstFault? before names = some failure ↔
      ∃ front name rest, names = front ++ name :: rest ∧ firstFault? before front = none ∧
        faultOf? (front.reverse ++ before) name = some failure := by
  induction names generalizing before with
  | nil => simp [firstFault?]
  | cons first others ih =>
    -- The first name has the fault, with nothing in front, or it joins the names in front.
    rw [firstFault?]
    constructor
    · intro h
      cases hfault : faultOf? before first with
      | some found =>
        rw [hfault] at h
        exact ⟨[], first, others, rfl, rfl, hfault.trans h⟩
      | none =>
        rw [hfault] at h
        obtain ⟨front, name, rest, rfl, hfront, hname⟩ := ih.1 h
        refine ⟨first :: front, name, rest, rfl, ?_, ?_⟩
        · simp [firstFault?, hfault, hfront]
        · simpa using hname
    · rintro ⟨front, name, rest, hsplit, hfront, hname⟩
      cases front with
      | nil =>
        obtain ⟨rfl, rfl⟩ := List.cons.inj hsplit
        have hfirst : faultOf? before first = some failure := hname
        rw [hfirst]
      | cons other front =>
        obtain ⟨rfl, rfl⟩ := List.cons.inj hsplit
        rw [firstFault?] at hfront
        cases hfault : faultOf? before first with
        | some found => simp [hfault] at hfront
        | none =>
          rw [hfault] at hfront
          exact ih.2 ⟨front, name, rest, rfl, hfront, by simpa using hname⟩

theorem firstFault?_nil_eq_none_iff : firstFault? [] names = none ↔ ValidNames names := by
  rw [firstFault?_eq_none_iff, firstRepeated?_eq_none_iff, validNames_iff]
  simp

theorem firstFault?_nil_eq_some_iff :
    firstFault? [] names = some failure ↔
      ∃ front name rest, names = front ++ name :: rest ∧ ValidNames front ∧
        FaultyAfter front name failure := by
  simp only [firstFault?_eq_some_iff, List.append_nil, firstFault?_nil_eq_none_iff,
    faultOf?_reverse, faultOf?_eq_some_iff]

/-- Where all are names, only a repeated one has a fault, and it is the one that a pass finds. -/
theorem firstFault?_of_isName (h : ∀ name ∈ names, isName name.toList = true) :
    firstFault? before names = (firstRepeated? before names).map Failure.duplicateParameter := by
  induction names generalizing before with
  | nil => rfl
  | cons first others ih =>
    rw [List.forall_mem_cons] at h
    by_cases hrepeated : first ∈ before
    · have hfirst := isName_toList_iff.1 h.1
      have hfault : faultOf? before first = some (.duplicateParameter first) :=
        faultOf?_eq_some_iff.2 (.repeated hfirst.1 hfirst.2 hrepeated)
      simp [firstFault?, hfault, firstRepeated?, hrepeated]
    · have hfault : faultOf? before first = none := faultOf?_eq_none_iff.2 ⟨h.1, hrepeated⟩
      simp [firstFault?, hfault, firstRepeated?, hrepeated, ih h.2]

theorem validate_eq_error_iff :
    m.validate = .error failure ↔
      firstFault? [] (m.params.map Parameter.name) = some failure := by
  unfold validate
  cases firstFault? [] (m.params.map Parameter.name) <;> simp

theorem read_eq_validate {source : String}
    (h : (Toml.read? source.toList).bind ofEntries? = some m) : read source = m.validate := by
  simp [read, h]

theorem validNames_of_read {source : String} (h : read source = .ok m) :
    ValidNames (m.params.map Parameter.name) := by
  obtain ⟨hnames, hnd⟩ := names_of_read h
  exact validNames_iff.2 ⟨List.forall_mem_map.2 hnames, hnd⟩

end Manifest

/-! ## Passes -/

section

variable {σ : Type} {prompter : Prompter σ} {mode : Mode} {overrides stored : Bindings}
  {params old new : List Parameter} {state : σ} {name : String}

/-- What is stored changes no name. -/
theorem reconfigure_duplicate_iff (hprompter : ¬ prompter.Raises (.duplicateParameter name)) :
    (reconfigure prompter mode params stored overrides state).outcome =
        .error (.duplicateParameter name) ↔
      firstRepeated? [] (params.map Parameter.name) = some name := by
  rw [← withStoredDefaults_name params stored, ← resolve_duplicate_iff hprompter, reconfigure,
    Run.outcome_after, Run.outcome_andThen_eq_error_iff]
  constructor
  · rintro (h | ⟨found, -, h⟩)
    · exact h
    · cases h
  · exact Or.inl

/-- An update looks at the new names alone. -/
theorem update_duplicate_iff (hprompter : ¬ prompter.Raises (.duplicateParameter name)) :
    (update prompter mode old new stored overrides state).outcome =
        .error (.duplicateParameter name) ↔
      firstRepeated? [] (new.map Parameter.name) = some name := by
  rw [outcome_update, resolve_duplicate_iff hprompter]

end

namespace Manifest

/-- Where all are names, validation finds the repeated name that a pass finds. -/
theorem validate_error_iff_of_isName {m : Manifest} {failure : Failure}
    (h : ∀ p ∈ m.params, isName p.name.toList = true) :
    m.validate = .error failure ↔
      ∃ name, failure = .duplicateParameter name ∧
        firstRepeated? [] (m.params.map Parameter.name) = some name := by
  rw [validate_eq_error_iff, firstFault?_of_isName (List.forall_mem_map.2 h),
    Option.map_eq_some_iff]
  constructor
  · rintro ⟨name, hname, rfl⟩
    exact ⟨name, rfl, hname⟩
  · rintro ⟨name, rfl, hname⟩
    exact ⟨name, hname, rfl⟩

/-- **Validation.** The manifest that a document holds is read exactly if its names are valid.
    Otherwise it is refused for the first name that is empty, has another character than a letter, a
    digit or an underscore, or is one of those in front, and for the first of these faults if it has
    several. So a pass over the parameters of a manifest that has been read, a reconfiguration of
    them and an update to them never fail because a name is repeated, unless the prompter says so,
    which a script and a terminal do not. And where all are names, validation and passes fail for
    the same lists, and with the same name. -/
theorem validate_exact (m : Manifest) :
    let names := m.params.map Parameter.name
    (∀ source, (Toml.read? source.toList).bind ofEntries? = some m → read source = m.validate) ∧
    (∀ valid, m.validate = .ok valid ↔ valid = m ∧ ValidNames names) ∧
    (∀ failure, m.validate = .error failure ↔
      ∃ front name rest, names = front ++ name :: rest ∧ ValidNames front ∧
        FaultyAfter front name failure) ∧
    (∀ name, ¬ scripted.Raises (.duplicateParameter name) ∧
      ∀ visible, ¬ (terminal visible).Raises (.duplicateParameter name)) ∧
    (∀ source, read source = .ok m → ∀ {σ : Type} (prompter : Prompter σ) (mode : Mode)
      (stored overrides : Bindings) (state : σ) (name : String),
        ¬ prompter.Raises (.duplicateParameter name) →
          (resolve prompter mode m.params overrides state).outcome ≠
            .error (.duplicateParameter name) ∧
          (reconfigure prompter mode m.params stored overrides state).outcome ≠
            .error (.duplicateParameter name) ∧
          ∀ old, (update prompter mode old m.params stored overrides state).outcome ≠
            .error (.duplicateParameter name)) ∧
    ((∀ p ∈ m.params, isName p.name.toList = true) →
      (∀ failure, m.validate = .error failure ↔
        ∃ name, failure = .duplicateParameter name ∧ firstRepeated? [] names = some name) ∧
      ∀ {σ : Type} (prompter : Prompter σ) (mode : Mode) (overrides : Bindings) (state : σ)
        (name : String), ¬ prompter.Raises (.duplicateParameter name) →
          ((resolve prompter mode m.params overrides state).outcome =
              .error (.duplicateParameter name) ↔
            m.validate = .error (.duplicateParameter name))) := by
  intro names
  refine ⟨fun source => read_eq_validate, fun valid => ?_, fun failure => ?_,
    fun name => ⟨fun h => ?_, fun visible h => ?_⟩, ?_,
    fun hnames => ⟨fun failure => validate_error_iff_of_isName hnames, ?_⟩⟩
  · rw [validate_eq_ok_iff, firstFault?_nil_eq_none_iff]
    exact and_congr_left' eq_comm
  · exact validate_eq_error_iff.trans firstFault?_nil_eq_some_iff
  · obtain ⟨fault, hfault⟩ := scripted_raises h
    cases hfault
  · obtain ⟨fault, hfault⟩ := terminal_raises h
    cases hfault
  · intro source hread σ prompter mode stored overrides state name hprompter
    have hnone : firstRepeated? [] names ≠ some name := by
      rw [firstRepeated?_eq_none_iff.2 ⟨(validNames_of_read hread).distinct, by simp⟩]
      simp
    exact ⟨mt (resolve_duplicate_iff hprompter).1 hnone,
      mt (reconfigure_duplicate_iff hprompter).1 hnone,
      fun old => mt (update_duplicate_iff hprompter).1 hnone⟩
  · intro σ prompter mode overrides state name hprompter
    rw [resolve_duplicate_iff hprompter, validate_error_iff_of_isName hnames]
    simp

/-- A manifest with a name that is repeated in front of an empty one, a manifest that can be read,
    and one in which all are names, and one of them is repeated. -/
theorem validate_exact_repeated :
    let source := "[[params]]\nname='A'\ntype='string'\n"
    let faulty := source ++ source ++ "[[params]]\nname=''\ntype='int'\n"
    let a := Parameter.plain .text "A"
    let repeated : Manifest := ⟨none, [a, .plain .integer "_", a]⟩
    read faulty = .error (.duplicateParameter "A") ∧
    (read source = .ok ⟨none, [a]⟩ ∧
      (resolve scripted .interactive [a] .empty []).outcome ≠ .error (.duplicateParameter "A")) ∧
    repeated.validate = .error (.duplicateParameter "A") ∧
    (resolve scripted .interactive repeated.params .empty []).outcome =
      .error (.duplicateParameter "A") := by
  intro source faulty a repeated
  have hfaultyLines : Toml.lines? (Toml.withoutMark faulty.toList) =
      some [.header ⟨true, [], "params"⟩, .pair ⟨[], "name", .text "A"⟩,
        .pair ⟨[], "type", .text "string"⟩, .header ⟨true, [], "params"⟩,
        .pair ⟨[], "name", .text "A"⟩, .pair ⟨[], "type", .text "string"⟩,
        .header ⟨true, [], "params"⟩, .pair ⟨[], "name", .text ""⟩,
        .pair ⟨[], "type", .text "int"⟩] := by
    unfold faulty source
    iterate 9 refine Toml.lines?_of_line (by decide) rfl rfl (by decide) ?_
    exact Toml.lines?_nil
  have hsingleLines : Toml.lines? (Toml.withoutMark source.toList) =
      some [.header ⟨true, [], "params"⟩, .pair ⟨[], "name", .text "A"⟩,
        .pair ⟨[], "type", .text "string"⟩] := by
    unfold source
    iterate 3 refine Toml.lines?_of_line (by decide) rfl rfl (by decide) ?_
    exact Toml.lines?_nil
  have hvalid : ValidNames ["A"] := firstFault?_nil_eq_none_iff.1 (by decide)
  refine ⟨?_, ?_, ?_⟩
  · obtain ⟨hread, -, herror, -⟩ := validate_exact ⟨none, [a, a, .plain .integer ""]⟩
    rw [hread faulty (by rw [Toml.read?, hfaultyLines]; rfl)]
    exact (herror _).2 ⟨["A"], "A", [""], rfl, hvalid, faultOf?_eq_some_iff.1 (by decide)⟩
  · obtain ⟨hread, hok, -, hprompters, hpasses, -⟩ := validate_exact ⟨none, [a]⟩
    have hsingle : read source = .ok ⟨none, [a]⟩ := by
      rw [hread source (by rw [Toml.read?, hsingleLines]; rfl)]
      exact (hok _).2 ⟨rfl, hvalid⟩
    exact ⟨hsingle, (hpasses source hsingle scripted .interactive .empty .empty [] "A"
      (hprompters "A").1).1⟩
  · obtain ⟨-, -, -, hprompters, -, hnamed⟩ := validate_exact repeated
    obtain ⟨herror, hpasses⟩ := hnamed (by decide)
    have hvalidate : repeated.validate = .error (.duplicateParameter "A") :=
      (herror _).2 ⟨"A", rfl, by decide⟩
    exact ⟨hvalidate,
      (hpasses scripted .interactive .empty [] "A" (hprompters "A").1).2 hvalidate⟩

end Manifest

end Provision

import Provision.Proofs.Manifest
import Provision.Proofs.Template.Mention

/-!
# Names in manifests and in templates

What a name is, is decided in three places: where a manifest is validated, where a reference is
read, and where a template is scanned for mentions. The three agree. Whatever can be declared can be
referred to, and nothing else is ever taken for a name, however braces, dots and white space stand
around it.

Results:

* `isName_of_mem_pieces`: the reference in a supported template is to a name.
* `Manifest.Declarable`, `Manifest.validate_single_iff`: the names that can be declared.
* `declarable_iff_referable`: these are the names that can be referred to.
-/

namespace Provision

/-! ## References -/

/-- The text that is a reference to this name, and nothing else. -/
def referenceTo (name : String) : String :=
  "\x7b\x7b params." ++ name ++ " \x7d\x7d"

theorem isName_of_mem_ofTokens {ts : List Token} {found : List Piece} {name : String}
    (h : Piece.ofTokens ts = .ok found) (hmem : .reference name ∈ found) :
    isName name.toList = true := by
  fun_induction Piece.ofTokens ts generalizing found with
  | case1 =>
    cases h
    cases hmem
  | case2 content rest ih =>
    obtain ⟨others, hothers, rfl⟩ := Except.map_eq_ok_iff.1 h
    rcases List.mem_cons.1 hmem with hpiece | hmem
    · cases hpiece
    · exact ih hothers hmem
  | case4 content rest other hother ih =>
    obtain ⟨others, hothers, rfl⟩ := Except.map_eq_ok_iff.1 h
    rcases List.mem_cons.1 hmem with hpiece | hmem
    · cases hpiece
      exact (reference?_eq_some_iff.1 hother).1
    · exact ih hothers hmem
  | _ => cases h

theorem isName_of_mem_pieces {source name : String} {found : List Piece}
    (h : pieces source = .ok found) (hmem : .reference name ∈ found) :
    isName name.toList = true :=
  isName_of_mem_ofTokens (ofText_eq_ok_iff.1 (pieces_eq_ok_iff_ofText.1 h)).1 hmem

theorem refers_referenceTo {name : String} (h : isName name.toList = true) :
    Refers (referenceTo name).toList [] name [] where
  written := by
    have hblank : Blank [' '] := by
      intro c hc
      rw [List.mem_singleton.1 hc]
      rfl
    refine ⟨[' '], [' '], hblank, hblank, ?_⟩
    simp [referenceTo, referencePrefix, Token.openingText, Token.closingText]
  isName := h
  undelimited_before := undelimited_nil
  boundary := by simp
  undelimited_after := undelimited_nil

/-! ## Declarations -/

namespace Manifest

/-- A name can be declared: a manifest with a single parameter is valid if this has the name,
    whatever else is declared of it. -/
def Declarable (name : String) : Prop :=
  ∀ (version : Option String) (p : Parameter), p.name = name →
    validate ⟨version, [p]⟩ = .ok ⟨version, [p]⟩

/-- A manifest with a single parameter is valid exactly if this has a name. -/
theorem validate_single_iff {version : Option String} {p : Parameter} :
    validate ⟨version, [p]⟩ = .ok ⟨version, [p]⟩ ↔ isName p.name.toList = true := by
  rw [validate_eq_ok_iff, List.map_singleton, firstFault?_eq_none_iff]
  simp [firstRepeated?]

theorem declarable_of_isName {name : String} (h : isName name.toList = true) :
    Declarable name := by
  rintro version p rfl
  exact validate_single_iff.2 h

end Manifest

/-! ## Agreement -/

/-- **Names.** A manifest with a single parameter is valid exactly if the reference to the name of
    the parameter is a template, with this reference as its only piece; and then the template
    mentions this name, once, and no other. No template at all refers to anything but a name that
    can be declared, and none mentions anything else. -/
theorem declarable_iff_referable :
    (∀ (version : Option String) (p : Parameter),
      let single : Manifest := ⟨version, [p]⟩
      (single.validate = .ok single ↔
        pieces (referenceTo p.name) = .ok [.reference p.name]) ∧
      (single.validate = .ok single → mentions (referenceTo p.name) = [p.name])) ∧
    (∀ source found name, pieces source = .ok found → .reference name ∈ found →
      Manifest.Declarable name) ∧
    ∀ source, ∀ name ∈ mentions source, Manifest.Declarable name := by
  refine ⟨fun version p => ⟨⟨fun h => ?_, fun h => ?_⟩, fun h => ?_⟩, ?_, ?_⟩
  · exact pieces_of_refers (refers_referenceTo (Manifest.validate_single_iff.1 h))
  · exact Manifest.validate_single_iff.2 (isName_of_mem_pieces h (List.mem_singleton.2 rfl))
  · exact mentions_of_refers (refers_referenceTo (Manifest.validate_single_iff.1 h))
  · intro source found name h hmem
    exact Manifest.declarable_of_isName (isName_of_mem_pieces h hmem)
  · intro source name hmem
    exact Manifest.declarable_of_isName (isName_of_mem_mentions hmem)

/-- A name that can be declared and referred to, and one with a blank in it that can be neither; and
    the names that are found in a supported template and in one that is not supported. -/
theorem declarable_iff_referable_names :
    let named : Manifest := ⟨none, [.plain .text "_9"]⟩
    let unnamed : Manifest := ⟨none, [.plain .text "A B"]⟩
    (named.validate = .ok named ∧ pieces (referenceTo "_9") = .ok [.reference "_9"] ∧
      mentions (referenceTo "_9") = ["_9"]) ∧
    (unnamed.validate ≠ .ok unnamed ∧
      pieces (referenceTo "A B") ≠ .ok [.reference "A B"]) ∧
    Manifest.Declarable "HOST" ∧ Manifest.Declarable "LATER" := by
  intro named unnamed
  obtain ⟨hsingle, hpieces, hmentions⟩ := declarable_iff_referable
  have hvalid : named.validate = .ok named := rfl
  have hunsupported : pieces (referenceTo "A B") ≠ .ok [.reference "A B"] := by decide
  refine ⟨⟨hvalid, ?_, ?_⟩, ⟨fun hdeclared => ?_, hunsupported⟩, ?_, ?_⟩
  · exact (hsingle none (.plain .text "_9")).1.1 hvalid
  · exact (hsingle none (.plain .text "_9")).2 hvalid
  · exact hunsupported ((hsingle none (.plain .text "A B")).1.1 hdeclared)
  · exact hpieces "http://\x7b\x7b params.HOST \x7d\x7d/"
      [.literal "http://", .reference "HOST", .literal "/"] "HOST" (by decide) (by decide)
  · exact hmentions "\x7b\x7b params.LATER + 1 \x7d\x7d" "LATER" (by decide)

end Provision

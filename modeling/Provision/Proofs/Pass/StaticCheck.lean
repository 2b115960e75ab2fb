import Provision.Dialogue.Script
import Provision.Proofs.Pass.Default
import Provision.Proofs.Pass.Shape

/-!
# A check before a pass

Whether a pass without questions succeeds shows in the overrides and the declarations, before any
value is computed: an override or a literal has to conform, and a template has to refer to a
parameter of the same type in front of it. No value that a template gives is of another type, and
where no brace stands in the texts that values are made of, no delimiter forms in them.

Results:

* `Sound`: what is checked of one parameter, against the parameters in front of it.
* `exists_settles_iff_sound`: exactly the sound parameters are settled.
* `exists_resolve_iff_sound`: a pass without questions succeeds exactly if the names are distinct
  and every parameter is sound.
-/

namespace Provision

/-! ## Texts without braces -/

/-- Neither brace stands in a text. -/
def Braceless (cs : List Char) : Prop :=
  '{' ∉ cs ∧ '}' ∉ cs

instance (cs : List Char) : Decidable (Braceless cs) :=
  inferInstanceAs (Decidable (_ ∧ _))

theorem Braceless.append {cs ds : List Char} (h : Braceless cs) (h' : Braceless ds) :
    Braceless (cs ++ ds) := by
  simp only [Braceless, List.mem_append, not_or]
  exact ⟨⟨h.1, h'.1⟩, h.2, h'.2⟩

theorem braceless_nil : Braceless [] := by
  decide

/-- The text of a piece that is no reference. -/
def Piece.content? : Piece → Option String
  | .literal content => some content
  | .reference _ => none

/-- The texts that a default brings into values: a literal is one, and a supported template
    brings the text around its reference. -/
def Scalar.texts : Scalar → List String
  | .text source =>
    if Provision.isTemplate source.toList then
      match pieces source with
      | .ok found => found.filterMap Piece.content?
      | .error _ => []
    else [source]
  | _ => []

/-- The texts that a parameter brings into values: its override, and those of its default. -/
def Parameter.texts (overrides : Bindings) (p : Parameter) : List String :=
  ((overrides.get? p.name).bind Scalar.toText?).toList ++ p.default.toList.flatMap Scalar.texts

section

variable {overrides : Bindings} {p : Parameter}

theorem mem_texts_of_override {s : String} (h : overrides.get? p.name = some (.text s)) :
    s ∈ p.texts overrides := by
  simp [Parameter.texts, h, Scalar.toText?]

theorem mem_texts_of_default {default : Scalar} {text : String} (h : p.default = some default)
    (htext : text ∈ default.texts) : text ∈ p.texts overrides := by
  simp [Parameter.texts, h, htext]

theorem mem_texts_literal {s : String} (h : isTemplate s.toList = false) :
    s ∈ (Scalar.text s).texts := by
  simp [Scalar.texts, h]

/-- The text around a reference is braceless if what the template brings into values is. -/
theorem braceless_of_refers {source name : String} {before after : List Char}
    (href : Refers source.toList before name after)
    (h : ∀ text ∈ (Scalar.text source).texts, Braceless text.toList) :
    Braceless before ∧ Braceless after := by
  rw [Scalar.texts, if_pos href.isTemplate, pieces_of_refers href] at h
  have hliterals : ∀ cs, literals cs ⊆ piecesAround before name after → Braceless cs := by
    intro cs hcs
    by_cases hne : cs = []
    · -- An empty text is no piece, but no brace stands in it either.
      exact hne ▸ braceless_nil
    · have hmem : .literal (String.ofList cs) ∈ piecesAround before name after :=
        hcs (by simp [literals, hne])
      simpa using h _ (List.mem_filterMap.2 ⟨_, hmem, rfl⟩)
  exact ⟨hliterals before (by simp [piecesAround]), hliterals after (by simp [piecesAround])⟩

end

/-! ## Sound parameters -/

/-- A parameter for which a value is found, whatever the values of the parameters in front. -/
inductive Sound (overrides : Bindings) (front : List Parameter) (p : Parameter) : Prop where
  | override {given : Scalar} : overrides.get? p.name = some given → p.conforms given = true →
      Sound overrides front p
  | literal {default : Scalar} : overrides.get? p.name = none → p.default = some default →
      default.isTemplate = false → p.conforms default = true → Sound overrides front p
  /-- The template refers to a parameter of the same type in front, and only blanks stand around
      the reference of an integer. -/
  | reference {source : String} {found : List Piece} {q : Parameter} :
      overrides.get? p.name = none → p.default = some (.text source) →
      isTemplate source.toList = true → pieces source = .ok found →
      q ∈ front → .reference q.name ∈ found → q.type = p.type →
      (p.type = .integer → found.any Piece.isSolid = false) → Sound overrides front p

variable {σ : Type} {prompter : Prompter σ} {state : σ} {overrides settled : Bindings}
  {front rest params : List Parameter} {p : Parameter} {value : Scalar}

/-- The parameters in front have values of their types, in whose texts no brace stands. -/
structure Ready (front : List Parameter) (settled : Bindings) : Prop
    extends Fits front settled where
  braceless : ∀ name s, settled.get? name = some (.text s) → Braceless s.toList

theorem ready_empty : Ready [] .empty :=
  ⟨fits_empty, by simp [Bindings.get?_empty]⟩

theorem Settles.kind_eq (h : Settles overrides settled p value) : value.kind = p.type.kind := by
  cases h with
  | override _ htakes => exact htakes.kind_eq
  | default _ _ hdenotes =>
    cases hdenotes with
    | literal _ htakes => exact htakes.kind_eq
    | substituted htype => simp [htype, Scalar.kind, ParameterType.kind]
    | referred htype => simp [htype, Scalar.kind, ParameterType.kind]

/-- The text that a parameter is settled at is made of braceless texts. -/
theorem Settles.braceless {s : String} (h : Settles overrides settled p (.text s))
    (hready : Ready front settled) (htexts : ∀ text ∈ p.texts overrides, Braceless text.toList) :
    Braceless s.toList := by
  cases h with
  | override hgiven htakes =>
    cases htakes
    exact htexts s (mem_texts_of_override hgiven)
  | default _ hdefault hdenotes =>
    -- A reference to an integer does not denote a text.
    have hown := fun text htext => htexts text (mem_texts_of_default hdefault htext)
    cases hdenotes with
    | literal hliteral htakes =>
      cases htakes
      exact hown s (mem_texts_literal hliteral)
    | substituted _ href hfound _ =>
      obtain ⟨hbefore, hafter⟩ := braceless_of_refers href hown
      rw [String.toList_ofList]
      exact (hbefore.append (hready.braceless _ _ hfound)).append hafter

theorem Ready.insert (hready : Ready front settled) (hnew : p.name ∉ front.map Parameter.name)
    (htexts : ∀ text ∈ p.texts overrides, Braceless text.toList)
    (h : Settles overrides settled p value) :
    Ready (front ++ [p]) (settled.insert p.name value) := by
  refine ⟨hready.toFits.insert hnew h.kind_eq, fun name s hs => ?_⟩
  rw [Bindings.get?_insert] at hs
  split at hs
  · cases hs
    exact h.braceless hready htexts
  · exact hready.braceless name s hs

/-- What a template refers to is a parameter of the same type in front. -/
theorem sound_of_refers {source name : String} {before after : List Char} {found : Scalar}
    (hnone : overrides.get? p.name = none) (hdefault : p.default = some (.text source))
    (href : Refers source.toList before name after)
    (hblank : p.type = .integer → Blank before ∧ Blank after) (hready : Ready front settled)
    (hfound : settled.get? name = some found) (hkind : found.kind = p.type.kind) :
    Sound overrides front p := by
  obtain ⟨q, hq, rfl, hqkind⟩ := hready.exists_mem hfound
  have htype : q.type = p.type := ParameterType.kind_inj.1 (hqkind.symm.trans hkind)
  exact .reference hnone hdefault href.isTemplate (pieces_of_refers href) hq
    (by simp [piecesAround]) htype fun h => any_isSolid_piecesAround_eq_false_iff.2 (hblank h)

theorem Settles.sound (h : Settles overrides settled p value) (hready : Ready front settled) :
    Sound overrides front p := by
  cases h with
  | override hgiven htakes => exact .override hgiven (Parameter.conforms_iff.2 ⟨_, htakes⟩)
  | default hnone hdefault hdenotes =>
    cases hdenotes with
    | literal hliteral htakes =>
      exact .literal hnone hdefault hliteral (Parameter.conforms_iff.2 ⟨_, htakes⟩)
    | substituted htype href hfound _ =>
      exact sound_of_refers hnone hdefault href (by simp [htype]) hready hfound
        (by rw [htype]; rfl)
    | referred htype href hbefore hafter hvalue =>
      exact sound_of_refers hnone hdefault href (fun _ => ⟨hbefore, hafter⟩) hready hvalue
        (by rw [htype]; rfl)

/-- A template that refers to a parameter of the same type in front denotes a value. -/
theorem exists_denotes_of_refers {source : String} {before after : List Char} {q : Parameter}
    (href : Refers source.toList before q.name after)
    (hblank : p.type = .integer → Blank before ∧ Blank after) (hready : Ready front settled)
    (hq : q ∈ front) (htype : q.type = p.type)
    (htexts : ∀ text ∈ (Scalar.text source).texts, Braceless text.toList) :
    ∃ value, Denotes settled p (.text source) value := by
  obtain ⟨found, hfound, hkind⟩ := hready.kinds q hq
  rw [htype] at hkind
  cases hp : p.type with
  | text =>
    rw [hp] at hkind
    obtain ⟨s, rfl⟩ := Scalar.kind_eq_text_iff.1 hkind
    obtain ⟨hbefore, hafter⟩ := braceless_of_refers href htexts
    obtain ⟨hopening, hclosing⟩ := (hbefore.append (hready.braceless _ _ hfound)).append hafter
    exact ⟨_, .substituted hp href hfound (undelimited_of_not_mem hopening hclosing)⟩
  | integer =>
    rw [hp] at hkind
    obtain ⟨n, rfl⟩ := Scalar.kind_eq_integer_iff.1 hkind
    obtain ⟨hbefore, hafter⟩ := hblank hp
    exact ⟨_, .referred hp href hbefore hafter hfound⟩

theorem Sound.exists_settles (h : Sound overrides front p) (hready : Ready front settled)
    (htexts : ∀ text ∈ p.texts overrides, Braceless text.toList) :
    ∃ value, Settles overrides settled p value := by
  cases h with
  | override hgiven hconforms =>
    obtain ⟨value, htakes⟩ := Parameter.conforms_iff.1 hconforms
    exact ⟨value, .override hgiven htakes⟩
  | literal hnone hdefault hliteral hconforms =>
    obtain ⟨value, htakes⟩ := Parameter.conforms_iff.1 hconforms
    exact ⟨value, .default hnone hdefault (.literal hliteral htakes)⟩
  | @reference source found q hnone hdefault htemplate hpieces hq hmem htype hsolid =>
    obtain ⟨before, name, after, href, rfl⟩ := (pieces_eq_ok_iff htemplate).1 hpieces
    obtain rfl : q.name = name := by
      simpa [piecesAround, not_reference_mem_literals] using hmem
    have hblank := fun h => any_isSolid_piecesAround_eq_false_iff.1 (hsolid h)
    obtain ⟨value, hdenotes⟩ := exists_denotes_of_refers href hblank hready hq htype
      fun text htext => htexts text (mem_texts_of_default hdefault htext)
    exact ⟨value, .default hnone hdefault hdenotes⟩

/-- Exactly the sound parameters are settled. -/
theorem exists_settles_iff_sound (hready : Ready front settled)
    (htexts : ∀ text ∈ p.texts overrides, Braceless text.toList) :
    (∃ value, Settles overrides settled p value) ↔ Sound overrides front p := by
  constructor
  · rintro ⟨value, h⟩
    exact h.sound hready
  · intro h
    exact h.exists_settles hready htexts

/-! ## The check, computed -/

/-- Whether the pieces of a template refer to a parameter of the same type in front, without
    other text if it is an integer. -/
def refersSoundly (front : List Parameter) (p : Parameter) (found : List Piece) : Bool :=
  decide (∃ q ∈ front, .reference q.name ∈ found ∧ q.type = p.type) &&
    (p.type = .text || !found.any Piece.isSolid)

/-- Whether a parameter is sound. -/
def isSound (overrides : Bindings) (front : List Parameter) (p : Parameter) : Bool :=
  match overrides.get? p.name, p.default with
  | some given, _ => p.conforms given
  | none, none => false
  | none, some default =>
    if default.isTemplate then
      default.toText?.any fun source =>
        match pieces source with
        | .ok found => refersSoundly front p found
        | .error _ => false
    else p.conforms default

theorem refersSoundly_iff {found : List Piece} :
    refersSoundly front p found = true ↔
      (∃ q ∈ front, .reference q.name ∈ found ∧ q.type = p.type) ∧
        (p.type = .integer → found.any Piece.isSolid = false) := by
  rw [refersSoundly, Bool.and_eq_true, decide_eq_true_eq]
  refine and_congr_right fun _ => ?_
  cases p.type <;> simp

theorem isSound_iff : isSound overrides front p = true ↔ Sound overrides front p := by
  constructor
  · intro h
    unfold isSound at h
    split at h
    · next hgiven => exact .override hgiven h
    · cases h
    · next default hnone hdefault =>
      split at h
      · next htemplate =>
        obtain ⟨source, rfl, hsource⟩ := exists_text_of_isTemplate htemplate
        simp only [Scalar.toText?, Option.any_some] at h
        split at h
        · next hpieces =>
          obtain ⟨⟨q, hq, hmem, htype⟩, hsolid⟩ := refersSoundly_iff.1 h
          exact .reference hnone hdefault hsource hpieces hq hmem htype hsolid
        · cases h
      · next hliteral => exact .literal hnone hdefault (Bool.eq_false_iff.2 hliteral) h
  · intro h
    unfold isSound
    cases h with
    | override hgiven hconforms => simp only [hgiven, hconforms]
    | literal hnone hdefault hliteral hconforms =>
      simp only [hnone, hdefault, hliteral, Bool.false_eq_true, if_false, hconforms]
    | reference hnone hdefault htemplate hpieces hq hmem htype hsolid =>
      simp only [hnone, hdefault, Scalar.isTemplate, htemplate, if_true, Scalar.toText?,
        Option.any_some, hpieces]
      exact refersSoundly_iff.2 ⟨⟨_, hq, hmem, htype⟩, hsolid⟩

instance (overrides : Bindings) (front : List Parameter) (p : Parameter) :
    Decidable (Sound overrides front p) :=
  decidable_of_iff (isSound overrides front p = true) isSound_iff

/-! ## Passes -/

theorem forall_sound_cons_iff :
    (∀ i (h : i < (p :: rest).length),
        Sound overrides (front ++ (p :: rest).take i) (p :: rest)[i]) ↔
      Sound overrides front p ∧
        ∀ i (h : i < rest.length), Sound overrides (front ++ [p] ++ rest.take i) rest[i] := by
  constructor
  · intro h
    refine ⟨?_, fun i hi => ?_⟩
    · have hfirst := h 0 (Nat.zero_lt_succ _)
      rwa [List.take_zero, List.append_nil] at hfirst
    · have hlater := h (i + 1) (Nat.succ_lt_succ hi)
      rwa [List.take_succ_cons, List.append_cons] at hlater
  · rintro ⟨hfirst, hlater⟩ i hi
    cases i with
    | zero => simpa using hfirst
    | succ i => simpa using hlater i (Nat.lt_of_succ_lt_succ hi)

/-- A pass over the remaining parameters succeeds exactly if each of them is sound. -/
theorem exists_settleAll_iff_sound (hready : Ready front settled)
    (hnd : ((front ++ rest).map Parameter.name).Nodup)
    (htexts : ∀ p ∈ rest, ∀ text ∈ p.texts overrides, Braceless text.toList) :
    (∃ values, (settleAll prompter .nonInteractive overrides rest settled state).outcome =
        .ok values) ↔
      ∀ i (h : i < rest.length), Sound overrides (front ++ rest.take i) rest[i] := by
  induction rest generalizing front settled state with
  | nil => simp [settleAll]
  | cons p rest ih =>
    have hown := htexts p (by simp)
    have hnew : p.name ∉ front.map Parameter.name :=
      not_mem_names_front hnd List.mem_cons_self
    rw [List.append_cons] at hnd
    have hlater := fun q hq => htexts q (List.mem_cons_of_mem _ hq)
    rw [forall_sound_cons_iff]
    -- Whatever value `p` is settled at, what is settled is ready for the parameters behind it.
    constructor
    · rintro ⟨values, h⟩
      obtain ⟨⟨value, source⟩, hfound, hrest⟩ := outcome_settleAll_cons_eq_ok_iff.1 h
      have hsettles : Settles overrides settled p value :=
        outcome_settle_nonInteractive_iff.1 ⟨source, hfound⟩
      have hp : Sound overrides front p :=
        (exists_settles_iff_sound hready hown).1 ⟨value, hsettles⟩
      exact ⟨hp, (ih (hready.insert hnew hown hsettles) hnd hlater).1 ⟨values, hrest⟩⟩
    · rintro ⟨hp, hsound⟩
      obtain ⟨value, hsettles⟩ := (exists_settles_iff_sound hready hown).2 hp
      have hsettled : ∃ source,
          (settle prompter .nonInteractive overrides p settled state).outcome =
            .ok (value, source) :=
        outcome_settle_nonInteractive_iff.2 hsettles
      obtain ⟨source, hfound⟩ := hsettled
      obtain ⟨values, hrest⟩ :=
        (ih (hready.insert hnew hown hsettles) hnd hlater).2 hsound
      exact ⟨values, outcome_settleAll_cons_eq_ok_iff.2 ⟨_, hfound, hrest⟩⟩

/-- **Static check.** If no brace stands in the texts of the overrides, of the literals and around
    the references, a pass without questions succeeds exactly if the names are distinct and every
    parameter is sound, which no value found on the way decides. -/
theorem exists_resolve_iff_sound
    (htexts : ∀ p ∈ params, ∀ text ∈ p.texts overrides, Braceless text.toList) :
    (∃ values, (resolve prompter .nonInteractive params overrides state).outcome = .ok values) ↔
      (params.map Parameter.name).Nodup ∧
        ∀ i (h : i < params.length), Sound overrides (params.take i) params[i] := by
  simp only [outcome_resolve_eq_ok_iff, exists_and_left]
  refine and_congr_right fun hnd => ?_
  exact exists_settleAll_iff_sound ready_empty hnd htexts

/-- A text and an integer, each with a parameter that refers to it, are sound. In another order,
    and with a reference from a text to the integer, they are not. -/
theorem exists_resolve_iff_sound_references :
    let sizeOf : Scalar := .text " \x7b\x7b params.SIZE \x7d\x7d"
    let zone := (Parameter.plain .text "ZONE").withDefault (.text "eu")
    let host := (Parameter.plain .text "HOST").withDefault (.text "\x7b\x7b params.ZONE \x7d\x7d-1")
    let size := (Parameter.plain .integer "SIZE").withDefault (.integer 3)
    let spare := (Parameter.plain .integer "SPARE").withDefault sizeOf
    let note := (Parameter.plain .text "NOTE").withDefault sizeOf
    let overrides := Bindings.ofList [("ZONE", .text "us")]
    (∃ values, (resolve scripted .nonInteractive [zone, host, size, spare] overrides
        []).outcome = .ok values) ∧
      (¬ ∃ values, (resolve scripted .nonInteractive [host, zone, size, spare] overrides
        []).outcome = .ok values) ∧
      ¬ ∃ values, (resolve scripted .nonInteractive [zone, host, size, note] overrides
        []).outcome = .ok values := by
  intro sizeOf zone host size spare note overrides
  refine ⟨?_, ?_, ?_⟩
  · exact (exists_resolve_iff_sound (by decide)).2 ⟨by decide, by decide⟩
  · exact fun h => absurd ((exists_resolve_iff_sound (by decide)).1 h).2 (by decide)
  · exact fun h => absurd ((exists_resolve_iff_sound (by decide)).1 h).2 (by decide)

end Provision

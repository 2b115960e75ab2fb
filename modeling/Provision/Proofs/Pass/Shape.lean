import Provision.Dialogue.Script
import Provision.Proofs.Pass.Settled

/-!
# The shape of a result

A pass gives a value to every parameter, in the order of the declarations, and each value has
the kind that its parameter is declared with. This holds whatever a prompter answers: an
answer goes through the same check as an override and a default.

Results:

* `Fits`: bindings that have the shape of some declarations.
* `resolve_shape`: the declarations of a pass that succeeds are distinct, and its result has
  their shape.
-/

namespace Provision

/-- The values have the shape of the declarations: their names in order, and a value of the
    declared kind for each of them. -/
structure Fits (params : List Parameter) (values : Bindings) : Prop where
  keys : values.keys = params.map Parameter.name
  kinds : ∀ p ∈ params, ∃ value, values.get? p.name = some value ∧ value.kind = p.type.kind

namespace Fits

variable {params : List Parameter} {values : Bindings}

theorem exists_mem (h : Fits params values) {name : String} {value : Scalar}
    (hvalue : values.get? name = some value) :
    ∃ p ∈ params, p.name = name ∧ value.kind = p.type.kind := by
  have hname : name ∈ values.keys := Bindings.mem_keys_iff.2 ⟨value, hvalue⟩
  rw [h.keys] at hname
  obtain ⟨p, hp, rfl⟩ := List.mem_map.1 hname
  obtain ⟨found, hfound, hkind⟩ := h.kinds p hp
  rw [hvalue, Option.some.injEq] at hfound
  exact ⟨p, hp, rfl, hfound ▸ hkind⟩

theorem eq_text_or_integer (h : Fits params values) {name : String} {value : Scalar}
    (hvalue : values.get? name = some value) :
    (∃ s, value = .text s) ∨ ∃ n, value = .integer n := by
  obtain ⟨p, -, -, hkind⟩ := h.exists_mem hvalue
  cases htype : p.type with
  | text =>
    rw [htype] at hkind
    exact Or.inl (Scalar.kind_eq_text_iff.1 hkind)
  | integer =>
    rw [htype] at hkind
    exact Or.inr (Scalar.kind_eq_integer_iff.1 hkind)

/-- A value of the declared kind is put behind the others for a new parameter. -/
theorem insert (h : Fits params values) {p : Parameter} {value : Scalar}
    (hnew : p.name ∉ params.map Parameter.name) (hkind : value.kind = p.type.kind) :
    Fits (params ++ [p]) (values.insert p.name value) := by
  constructor
  · rw [Bindings.keys_insert, h.keys, if_neg hnew, List.map_append, List.map_singleton]
  · intro q hq
    rw [Bindings.get?_insert]
    rcases List.mem_append.1 hq with hq | hq
    · have hne : q.name ≠ p.name := fun heq => hnew (heq ▸ List.mem_map_of_mem hq)
      rw [if_neg hne]
      exact h.kinds q hq
    · rw [List.mem_singleton.1 hq, if_pos rfl]
      exact ⟨value, rfl, hkind⟩

end Fits

theorem fits_empty : Fits [] .empty :=
  ⟨Bindings.keys_empty, by simp⟩

theorem ParameterType.kind_inj {type other : ParameterType} :
    type.kind = other.kind ↔ type = other := by
  cases type <;> cases other <;> decide

theorem ParameterType.kind_ne_float (type : ParameterType) : type.kind ≠ .float := by
  cases type <;> decide

theorem ParameterType.kind_ne_boolean (type : ParameterType) : type.kind ≠ .boolean := by
  cases type <;> decide

variable {σ : Type} {prompter : Prompter σ} {mode : Mode} {overrides values : Bindings}
  {params : List Parameter} {state : σ}

theorem fits_of_resolve
    (h : (resolve prompter mode params overrides state).outcome = .ok values) :
    Fits params values := by
  refine ⟨keys_of_resolve h, fun p hp => ?_⟩
  obtain ⟨front, rest, hsplit⟩ := List.append_of_mem hp
  obtain ⟨before, state', found, -, -, hfound, hvalue, -⟩ := exists_settle_of_resolve h hsplit
  obtain ⟨v, hreceive⟩ := receive_of_settle hfound
  exact ⟨found.1, hvalue, Parameter.kind_of_receive hreceive⟩

/-- **Shape of a result.** If a pass succeeds, the declared names are distinct, the result has
    exactly these names in order, a text for each text parameter and an integer for each
    integer parameter, and no double and no truth value at all. -/
theorem resolve_shape
    (h : (resolve prompter mode params overrides state).outcome = .ok values) :
    (params.map Parameter.name).Nodup ∧
    values.keys = params.map Parameter.name ∧
    (∀ p ∈ params,
      (p.type = .text → ∃ s, values.get? p.name = some (.text s)) ∧
      (p.type = .integer → ∃ n, values.get? p.name = some (.integer n))) ∧
    ∀ name value, values.get? name = some value →
      (∀ x, value ≠ .float x) ∧ ∀ b, value ≠ .boolean b := by
  have hfits := fits_of_resolve h
  refine ⟨(outcome_resolve_eq_ok_iff.1 h).1, hfits.keys, ?_, ?_⟩
  · intro p hp
    obtain ⟨value, hvalue, hkind⟩ := hfits.kinds p hp
    constructor
    · intro htype
      rw [htype] at hkind
      obtain ⟨s, rfl⟩ := Scalar.kind_eq_text_iff.1 hkind
      exact ⟨s, hvalue⟩
    · intro htype
      rw [htype] at hkind
      obtain ⟨n, rfl⟩ := Scalar.kind_eq_integer_iff.1 hkind
      exact ⟨n, hvalue⟩
  · intro name value hvalue
    obtain ⟨p, -, -, hkind⟩ := hfits.exists_mem hvalue
    constructor
    · rintro x rfl
      exact p.type.kind_ne_float hkind.symm
    · rintro b rfl
      exact p.type.kind_ne_boolean hkind.symm

/-- A pass with an override, a default that refers to it, and a question that is first answered
    by a text and then by an integer. -/
theorem resolve_shape_dialogue :
    let params : List Parameter :=
      [.plain .text "ZONE",
        (Parameter.plain .text "HOST").withDefault (.text "\x7b\x7b params.ZONE \x7d\x7d-1"),
        .plain .integer "SIZE"]
    let values := Bindings.ofList
      [("ZONE", .text "eu"), ("HOST", .text "eu-1"), ("SIZE", .integer 3)]
    (resolve scripted .interactive params (.ofList [("ZONE", .text "eu")])
        [none, some (.text "many"), some (.integer 3)]).outcome = .ok values ∧
      values.keys = ["ZONE", "HOST", "SIZE"] := by
  intro params values
  have h : (resolve scripted .interactive params (.ofList [("ZONE", .text "eu")])
      [none, some (.text "many"), some (.integer 3)]).outcome = .ok values := rfl
  exact ⟨h, (resolve_shape h).2.1⟩

end Provision

/-!
# Outcomes

An outcome is a value or the cause for which there is none. Changing the value or the cause does
not change which of them it is.

Results:

* `Except.map_eq_ok_iff`, `Except.map_eq_error_iff`: outcomes whose value has been changed.
* `Except.mapError_eq_ok_iff`, `Except.mapError_eq_error_iff`: outcomes whose cause has been
  changed.
-/

namespace Provision

variable {ε δ α β : Type} {x : Except ε α}

theorem Except.map_eq_ok_iff {f : α → β} {b : β} :
    x.map f = .ok b ↔ ∃ a, x = .ok a ∧ f a = b := by
  cases x <;> simp [Except.map]

theorem Except.map_eq_error_iff {f : α → β} {cause : ε} :
    x.map f = .error cause ↔ x = .error cause := by
  cases x <;> simp [Except.map]

theorem Except.mapError_eq_ok_iff {f : ε → δ} {a : α} : x.mapError f = .ok a ↔ x = .ok a := by
  cases x with
  | error before => constructor <;> intro h <;> cases h
  | ok value => constructor <;> intro h <;> cases h <;> rfl

theorem Except.mapError_eq_error_iff {f : ε → δ} {cause : δ} :
    x.mapError f = .error cause ↔ ∃ before, x = .error before ∧ f before = cause := by
  cases x with
  | error before =>
    constructor
    · intro h
      cases h
      exact ⟨before, rfl, rfl⟩
    · rintro ⟨_, h, rfl⟩
      cases h
      rfl
  | ok value =>
    constructor
    · intro h
      cases h
    · rintro ⟨_, h, -⟩
      cases h

end Provision

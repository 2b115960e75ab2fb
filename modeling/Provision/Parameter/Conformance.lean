import Provision.Failure

/-!
# Conformance of values

Which values a parameter takes, and the form in which it takes them. A text parameter takes
texts alone; an integer parameter takes every whole number of 64 bits, and as an integer.

Results:

* `Parameter.receive_eq_ok_iff`: a value is received exactly when it conforms.
* `Parameter.kind_of_receive`: what is received has the kind of the declared type.
* `Parameter.receive_receive`: what has been received is received unchanged.
-/

namespace Provision

namespace Parameter

/-- The form in which a parameter takes a value, if it takes it at all. -/
def canonical? (p : Parameter) (v : Scalar) : Option Scalar :=
  match p.type with
  | .text => v.toText?.map Scalar.text
  | .integer => v.toInteger?.map Scalar.integer

/-- Whether a value has the declared type (`satisfies`). -/
def conforms (p : Parameter) (v : Scalar) : Bool :=
  (p.canonical? v).isSome

/-- The value as the parameter takes it; a value of another type is refused (`accept`). -/
def receive (p : Parameter) (v : Scalar) : Except Failure Scalar :=
  match p.canonical? v with
  | some taken => .ok taken
  | none => .error (.typeMismatch p.name p.type.kind v)

theorem receive_eq_ok_iff {p : Parameter} {v taken : Scalar} :
    p.receive v = .ok taken ↔ p.canonical? v = some taken := by
  unfold receive
  cases p.canonical? v <;> simp

theorem kind_of_canonical? {p : Parameter} {v taken : Scalar} (h : p.canonical? v = some taken) :
    taken.kind = p.type.kind := by
  unfold canonical? at h
  split at h <;> obtain ⟨-, -, rfl⟩ := Option.map_eq_some_iff.1 h <;>
    simp_all [Scalar.kind, ParameterType.kind]

theorem kind_of_receive {p : Parameter} {v taken : Scalar} (h : p.receive v = .ok taken) :
    taken.kind = p.type.kind :=
  kind_of_canonical? (receive_eq_ok_iff.1 h)

theorem canonical?_of_kind {p : Parameter} {v : Scalar} (h : v.kind = p.type.kind) :
    p.canonical? v = some v := by
  unfold canonical?
  cases hp : p.type <;> rw [hp] at h
  · obtain ⟨s, rfl⟩ := Scalar.kind_eq_text_iff.1 h
    rfl
  · obtain ⟨n, rfl⟩ := Scalar.kind_eq_integer_iff.1 h
    rfl

theorem receive_receive {p : Parameter} {v taken : Scalar} (h : p.receive v = .ok taken) :
    p.receive taken = .ok taken :=
  receive_eq_ok_iff.2 (canonical?_of_kind (kind_of_receive h))

end Parameter

end Provision

import Provision.Dialogue.Basic
import Provision.Template.Evaluation
import Provision.Template.Mention

/-!
# A pass over the declarations

Component `params_core::resolve`. The parameters get their values in the order in which they are
declared. An override comes first; otherwise the default is computed from the values found so far,
and in the interactive mode it is put to the user as a suggestion. The first failure ends the
pass, and no values remain of it.

Results:

* `resolve_duplicate`: a list with a repeated name fails before anything is asked.
* `settle_override`: an override is never asked about.
-/

namespace Provision

/-- Whether the user may be asked (`ResolveMode`). -/
inductive Mode where
  | interactive
  | nonInteractive
  deriving DecidableEq, Repr

/-- The first of the names that has been mentioned before (`check_unique_names`). -/
def firstRepeated? (seen : List String) : List String → Option String
  | [] => none
  | name :: rest => if name ∈ seen then some name else firstRepeated? (name :: seen) rest

/-- The first name that a template mentions and that has no value yet: the loop over the
    dependencies in `resolve_default`. -/
def firstMissing? (source : String) (settled : Bindings) : Option String :=
  (mentions source).find? fun name => !settled.contains name

/-- The value of a default against the values found so far, before its type is looked at: the
    `match` in `resolve_default`. -/
def defaultValue (type : ParameterType) (field : Scalar) (settled : Bindings) :
    Except Failure Scalar :=
  match field with
  | .text source =>
    if isTemplate source.toList then
      match firstMissing? source settled with
      | some name => .error (.missingDependency source name)
      | none => evaluate field type settled
    else .ok field
  | _ => .ok field

/-- The default of a parameter, if one is declared, in the form that the parameter takes
    (`resolve_default`). -/
def defaultOf (p : Parameter) (settled : Bindings) : Except Failure (Option Scalar) :=
  match p.default with
  | none => .ok none
  | some field =>
    match defaultValue p.type field settled with
    | .error failure => .error failure
    | .ok value => (p.receive value).map some

variable {σ : Type}

/-- The value of a parameter for which there is no override: the two modes at the end of
    `resolve_one`. -/
def settleDefault (prompter : Prompter σ) (mode : Mode) (p : Parameter)
    (default : Option Scalar) (state : σ) : Run σ (Scalar × Source) :=
  match mode with
  | .interactive =>
    (prompt prompter p default state).andThen fun answer state =>
      .ended ((p.receive answer).map (·, .prompt)) state
  | .nonInteractive =>
    match default with
    | some value => .done (value, .default) state
    | none => .failed (.missingValue p.name) state

/-- The value of one parameter, against the values found so far (`resolve_one`). -/
def settle (prompter : Prompter σ) (mode : Mode) (overrides : Bindings) (p : Parameter)
    (settled : Bindings) (state : σ) : Run σ (Scalar × Source) :=
  match overrides.get? p.name with
  | some value => .ended ((p.receive value).map (·, .override)) state
  | none =>
    match defaultOf p settled with
    | .error failure => .failed failure state
    | .ok default => settleDefault prompter mode p default state

/-- Gives the parameters their values in order, on top of the values found so far: the loop of
    `resolve`, with the record that it writes for each value. -/
def settleAll (prompter : Prompter σ) (mode : Mode) (overrides : Bindings) :
    List Parameter → Bindings → σ → Run σ Bindings
  | [], settled, state => .done settled state
  | p :: rest, settled, state =>
    (settle prompter mode overrides p settled state).andThen fun found state =>
      (settleAll prompter mode overrides rest (settled.insert p.name found.1) state).after
        [.noted (.settled p.name found.2 found.1)]

/-- One pass: a value for every parameter, in the order of the declarations (`resolve`). -/
def resolve (prompter : Prompter σ) (mode : Mode) (params : List Parameter)
    (overrides : Bindings) (state : σ) : Run σ Bindings :=
  match firstRepeated? [] (params.map Parameter.name) with
  | some name => .failed (.duplicateParameter name) state
  | none => settleAll prompter mode overrides params .empty state

theorem resolve_duplicate {params : List Parameter} {name : String}
    (h : firstRepeated? [] (params.map Parameter.name) = some name) (prompter : Prompter σ)
    (mode : Mode) (overrides : Bindings) (state : σ) :
    resolve prompter mode params overrides state =
      .failed (.duplicateParameter name) state := by
  simp [resolve, h]

theorem settle_override {overrides : Bindings} {p : Parameter} {value : Scalar}
    (h : overrides.get? p.name = some value) (prompter : Prompter σ) (mode : Mode)
    (settled : Bindings) (state : σ) :
    settle prompter mode overrides p settled state =
      .ended ((p.receive value).map (·, .override)) state := by
  simp [settle, h]

end Provision

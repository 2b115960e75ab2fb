import Provision.Installation.Revision

/-!
# Steps of an installation

An installation is what is declared and what is stored. A step that succeeds stores its result;
one that fails leaves the installation as it was.

Results:

* `Installation.runs_append`: steps are taken one after the other.
-/

namespace Provision

/-- What is declared and what is stored. -/
structure Installation where
  declared : List Parameter
  stored : Bindings

/-- A change of an installation. -/
inductive Step where
  | resolve (mode : Mode) (overrides : Bindings)
  | reconfigure (mode : Mode) (overrides : Bindings)
  | update (mode : Mode) (params : List Parameter) (overrides : Bindings)

namespace Installation

variable {σ : Type}

/-- The values that a step gives. -/
def perform (prompter : Prompter σ) (i : Installation) (state : σ) : Step → Run σ Bindings
  | .resolve mode overrides => Provision.resolve prompter mode i.declared overrides state
  | .reconfigure mode overrides =>
    Provision.reconfigure prompter mode i.declared i.stored overrides state
  | .update mode params overrides =>
    Provision.update prompter mode i.declared params i.stored overrides state

/-- The declarations after a step. -/
def declaredAfter (i : Installation) : Step → List Parameter
  | .update _ params _ => params
  | _ => i.declared

/-- The installation after a step with this outcome. -/
def next (i : Installation) (step : Step) : Except Failure Bindings → Installation
  | .ok values => ⟨i.declaredAfter step, values⟩
  | .error _ => i

/-- The installation and the state of the prompter after some steps. -/
def runs (prompter : Prompter σ) : List Step → Installation → σ → Installation × σ
  | [], i, state => (i, state)
  | step :: rest, i, state =>
    let run := i.perform prompter state step
    runs prompter rest (i.next step run.outcome) run.state

theorem runs_append (prompter : Prompter σ) (xs ys : List Step) (i : Installation) (state : σ) :
    runs prompter (xs ++ ys) i state =
      runs prompter ys (runs prompter xs i state).1 (runs prompter xs i state).2 := by
  induction xs generalizing i state with
  | nil => rfl
  | cons x xs ih => exact ih _ _

end Installation

end Provision

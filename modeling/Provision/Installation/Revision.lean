import Provision.Pass

/-!
# Revision of an installation

Component `params_core::reconfigure`. An installation has stored values. Reconfiguring it runs a
pass in which the stored values are the defaults and those of immutable parameters are pinned.
Updating it moves it to other declarations, with the values of all parameters pinned that are
declared before and after. A pinned value goes before every override.

Results:

* `withStoredDefaults_name`: the stored defaults change no name.
-/

namespace Provision

/-- The immutable and the mutable parameters, each in order (`partition_immutable`). -/
def partitionImmutable (params : List Parameter) : List Parameter × List Parameter :=
  params.partition Parameter.immutable

/-- The parameters with their stored values as defaults, where there are any
    (`with_previous_defaults`). -/
def withStoredDefaults (params : List Parameter) (stored : Bindings) : List Parameter :=
  params.map fun p =>
    match stored.get? p.name with
    | some value => p.withDefault value
    | none => p

theorem withStoredDefaults_name (params : List Parameter) (stored : Bindings) :
    (withStoredDefaults params stored).map Parameter.name = params.map Parameter.name := by
  simp only [withStoredDefaults, List.map_map]
  refine List.map_congr_left fun p _ => ?_
  simp only [Function.comp_apply]
  split <;> rfl

/-- The stored values of these parameters: what `reconfigure` and `update` collect as pinned. -/
def storedValues (params : List Parameter) (stored : Bindings) : Bindings :=
  .ofList (params.filterMap fun p => (stored.get? p.name).map (p.name, ·))

/-- What the user is told of the values that cannot be changed (`report_immutable`). -/
def keepingNotices (pinned : Bindings) : List Notice :=
  if pinned.entries.isEmpty then []
  else
    let several := decide (1 < pinned.size)
    .keeping several :: (pinned.entries.map fun entry => .kept entry.1 entry.2) ++
      [.keepingAdvice several]

variable {σ : Type}

/-- A pass in which the pinned values go before the overrides (`resolve_pinned`). -/
def resolvePinned (prompter : Prompter σ) (mode : Mode) (params : List Parameter)
    (pinned overrides : Bindings) (state : σ) : Run σ Bindings :=
  resolve prompter mode params (overrides.overlay pinned) state

/-- New values for an installation with the same declarations (`reconfigure`). What is stored
    under other names is kept. -/
def reconfigure (prompter : Prompter σ) (mode : Mode) (params : List Parameter)
    (stored overrides : Bindings) (state : σ) : Run σ Bindings :=
  let pinned := storedValues (partitionImmutable params).1 stored
  ((resolvePinned prompter mode (withStoredDefaults params stored) pinned overrides
      state).andThen fun found state => .done (stored.overlay found) state).after
    ((keepingNotices pinned).map .noted)

/-- Whether a list of parameters declares a name. -/
def declares (params : List Parameter) (name : String) : Bool :=
  params.any fun p => p.name == name

/-- What the user is told of the parameters that are no longer declared: the loop of `update`. -/
def dropNotices (old new : List Parameter) : List Notice :=
  (old.filter fun p => !declares new p.name).map fun p => .dropped p.name

/-- Values for an installation that moves from the old declarations to the new ones (`update`). -/
def update (prompter : Prompter σ) (mode : Mode) (old new : List Parameter)
    (stored overrides : Bindings) (state : σ) : Run σ Bindings :=
  let pinned := storedValues (new.filter fun p => declares old p.name) stored
  (resolvePinned prompter mode new pinned overrides state).after
    ((dropNotices old new).map .noted)

end Provision

import Provision.Manifest
import Provision.Proofs.Pass.Settled

/-!
# Names in manifests

A manifest that has been read has no fault: its parameters have names, and no name occurs twice. So
a pass over its parameters does not fail on a repeated name.

Results:

* `Manifest.faultOf?_eq_none_iff`, `Manifest.firstFault?_eq_none_iff`: names without a fault.
* `Manifest.names_of_read`: the names in a manifest that has been read.
* `Manifest.Yields`: the values that passes over a manifest give.
-/

namespace Provision

namespace Manifest

theorem faultOf?_eq_none_iff {before : List String} {name : String} :
    faultOf? before name = none ↔ isName name.toList = true ∧ name ∉ before := by
  unfold faultOf? isName
  by_cases hempty : name = "" <;> by_cases hchars : name.toList.all isNameChar = true <;>
    by_cases hmem : name ∈ before <;> simp [hempty, hchars, hmem]

/-- Names have no fault exactly if all of them are names, and a pass finds none repeated. -/
theorem firstFault?_eq_none_iff {before names : List String} :
    firstFault? before names = none ↔
      (∀ name ∈ names, isName name.toList = true) ∧ firstRepeated? before names = none := by
  induction names generalizing before with
  | nil => simp [firstFault?, firstRepeated?]
  | cons name rest ih =>
    rw [firstFault?, firstRepeated?]
    cases hfault : faultOf? before name with
    | some failure =>
      have hbad : ¬ (isName name.toList = true ∧ name ∉ before) := by
        rw [← faultOf?_eq_none_iff, hfault]
        simp
      by_cases hmem : name ∈ before <;> simp_all
    | none =>
      obtain ⟨hname, hnew⟩ := faultOf?_eq_none_iff.1 hfault
      rw [if_neg hnew, List.forall_mem_cons]
      simp [ih, hname]

variable {source : String} {m : Manifest}

theorem validate_eq_ok_iff {valid : Manifest} :
    m.validate = .ok valid ↔ m = valid ∧ firstFault? [] (m.params.map Parameter.name) = none := by
  unfold validate
  cases firstFault? [] (m.params.map Parameter.name) <;> simp

/-- The parameters in a manifest that has been read have names, and these are distinct. -/
theorem names_of_read (h : read source = .ok m) :
    (∀ p ∈ m.params, isName p.name.toList = true) ∧ (m.params.map Parameter.name).Nodup := by
  unfold read at h
  split at h
  · cases h
  · obtain ⟨rfl, hfault⟩ := validate_eq_ok_iff.1 h
    obtain ⟨hnames, hrepeated⟩ := firstFault?_eq_none_iff.1 hfault
    refine ⟨fun p hp => hnames p.name (List.mem_map_of_mem hp), ?_⟩
    exact (firstRepeated?_eq_none_iff.1 hrepeated).1

/-- Some pass gives these values to the parameters that a manifest declares. -/
def Yields (source : String) (values : Bindings) : Prop :=
  ∃ (m : Manifest) (σ : Type) (prompter : Prompter σ) (mode : Mode) (overrides : Bindings)
    (state : σ), read source = .ok m ∧
      (resolve prompter mode m.params overrides state).outcome = .ok values

end Manifest

end Provision

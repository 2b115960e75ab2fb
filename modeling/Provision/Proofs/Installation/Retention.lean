import Mathlib.Data.List.Perm.Subperm
import Provision.Proofs.Installation.Update
import Provision.Proofs.Pass.Given

/-!
# Updates that keep everything

An update to parameters that have all been declared before, and have stored values of the kinds that
are declared now, keeps these values and does nothing else, whatever the new defaults and inputs are
and whatever the overrides say. So the parameters of an installation can be put in another order, or
some of them be left out, and another update to the same parameters changes nothing.

Results:

* `fits_storedValues`: the stored values of some parameters.
* `Fits.of_signatures`: only the names and the types of the declarations matter to their values.
* `update_of_fits`: an update that keeps a value for every parameter.
* `update_retained`: an update to parameters with stored values gives these.
-/

namespace Provision

variable {σ : Type} {params alike old new kept : List Parameter} {stored values : Bindings}

/-! ## Values of some parameters -/

theorem agreeOn_storedValues (params : List Parameter) (stored : Bindings) :
    AgreeOn params (storedValues params stored) stored := by
  intro p hp
  rw [Bindings.get?_storedValues, declares_of_mem hp, if_pos rfl]

/-- The stored values of parameters with distinct names that have one of their kind. -/
theorem fits_storedValues (hnd : (params.map Parameter.name).Nodup)
    (hstored : ∀ p ∈ params, ∃ value, stored.get? p.name = some value ∧ value.kind = p.type.kind) :
    Fits params (storedValues params stored) := by
  have hnames : (params.filterMap fun p => (stored.get? p.name).map (p.name, ·)).map Prod.fst =
      params.map Parameter.name := by
    rw [List.map_filterMap, ← List.filterMap_eq_map]
    refine List.filterMap_congr fun p hp => ?_
    obtain ⟨value, hvalue, -⟩ := hstored p hp
    rw [hvalue]
    rfl
  constructor
  · rw [storedValues, Bindings.ofList, Bindings.keys_insertAll _ _ (hnames ▸ hnd), hnames,
      Bindings.keys_empty]
    simp
  · intro p hp
    rw [agreeOn_storedValues params stored p hp]
    exact hstored p hp

/-- What the values of a parameter depend on: its name and its type. -/
def Parameter.signature (p : Parameter) : String × ParameterType :=
  (p.name, p.type)

theorem exists_mem_of_signatures
    (hsame : alike.map Parameter.signature = params.map Parameter.signature) {p : Parameter}
    (hp : p ∈ alike) : ∃ q ∈ params, q.name = p.name ∧ q.type = p.type := by
  have hmem : p.signature ∈ params.map Parameter.signature := hsame ▸ List.mem_map_of_mem hp
  obtain ⟨q, hq, heq⟩ := List.mem_map.1 hmem
  exact ⟨q, hq, congrArg Prod.fst heq, congrArg Prod.snd heq⟩

theorem names_of_signatures
    (hsame : alike.map Parameter.signature = params.map Parameter.signature) :
    alike.map Parameter.name = params.map Parameter.name := by
  have hnames := congrArg (List.map Prod.fst) hsame
  rwa [List.map_map, List.map_map] at hnames

theorem Fits.of_signatures (h : Fits params values)
    (hsame : alike.map Parameter.signature = params.map Parameter.signature) :
    Fits alike values := by
  refine ⟨h.keys.trans (names_of_signatures hsame).symm, fun p hp => ?_⟩
  obtain ⟨q, hq, hname, htype⟩ := exists_mem_of_signatures hsame hp
  rw [← hname, ← htype]
  exact h.kinds q hq

/-! ## Updates -/

/-- An update that keeps a value for every parameter gives these values, tells which parameters it
    drops, and calls the kept values overrides. -/
theorem update_of_fits (hfits : Fits new values)
    (hkept : ∀ p ∈ new, retained? old stored p = values.get? p.name) (prompter : Prompter σ)
    (mode : Mode) (overrides : Bindings) (state : σ) :
    update prompter mode old new stored overrides state =
      (Run.done values state).after
        ((dropNotices old new ++ givenNotices values.entries).map .noted) := by
  have hagree : AgreeOn new (updateOverrides old new stored overrides) values := by
    intro p hp
    obtain ⟨value, hvalue, -⟩ := hfits.kinds p hp
    rw [get?_updateOverrides hp, hkept p hp, hvalue, Option.some_or]
  have hpass := resolve_of_fits hfits hagree prompter mode state
  refine (congrArg (Run.after ((dropNotices old new).map .noted)) hpass).trans ?_
  simp [Run.after]

theorem dropNotices_congr (hnames : alike.map Parameter.name = new.map Parameter.name) :
    dropNotices old alike = dropNotices old new := by
  have hdeclares : declares alike = declares new := by
    funext name
    rw [Bool.eq_iff_iff, declares_iff, declares_iff, ← List.mem_map, hnames, List.mem_map]
  rw [dropNotices, dropNotices, hdeclares]

/-- Parameters from a list with values keep their values. -/
theorem exists_fewer_of_fits (hfits : Fits params values) (hsub : kept.Subperm params) :
    ∃ fewer, Fits kept fewer ∧ AgreeOn kept fewer values := by
  have hnames : (kept.map Parameter.name).Nodup := by
    have hnd : (params.map Parameter.name).Nodup := hfits.keys ▸ values.distinct
    obtain ⟨between, hperm, hsublist⟩ := hsub
    exact (hperm.map Parameter.name).nodup_iff.1 ((hsublist.map Parameter.name).nodup hnd)
  exact ⟨storedValues kept values,
    fits_storedValues hnames fun p hp => hfits.kinds p (hsub.subset hp),
    agreeOn_storedValues kept values⟩

/-- An update to some of the parameters that have values keeps exactly the values of these. -/
theorem silent_update_of_subset {fewer : Bindings} (hfits : Fits kept fewer)
    (hagree : AgreeOn kept fewer values) (hsubset : kept ⊆ old) (prompter : Prompter σ)
    (mode : Mode) (overrides : Bindings) (state : σ) :
    (update prompter mode old kept values overrides state).Silent state fewer := by
  rw [update_of_fits hfits fun p hp => ?_]
  · exact Run.silent_after_noted fewer _ state
  · rw [retained?, declares_of_mem (hsubset hp), if_pos rfl, hagree p hp]

/-- **Retention.** Let the names of the new declarations be distinct, and let each of them have been
    declared before and have a stored value of the kind that is declared now. Then an update gives
    exactly these values in the new order, in both modes, at every prompter and whatever the
    overrides are, without a question. It does not look at a default, an input or anything else of
    a declaration but its name and its type. An update from there to some of the new parameters, in
    any order, keeps their values, and the same update once more changes nothing. -/
theorem update_retained (hnd : (new.map Parameter.name).Nodup)
    (hkept : ∀ p ∈ new, declares old p.name = true ∧
      ∃ value, stored.get? p.name = some value ∧ value.kind = p.type.kind) :
    ∃ values, values.keys = new.map Parameter.name ∧ AgreeOn new values stored ∧
      (∀ alike, alike.map Parameter.signature = new.map Parameter.signature →
        ∀ (σ : Type) (prompter : Prompter σ) (mode : Mode) (overrides : Bindings) (state : σ),
          let run := update prompter mode old alike stored overrides state
          run.Silent state values ∧
            run.notices = dropNotices old new ++ givenNotices values.entries) ∧
      ∀ kept, kept.Subperm new →
        ∃ fewer, fewer.keys = kept.map Parameter.name ∧ AgreeOn kept fewer stored ∧
          ∀ (σ : Type) (prompter : Prompter σ) (mode : Mode) (overrides : Bindings) (state : σ),
            (update prompter mode new kept values overrides state).Silent state fewer ∧
            (update prompter mode kept kept fewer overrides state).Silent state fewer := by
  have hfits : Fits new (storedValues new stored) :=
    fits_storedValues hnd fun p hp => (hkept p hp).2
  have hagree : AgreeOn new (storedValues new stored) stored := agreeOn_storedValues new stored
  refine ⟨storedValues new stored, hfits.keys, hagree, ?_, ?_⟩
  · intro alike hsame σ prompter mode overrides state run
    -- A kept value is found by its name, which the other declaration has too.
    have hretained : ∀ p ∈ alike,
        retained? old stored p = (storedValues new stored).get? p.name := by
      intro p hp
      obtain ⟨q, hq, hname, -⟩ := exists_mem_of_signatures hsame hp
      rw [retained?, ← hname, (hkept q hq).1, if_pos rfl, hagree q hq]
    have hrun : run = _ :=
      update_of_fits (hfits.of_signatures hsame) hretained prompter mode overrides state
    rw [hrun, dropNotices_congr (names_of_signatures hsame)]
    exact ⟨Run.silent_after_noted _ _ state, Run.notices_done_after_noted _ _ state⟩
  · intro kept hsub
    obtain ⟨fewer, hfewer, hsame⟩ := exists_fewer_of_fits hfits hsub
    refine ⟨fewer, hfewer.keys, fun p hp => (hsame p hp).trans (hagree p (hsub.subset hp)), ?_⟩
    intro σ prompter mode overrides state
    exact ⟨silent_update_of_subset hfewer hsame hsub.subset prompter mode overrides state,
      silent_update_of_subset hfewer (fun _ _ => rfl) (List.Subset.refl kept) prompter mode
        overrides state⟩

/-- A default that is no template after all, a selection, and overrides of other types. One of the
    old parameters is dropped, the others are put in another order, and then one of them is left. -/
theorem update_retained_hostile :
    let zone : Parameter :=
      { Parameter.plain .text "ZONE" with input := some (.select [⟨none, .text "us"⟩]) }
    let size := (Parameter.plain .integer "SIZE").withDefault (.text "\x7b\x7b params.GONE")
    let old := [.plain .text "NOTE", .plain .text "ZONE", .plain .integer "SIZE"]
    let stored := Bindings.ofList
      [("NOTE", .text "n"), ("ZONE", .text "\x7b\x7b"), ("SIZE", .integer 3)]
    let overrides := Bindings.ofList [("SIZE", .text "many"), ("ZONE", .boolean true)]
    let run := fun old new stored => update scripted .interactive old new stored overrides []
    let values := Bindings.ofList [("SIZE", .integer 3), ("ZONE", .text "\x7b\x7b")]
    (run old [size, zone] stored).Silent [] values ∧
      ∃ fewer, fewer.keys = ["ZONE"] ∧ (run [size, zone] [zone] values).Silent [] fewer ∧
        (run [zone] [zone] fewer).Silent [] fewer := by
  intro zone size old stored overrides run values
  have hnd : ([size, zone].map Parameter.name).Nodup := by decide
  have hkept : ∀ p ∈ [size, zone], declares old p.name = true ∧
      ∃ value, stored.get? p.name = some value ∧ value.kind = p.type.kind := by decide
  obtain ⟨found, -, -, hfirst, hlater⟩ := update_retained hnd hkept
  have hrun : (run old [size, zone] stored).Silent [] found :=
    (hfirst [size, zone] rfl Script scripted .interactive overrides []).1
  have hfound : found = values := by
    have hvalues : (run old [size, zone] stored).outcome = .ok values := rfl
    exact Except.ok.inj (hrun.outcome.symm.trans hvalues)
  subst hfound
  obtain ⟨fewer, hkeys, -, hfewer⟩ :=
    hlater [zone] (List.sublist_cons_self size [zone]).subperm
  exact ⟨hrun, fewer, hkeys, hfewer Script scripted .interactive overrides []⟩

end Provision

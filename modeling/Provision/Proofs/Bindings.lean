import Mathlib.Data.List.Nodup
import Mathlib.Data.Option.Basic
import Provision.Installation.Revision

/-!
# The view of bindings

Bindings are known by their names in order and by the value of each name. Each operation is
described through this view, so that no later proof looks at the entries themselves.

Results:

* `Bindings.ext_view`: bindings with the same names in order and the same values are equal.
* `Bindings.get?_of_prefix`: the values of the names in the first entries.
* `Bindings.get?_overlay`, `Bindings.keys_overlay`: an overlay goes before, and what is new in
  it comes behind.
* `Bindings.get?_storedValues`: the stored values of some parameters.
-/

namespace Provision

namespace Bindings

/-! ## Entries and names -/

theorem mem_keys_iff {b : Bindings} {name : String} :
    name ∈ b.keys ↔ ∃ value, b.get? name = some value := by
  rw [← Option.isSome_iff_exists, ← not_iff_not, ← get?_eq_none_iff,
    Option.not_isSome_iff_eq_none]

theorem lookup_eq_of_mem {entries : List (String × Scalar)} {entry : String × Scalar}
    (hnd : (entries.map Prod.fst).Nodup) (h : entry ∈ entries) :
    entries.lookup entry.1 = some entry.2 := by
  induction entries with
  | nil => cases h
  | cons head rest ih =>
    rw [List.map_cons, List.nodup_cons] at hnd
    rcases List.mem_cons.1 h with rfl | h
    · exact List.lookup_cons_self
    · have hne : entry.1 ≠ head.1 := by
        intro heq
        exact hnd.1 (heq ▸ List.mem_map_of_mem h)
      rw [List.lookup_cons, beq_eq_false_iff_ne.2 hne]
      exact ih hnd.2 h

theorem get?_of_mem {b : Bindings} {entry : String × Scalar} (h : entry ∈ b.entries) :
    b.get? entry.1 = some entry.2 :=
  lookup_eq_of_mem b.distinct h

theorem mem_entries_iff {b : Bindings} {name : String} {value : Scalar} :
    (name, value) ∈ b.entries ↔ b.get? name = some value := by
  constructor
  · intro h
    exact get?_of_mem h
  · intro h
    obtain ⟨front, rest, hsplit, -⟩ := List.lookup_eq_some_iff.1 h
    rw [hsplit]
    simp

/-- Names that are bound in the first entries have the same values in all of them. -/
theorem get?_of_prefix {a b : Bindings} (h : a.entries <+: b.entries) {name : String}
    (hname : name ∈ a.keys) : b.get? name = a.get? name := by
  obtain ⟨value, hvalue⟩ := mem_keys_iff.1 hname
  rw [hvalue]
  exact mem_entries_iff.1 (h.subset (mem_entries_iff.2 hvalue))

theorem entries_eq_map (b : Bindings) :
    b.entries.map some = b.keys.map fun name => (b.get? name).map (name, ·) := by
  rw [keys, List.map_map]
  refine List.map_congr_left fun entry hentry => ?_
  simp [get?_of_mem hentry]

/-- **Extensionality.** Bindings are determined by their names in order and their values. -/
theorem ext_view {a b : Bindings} (hkeys : a.keys = b.keys)
    (hget : ∀ name ∈ a.keys, a.get? name = b.get? name) : a = b := by
  apply Bindings.ext
  apply List.map_injective_iff.2 (Option.some_injective _)
  rw [entries_eq_map, entries_eq_map, ← hkeys]
  exact List.map_congr_left fun name hname => by rw [hget name hname]

/-! ## Single bindings -/

theorem get?_empty (name : String) : empty.get? name = none :=
  rfl

theorem keys_empty : empty.keys = [] :=
  rfl

theorem mem_keys_insert {b : Bindings} {name other : String} {value : Scalar} :
    other ∈ (b.insert name value).keys ↔ other = name ∨ other ∈ b.keys := by
  rw [keys_insert]
  split_ifs with h
  · constructor
    · exact Or.inr
    · rintro (rfl | h')
      · exact h
      · exact h'
  · simp [or_comm]

theorem put_of_not_mem {name : String} (value : Scalar) {entries : List (String × Scalar)}
    (h : name ∉ entries.map Prod.fst) : put name value entries = entries ++ [(name, value)] := by
  induction entries with
  | nil => rfl
  | cons entry rest ih =>
    rw [List.map_cons, List.mem_cons, not_or] at h
    rw [put, if_neg (Ne.symm h.1), ih h.2, List.cons_append]

theorem entries_insert {b : Bindings} {name : String} (h : name ∉ b.keys) (value : Scalar) :
    (b.insert name value).entries = b.entries ++ [(name, value)] :=
  put_of_not_mem value h

/-! ## Overlays -/

theorem get?_insertAll (b : Bindings) (entries : List (String × Scalar)) (name : String)
    (hnd : (entries.map Prod.fst).Nodup) :
    (b.insertAll entries).get? name = (entries.lookup name).or (b.get? name) := by
  induction entries generalizing b with
  | nil => rfl
  | cons entry rest ih =>
    rw [List.map_cons, List.nodup_cons] at hnd
    rw [insertAll_cons, ih _ hnd.2, get?_insert, List.lookup_cons]
    by_cases h : name = entry.1
    · have hnone : rest.lookup entry.1 = none := by
        rw [List.lookup_eq_none_iff]
        intro e he
        exact bne_iff_ne.2 fun heq => hnd.1 (heq ▸ List.mem_map_of_mem he)
      subst h
      simp [hnone]
    · simp [h, beq_eq_false_iff_ne.2 h]

theorem keys_insertAll (b : Bindings) (entries : List (String × Scalar))
    (hnd : (entries.map Prod.fst).Nodup) :
    (b.insertAll entries).keys =
      b.keys ++ (entries.map Prod.fst).filter fun name => decide (name ∉ b.keys) := by
  induction entries generalizing b with
  | nil => exact (List.append_nil _).symm
  | cons entry rest ih =>
    rw [List.map_cons, List.nodup_cons] at hnd
    rw [insertAll_cons, ih _ hnd.2, List.map_cons, List.filter_cons]
    have hrest : (rest.map Prod.fst).filter
          (fun name => decide (name ∉ (b.insert entry.1 entry.2).keys)) =
        (rest.map Prod.fst).filter fun name => decide (name ∉ b.keys) := by
      refine List.filter_congr fun name hname => ?_
      have hne : name ≠ entry.1 := by rintro rfl; exact hnd.1 hname
      simp [mem_keys_insert, hne]
    rw [hrest, keys_insert]
    by_cases h : entry.1 ∈ b.keys <;> simp [h]

theorem get?_overlay (b other : Bindings) (name : String) :
    (b.overlay other).get? name = (other.get? name).or (b.get? name) :=
  get?_insertAll b other.entries name other.distinct

theorem keys_overlay (b other : Bindings) :
    (b.overlay other).keys = b.keys ++ other.keys.filter fun name => decide (name ∉ b.keys) :=
  keys_insertAll b other.entries other.distinct

theorem ofList_entries (b : Bindings) : ofList b.entries = b := by
  apply ext_view
  · rw [ofList, keys_insertAll _ _ b.distinct, keys_empty]
    simp [keys]
  · intro name _
    rw [ofList, get?_insertAll _ _ _ b.distinct, get?_empty]
    simp [get?]

theorem overlay_of_keys_eq {b other : Bindings} (h : b.keys = other.keys) :
    b.overlay other = other := by
  apply ext_view
  · have hnone : other.keys.filter (fun name => decide (name ∉ other.keys)) = [] := by simp
    rw [keys_overlay, h, hnone, List.append_nil]
  · intro name hname
    rw [keys_overlay, h, List.mem_append, List.mem_filter] at hname
    have hmem : name ∈ other.keys := by
      rcases hname with hname | hname
      · exact hname
      · exact hname.1
    obtain ⟨value, hvalue⟩ := mem_keys_iff.1 hmem
    rw [get?_overlay, hvalue, Option.some_or]

end Bindings

/-! ## Stored values of parameters -/

theorem declares_iff {params : List Parameter} {name : String} :
    declares params name = true ↔ ∃ p ∈ params, p.name = name := by
  simp [declares]

theorem declares_of_mem {params : List Parameter} {p : Parameter} (h : p ∈ params) :
    declares params p.name = true :=
  declares_iff.2 ⟨p, h, rfl⟩

/-- Of some parameters, those that are declared in another list too. -/
theorem declares_filter (old new : List Parameter) (name : String) :
    declares (new.filter fun p => declares old p.name) name =
      (declares new name && declares old name) := by
  rw [Bool.eq_iff_iff, Bool.and_eq_true, declares_iff, declares_iff]
  constructor
  · rintro ⟨p, hp, rfl⟩
    obtain ⟨hp, hold⟩ := List.mem_filter.1 hp
    exact ⟨⟨p, hp, rfl⟩, hold⟩
  · rintro ⟨⟨p, hp, rfl⟩, hold⟩
    exact ⟨p, List.mem_filter.2 ⟨hp, hold⟩, rfl⟩

theorem Bindings.get?_insertAll_storedValues (b stored : Bindings) (params : List Parameter)
    (name : String) :
    (b.insertAll (params.filterMap fun p => (stored.get? p.name).map (p.name, ·))).get? name =
      if declares params name then (stored.get? name).or (b.get? name) else b.get? name := by
  induction params generalizing b with
  | nil => rfl
  | cons p rest ih =>
    have hcons : declares (p :: rest) name = (p.name == name || declares rest name) := rfl
    rw [List.filterMap_cons, hcons]
    cases hp : stored.get? p.name with
    | none =>
      simp only [Option.map_none]
      rw [ih]
      by_cases h : p.name = name
      · subst h
        simp [hp]
      · simp [beq_eq_false_iff_ne.2 h]
    | some value =>
      simp only [Option.map_some]
      rw [insertAll_cons, ih, get?_insert]
      by_cases h : p.name = name
      · subst h
        simp [hp]
      · simp [beq_eq_false_iff_ne.2 h, Ne.symm h]

theorem Bindings.get?_storedValues (params : List Parameter) (stored : Bindings) (name : String) :
    (storedValues params stored).get? name =
      if declares params name then stored.get? name else none := by
  rw [storedValues, ofList, get?_insertAll_storedValues, get?_empty]
  simp

/-- The stored values of the parameters of a list that are declared in another one too. -/
theorem Bindings.get?_storedValues_filter {old new : List Parameter} {p : Parameter} (hp : p ∈ new)
    (stored : Bindings) :
    (storedValues (new.filter fun p => declares old p.name) stored).get? p.name =
      if declares old p.name then stored.get? p.name else none := by
  rw [get?_storedValues, declares_filter, declares_of_mem hp, Bool.true_and]

end Provision

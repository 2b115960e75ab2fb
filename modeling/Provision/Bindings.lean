import Provision.Scalar

/-!
# Bindings

A finite map from names to scalars that remembers the order in which the names came. Binding a
name again replaces its value and keeps its place.

Results:

* `Bindings.get?_insert`: what each name is bound to after a binding.
* `Bindings.keys_insert`: a new name goes to the end.
* `Bindings.get?_eq_none_iff`: exactly the names without an entry have no value.
-/

namespace Provision

namespace Bindings

/-- The entries after binding `name`: its entry is replaced, or a new one put at the end. -/
def put (name : String) (value : Scalar) : List (String × Scalar) → List (String × Scalar)
  | [] => [(name, value)]
  | (key, old) :: rest =>
    if key = name then (key, value) :: rest else (key, old) :: put name value rest

theorem map_fst_put (name : String) (value : Scalar) (entries : List (String × Scalar)) :
    (put name value entries).map Prod.fst =
      if name ∈ entries.map Prod.fst then entries.map Prod.fst
      else entries.map Prod.fst ++ [name] := by
  induction entries with
  | nil => simp [put]
  | cons entry rest ih =>
    obtain ⟨key, old⟩ := entry
    by_cases h : key = name
    · simp [put, h]
    · simp only [put, h, if_false, List.map_cons, ih, List.mem_cons]
      by_cases hr : name ∈ rest.map Prod.fst
      · simp [hr]
      · simp [hr, Ne.symm h]

theorem nodup_put {name : String} {value : Scalar} {entries : List (String × Scalar)}
    (h : (entries.map Prod.fst).Nodup) : ((put name value entries).map Prod.fst).Nodup := by
  rw [map_fst_put]
  split
  · exact h
  · next hn =>
    rw [List.nodup_append]
    refine ⟨h, by simp, ?_⟩
    intro a ha b hb
    rw [List.mem_singleton] at hb
    rintro rfl
    exact hn (hb ▸ ha)

theorem lookup_put (name other : String) (value : Scalar) (entries : List (String × Scalar)) :
    (put name value entries).lookup other =
      if other = name then some value else entries.lookup other := by
  induction entries with
  | nil => by_cases h : other = name <;> simp [put, List.lookup_cons, h, beq_eq_false_iff_ne.2]
  | cons entry rest ih =>
    obtain ⟨key, old⟩ := entry
    by_cases h : key = name
    · subst h
      by_cases ho : other = key
      · simp [put, ho]
      · simp [put, List.lookup_cons, ho, beq_eq_false_iff_ne.2 ho]
    · by_cases ho : other = key
      · subst ho
        simp [put, h]
      · simp [put, h, List.lookup_cons, beq_eq_false_iff_ne.2 ho, ih]

end Bindings

/-- An ordered map from names to scalars (`ParamValues`). No name has two entries. -/
structure Bindings where
  /-- The entries in the order in which their names came. -/
  entries : List (String × Scalar)
  distinct : (entries.map Prod.fst).Nodup

namespace Bindings

/-- The map without an entry. -/
def empty : Bindings :=
  ⟨[], by simp⟩

/-- The names in order. -/
def keys (b : Bindings) : List String :=
  b.entries.map Prod.fst

/-- The number of entries. -/
def size (b : Bindings) : Nat :=
  b.entries.length

/-- The value bound to a name. -/
def get? (b : Bindings) (name : String) : Option Scalar :=
  b.entries.lookup name

/-- Whether a name is bound. -/
def contains (b : Bindings) (name : String) : Bool :=
  (b.get? name).isSome

/-- Binds a name: its value is replaced where it stands, or a new entry put at the end. -/
def insert (b : Bindings) (name : String) (value : Scalar) : Bindings :=
  ⟨put name value b.entries, nodup_put b.distinct⟩

/-- Binds each entry of a list in turn. -/
def insertAll (b : Bindings) (entries : List (String × Scalar)) : Bindings :=
  entries.foldl (fun acc entry => acc.insert entry.1 entry.2) b

/-- The map that binds each entry of a list in turn. -/
def ofList (entries : List (String × Scalar)) : Bindings :=
  empty.insertAll entries

/-- The map overlaid with the entries of another one (`extend`). -/
def overlay (b other : Bindings) : Bindings :=
  b.insertAll other.entries

/-- The map without a name. -/
def erase (b : Bindings) (name : String) : Bindings where
  entries := b.entries.filter fun entry => entry.1 != name
  distinct := (List.Sublist.map _ List.filter_sublist).nodup b.distinct

@[ext]
theorem ext {a b : Bindings} (h : a.entries = b.entries) : a = b := by
  cases a; cases b; cases h; rfl

theorem get?_insert (b : Bindings) (name other : String) (value : Scalar) :
    (b.insert name value).get? other = if other = name then some value else b.get? other :=
  lookup_put name other value b.entries

theorem keys_insert (b : Bindings) (name : String) (value : Scalar) :
    (b.insert name value).keys = if name ∈ b.keys then b.keys else b.keys ++ [name] :=
  map_fst_put name value b.entries

theorem get?_eq_none_iff {b : Bindings} {name : String} :
    b.get? name = none ↔ name ∉ b.keys := by
  simp only [get?, keys]
  induction b.entries with
  | nil => simp
  | cons entry rest ih =>
    obtain ⟨key, value⟩ := entry
    by_cases h : name = key
    · simp [h]
    · simp [List.lookup_cons, h, beq_eq_false_iff_ne.2 h, ih]

theorem insertAll_cons (b : Bindings) (entry : String × Scalar) (rest : List (String × Scalar)) :
    b.insertAll (entry :: rest) = (b.insert entry.1 entry.2).insertAll rest :=
  rfl

end Bindings

end Provision

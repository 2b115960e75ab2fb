import Provision.Output.Format
import Provision.Proofs.Bindings
import Provision.Proofs.Text.Blank
import Provision.Proofs.Toml.Document
import Provision.Snapshot

/-!
# Snapshots read back

The values of a snapshot survive being written and read, whatever their names and whatever the
values are. They also survive being printed as a table: the last character of the last line is
no white space, so that nothing but line ends is trimmed.

Results:

* `trimEnd_write`: a written table that is trimmed and ended again is the same.
* `Snapshot.read_printed`: a printed table is read back.
* `Snapshot.read_write`: a snapshot is read back, from a file and from what is printed.
-/

namespace Provision

/-! ## The end of a table -/

theorem writeEntry_eq_concat (entry : String × Scalar) :
    ∃ front c, Toml.writeEntry entry = front ++ c :: ['\n'] ∧ isBlank c = false := by
  obtain ⟨front, c, hwritten, hc⟩ := Toml.writeScalar_eq_concat entry.2
  refine ⟨Toml.writeKey entry.1.toList ++ ([' ', '=', ' '] ++ front), c, ?_, hc⟩
  simp [Toml.writeEntry, hwritten]

theorem trimEnd_write {values : Bindings} (h : values.entries ≠ []) :
    trimEnd (Toml.write values) ++ ['\n'] = Toml.write values := by
  obtain ⟨front, c, hlast, hc⟩ := writeEntry_eq_concat (values.entries.getLast h)
  have hwritten : Toml.write values =
      (values.entries.dropLast.flatMap Toml.writeEntry ++ front) ++ c :: ['\n'] := by
    rw [Toml.write, ← List.dropLast_append_getLast h, List.flatMap_append,
      List.dropLast_append_getLast h, List.flatMap_singleton, hlast]
    simp
  rw [hwritten, trimEnd_append_cons hc, List.append_assoc]
  rfl

namespace Snapshot

/-! ## Snapshots -/

theorem entries?_ofScalar (entries : List (String × Scalar)) :
    entries? (entries.map fun entry => (entry.1, Toml.ofScalar entry.2)) = some entries := by
  induction entries with
  | nil => rfl
  | cons entry entries ih =>
    obtain ⟨key, value⟩ := entry
    have hvalue : (Toml.ofScalar value).toScalar? = some value := by cases value <;> rfl
    rw [List.map_cons, entries?, hvalue]
    simp [ih]

theorem read_of_toList {source : String} {values : Bindings}
    (h : Toml.read? source.toList =
      some (values.entries.map fun entry => (entry.1, Toml.ofScalar entry.2))) :
    read source = .ok values := by
  simp only [read, h, Option.bind_some, entries?_ofScalar, Bindings.ofList_entries]

/-- A printed table is read back. The table without values is printed as an empty line. -/
theorem read_printed (values : Bindings) : read (Format.toml.printed values) = .ok values := by
  apply read_of_toList
  rw [Format.printed, String.toList_ofList, Format.render]
  by_cases h : values.entries = []
  · rw [Toml.write, h]
    exact Toml.read?_feed
  · rw [trimEnd_write h, Toml.read?_write]

/-- **Snapshots are read back.** All values are read back from the snapshot that is written of
    them, with the same names in the same order, and so they are from what is printed. -/
theorem read_write (values : Bindings) :
    read (write values) = .ok values ∧ read (Format.toml.printed values) = .ok values := by
  refine ⟨?_, read_printed values⟩
  apply read_of_toList
  rw [write, String.toList_ofList, Toml.read?_write]

end Snapshot

end Provision

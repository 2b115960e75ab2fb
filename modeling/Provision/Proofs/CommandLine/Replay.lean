import Provision.Proofs.CommandLine.Action
import Provision.Proofs.CommandLine.Arguments
import Provision.Proofs.Installation.Retention
import Provision.Proofs.Snapshot

/-!
# Printed tables as files

What a pass prints as a table can be stored in a file. The file gives the same pass its overrides,
or an update its stored values, and the same table is printed again.

Results:

* `Contents.readManifest_text`, `Contents.readValues?_text`: files that hold a text.
* `CommandLine.valuesFound_printed`: the values of a file that holds a printed table.
* `CommandLine.run_replays`: a printed table is printed again.
-/

namespace Provision

/-! ## Files -/

namespace Contents

theorem text_toUTF8 (source : String) : (file source.toUTF8).text = .ok (some source) := by
  have hsource : String.fromUTF8? source.toUTF8 = some source :=
    dif_pos source.isValidUTF8
  simp only [text, hsource]

theorem readManifest_text (path source : String) :
    (file source.toUTF8).readManifest path = Manifest.read source := by
  simp only [readManifest, exist, text_toUTF8, if_true]

theorem readValues?_text (source : String) :
    (file source.toUTF8).readValues? = (Snapshot.read source).map some := by
  simp only [readValues?, text_toUTF8]

end Contents

/-- Only manifests that state one version are of the same version. -/
theorem Manifest.sameVersion_eq_false {a b : Manifest}
    (h : ∀ version, a.version = some version → b.version ≠ some version) :
    a.sameVersion b = false := by
  unfold sameVersion
  split
  · next x y hx hy =>
    have hne : x ≠ y := by
      rintro rfl
      exact h x hx hy
    simpa using hne
  · rfl

namespace CommandLine

open Arguments

variable {world after : World} {declarations overrides stored printed : String}
  {shown : List Shown} {values : Bindings} {m renewed : Manifest}

theorem valuesFound_printed
    (h : world.contents stored = .file (Format.toml.printed values).toUTF8) :
    valuesFound world (some stored) = .ok values := by
  rw [valuesFound, h, Contents.readValues?_text, Snapshot.read_printed]
  rfl

/-! ## Passes -/

theorem isPathWord_of_finished
    (h : run world (resolveWords declarations overrides) = .finished printed shown) :
    IsPathWord declarations ∧ IsPathWord overrides := by
  by_contra hwords
  rw [run, ofWords?_resolveWords, if_neg hwords] at h
  cases h

theorem run_resolveWords_iff (hdeclarations : IsPathWord declarations)
    (hoverrides : IsPathWord overrides) :
    (∃ shown, run world (resolveWords declarations overrides) = .finished printed shown) ↔
      ResolvePrints world ⟨declarations, some overrides, .toml⟩ printed :=
  run_resolve_iff ((ofWords?_resolveWords _ _ _).trans (if_pos ⟨hdeclarations, hoverrides⟩))

/-- The values of a pass, as overrides, are printed as they have been. -/
theorem resolvePrints_of_fits
    (hm : (world.contents declarations).readManifest declarations = .ok m)
    (hvalues : valuesFound world (some stored) = .ok values) (hfits : Fits m.params values) :
    ResolvePrints world ⟨declarations, some stored, .toml⟩ (Format.toml.printed values) := by
  refine ⟨m, values, values, hm, hvalues, ?_, rfl⟩
  rw [resolve_of_fits hfits fun _ _ => rfl]
  rfl

/-! ## Updates -/

/-- The values of a pass, as stored values of an update to the same parameters, are printed as they
    have been. -/
theorem updatePrints_of_fits {found : Bindings} (hparams : renewed.params = m.params)
    (hversion : m.sameVersion renewed = false)
    (hvalues : valuesFound world (some stored) = .ok values) (hfits : Fits m.params values) :
    UpdatePrints world .toml stored m renewed found (Format.toml.printed values) := by
  have hkept : ∀ p ∈ renewed.params, retained? m.params values p = values.get? p.name := by
    intro p hp
    rw [retained?, declares_of_mem (hparams ▸ hp), if_pos rfl]
  rw [UpdatePrints, if_neg (by simp [hversion])]
  refine ⟨values, values, hvalues, ?_, rfl⟩
  rw [update_of_fits (hparams ▸ hfits) hkept]
  rfl

/-! ## Tables that are printed again -/

/-- **Replay.** If a pass without questions prints a table, and the table is stored in a file, then
    the same pass with this file for its overrides prints it again. So does an update from these
    declarations to others with the same parameters, where the file holds the stored values, unless
    both state one version; overrides make no difference to it, if they can be read. -/
theorem run_replays
    (h : run world (resolveWords declarations overrides) = .finished printed shown)
    (hkept : after.contents declarations = world.contents declarations)
    (hstored : IsPathWord stored) (hfile : after.contents stored = .file printed.toUTF8) :
    (∃ shown, run after (resolveWords declarations stored) = .finished printed shown) ∧
    ∀ (other : String) (m renewed : Manifest), IsPathWord other →
      (after.contents declarations).readManifest declarations = .ok m →
      (after.contents other).readManifest other = .ok renewed →
      renewed.params = m.params →
      (∀ version, m.version = some version → renewed.version ≠ some version) →
      ∀ more : Option String, (∀ path, more = some path → IsPathWord path ∧
          ∃ found, (after.contents path).readValues? = .ok found) →
        ∃ shown, run after (updateWords other declarations stored more) =
          .finished printed shown := by
  obtain ⟨hdeclarations, hoverrides⟩ := isPathWord_of_finished h
  obtain ⟨m, given, values, hm, -, hvalues, rfl⟩ :=
    (run_resolveWords_iff hdeclarations hoverrides).1 ⟨shown, h⟩
  have hfits : Fits m.params values := fits_of_resolve hvalues
  have hfound : valuesFound after (some stored) = .ok values := valuesFound_printed hfile
  rw [← hkept] at hm
  constructor
  · exact (run_resolveWords_iff hdeclarations hstored).2 (resolvePrints_of_fits hm hfound hfits)
  · intro other m' renewed hother hm' hrenewed hparams hversion more hmore
    cases hm.symm.trans hm'
    obtain ⟨more', hmore'⟩ : ∃ more', valuesFound after more = .ok more' := by
      cases more with
      | none => exact ⟨.empty, rfl⟩
      | some path =>
        obtain ⟨-, found, hread⟩ := hmore path rfl
        exact ⟨found.getD .empty, Except.map_eq_ok_iff.2 ⟨found, hread, rfl⟩⟩
    have hwords := ofWords?_updateWords hother hdeclarations hstored
      (fun path hpath => (hmore path hpath).1) after.environment
    refine (run_update_iff hwords).2 ⟨renewed, more', m, hrenewed, hmore', hm, ?_⟩
    exact updatePrints_of_fits hparams (Manifest.sameVersion_eq_false hversion) hfound hfits

/-- A text with delimiters, a blank in front and a line end behind, and a negative integer. The
    declarations state a version, and the ones to which they are updated another one. -/
theorem run_replays_renewed :
    let manifest := fun version => "version='" ++ version ++
      "'\n[[params]]\nname='FLAG'\ntype='string'\n[[params]]\nname='SIZE'\ntype='int'\n"
    let given := Bindings.ofList
      [("SIZE", .integer (-3)), ("FLAG", .text " \x7b\x7b x \x7d\x7d\n")]
    let values := Bindings.ofList
      [("FLAG", .text " \x7b\x7b x \x7d\x7d\n"), ("SIZE", .integer (-3))]
    let printed := Format.toml.printed values
    let files := [("old", manifest "1"), ("given", Format.toml.printed given)]
    let worldOf := fun files : List (String × String) =>
      (⟨fun path => (files.lookup path).elim .missing fun source => .file source.toUTF8,
        none, false, false, []⟩ : World)
    let after := worldOf (("table", printed) :: ("new", manifest "2") :: files)
    (∃ shown, run (worldOf files) (resolveWords "old" "given") = .finished printed shown) ∧
      (∃ shown, run after (resolveWords "old" "table") = .finished printed shown) ∧
      ∃ shown, run after (updateWords "new" "old" "table" (some "given")) =
        .finished printed shown := by
  intro manifest given values printed files worldOf after
  have hread : ∀ version, version = "1" ∨ version = "2" → Manifest.read (manifest version) =
      .ok ⟨some version, [.plain .text "FLAG", .plain .integer "SIZE"]⟩ := by
    intro version hversion
    have hlines : Toml.lines? (Toml.withoutMark (manifest version).toList) =
        some [.pair ⟨[], "version", .text version⟩, .header ⟨true, [], "params"⟩,
          .pair ⟨[], "name", .text "FLAG"⟩, .pair ⟨[], "type", .text "string"⟩,
          .header ⟨true, [], "params"⟩, .pair ⟨[], "name", .text "SIZE"⟩,
          .pair ⟨[], "type", .text "int"⟩] := by
      unfold manifest
      rcases hversion with rfl | rfl
      all_goals
        iterate 7 refine Toml.lines?_of_line (by decide) rfl rfl (by decide) ?_
        exact Toml.lines?_nil
    rw [Manifest.read, Toml.read?, hlines]
    rcases hversion with rfl | rfl <;> rfl
  have hold := (Contents.readManifest_text "old" (manifest "1")).trans (hread "1" (Or.inl rfl))
  have hnew := (Contents.readManifest_text "new" (manifest "2")).trans (hread "2" (Or.inr rfl))
  have hgiven := Contents.readValues?_text (Format.toml.printed given)
  rw [Snapshot.read_printed] at hgiven
  have hpath : ∀ path ∈ ["old", "new", "given", "table"], IsPathWord path := by
    simp only [List.forall_mem_cons]
    refine ⟨?_, ?_, ?_, ?_, by simp⟩
    all_goals exact isPathWord_of_head rfl (by decide)
  obtain ⟨shown, hfirst⟩ : ∃ shown, run (worldOf files) (resolveWords "old" "given") =
      .finished printed shown :=
    (run_resolveWords_iff (hpath "old" (by simp)) (hpath "given" (by simp))).2
      ⟨_, given, values, hold, valuesFound_printed rfl, rfl, rfl⟩
  have hreplays : (∃ shown, run after (resolveWords "old" "table") = .finished printed shown) ∧ _ :=
    run_replays hfirst rfl (hpath "table" (by simp)) rfl
  refine ⟨⟨shown, hfirst⟩, hreplays.1, ?_⟩
  refine hreplays.2 "new" _ _ (hpath "new" (by simp)) hold hnew rfl ?_ (some "given") ?_
  · rintro version ⟨⟩
    decide
  · rintro path ⟨⟩
    exact ⟨hpath "given" (by simp), _, hgiven⟩

end CommandLine

end Provision

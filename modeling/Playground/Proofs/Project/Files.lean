import Playground.Project.Manifest
import Playground.Proofs.Disk.SourceTree
import Playground.Proofs.Options.Reading

namespace Playground

namespace Project

/-- The files of a project are the entries of its manifest, each name in its first place. -/
theorem files_of_ofValue {v : Value} {project : Project} (h : ofValue v = .ok project) :
    ∃ fields files, Setting.field "files" []
      (Setting.entries Setting.virtualPath Setting.text) fields = .ok files ∧
      project.files = Assoc.ofPairs files := by
  obtain ⟨fields, -, hfields⟩ := bind_eq_ok h
  obtain ⟨⟨version, name, services, main, files, root, options⟩, hread, hend⟩ := bind_eq_ok hfields
  cases hend
  have hservices := (Checked.both_eq_ok (Checked.both_eq_ok hread).2).2
  have hfiles := (Checked.both_eq_ok (Checked.both_eq_ok (Checked.both_eq_ok hservices).2).2).1
  exact ⟨fields, files, hfiles, rfl⟩

/-- The files that a manifest holds itself are checked one by one. -/
theorem isVirtual_of_ofValue {v : Value} {project : Project} (h : ofValue v = .ok project) :
    ∀ key ∈ Assoc.keys project.files, Path.IsVirtual key := by
  obtain ⟨fields, files, hfiles, hproject⟩ := files_of_ofValue h
  rw [hproject]
  intro key hkey
  have hmem : key ∈ Assoc.keys files := (Assoc.mem_keys_putAll.1 hkey).resolve_left List.not_mem_nil
  rcases Setting.field_eq_ok hfiles with rfl | ⟨entries, hentries⟩
  · exact absurd hmem List.not_mem_nil
  · obtain ⟨k, hk⟩ := Setting.entries_eq_ok hentries key hmem
    exact Setting.virtualPath_eq_ok hk

end Project

namespace Manifest

theorem ofValue_of_described {d : Disk} {path : HostPath} {project : Project}
    (h : described d path = .ok project) : ∃ v, Project.ofValue v = .ok project := by
  obtain ⟨text, -, htext⟩ := bind_eq_ok h
  dsimp only at htext
  split at htext
  · cases htext
  · next format _ =>
    obtain ⟨v, -, hv⟩ := bind_eq_ok htext
    unfold Manifest.project at hv
    split at hv
    · cases hv
    · exact ⟨_, mapError_eq_ok hv⟩
    · cases hv

theorem described_isVirtual {d : Disk} {path : HostPath} {project : Project}
    (h : described d path = .ok project) :
    ∀ key ∈ Assoc.keys project.files, Path.IsVirtual key := by
  obtain ⟨v, hv⟩ := ofValue_of_described h
  exact Project.isVirtual_of_ofValue hv

/-- A file of a loaded project is one of the manifest, or it was read from the tree below the root
of the project. -/
theorem mem_keys_withSources {d : Disk} {folder : HostPath} {described project : Project}
    (h : withSources d folder described = .ok project) {key : String}
    (hkey : key ∈ Assoc.keys project.files) :
    key ∈ Assoc.keys described.files ∨ ∃ root sources, project.root = some root ∧
      SourceTree.read d root = .ok sources ∧ key ∈ Assoc.keys sources := by
  unfold withSources at h
  split at h
  · cases h
    exact .inl hkey
  · next root _ =>
    dsimp only at h
    split at h
    · cases h
    · next sources hread =>
      cases h
      rcases Assoc.mem_keys_putAll.1 hkey with hsource | hown
      · exact .inr ⟨folder.join root, sources, rfl, hread, hsource⟩
      · exact .inl hown

/-- The files of a loaded project go by virtual paths, except for those of the tree that have a
backslash in a name: of these no path is checked. -/
theorem load_files_isVirtual (d : Disk) (hd : d.WellFormed) (path : HostPath) {project : Project}
    (hload : load d path = .ok project) :
    ∀ key ∈ Assoc.keys project.files, (Path.IsVirtual key ↔ '\\' ∉ key.toList) ∧
      (¬ Path.IsVirtual key → ∃ root sources, project.root = some root ∧
        SourceTree.read d root = .ok sources ∧ key ∈ Assoc.keys sources) := by
  obtain ⟨described, hdescribed, hsources⟩ := bind_eq_ok hload
  intro key hkey
  rcases mem_keys_withSources hsources hkey with hown | ⟨root, sources, hroot, hread, hsource⟩
  · have hvirtual := described_isVirtual hdescribed key hown
    exact ⟨iff_of_true hvirtual (Path.isVirtual_iff.1 hvirtual).1, fun hn => absurd hvirtual hn⟩
  · obtain ⟨place, rfl, hplace, hnames⟩ := SourceTree.exists_place_of_read hd hread _ hsource
    exact ⟨SourceTree.isVirtual_virtualPath_iff hplace hnames,
      fun _ => ⟨root, sources, hroot, hread, hsource⟩⟩

/-- A manifest beside a folder with one source. -/
def besideFolder (source : String) : Disk :=
  let bytes (text : String) : List Nat := text.toList.map (·.toNat)
  { files := [(["p.json"], bytes "\x7b\"root\": \"src\"\x7d"), (["src", source], bytes "x")] }

/-- A name that starts with dots is no step up. -/
theorem load_files_isVirtual_dottedSource :
    let d := besideFolder "..a.vue"
    d.WellFormed ∧ ∃ project, load d (.ofText "p.json") = .ok project ∧
      "..a.vue" ∈ Assoc.keys project.files ∧ Path.IsVirtual "..a.vue" := by
  intro d
  have hd : d.WellFormed := ⟨by decide, by decide⟩
  have hfiles : (load d (.ofText "p.json")).toOption.map (·.files) = some [("..a.vue", "x")] := by
    decide +kernel
  obtain ⟨project, hload, hproject⟩ := exists_of_toOption_map hfiles
  have hkey : "..a.vue" ∈ Assoc.keys project.files := by
    rw [hproject]
    decide
  have hvirtual := (load_files_isVirtual d hd (.ofText "p.json") hload "..a.vue" hkey).1
  exact ⟨hd, project, hload, hkey, hvirtual.2 (by decide)⟩

/-- A file with a backslash in its name comes through from the tree. -/
theorem load_keeps_backslash :
    let d := besideFolder "a\\b.vue"
    d.WellFormed ∧ ∃ project, load d (.ofText "p.json") = .ok project ∧
      "a\\b.vue" ∈ Assoc.keys project.files ∧ ¬ Path.IsVirtual "a\\b.vue" := by
  intro d
  have hd : d.WellFormed := ⟨by decide, by decide⟩
  have hfiles : (load d (.ofText "p.json")).toOption.map (·.files) = some [("a\\b.vue", "x")] := by
    decide +kernel
  obtain ⟨project, hload, hproject⟩ := exists_of_toOption_map hfiles
  have hkey : "a\\b.vue" ∈ Assoc.keys project.files := by
    rw [hproject]
    decide
  exact ⟨hd, project, hload, hkey, fun h => (Path.isVirtual_iff.1 h).1 (by decide)⟩

end Manifest

end Playground

import Playground.Proofs.Disk.Listing
import Playground.Proofs.Project.Files

namespace Playground.Manifest

theorem nodup_files_of_described {d : Disk} {path : HostPath} {project : Project}
    (h : described d path = .ok project) : (Assoc.keys project.files).Nodup := by
  obtain ⟨v, hv⟩ := ofValue_of_described h
  obtain ⟨fields, files, -, hfiles⟩ := Project.files_of_ofValue hv
  rw [hfiles]
  exact Assoc.nodup_keys_putAll List.nodup_nil

/-- A manifest with a folder to read sources from is loaded exactly when all sources below that
folder are texts. Then the files are the sources, listed in the order of their paths, and behind
them the files of the manifest that are none of them. No name comes twice, and a text of the manifest
stands in the place of the source that it shares its name with. -/
theorem load_rooted (d : Disk) (hd : d.WellFormed) (hdistinct : (Assoc.keys d.files).Nodup)
    (path : HostPath) {manifest : Project} (hmanifest : described d path = .ok manifest)
    {root : HostPath} (hroot : manifest.root = some root) {folder : List String}
    (hfolder : d.folderAt (path.parent.join root) = .ok (some folder)) :
    ((∃ project, load d path = .ok project) ↔
      ∀ place bytes, SourceTree.IsSourceBelow d folder place bytes →
        ∃ text, Disk.decode bytes = .ok text) ∧
    ∀ project, load d path = .ok project →
      ∃ sources, SourceTree.read d (path.parent.join root) = .ok sources ∧
        SourceTree.IsListing d folder sources ∧
        Assoc.keys project.files = Assoc.keys sources ++
          (Assoc.keys manifest.files).filter (· ∉ Assoc.keys sources) ∧
        (Assoc.keys project.files).Nodup ∧
        ∀ key, Assoc.get? key project.files =
          (Assoc.get? key manifest.files).or (Assoc.get? key sources) := by
  obtain ⟨htexts, hlisting⟩ := SourceTree.read_of_folder hd hdistinct hfolder
  have hown := nodup_files_of_described hmanifest
  have hload : load d path = withSources d path.parent manifest := by
    rw [load, hmanifest]
    rfl
  rw [hload, withSources, hroot, ← htexts]
  dsimp only
  cases hread : SourceTree.read d (path.parent.join root) with
  | error e => exact ⟨⟨nofun, nofun⟩, nofun⟩
  | ok sources =>
    refine ⟨⟨fun _ => ⟨_, rfl⟩, fun _ => ⟨_, rfl⟩⟩, fun project hproject => ?_⟩
    cases hproject
    have hsources := hlisting sources hread
    refine ⟨sources, rfl, hsources, Assoc.keys_putAll hown, ?_, fun key => Assoc.get?_putAll hown⟩
    exact Assoc.nodup_keys_putAll hsources.nodup

/-- A manifest beside a folder in which one name is the start of others. -/
def besideTree : Disk :=
  let bytes (text : String) : List Nat := text.toList.map (·.toNat)
  { files := [
      (["p.json"], bytes
        "\x7b\"root\": \"src\", \"files\": \x7b\"z.vue\": \"own\", \"a/b.js\": \"own\"\x7d\x7d"),
      (["src", "a.js"], bytes "x"), (["src", "a-b.css"], bytes "x"), (["src", "a", "b.js"], bytes "x"),
      (["src", "a", ".vue"], bytes "x"), (["src", "notes.md"], [0xFF])] }

theorem read_besideTree : SourceTree.read besideTree (.ofText "src") =
    .ok [("a/b.js", "x"), ("a-b.css", "x"), ("a.js", "x")] := by
  have hfolder : besideTree.folderAt (.ofText "src") = .ok (some ["src"]) := by decide
  have hbelow : SourceTree.sourcesBelow besideTree ["src"] =
      [(["a.js"], [0x78]), (["a-b.css"], [0x78]), (["a", "b.js"], [0x78])] := by decide
  have hsorted : SourceTree.sorted [(["a.js"], [0x78]), (["a-b.css"], [0x78]),
      (["a", "b.js"], [0x78])] = [(["a", "b.js"], [0x78]), (["a-b.css"], [0x78]),
        (["a.js"], [0x78])] := by
    simp +decide [SourceTree.sorted, List.mergeSort, List.MergeSort.Internal.splitInTwo]
  rw [SourceTree.read, hfolder]
  dsimp only
  rw [hbelow, hsorted]
  decide +kernel

/-- What lies in the folder `a` comes before `a-b.css` and `a.js`, and the text that the manifest has
for a source stands in its place. -/
theorem load_rooted_besideTree :
    let d := besideTree
    d.WellFormed ∧ (Assoc.keys d.files).Nodup ∧ ∃ manifest project sources,
      described d (.ofText "p.json") = .ok manifest ∧ manifest.root = some (.ofText "src") ∧
      d.folderAt (.ofText "src") = .ok (some ["src"]) ∧ load d (.ofText "p.json") = .ok project ∧
      SourceTree.IsListing d ["src"] sources ∧
      Assoc.keys project.files = ["a/b.js", "a-b.css", "a.js", "z.vue"] ∧
      Assoc.get? "a/b.js" project.files = some "own" ∧
      Assoc.get? "a.js" project.files = some "x" := by
  intro d
  have hd : d.WellFormed := ⟨by decide, by decide⟩
  have hdistinct : (Assoc.keys d.files).Nodup := by decide
  have hfields : (described d (.ofText "p.json")).toOption.map (fun p => (p.root, p.files)) =
      some (some (.ofText "src"), [("z.vue", "own"), ("a/b.js", "own")]) := by decide +kernel
  have hfolder : d.folderAt (.join (.parent (.ofText "p.json")) (.ofText "src")) =
      .ok (some ["src"]) := by decide +kernel
  have hread : SourceTree.read d (.join (.parent (.ofText "p.json")) (.ofText "src")) = .ok _ :=
    read_besideTree
  obtain ⟨manifest, hmanifest, hfields⟩ := exists_of_toOption_map hfields
  obtain ⟨hroot, hfiles⟩ := Prod.mk.inj hfields
  obtain ⟨project, hproject⟩ : ∃ project, load d (.ofText "p.json") = .ok project := by
    rw [load, hmanifest]
    change ∃ project, withSources d (.parent (.ofText "p.json")) manifest = .ok project
    rw [withSources, hroot]
    dsimp only
    rw [hread]
    exact ⟨_, rfl⟩
  obtain ⟨sources, hsources, hlisting, hordered, -, htexts⟩ :=
    (load_rooted d hd hdistinct (.ofText "p.json") hmanifest hroot hfolder).2 project hproject
  obtain rfl := Except.ok.inj (hread.symm.trans hsources)
  refine ⟨hd, hdistinct, manifest, project, _, hmanifest, hroot, hfolder, hproject, hlisting, ?_, ?_,
    ?_⟩
  · rw [hordered, hfiles]
    decide
  · rw [htexts, hfiles]
    rfl
  · rw [htexts, hfiles]
    rfl

end Playground.Manifest

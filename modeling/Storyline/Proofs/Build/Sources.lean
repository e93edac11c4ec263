/-
A build reads nothing but its sheets: where each of them can be read as
before, whatever else has changed, the build loads the same.

Main statement: `run_of_keeps`.
-/
import Storyline.Proofs.Build.Assembly
import Storyline.Proofs.FileTree

namespace Storyline

variable {tree after : FileTree} {p : Path}

-- ====================================================== one sheet each

theorem Table.read_congr (h : after.read p = tree.read p)
    (format : Sheet.Format) (required : List String) :
    read after format p required = read tree format p required := by
  unfold read Sheet.readRecords Sheet.readText
  rw [h]

theorem Sheet.loadActors_congr (h : after.read p = tree.read p)
    (format : Format) :
    loadActors after format p = loadActors tree format p := by
  unfold loadActors
  rw [Table.read_congr h]

theorem Sheet.loadKeyed_congr (h : after.read p = tree.read p)
    (format : Format) (keyColumn valueColumn : String) :
    loadKeyed after format keyColumn valueColumn p
      = loadKeyed tree format keyColumn valueColumn p := by
  unfold loadKeyed
  rw [Table.read_congr h]

theorem Sheet.loadStandings_congr (h : after.read p = tree.read p)
    (format : Format) :
    loadStandings after format p = loadStandings tree format p := by
  unfold loadStandings
  rw [Table.read_congr h]

theorem Build.loadStory_congr {source : StorySource}
    (h : after.read source.path = tree.read source.path)
    (format : Sheet.Format) :
    loadStory after format source = loadStory tree format source := by
  unfold loadStory Script.loadRows
  rw [Table.read_congr h]

-- ========================================================== all sheets

namespace Build

variable {format : Sheet.Format} {sources : Sources} {loaded : Loaded}

/-- The sheets of a build that loads can be read. -/
theorem exists_read_of_load (h : load tree format sources = .ok loaded) :
    ∀ p ∈ sources.paths, ∃ bytes, tree.read p = .ok bytes := by
  obtain ⟨hfiles, -⟩ := load_eq_ok_iff.1 h
  intro p hp
  obtain ⟨found, hfound, hfile⟩ :=
    Error.bind_eq_ok.1 (forM_eq_ok_iff.1 hfiles p hp)
  cases found with
  | false => cases hfile
  | true => exact FileTree.isFile_eq_true.1 hfound

/-- Where each sheet can be read as before, a build loads the same. -/
theorem load_of_keeps
    (hkeeps : ∀ p ∈ sources.paths, ∀ bytes, tree.read p = .ok bytes →
      after.read p = .ok bytes)
    (h : load tree format sources = .ok loaded) :
    load after format sources = .ok loaded := by
  have hread := exists_read_of_load h
  have hsame : ∀ p ∈ sources.paths, after.read p = tree.read p := by
    intro p hp
    obtain ⟨bytes, hbytes⟩ := hread p hp
    rw [hbytes, hkeeps p hp bytes hbytes]
  have hfiles : sources.ensureFiles after = sources.ensureFiles tree := by
    refine forM_congr fun p hp => ?_
    obtain ⟨bytes, hbytes⟩ := hread p hp
    unfold Sources.ensureFile
    rw [FileTree.isFile_eq_true.2 ⟨bytes, hbytes⟩,
      FileTree.isFile_eq_true.2 ⟨bytes, hkeeps p hp bytes hbytes⟩]
  have hstories : sources.stories.mapM (loadStory after format)
      = sources.stories.mapM (loadStory tree format) :=
    mapM_congr fun source hsource => loadStory_congr
      (hsame _ (List.mem_append_left _ (List.mem_map_of_mem hsource))) format
  have hsheet : ∀ p ∈ [sources.actorSheet, sources.backgroundSheet,
      sources.musicSheet, sources.soundEffectSheet, sources.sequenceSheet,
      sources.standingSheet], after.read p = tree.read p :=
    fun p hp => hsame p (List.mem_append_right _ hp)
  simp only [List.forall_mem_cons] at hsheet
  obtain ⟨hactors, hbackgrounds, hmusic, hsounds, hsequences, hposes, -⟩ :=
    hsheet
  rw [load_eq_ok_iff] at h ⊢
  rw [hfiles, Sheet.loadActors_congr hactors,
    Sheet.loadKeyed_congr hbackgrounds, Sheet.loadKeyed_congr hmusic,
    Sheet.loadKeyed_congr hsounds, Sheet.loadKeyed_congr hsequences,
    Sheet.loadStandings_congr hposes, hstories]
  exact h

/-- The same holds of what the build makes. -/
theorem run_of_keeps {previous : Option Database} {result : Result}
    (hkeeps : ∀ p ∈ sources.paths, ∀ bytes, tree.read p = .ok bytes →
      after.read p = .ok bytes)
    (h : run tree format sources previous = .ok result) :
    run after format sources previous = .ok result := by
  obtain ⟨loaded, compiled, catalog, hloaded, hparts⟩ := run_eq_ok_iff.1 h
  exact run_eq_ok_iff.2 ⟨loaded, compiled, catalog,
    load_of_keeps hkeeps hloaded, hparts⟩

end Build

end Storyline

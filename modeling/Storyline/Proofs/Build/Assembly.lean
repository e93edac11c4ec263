/-
A build taken apart. It goes through when each of its steps does: the
sheets are read (`load_eq_ok_iff`), each story is compiled to a document
under the next number (`compileFrom_eq_ok_iff`), and the documents and the
catalog are put together (`assemble_eq_ok_iff`), where nothing is left
that could fail but the pass over the links, by a number that is too long
to be reported. What is said of whole builds rests on these three.

Main statement: `run_eq_ok_iff`.
-/
import Storyline.Build
import Storyline.Proofs.Graph.Attach
import Storyline.Proofs.Steps

namespace Storyline

namespace Build

open Compile (Compiled compile)

-- ========================================================= compiling

/-- The number and the title that a document goes by. -/
def headingOf (graph : Graph) : Int × String :=
  (graph.documentId, graph.title)

/-- Numbers from a number on for titles in order. -/
def numbered (n : Int) (titles : List String) : List (Int × String) :=
  titles.mapIdx fun i title => (n + i, title)

theorem nodup_numbered (n : Int) (titles : List String) :
    ((numbered n titles).map (·.1)).Nodup := by
  unfold numbered
  refine List.pairwise_iff_getElem.2 fun i j hi hj hlt => ?_
  rw [List.getElem_map, List.getElem_map, List.getElem_mapIdx,
    List.getElem_mapIdx]
  omega

/-- A story and the document that it compiles to, under the number that
this has. -/
def Compiles (story : Story) (compiled : Compiled) : Prop :=
  compile story.rows ⟨compiled.graph.documentId, story.title⟩ = .ok compiled

/-- Documents numbered from a number on. -/
def Numbered (n : Int) (compiled : List Compiled) : Prop :=
  ∀ (i : Nat) (c : Compiled), compiled[i]? = some c →
    c.graph.documentId = n + i

theorem numbered_cons_iff {n : Int} {c : Compiled} {rest : List Compiled} :
    Numbered n (c :: rest)
      ↔ c.graph.documentId = n ∧ Numbered (n + 1) rest := by
  unfold Numbered
  constructor
  · intro h
    refine ⟨by simpa using h 0 c rfl, fun i other hother => ?_⟩
    have := h (i + 1) other (by simpa using hother)
    push_cast at this
    omega
  · rintro ⟨hfirst, hrest⟩ i other hother
    cases i with
    | zero =>
        cases hother
        simpa using hfirst
    | succ i =>
        have := hrest i other (by simpa using hother)
        push_cast
        omega

/-- Compiling stories in order is compiling each of them, under its own
number. -/
theorem compileFrom_eq_ok_iff {n : Int} {stories : List Story}
    {compiled : List Compiled} :
    compileFrom n stories = .ok compiled
      ↔ List.Forall₂ Compiles stories compiled ∧ Numbered n compiled := by
  induction stories generalizing n compiled with
  | nil =>
      rw [List.forall₂_nil_left_iff]
      constructor
      · intro h
        cases h
        exact ⟨rfl, fun i c hc => by simp at hc⟩
      · rintro ⟨rfl, -⟩
        rfl
  | cons story stories ih =>
      rw [List.forall₂_cons_left_iff]
      constructor
      · intro h
        obtain ⟨first, hfirst, h⟩ := Error.bind_eq_ok.1 h
        obtain ⟨rest, hrest, h⟩ := Error.bind_eq_ok.1 h
        cases h
        obtain ⟨_, _, -, hdocument, -, -⟩ :=
          Compile.linkedRows_of_compile hfirst
        obtain ⟨hrest, hnumbered⟩ := ih.1 hrest
        refine ⟨⟨first, rest, ?_, hrest, rfl⟩,
          numbered_cons_iff.2 ⟨hdocument, hnumbered⟩⟩
        unfold Compiles
        rw [hdocument]
        exact hfirst
      · rintro ⟨⟨first, rest, hfirst, hrest, rfl⟩, hnumbered⟩
        obtain ⟨hdocument, hnumbered⟩ := numbered_cons_iff.1 hnumbered
        unfold Compiles at hfirst
        rw [hdocument] at hfirst
        exact Error.bind_eq_ok.2 ⟨first, hfirst,
          Error.bind_eq_ok.2 ⟨rest, ih.2 ⟨hrest, hnumbered⟩, rfl⟩⟩

/-- The documents bear the titles of their stories. -/
theorem titles_of_compiles {stories : List Story} {compiled : List Compiled}
    (h : List.Forall₂ Compiles stories compiled) :
    compiled.map (·.graph.title) = stories.map (·.title) := by
  induction h with
  | nil => rfl
  | cons hfirst _ ih =>
      obtain ⟨_, _, -, -, htitle, -⟩ := Compile.linkedRows_of_compile hfirst
      rw [List.map_cons, List.map_cons, ih, htitle]

/-- The documents of stories are numbered in their order. -/
theorem headings_of_compileFrom {n : Int} {stories : List Story}
    {compiled : List Compiled} (h : compileFrom n stories = .ok compiled) :
    compiled.map (fun c => headingOf c.graph)
      = numbered n (stories.map (·.title)) := by
  obtain ⟨hcompiles, hnumbered⟩ := compileFrom_eq_ok_iff.1 h
  rw [← titles_of_compiles hcompiles]
  unfold numbered
  refine List.ext_getElem? fun i => ?_
  rw [List.getElem?_mapIdx, List.getElem?_map, List.getElem?_map]
  cases hc : compiled[i]? with
  | none => rfl
  | some c =>
      simp only [Option.map_some]
      unfold headingOf
      rw [hnumbered i c hc]

/-- A compiled document belongs to a story, and its number is counted. -/
theorem exists_story_of_compileFrom {n : Int} {stories : List Story}
    {compiled : List Compiled} (h : compileFrom n stories = .ok compiled) :
    ∀ c ∈ compiled, ∃ story ∈ stories, ∃ id, n ≤ id
      ∧ id < n + stories.length
      ∧ compile story.rows ⟨id, story.title⟩ = .ok c := by
  obtain ⟨hcompiles, hnumbered⟩ := compileFrom_eq_ok_iff.1 h
  intro c hc
  obtain ⟨i, hi, rfl⟩ := List.mem_iff_getElem.1 hc
  have hlength := hcompiles.length_eq
  have hnumber : compiled[i].graph.documentId = n + i :=
    hnumbered i _ (List.getElem?_eq_getElem hi)
  have hstory : Compiles (stories.get ⟨i, by omega⟩) compiled[i] :=
    hcompiles.get (by omega) hi
  exact ⟨_, List.getElem_mem _, compiled[i].graph.documentId, by omega,
    by omega, hstory⟩

theorem compiled_of_compileFrom {n : Int} {stories : List Story}
    {compiled : List Compiled} (h : compileFrom n stories = .ok compiled) :
    ∀ c ∈ compiled, ∃ rows heading, compile rows heading = .ok c := by
  intro c hc
  obtain ⟨story, -, id, -, -, hcompile⟩ := exists_story_of_compileFrom h c hc
  exact ⟨_, _, hcompile⟩

/-- Compiled documents are sound, and their numbers are different. -/
theorem soundGraphs_of_compileFrom {n : Int} {stories : List Story}
    {compiled : List Compiled} (h : compileFrom n stories = .ok compiled) :
    SoundGraphs (compiled.map (·.graph)) := by
  refine ⟨fun graph hgraph => ?_, ?_⟩
  · obtain ⟨c, hc, rfl⟩ := List.mem_map.1 hgraph
    obtain ⟨rows, heading, hc⟩ := compiled_of_compileFrom h c hc
    exact Compile.sound_of_compile hc
  · have hids := nodup_numbered n (stories.map (·.title))
    rw [← headings_of_compileFrom h, List.map_map] at hids
    rw [List.map_map]
    exact hids

-- =========================================================== loading

variable {tree : FileTree} {format : Sheet.Format} {sources : Sources}
  {previous : Option Database} {result : Result}

theorem titles_of_loadStory {sources : List StorySource}
    {stories : List Story}
    (h : sources.mapM (loadStory tree format) = .ok stories) :
    stories.map (·.title) = sources.map (·.title) := by
  refine map_eq_of_mapM h fun source story hstory => ?_
  obtain ⟨rows, -, hstory⟩ := Error.bind_eq_ok.1 hstory
  cases hstory
  rfl

/-- A build loads when every file is there and every sheet can be read. -/
theorem load_eq_ok_iff {loaded : Loaded} :
    load tree format sources = .ok loaded
      ↔ sources.ensureFiles tree = .ok ()
        ∧ Sheet.loadActors tree format sources.actorSheet
            = .ok loaded.actors
        ∧ Sheet.loadKeyed tree format "id" "description"
              sources.backgroundSheet
            = .ok loaded.resources.backgrounds
        ∧ Sheet.loadKeyed tree format "id" "resourceName" sources.musicSheet
            = .ok loaded.resources.music
        ∧ Sheet.loadKeyed tree format "id" "resourceName"
              sources.soundEffectSheet
            = .ok loaded.resources.soundEffects
        ∧ Sheet.loadKeyed tree format "id" "dsuCommand"
              sources.sequenceSheet
            = .ok loaded.resources.sequences
        ∧ Sheet.loadStandings tree format sources.standingSheet
            = .ok loaded.resources.standings
        ∧ sources.stories.mapM (loadStory tree format)
            = .ok loaded.stories := by
  constructor
  · intro h
    obtain ⟨_, hfiles, h⟩ := Error.bind_eq_ok.1 h
    obtain ⟨actors, hactors, h⟩ := Error.bind_eq_ok.1 h
    obtain ⟨backgrounds, hbackgrounds, h⟩ := Error.bind_eq_ok.1 h
    obtain ⟨music, hmusic, h⟩ := Error.bind_eq_ok.1 h
    obtain ⟨soundEffects, hsoundEffects, h⟩ := Error.bind_eq_ok.1 h
    obtain ⟨sequences, hsequences, h⟩ := Error.bind_eq_ok.1 h
    obtain ⟨standings, hstandings, h⟩ := Error.bind_eq_ok.1 h
    obtain ⟨stories, hstories, h⟩ := Error.bind_eq_ok.1 h
    cases h
    exact ⟨hfiles, hactors, hbackgrounds, hmusic, hsoundEffects, hsequences,
      hstandings, hstories⟩
  · intro h
    obtain ⟨hfiles, hactors, hbackgrounds, hmusic, hsoundEffects, hsequences,
      hstandings, hstories⟩ := h
    unfold load
    rw [hfiles, hactors, hbackgrounds, hmusic, hsoundEffects, hsequences,
      hstandings, hstories]
    rfl

theorem titles_of_load {loaded : Loaded}
    (h : load tree format sources = .ok loaded) :
    loaded.stories.map (·.title) = sources.stories.map (·.title) := by
  obtain ⟨-, -, -, -, -, -, -, hstories⟩ := load_eq_ok_iff.1 h
  exact titles_of_loadStory hstories

-- ==================================================== put together

/-- The pass over the links of compiled documents. -/
def passOf (compiled : List Compiled) : CrossLink.Pass :=
  CrossLink.attachAll (compiled.map (·.graph)) (compiled.flatMap (·.pending))

/-- The result of a build, from the documents and the catalog. -/
def resultOf (loaded : Loaded) (previous : Option Database)
    (compiled : List Compiled) (catalog : Catalog) : Result :=
  let pass := passOf compiled
  let totalRows : Nat := (loaded.stories.flatMap (·.rows)).length
  { database :=
      { actors := Roster.ofRows loaded.actors
        documents := pass.graphs
        vars := (previous.map (·.vars)).getD []
        items := Item.withoutLegacy (previousItems previous) }
    catalog
    reports :=
      legacyReports previous ++ compiled.flatMap (·.reports)
        ++ [catalog.report] ++ pass.reports
        ++ [.runSummary compiled.length totalRows]
    totalRows := (totalRows : Int)
    crossLinksAdded := pass.added }

/-- A build goes through when its documents and its catalog do, and the
pass over the links as well. -/
theorem assemble_eq_ok_iff {loaded : Loaded} :
    assemble loaded previous = .ok result
      ↔ ∃ compiled catalog, compileFrom 1 loaded.stories = .ok compiled
          ∧ Catalog.ofSheets loaded.resources = .ok catalog
          ∧ (passOf compiled).failure = none
          ∧ result = resultOf loaded previous compiled catalog := by
  unfold assemble
  rw [Error.bind_eq_ok]
  refine exists_congr fun compiled => ?_
  constructor
  · rintro ⟨hcompiled, h⟩
    obtain ⟨catalog, hcatalog, h⟩ := Error.bind_eq_ok.1 h
    simp only at h
    split at h
    · cases h
    · next hfailure =>
      cases h
      refine ⟨catalog, hcompiled, hcatalog, ?_, rfl⟩
      exact Option.eq_none_iff_forall_ne_some.2 hfailure
  · rintro ⟨catalog, hcompiled, hcatalog, hfailure, rfl⟩
    refine ⟨hcompiled, Error.bind_eq_ok.2 ⟨catalog, hcatalog, ?_⟩⟩
    unfold passOf at hfailure
    simp only [hfailure]
    rfl

/-- A build goes through when its sheets can be read and what they hold
can be put together. The database before it has no say in that. -/
theorem run_eq_ok_iff :
    run tree format sources previous = .ok result
      ↔ ∃ loaded compiled catalog, load tree format sources = .ok loaded
          ∧ compileFrom 1 loaded.stories = .ok compiled
          ∧ Catalog.ofSheets loaded.resources = .ok catalog
          ∧ (passOf compiled).failure = none
          ∧ result = resultOf loaded previous compiled catalog := by
  constructor
  · intro h
    obtain ⟨loaded, hloaded, hassemble⟩ := Error.bind_eq_ok.1 h
    obtain ⟨compiled, catalog, hparts⟩ := assemble_eq_ok_iff.1 hassemble
    exact ⟨loaded, compiled, catalog, hloaded, hparts⟩
  · rintro ⟨loaded, compiled, catalog, hloaded, hparts⟩
    exact Error.bind_eq_ok.2 ⟨loaded, hloaded,
      assemble_eq_ok_iff.2 ⟨compiled, catalog, hparts⟩⟩

/-- The documents that a build puts together are the compiled graphs
after the pass over their links, which went through. -/
theorem documents_of_assemble {loaded : Loaded}
    (h : assemble loaded previous = .ok result) :
    ∃ compiled, compileFrom 1 loaded.stories = .ok compiled
      ∧ (CrossLink.attachAll (compiled.map (·.graph))
          (compiled.flatMap (·.pending))).failure = none
      ∧ result.database.documents
          = (CrossLink.attachAll (compiled.map (·.graph))
              (compiled.flatMap (·.pending))).graphs := by
  obtain ⟨compiled, catalog, hcompiled, -, hfailure, rfl⟩ :=
    assemble_eq_ok_iff.1 h
  exact ⟨compiled, hcompiled, hfailure, rfl⟩

end Build

end Storyline

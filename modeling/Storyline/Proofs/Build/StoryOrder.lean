/-
The order of stories. A build numbers its documents as the stories come,
puts their links one behind the other and attaches them in that order.
None of it matters as long as the titles differ: with the stories in
another order the same comes out under other numbers.

# What is compared

A build and the build of the same sheets with its stories permuted. The
number that a document has in the one is carried to the number that it
has in the other (`placeNumber`), and everything else is equal.

# What carries it

* loading and compiling go through for a list when they go through for
  each element (`mapM_eq_ok_iff`, `compileFrom_eq_ok_iff`), so the
  documents can be put in the other order before they are numbered anew;
* a document compiles to the same under another number
  (`Compile.compile_renumber`);
* the links that start at one address all come from one document, so
  their order is the same in both builds (`filter_pending_of_perm`), and
  the pass relinks the graphs alike (`CrossLink.attachAll_of_perm`,
  `CrossLink.attachAll_renumber`).

Main statement: `run_of_perm`.
-/
import Mathlib.Data.List.Find
import Mathlib.Data.List.Perm.Basic
import Storyline.Proofs.Build.Integrity
import Storyline.Proofs.Graph.Renumber

namespace Storyline

namespace Build

open Compile (Compiled compile)

-- =========================================================== loading

section Load

variable {tree : FileTree} {format : Sheet.Format} {sources : Sources}
  {stories : List StorySource}

theorem ensureFiles_of_perm (hperm : stories.Perm sources.stories)
    (h : sources.ensureFiles tree = .ok ()) :
    Sources.ensureFiles tree { sources with stories } = .ok () := by
  unfold Sources.ensureFiles at h ⊢
  rw [forM_eq_ok_iff] at h ⊢
  intro p hp
  have hpaths : (Sources.paths { sources with stories }).Perm
      sources.paths := (hperm.map _).append_right _
  exact h p (hpaths.mem_iff.1 hp)

/-- The sheets of permuted stories are read as before, and the stories
come permuted. -/
theorem load_of_perm {loaded : Loaded}
    (hperm : stories.Perm sources.stories)
    (h : load tree format sources = .ok loaded) :
    ∃ others : List Story, others.Perm loaded.stories
      ∧ load tree format { sources with stories }
          = .ok { loaded with stories := others } := by
  obtain ⟨hfiles, hactors, hbackgrounds, hmusic, hsoundEffects, hsequences,
    hstandings, hstories⟩ := load_eq_ok_iff.1 h
  obtain ⟨others, hothers, hsame⟩ :=
    List.perm_comp_forall₂ hperm (mapM_eq_ok_iff.1 hstories)
  refine ⟨others, hsame, load_eq_ok_iff.2 ?_⟩
  exact ⟨ensureFiles_of_perm hperm hfiles, hactors, hbackgrounds, hmusic,
    hsoundEffects, hsequences, hstandings, mapM_eq_ok_iff.2 hothers⟩

end Load

-- ======================================================= new numbers

/-- The place, counted from one, at which a number stands in a list;
numbers that are not in it stay as they are. -/
def placeNumber (ids : List Int) (id : Int) : Int :=
  if id ∈ ids then ids.idxOf id + 1 else id

/-- Putting the numbers from one on into another order gives each of
them another place, and different ones different places. -/
theorem placeNumber_injective {ids : List Int}
    (hids : ∀ id, id ∈ ids ↔ 1 ≤ id ∧ id ≤ ids.length) :
    Function.Injective (placeNumber ids) := by
  -- a place is one of the numbers, so no number outside is a place
  have hplace : ∀ id ∈ ids, (ids.idxOf id + 1 : Int) ∈ ids := by
    intro id hid
    have := List.idxOf_lt_length_iff.2 hid
    rw [hids]
    omega
  intro id other h
  unfold placeNumber at h
  by_cases hid : id ∈ ids
  · by_cases hother : other ∈ ids
    · rw [if_pos hid, if_pos hother] at h
      exact (List.idxOf_inj hid).1 (by omega)
    · rw [if_pos hid, if_neg hother] at h
      exact absurd (h ▸ hplace id hid) hother
  · by_cases hother : other ∈ ids
    · rw [if_neg hid, if_pos hother] at h
      exact absurd (h ▸ hplace other hother) hid
    · rw [if_neg hid, if_neg hother] at h
      exact h

theorem one_le_placeNumber {ids : List Int} {id : Int} (h : 1 ≤ id) :
    1 ≤ placeNumber ids id := by
  unfold placeNumber
  split <;> omega

theorem placeNumber_getElem? {ids : List Int} (hnodup : ids.Nodup) {i : Nat}
    {id : Int} (h : ids[i]? = some id) : placeNumber ids id = i + 1 := by
  obtain ⟨hi, rfl⟩ := List.getElem?_eq_some_iff.1 h
  unfold placeNumber
  rw [if_pos (List.getElem_mem hi), hnodup.idxOf_getElem]

/-- The numbers of documents in order. -/
def idsOf (compiled : List Compiled) : List Int :=
  compiled.map (·.graph.documentId)

theorem mem_idsOf_iff {compiled : List Compiled} (h : Numbered 1 compiled)
    {id : Int} :
    id ∈ idsOf compiled ↔ 1 ≤ id ∧ id ≤ (idsOf compiled).length := by
  unfold idsOf
  rw [List.mem_map, List.length_map]
  constructor
  · rintro ⟨c, hc, rfl⟩
    obtain ⟨i, hi⟩ := List.mem_iff_getElem?.1 hc
    have hlt := (List.getElem?_eq_some_iff.1 hi).1
    rw [h i c hi]
    omega
  · rintro ⟨hpositive, hle⟩
    have hlt : (id - 1).toNat < compiled.length := by omega
    refine ⟨compiled[(id - 1).toNat], List.getElem_mem hlt, ?_⟩
    rw [h _ _ (List.getElem?_eq_getElem hlt)]
    omega

theorem nodup_idsOf {compiled : List Compiled} (h : Numbered 1 compiled) :
    (idsOf compiled).Nodup := by
  unfold idsOf
  rw [List.nodup_iff_injective_get]
  intro i j hij
  simp only [List.get_eq_getElem, List.getElem_map] at hij
  rw [h i _ (List.getElem?_eq_getElem _),
    h j _ (List.getElem?_eq_getElem _)] at hij
  exact Fin.ext (by omega)

/-- A document that compiles under its number does so under another. -/
theorem Compiles.renumber {number : Int → Int} {story : Story}
    {compiled : Compiled} (h : Compiles story compiled)
    (hnumber : Function.Injective number)
    (hpositive : ∀ id, 1 ≤ id → 1 ≤ number id) :
    Compiles story (compiled.renumber number) := by
  obtain ⟨_, _, -, hissues, -, -⟩ := Compile.compile_ok h
  have hid : 1 ≤ compiled.graph.documentId := by
    by_contra hlt
    unfold Compile.Heading.issues at hissues
    rw [if_pos (show compiled.graph.documentId < 1 by omega)] at hissues
    cases hissues
  exact Compile.compile_renumber hnumber h (hpositive _ hid)

/-- Documents in another order, numbered as they come now. -/
theorem compileFrom_of_perm {stories others : List Story}
    {compiled : List Compiled} (hperm : others.Perm stories)
    (h : compileFrom 1 stories = .ok compiled) :
    ∃ arranged : List Compiled, arranged.Perm compiled
      ∧ List.Forall₂ Compiles others arranged
      ∧ Function.Injective (placeNumber (idsOf arranged))
      ∧ (∀ (j : Nat) (c : Compiled), arranged[j]? = some c →
          placeNumber (idsOf arranged) c.graph.documentId = j + 1)
      ∧ compileFrom 1 others = .ok (arranged.map
          (Compiled.renumber (placeNumber (idsOf arranged)))) := by
  obtain ⟨hcompiles, hnumbered⟩ := compileFrom_eq_ok_iff.1 h
  obtain ⟨arranged, hothers, hsame⟩ := List.perm_comp_forall₂ hperm hcompiles
  have hids : (idsOf arranged).Perm (idsOf compiled) := hsame.map _
  have hnodup : (idsOf arranged).Nodup :=
    hids.nodup_iff.2 (nodup_idsOf hnumbered)
  have hinjective : Function.Injective (placeNumber (idsOf arranged)) := by
    apply placeNumber_injective
    intro id
    rw [hids.mem_iff, hids.length_eq]
    exact mem_idsOf_iff hnumbered
  have hplace : ∀ (j : Nat) (c : Compiled), arranged[j]? = some c →
      placeNumber (idsOf arranged) c.graph.documentId = j + 1 := by
    intro j c hc
    apply placeNumber_getElem? hnodup
    unfold idsOf
    rw [List.getElem?_map, hc]
    rfl
  refine ⟨arranged, hsame, hothers, hinjective, hplace,
    compileFrom_eq_ok_iff.2 ⟨?_, ?_⟩⟩
  · rw [List.forall₂_map_right_iff]
    apply hothers.imp
    intro story c hc
    exact hc.renumber hinjective fun _ => one_le_placeNumber
  · intro j c hc
    rw [List.getElem?_map] at hc
    obtain ⟨old, hold, rfl⟩ := Option.map_eq_some_iff.1 hc
    have := hplace j old hold
    show placeNumber (idsOf arranged) old.graph.documentId = _
    omega

-- ==================================================== links by origin

/-- A document leaves links pending that start in it. -/
theorem Compiles.pending_documentId {story : Story} {compiled : Compiled}
    (h : Compiles story compiled) {link : PendingLink}
    (hlink : link ∈ compiled.pending) :
    link.documentId = compiled.graph.documentId := by
  obtain ⟨counterpart, draft, -, -, -, heq⟩ := Compile.compile_ok h
  rw [heq] at hlink
  obtain ⟨hlink, -⟩ := List.mem_filter.1 hlink
  obtain ⟨a, -, hlink⟩ := List.mem_flatMap.1 hlink
  obtain ⟨target, -, rfl⟩ := List.mem_map.1 hlink
  rfl

theorem pending_of_compiles {stories : List Story}
    {compiled : List Compiled} (h : List.Forall₂ Compiles stories compiled) :
    ∀ c ∈ compiled, ∀ link ∈ c.pending,
      link.documentId = c.graph.documentId := by
  induction h with
  | nil => exact fun _ hc => absurd hc List.not_mem_nil
  | cons hfirst _ ih =>
      intro c hc link hlink
      rcases List.mem_cons.1 hc with rfl | hc
      · exact hfirst.pending_documentId hlink
      · exact ih c hc link hlink

/-- Where keys are unique and only what has a certain key gives
something, only the element found by that key gives something. -/
theorem flatMap_eq_of_unique {α β : Type} {key : α → Int} {k : Int}
    {g : α → List β} {l : List α} (hunique : (l.map key).Nodup)
    (hg : ∀ a ∈ l, key a ≠ k → g a = []) :
    l.flatMap g
      = ((l.find? fun a => key a = k).map g).getD [] := by
  induction l with
  | nil => rfl
  | cons a rest ih =>
      rw [List.map_cons, List.nodup_cons] at hunique
      rw [List.flatMap_cons, List.find?_cons]
      by_cases hk : key a = k
      · have hrest : rest.flatMap g = [] := by
          rw [List.flatMap_eq_nil_iff]
          intro b hb
          apply hg b (List.mem_cons_of_mem a hb)
          intro hb'
          exact hunique.1 (List.mem_map.2 ⟨b, hb, by rw [hk, hb']⟩)
        simp [hk, hrest]
      · rw [hg a List.mem_cons_self hk,
          ih hunique.2 fun b hb => hg b (List.mem_cons_of_mem a hb)]
        simp [hk]

/-- The pending links that start at one address stand in one order, in
whatever order the documents stand. -/
theorem filter_pending_of_perm {compiled arranged : List Compiled}
    (hperm : arranged.Perm compiled) (hdistinct : (idsOf compiled).Nodup)
    (hown : ∀ c ∈ compiled, ∀ link ∈ c.pending,
      link.documentId = c.graph.documentId) (address : Address) :
    (arranged.flatMap (·.pending)).filter (·.origin = address)
      = (compiled.flatMap (·.pending)).filter (·.origin = address) := by
  have hnone : ∀ c ∈ compiled, c.graph.documentId ≠ address.1 →
      c.pending.filter (·.origin = address) = [] := by
    intro c hc hne
    rw [List.filter_eq_nil_iff]
    intro link hlink horigin
    apply hne
    rw [← hown c hc link hlink]
    simp only [decide_eq_true_eq] at horigin
    exact congrArg Prod.fst horigin
  have hothers : (idsOf arranged).Nodup :=
    (hperm.map _).nodup_iff.2 hdistinct
  rw [List.filter_flatMap, List.filter_flatMap,
    flatMap_eq_of_unique hdistinct hnone,
    flatMap_eq_of_unique hothers
      fun c hc => hnone c (hperm.mem_iff.1 hc)]
  congr 2
  apply List.find?_eq_find?_of_perm hperm
  rintro c ⟨hc, hid⟩ d ⟨hd, hsame⟩
  simp only [decide_eq_true_eq] at hid hsame
  exact List.inj_on_of_nodup_map hothers hc hd (by rw [hid, hsame])

/-- The pass over documents that were put in another order and numbered
anew changes each of them as it did before, and adds as many edges. -/
theorem passOf_of_perm {compiled arranged : List Compiled}
    {number : Int → Int} (hnumber : Function.Injective number)
    (hsound : SoundGraphs (compiled.map (·.graph)))
    (htitles : (compiled.map fun c => Text.lower c.graph.title).Nodup)
    (hown : ∀ c ∈ compiled, ∀ link ∈ c.pending,
      link.documentId = c.graph.documentId)
    (hperm : arranged.Perm compiled)
    (hfailure : (passOf compiled).failure = none) :
    (passOf (arranged.map (Compiled.renumber number))).failure = none
      ∧ ∃ change : Graph → Graph,
        (passOf compiled).graphs = compiled.map (fun c => change c.graph)
        ∧ (passOf (arranged.map (Compiled.renumber number))).graphs
            = arranged.map (fun c => (change c.graph).renumber number)
        ∧ (passOf (arranged.map (Compiled.renumber number))).added
            = (passOf compiled).added := by
  have hgraphs : (compiled.map (·.graph)).Perm (arranged.map (·.graph)) :=
    (hperm.map _).symm
  have hdistinct : (idsOf compiled).Nodup := by
    have := hsound.distinct
    rwa [List.map_map] at this
  have hlinks := filter_pending_of_perm hperm hdistinct hown
  obtain ⟨hother, hrelinked, hadded⟩ := CrossLink.attachAll_of_perm hgraphs
    hsound (by rwa [List.map_map]) (fun address => (hlinks address).symm)
    hfailure
  have harranged := CrossLink.SoundGraphs.of_perm hgraphs hsound
  have hpass : passOf (arranged.map (Compiled.renumber number))
      = CrossLink.attachAll
          ((arranged.map (·.graph)).map (Graph.renumber number))
          ((arranged.flatMap (·.pending)).map
            (PendingLink.renumber number)) := by
    unfold passOf
    rw [List.map_map, List.map_map, List.flatMap_map, List.map_flatMap]
    rfl
  refine ⟨?_, Graph.relink (CrossLink.goalsFrom (compiled.map (·.graph))
    (compiled.flatMap (·.pending))), ?_, ?_, ?_⟩
  · rw [hpass, CrossLink.failure_renumber hnumber harranged, hother]
  · unfold passOf
    rw [CrossLink.graphs_attachAll hsound hfailure, List.map_map]
    rfl
  · rw [hpass, CrossLink.attachAll_renumber hnumber harranged hother,
      hrelinked, List.map_map, List.map_map]
    rfl
  · rw [hpass, CrossLink.added_renumber hnumber harranged hother, hadded]
    rfl

-- ================================================== the whole build

theorem getElem?_of_titles {compiled : List Compiled}
    {sources : List StorySource}
    (h : compiled.map (·.graph.title) = sources.map (·.title)) {i : Nat}
    {source : StorySource} (hi : sources[i]? = some source) :
    ∃ c, compiled[i]? = some c ∧ c.graph.title = source.title := by
  have hat := congrArg (·[i]?) h
  simp only [List.getElem?_map, hi] at hat
  exact Option.map_eq_some_iff.1 hat

/-- Two results that differ in the order of the stories only, which go
from the one list to the other, and in the numbers of the documents, which
a function carries over: a document has as its number its place, counted
from one, in the order of the stories, and under the other numbers the
document of a story is the same in both results. -/
structure Reordered (number : Int → Int) (stories others : List StorySource)
    (result other : Result) : Prop where
  injective : Function.Injective number
  length : result.database.documents.length = stories.length
  otherLength : other.database.documents.length = others.length
  document : ∀ (i j : Nat) (story : StorySource),
    stories[i]? = some story → others[j]? = some story →
      number (i + 1) = j + 1
        ∧ ∃ graph, result.database.documents[i]? = some graph
            ∧ other.database.documents[j]? = some (graph.renumber number)
  database : other.database
    = { result.database with documents := other.database.documents }
  catalog : other.catalog = result.catalog
  totalRows : other.totalRows = result.totalRows
  crossLinksAdded : other.crossLinksAdded = result.crossLinksAdded

variable {tree : FileTree} {format : Sheet.Format} {sources : Sources}
  {previous : Option Database} {result : Result}
  {stories : List StorySource}

theorem exists_reordered
    (htitles : (sources.stories.map fun s => Text.lower s.title).Nodup)
    (hperm : stories.Perm sources.stories)
    (h : run tree format sources previous = .ok result) :
    ∃ other number,
      run tree format { sources with stories } previous = .ok other
        ∧ Reordered number sources.stories stories result other := by
  obtain ⟨loaded, hloaded, hassemble⟩ := Error.bind_eq_ok.1 h
  obtain ⟨compiled, catalog, hcompiled, hcatalog, hpass, rfl⟩ :=
    assemble_eq_ok_iff.1 hassemble
  obtain ⟨others, hothers, hload⟩ := load_of_perm hperm hloaded
  obtain ⟨arranged, hsame, harranged, hinjective, hplace, hcompile⟩ :=
    compileFrom_of_perm hothers hcompiled
  obtain ⟨hcompiles, hnumbered⟩ := compileFrom_eq_ok_iff.1 hcompiled
  have hsources :=
    (titles_of_compiles hcompiles).trans (titles_of_load hloaded)
  have hothersources : arranged.map (·.graph.title) = stories.map (·.title) :=
    (titles_of_compiles harranged).trans (titles_of_load hload)
  have hlower : (compiled.map fun c => Text.lower c.graph.title).Nodup := by
    have := congrArg (List.map Text.lower) hsources
    rw [List.map_map, List.map_map] at this
    exact this ▸ htitles
  obtain ⟨hotherpass, change, hgraphs, hothergraphs, hadded⟩ :=
    passOf_of_perm hinjective (soundGraphs_of_compileFrom hcompiled) hlower
      (pending_of_compiles hcompiles) hsame hpass
  refine ⟨resultOf { loaded with stories := others } previous
    (arranged.map (Compiled.renumber _)) catalog, placeNumber (idsOf arranged),
    Error.bind_eq_ok.2 ⟨_, hload, assemble_eq_ok_iff.2
      ⟨_, catalog, hcompile, hcatalog, hotherpass, rfl⟩⟩, ?_⟩
  constructor
  case injective => exact hinjective
  case length =>
    have := congrArg List.length hsources
    simp only [List.length_map] at this
    show (passOf compiled).graphs.length = _
    rw [hgraphs, List.length_map, this]
  case otherLength =>
    have := congrArg List.length hothersources
    simp only [List.length_map] at this
    show (passOf _).graphs.length = _
    rw [hothergraphs, List.length_map, this]
  case document =>
    intro i j story hi hj
    obtain ⟨c, hc, htitle⟩ := getElem?_of_titles hsources hi
    obtain ⟨d, hd, hothertitle⟩ := getElem?_of_titles hothersources hj
    -- titles are different, so the two places hold the same document
    have hcd : c = d := by
      apply List.inj_on_of_nodup_map hlower (List.mem_of_getElem? hc)
        (hsame.mem_iff.1 (List.mem_of_getElem? hd))
      rw [htitle, hothertitle]
    subst hcd
    refine ⟨?_, change c.graph, ?_, ?_⟩
    · rw [← hplace j c hd, hnumbered i c hc, Int.add_comm]
    · show (passOf compiled).graphs[i]? = _
      rw [hgraphs, List.getElem?_map, hc]
      rfl
    · show (passOf _).graphs[j]? = _
      rw [hothergraphs, List.getElem?_map, hd]
      rfl
  case database => rfl
  case catalog => rfl
  case totalRows =>
    exact congrArg Int.ofNat (hothers.flatMap_right (·.rows)).length_eq
  case crossLinksAdded => exact congrArg Int.ofNat hadded

/-- The order of stories does not matter where their titles differ even
in small letters. A build goes through for one order when it does for
another, and the two results are the same but for the order and the
numbers of the documents. -/
theorem run_of_perm
    (htitles : (sources.stories.map fun s => Text.lower s.title).Nodup)
    (hperm : stories.Perm sources.stories) :
    ((∃ result, run tree format sources previous = .ok result)
        ↔ ∃ other,
            run tree format { sources with stories } previous = .ok other)
      ∧ ∀ result other, run tree format sources previous = .ok result →
          run tree format { sources with stories } previous = .ok other →
            ∃ number,
              Reordered number sources.stories stories result other := by
  refine ⟨⟨?_, ?_⟩, ?_⟩
  · rintro ⟨result, h⟩
    obtain ⟨other, -, hother, -⟩ := exists_reordered htitles hperm h
    exact ⟨other, hother⟩
  · rintro ⟨other, h⟩
    have hothers : (stories.map fun s => Text.lower s.title).Nodup :=
      (hperm.map _).nodup_iff.2 htitles
    obtain ⟨result, -, hresult, -⟩ := exists_reordered hothers hperm.symm h
    exact ⟨result, hresult⟩
  · intro result other h hother
    obtain ⟨again, number, hagain, hreordered⟩ :=
      exists_reordered htitles hperm h
    cases hother.symm.trans hagain
    exact ⟨number, hreordered⟩

/-- The echoing story with its two documents the other way round: the
first becomes the second and the second the first. -/
theorem run_of_perm_echo :
    ∃ result other number,
      run echoTree ⟨",", "ascii"⟩ echoSources none = .ok result
        ∧ run echoTree ⟨",", "ascii"⟩
            { echoSources with stories := echoSources.stories.reverse } none
              = .ok other
        ∧ number 1 = 2 ∧ number 2 = 1
        ∧ Reordered number echoSources.stories echoSources.stories.reverse
            result other := by
  have htitles :
      (echoSources.stories.map fun s => Text.lower s.title).Nodup := by
    decide +kernel
  obtain ⟨hruns, hsame⟩ := run_of_perm htitles (List.reverse_perm _)
  obtain ⟨result, h⟩ := exists_run_echo
  obtain ⟨other, hother⟩ := hruns.1 ⟨result, h⟩
  obtain ⟨number, hreordered⟩ := hsame result other h hother
  exact ⟨result, other, number, h, hother,
    (hreordered.document 0 1 _ rfl rfl).1,
    (hreordered.document 1 0 _ rfl rfl).1, hreordered⟩

end Build

end Storyline

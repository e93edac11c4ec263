/-
What a build makes can be read again. The numbers in a compiled document
are those of actors, which sheets hold with at most so many digits, and
those of documents, rows and nodes, which are counted; so they are short
when no file is too long and there are not too many stories.

# What carries it

* voices come from cells and from actors of the program
  (`legible_of_draftFrom`, by induction over the rows, with the state of
  the speakers as the invariant);
* linking and relinking touch edges only (`Node.Legible.linkEach`);
* edges join nodes that are there, so their numbers are numbers of nodes
  (`lawful_of_legible`).

Main statement: `Build.lawful_of_run`.
-/
import Storyline.Proofs.Build.Roster
import Storyline.Proofs.Database.RoundTrip
import Storyline.Proofs.Graph.Voices
import Storyline.Proofs.Sheet.Counting

namespace Storyline

open Json (IsShort countLimit isShort_of_lt lt_countLimit)

-- ============================================================= numbers

/-- A number that a cell holds is short. -/
theorem Numeral.isShort_of_readChars {cs : List Char} {z : Int}
    (h : readChars cs = .integer z) : IsShort z :=
  length_natChars_of_readChars h

/-- Small numbers are short. -/
theorem isShort_of_lt_ten {z : Int} (h : z.natAbs < 10) : IsShort z :=
  isShort_of_lt (lt_countLimit (h.trans (by decide)))

namespace Node

variable {node : Node}

theorem Legible.linkEach (h : node.Legible) (goals : List Address) :
    (node.linkEach goals).Legible := by
  rw [linkEach_eq]
  exact ⟨h.documentId, h.localId, h.speaker, h.listener, h.extraFields,
    h.rowNumber⟩

theorem Legible.dropEdges (h : node.Legible) (document : Int)
    (gone : List Int) : (Compile.dropEdges document gone node).Legible :=
  ⟨h.documentId, h.localId, h.speaker, h.listener, h.extraFields, h.rowNumber⟩

end Node

namespace Compile

open Script (Row)

variable {heading : Heading}

-- ============================================================== voices

/-- The speakers that the rows so far leave behind have short numbers. -/
structure ShortState (state : Speaker.State) : Prop where
  last : IsShort state.last
  counterpart : IsShort state.counterpart
  fallback : IsShort state.fallback

theorem isShort_player : IsShort Actor.player := isShort_of_lt_ten (by decide)

theorem isShort_rootId : IsShort rootId := isShort_of_lt_ten (by decide)

theorem short_initial {counterpart : Int} (h : IsShort counterpart) :
    ShortState (.initial counterpart) := by
  have hnarrator : IsShort Actor.narrator := isShort_of_lt_ten (by decide)
  have hdefault : IsShort Actor.defaultCounterpart :=
    isShort_of_lt_ten (by decide)
  exact ⟨hnarrator, h, hdefault⟩

theorem isShort_primaryCounterpart {rows : List Row} {counterpart : Int}
    (h : Speaker.primaryCounterpart rows = .ok counterpart) :
    IsShort counterpart := by
  induction rows with
  | nil =>
      cases h
      exact isShort_of_lt_ten (by decide)
  | cons row rows ih =>
      unfold Speaker.primaryCounterpart at h
      split at h
      · cases h
      · exact ih h
      · next z hz =>
        split at h
        · exact ih h
        · cases h
          exact Numeral.isShort_of_readChars hz

/-- Speaking keeps numbers short. -/
theorem short_speak {state : Speaker.State} (hstate : ShortState state)
    {actor : Int} (hactor : IsShort actor) :
    IsShort (state.speak actor).1.speaker
      ∧ IsShort (state.speak actor).1.listener
      ∧ ShortState (state.speak actor).2 := by
  have hlistener (actor : Int) : IsShort (state.listenerTo actor) := by
    unfold Speaker.State.listenerTo Speaker.State.facing
    split
    · split
      · exact hstate.fallback
      · exact hstate.counterpart
    · exact isShort_player
  unfold Speaker.State.speak
  split
  · exact ⟨isShort_player, hlistener Actor.player, hstate⟩
  · refine ⟨hactor, hlistener actor, hactor, ?_, hstate.fallback⟩
    show IsShort (if Actor.facesCounterpart actor then _ else actor)
    split
    · exact hstate.counterpart
    · exact hactor

theorem short_resolve {document : String} {state after : Speaker.State}
    {row : Row} {voice : Speaker.Voice} {reports : List Diagnostic}
    (hstate : ShortState state)
    (h : Speaker.resolve document state row = .ok (voice, after, reports)) :
    IsShort voice.speaker ∧ IsShort voice.listener ∧ ShortState after := by
  obtain ⟨⟨actor, named⟩, hactor, h⟩ := Error.bind_eq_ok.1 h
  have hshort : IsShort actor := by
    obtain ⟨rfl, -, -⟩ := Speaker.namedActor_ok hactor
    unfold Speaker.State.named Speaker.number?
    cases hspoken : row.spoken with
    | integer z => exact Numeral.isShort_of_readChars hspoken
    | tooLong _ | notInteger => exact hstate.last
  cases h
  exact short_speak hstate hshort

-- =============================================================== nodes

/-- A row carries every field along once. -/
theorem distinct_extraFields (row : Row) :
    Dict.Distinct (extraFields row) := by
  have hall : Dict.Distinct [("Background", row.background),
      ("Expression", row.expression),
      ("AutoProgressLocked", row.autoProgressLocked)] := by
    show ["Background", "Expression", "AutoProgressLocked"].Nodup
    decide
  exact hall.sublist (List.filter_sublist.map _)

/-- The nodes of rows are legible, when the counts are short. -/
theorem legible_of_draftFrom (hdocument : IsShort heading.documentId)
    {rows : List Row} (hrows : ∀ row ∈ rows, IsShort row.rowNumber) :
    ∀ {state : Speaker.State} {index : KeyIndex} {n : Int} {draft : Draft},
      ShortState state → 0 ≤ n → n + rows.length ≤ countLimit →
      draftFrom heading state index n rows = .ok draft →
      ∀ a ∈ draft.authored, a.node.Legible := by
  induction rows with
  | nil =>
      intro state index n draft _ _ _ h
      cases h
      exact List.forall_mem_nil _
  | cons row rows ih =>
      intro state index n draft hstate hn hlimit h
      obtain ⟨voice, after, reports, script, rest, hvoice, -, -, -, hrest,
        rfl⟩ := draftFrom_cons_eq_ok_iff.1 h
      obtain ⟨hspeaker, hlistener, hafter⟩ := short_resolve hstate hvoice
      rw [List.forall_mem_cons] at hrows
      rw [List.length_cons] at hlimit
      have hnumber : IsShort n := isShort_of_lt (by omega)
      refine List.forall_mem_cons.2 ⟨?_, ih hrows.2 hafter (by omega)
        (by omega) hrest⟩
      refine ⟨hdocument, ⟨hn, hnumber⟩, hspeaker, hlistener,
        distinct_extraFields row, fun z hz => ?_⟩
      cases hz
      exact hrows.1

theorem legible_linkNodes {index : KeyIndex} {authored : List Authored}
    (h : ∀ a ∈ authored, a.node.Legible) :
    ∀ node ∈ linkNodes heading index authored, node.Legible := by
  induction authored with
  | nil => exact List.forall_mem_nil _
  | cons a rest ih =>
      rw [List.forall_mem_cons] at h
      refine List.forall_mem_cons.2 ⟨?_, ih h.2⟩
      rw [Node.linkAll_eq_linkEach]
      exact h.1.linkEach _

theorem legible_linkEntry {document : Int} {others : List Node} {root : Node}
    (h : root.Legible) : (linkEntry document others root).Legible := by
  rcases linkEntry_cases document others root with hr | ⟨first, rest, -, hr⟩
  · rw [hr]
    exact h
  · rw [hr]
    exact h.linkEach _

theorem legible_rootNode (hdocument : IsShort heading.documentId)
    {counterpart : Int} (hcounterpart : IsShort counterpart) :
    (rootNode heading counterpart).Legible :=
  ⟨hdocument, ⟨Int.le_refl _, isShort_rootId⟩, isShort_player, hcounterpart,
    List.nodup_nil, nofun⟩

/-- A compiled document is legible. -/
theorem legible_of_compile {rows : List Row} {compiled : Compiled}
    (hdocument : IsShort heading.documentId)
    (hrows : ∀ row ∈ rows, IsShort row.rowNumber)
    (hlength : rows.length < countLimit)
    (h : compile rows heading = .ok compiled) : compiled.graph.Legible := by
  obtain ⟨counterpart, draft, hcounterpart, hissues, hdraft, rfl⟩ :=
    compile_ok h
  have hshort := isShort_primaryCounterpart hcounterpart
  have hlimit : rootId + 1 + (meaningful rows).length ≤ countLimit := by
    have : (meaningful rows).length ≤ rows.length := List.length_filter_le ..
    unfold rootId
    omega
  have hauthored := legible_of_draftFrom hdocument
    (fun row hrow => hrows row (List.mem_filter.1 hrow).1)
    (short_initial hshort) (by decide) hlimit hdraft
  unfold Heading.issues at hissues
  simp only [List.append_eq_nil_iff, ite_eq_right_iff, List.cons_ne_nil,
    imp_false] at hissues
  refine ⟨⟨Int.not_lt.1 hissues.1, hdocument⟩, hissues.2, isShort_player,
    hshort, List.forall_mem_cons.2 ⟨?_, fun node hnode => ?_⟩⟩
  · exact legible_linkEntry
      ((legible_linkEntry (legible_rootNode hdocument hshort)).dropEdges _ _)
  · obtain ⟨old, hold, rfl⟩ := List.mem_map.1 hnode
    exact (legible_linkNodes hauthored old
      (List.mem_filter.1 hold).1).dropEdges _ _

end Compile

-- ============================================================== graphs

theorem Graph.Legible.relink {graph : Graph} (h : graph.Legible)
    (owed : Address → List Address) : (graph.relink owed).Legible := by
  refine ⟨h.documentId, h.title, h.actor, h.conversant, fun node hnode => ?_⟩
  obtain ⟨old, hold, rfl⟩ := List.mem_map.1 hnode
  exact (h.legible old hold).linkEach _

/-- In graphs that are sound and closed the numbers in edges are those of
nodes. -/
theorem lawful_of_legible {graphs : List Graph}
    (hlegible : ∀ graph ∈ graphs, graph.Legible)
    (hsound : ∀ graph ∈ graphs, graph.Sound) (hclosed : Closed graphs) :
    ∀ graph ∈ graphs, graph.Lawful := by
  refine fun graph hgraph => ⟨hlegible graph hgraph, fun node hnode => ?_⟩
  have hread := (hlegible graph hgraph).legible node hnode
  refine ⟨hread, fun e he => ?_⟩
  obtain ⟨hdocument, hnumber⟩ :=
    ((hsound graph hgraph).nodes node hnode).origin e he
  obtain ⟨target, htarget, hid, hlocal⟩ :=
    hclosed graph hgraph node hnode e.address (List.mem_map_of_mem he)
  obtain ⟨goal, hgoal, hgoalId⟩ := List.mem_map.1 hlocal
  constructor
  · rw [hdocument]
    exact hread.documentId
  · rw [hnumber]
    exact hread.localId.2
  · show IsShort e.address.1
    rw [← hid]
    exact (hlegible target htarget).documentId.2
  · show IsShort e.address.2
    rw [← hgoalId]
    exact ((hlegible target htarget).legible goal hgoal).localId.2

-- ============================================================== actors

theorem Sheet.isShort_of_actorsOfRows {rows : List (List String)}
    {actors : List (Int × String)} (h : actorsOfRows rows = .ok actors) :
    ∀ actor ∈ actors, IsShort actor.1 := by
  fun_induction actorsOfRows rows generalizing actors with
  | case1 =>
      cases h
      intro actor hactor
      cases hactor
  | case2 => cases h
  | case3 id name rows _ ih => exact ih h
  | case4 id name rows z hz ih =>
      obtain ⟨rest, hrest, h⟩ := Error.bind_eq_ok.1 h
      cases h
      exact List.forall_mem_cons.2
        ⟨Numeral.isShort_of_readChars hz, ih hrest⟩
  | case5 row rows _ ih => exact ih h

-- =========================================================== the build

/-- How many bytes there are in a file. -/
def Entry.size : Entry → Nat
  | .file content => content.length
  | .directory => 0

namespace Build

variable {tree : FileTree} {format : Sheet.Format} {sources : Sources}
  {previous : Option Database} {result : Result}

/-- No file of a tree has so many bytes that their number is too long to
be read. -/
def Countable (tree : FileTree) : Prop :=
  ∀ entry ∈ tree.entries, ∀ content, entry.2 = .file content →
    content.length < countLimit

/-- Files with less than a thousand bytes each. -/
theorem countable_of_small
    (h : ∀ entry ∈ tree.entries, entry.2.size < 10 ^ 3) :
    Countable tree := by
  intro entry hentry content hcontent
  have hsize := h entry hentry
  rw [hcontent] at hsize
  exact lt_countLimit hsize

theorem length_of_read (h : Countable tree) {p : Path} {bytes : List UInt8}
    (hread : tree.read p = .ok bytes) : bytes.length < countLimit := by
  unfold FileTree.read at hread
  split at hread
  · cases hread
  · next place _ =>
    split at hread
    · cases hread
    · cases hread
    · next content hat =>
      cases hread
      unfold FileTree.at? at hat
      split at hat
      · cases hat
      · obtain ⟨before, after, hsplit, -⟩ := List.lookup_eq_some_iff.1 hat
        refine h (place, .file bytes) ?_ bytes rfl
        rw [hsplit]
        exact List.mem_append_right before List.mem_cons_self

/-- The stories that were loaded are those of the sheets. -/
theorem exists_source_of_load {loaded : Loaded}
    (h : load tree format sources = .ok loaded) :
    loaded.stories.length = sources.stories.length
      ∧ ∀ story ∈ loaded.stories, ∃ source ∈ sources.stories,
          loadStory tree format source = .ok story := by
  obtain ⟨-, -, -, -, -, -, -, hstories⟩ := load_eq_ok_iff.1 h
  exact ⟨(mapM_eq_ok_iff.1 hstories).length_eq.symm,
    fun _ hstory => exists_of_mem_mapM hstories hstory⟩

/-- The documents of a build are legible. -/
theorem legible_of_run (htree : Countable tree)
    (hstories : sources.stories.length < countLimit)
    (h : run tree format sources previous = .ok result) :
    ∀ graph ∈ result.database.documents, graph.Legible := by
  obtain ⟨loaded, hloaded, hassemble⟩ := Error.bind_eq_ok.1 h
  obtain ⟨compiled, hcompiled, hpass, hdocuments⟩ :=
    documents_of_assemble hassemble
  obtain ⟨hlength, hsources⟩ := exists_source_of_load hloaded
  rw [hdocuments, CrossLink.graphs_attachAll
    (soundGraphs_of_compileFrom hcompiled) hpass]
  intro graph hgraph
  obtain ⟨old, hold, rfl⟩ := List.mem_map.1 hgraph
  obtain ⟨c, hc, rfl⟩ := List.mem_map.1 hold
  obtain ⟨story, hstory, id, hle, hlt, hcompile⟩ :=
    exists_story_of_compileFrom hcompiled c hc
  obtain ⟨source, -, hsource⟩ := hsources story hstory
  obtain ⟨rows, hrows, hsource⟩ := Error.bind_eq_ok.1 hsource
  cases hsource
  obtain ⟨bytes, hbytes, hcount, hnumbers⟩ := Script.bounds_of_loadRows hrows
  have hlimit := length_of_read htree hbytes
  refine Graph.Legible.relink (Compile.legible_of_compile
    (isShort_of_lt ?_) (fun row hrow => isShort_of_lt ?_) ?_ hcompile) _
  · show id.natAbs < _
    omega
  · have := hnumbers row hrow
    omega
  · show rows.length < _
    omega

/-- What a build takes from the database before it: the variables as they
are, and the items that the catalog does not replace. -/
theorem carried_of_run (h : run tree format sources previous = .ok result) :
    result.database.vars = (previous.map (·.vars)).getD []
      ∧ result.database.items
          = Item.withoutLegacy (previousItems previous) := by
  obtain ⟨_, _, _, -, -, -, -, rfl⟩ := run_eq_ok_iff.1 h
  exact ⟨rfl, rfl⟩

/-- After another database the same sheets make the same result, but for
what is carried over. -/
theorem exists_run_after (h : run tree format sources previous = .ok result)
    (other : Option Database) :
    ∃ next, run tree format sources other = .ok next
      ∧ next.database
          = { result.database with
              vars := (other.map (·.vars)).getD []
              items := Item.withoutLegacy (previousItems other) }
      ∧ next.catalog = result.catalog := by
  obtain ⟨loaded, compiled, catalog, hloaded, hcompiled, hcatalog, hpass,
    rfl⟩ := run_eq_ok_iff.1 h
  exact ⟨resultOf loaded other compiled catalog, run_eq_ok_iff.2
    ⟨loaded, compiled, catalog, hloaded, hcompiled, hcatalog, hpass, rfl⟩,
    rfl, rfl⟩

/-- What a build makes can be read, if what it carries over can. -/
theorem lawful_of_run (htree : Countable tree)
    (hstories : sources.stories.length < countLimit)
    (hprevious : ∀ database ∈ previous, database.Portable)
    (h : run tree format sources previous = .ok result) :
    result.database.Lawful := by
  have hlegible := legible_of_run htree hstories h
  obtain ⟨-, hsound, hclosed⟩ := documents_of_run h
  obtain ⟨hvars, hitems⟩ := carried_of_run h
  have hportable : result.database.Portable := by
    cases previous with
    | none =>
        refine ⟨?_, ?_, ?_⟩
        · rw [hvars]
          exact List.forall_mem_nil _
        · rw [hvars]
          exact List.forall_mem_nil _
        · rw [hitems]
          exact List.forall_mem_nil _
    | some database =>
        have hold := hprevious database rfl
        refine ⟨?_, ?_, ?_⟩
        · rw [hvars]
          exact hold.vars
        · rw [hvars]
          exact hold.fits
        · rw [hitems]
          exact fun item hitem => hold.items item (List.mem_filter.1 hitem).1
  refine ⟨hportable, ?_, lawful_of_legible hlegible hsound hclosed⟩
  obtain ⟨loaded, _, _, hloaded, -, -, -, rfl⟩ := run_eq_ok_iff.1 h
  obtain ⟨-, hactors, -⟩ := load_eq_ok_iff.1 hloaded
  obtain ⟨table, -, hactors⟩ := Error.bind_eq_ok.1 hactors
  intro actor hactor
  obtain ⟨name, hrow⟩ := Roster.mem_of_mem_ofRows hactor
  exact Sheet.isShort_of_actorsOfRows hactors _ hrow

end Build

end Storyline

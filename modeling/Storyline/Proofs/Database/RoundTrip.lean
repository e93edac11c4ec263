/-
A database that is written is read back as it was, when it is lawful: its
numbers are short, its documents are numbered from one on and have titles,
no node has a number below zero, dictionaries have every name once, and
the values of variables are settled and fit. Whatever was read is lawful
in its variables and items.

# What carries it

Each record reads back by itself, and fits below the containers around
it, from the innermost out: edges, nodes, graphs, and then the whole.
What was read is taken apart member by member (`exists_members`).

Main statements: `Database.document_toJson`,
`Database.portable_of_document`.
-/
import Storyline.Database.Json
import Storyline.Proofs.Database.Members

namespace Storyline

open Json (Fits IsShort)

variable {good : Double → Prop} {room : Nat}

-- ==================================================== actors and items

/-- An actor that can be read. -/
def ActorRecord.Lawful (actor : ActorRecord) : Prop := IsShort actor.id

theorem ActorRecord.ofJson_toJson (actor : ActorRecord) :
    ofJson actor.toJson = .valid actor := by
  apply Json.strictObject_of_names _ (by decide) (by rfl)
  rfl

theorem ActorRecord.fits_toJson {actor : ActorRecord} (h : actor.Lawful) :
    Fits good (room + 1) actor.toJson := by
  apply Fits.object
  simp only [List.forall_mem_cons]
  exact ⟨.integer h, .string _, .bool _, nofun⟩

theorem fits_strings (pairs : List (String × String)) :
    Fits good (room + 1)
      (.object (pairs.map fun pair => (pair.1, .string pair.2))) := by
  refine .object fun member hmember => ?_
  obtain ⟨pair, -, rfl⟩ := List.mem_map.1 hmember
  exact .string pair.2

theorem Item.ofJson_toJson {item : Item} (h : Dict.Distinct item.fields) :
    ofJson item.toJson = .valid item := by
  apply Json.strictObject_of_names _ (by decide) (by rfl)
  rw [Json.optional_of_lookup "fields" (by rfl) (Json.readDict_strings h)]
  rfl

theorem Item.fits_toJson (item : Item) : Fits good (room + 2) item.toJson := by
  apply Fits.object
  simp only [List.forall_mem_cons]
  exact ⟨.string _, fits_strings item.fields, nofun⟩

-- =========================================================== documents

/-- An edge that can be read. -/
structure Edge.Lawful (edge : Edge) : Prop where
  originDocument : IsShort edge.originDocument
  originNode : IsShort edge.originNode
  destinationDocument : IsShort edge.destinationDocument
  destinationNode : IsShort edge.destinationNode

theorem Edge.ofJson_toJson (edge : Edge) :
    ofJson edge.toJson = .valid edge := by
  apply Json.strictObject_of_names _ (by decide) (by rfl)
  rfl

theorem Edge.fits_toJson {edge : Edge} (h : edge.Lawful) :
    Fits good (room + 1) edge.toJson := by
  apply Fits.object
  simp only [List.forall_mem_cons]
  exact ⟨.integer h.originDocument, .integer h.originNode,
    .integer h.destinationDocument, .integer h.destinationNode, nofun⟩

/-- A node that can be read but for its edges. -/
structure Node.Legible (node : Node) : Prop where
  documentId : IsShort node.documentId
  localId : 0 ≤ node.localId ∧ IsShort node.localId
  speaker : IsShort node.speaker
  listener : IsShort node.listener
  extraFields : Dict.Distinct node.extraFields
  rowNumber : ∀ z ∈ node.rowNumber, IsShort z

/-- A node that can be read. -/
structure Node.Lawful (node : Node) : Prop extends Node.Legible node where
  outgoing : ∀ edge ∈ node.outgoing, edge.Lawful

theorem Json.readAtLeast_integer {bound z : Int} (h : bound ≤ z) :
    readAtLeast bound (.integer z) = .valid z :=
  if_neg (Int.not_lt.2 h)

theorem Json.readNullable_ofOption (z : Option Int) :
    readNullable readInt (ofOption .integer z) = .valid z := by
  cases z <;> rfl

theorem Node.ofJson_toJson {node : Node} (h : node.Lawful) :
    ofJson node.toJson = .valid node := by
  apply Json.strictObject_of_names _ (by decide) (by rfl)
  simp only
  rw [Json.required_of_lookup "local_id" (by rfl)
      (Json.readAtLeast_integer h.localId.1),
    Json.optional_of_lookup "extra_fields" (by rfl)
      (Json.readDict_strings h.extraFields),
    Json.optional_of_lookup "outgoing_edges" (by rfl)
      (Json.readList_map fun edge _ => edge.ofJson_toJson),
    Json.optional_of_lookup "row_number" (by rfl)
      (Json.readNullable_ofOption node.rowNumber)]
  rfl

theorem fits_array_map {α : Type} {write : α → Json} {as : List α}
    (h : ∀ a ∈ as, Fits good room (write a)) :
    Fits good (room + 1) (.array (as.map write)) := by
  refine .array fun item hitem => ?_
  obtain ⟨a, ha, rfl⟩ := List.mem_map.1 hitem
  exact h a ha

theorem fits_ofOption {z : Option Int} (h : ∀ n ∈ z, IsShort n) :
    Fits good room (Json.ofOption .integer z) := by
  cases z with
  | none => exact .null
  | some n => exact .integer (h n rfl)

theorem Node.fits_toJson {node : Node} (h : node.Lawful) :
    Fits good (room + 3) node.toJson := by
  have hedges : Fits good (room + 2)
      (.array (node.outgoing.map Edge.toJson)) :=
    fits_array_map fun edge hedge => Edge.fits_toJson (h.outgoing edge hedge)
  apply Fits.object
  simp only [List.forall_mem_cons]
  exact ⟨.integer h.documentId, .integer h.localId.2, .string _,
    .integer h.speaker, .integer h.listener, .string _, .string _, .string _,
    fits_strings node.extraFields, hedges, .bool _,
    fits_ofOption h.rowNumber, nofun⟩

/-- A graph that can be read but for the edges of its nodes. -/
structure Graph.Legible (graph : Graph) : Prop where
  documentId : 1 ≤ graph.documentId ∧ IsShort graph.documentId
  title : graph.title ≠ ""
  actor : IsShort graph.actor
  conversant : IsShort graph.conversant
  legible : ∀ node ∈ graph.nodes, node.Legible

/-- A graph that can be read. -/
structure Graph.Lawful (graph : Graph) : Prop extends Graph.Legible graph where
  nodes : ∀ node ∈ graph.nodes, node.Lawful

theorem Json.readFilled_string {s : String} (h : s ≠ "") :
    readFilled (.string s) = .valid s :=
  if_neg h

theorem Graph.ofJson_toJson {graph : Graph} (h : graph.Lawful) :
    ofJson graph.toJson = .valid graph := by
  apply Json.strictObject_of_names _ (by decide) (by rfl)
  rw [Json.required_of_lookup "document_id" (by rfl)
      (Json.readAtLeast_integer h.documentId.1),
    Json.required_of_lookup "title" (by rfl)
      (Json.readFilled_string h.title),
    Json.optional_of_lookup "nodes" (by rfl)
      (Json.readList_map fun node hnode =>
        Node.ofJson_toJson (h.nodes node hnode))]
  rfl

theorem Graph.fits_toJson {graph : Graph} (h : graph.Lawful) :
    Fits good (room + 5) graph.toJson := by
  have hnodes : Fits good (room + 4) (.array (graph.nodes.map Node.toJson)) :=
    fits_array_map fun node hnode => Node.fits_toJson (h.nodes node hnode)
  apply Fits.object
  simp only [List.forall_mem_cons]
  exact ⟨.integer h.documentId.2, .string _, .integer h.actor,
    .integer h.conversant, hnodes, nofun⟩

-- =========================================================== variables

/-- A variable that can be read, and that is read as it is. -/
structure Variable.Lawful (var : Variable) : Prop where
  distinct : Dict.Distinct var
  settled : ∀ entry ∈ var, entry.2.settled = entry.2

theorem Variable.readDict_object {var : Variable} (h : Lawful var) :
    Json.readDict Json.readAny (.object var) = .valid var := by
  have hread : Json.readDict Json.readAny
      (.object (var.map fun entry => (entry.1, id entry.2))) = .valid var := by
    refine Json.readDict_map h.distinct fun entry hentry => ?_
    exact congrArg Checked.valid (h.settled entry hentry)
  rwa [show (var.map fun entry => (entry.1, id entry.2)) = var from
    List.map_id var] at hread

-- ============================================================= the whole

namespace Database

variable {database : Database}

/-- A database of which the part that builds carry over can be read; the
values of its variables fit below the three containers around them. -/
structure Portable (database : Database) : Prop where
  vars : ∀ var ∈ database.vars, Variable.Lawful var
  fits : ∀ var ∈ database.vars, ∀ entry ∈ var,
    Fits Json.IsNormal (Json.Tolerance.strict.depth - 3) entry.2
  items : ∀ item ∈ database.items, Dict.Distinct item.fields

/-- A database that can be read. -/
structure Lawful (database : Database) : Prop extends Portable database where
  actors : ∀ actor ∈ database.actors, actor.Lawful
  documents : ∀ graph ∈ database.documents, graph.Lawful

theorem ofJson_toJson (h : database.Lawful) :
    ofJson database.toJson = .valid database := by
  apply Json.strictObject_of_names _ (by decide) (by rfl)
  rw [Json.optional_of_lookup "actors" (by rfl)
      (Json.readList_map fun actor _ => actor.ofJson_toJson),
    Json.optional_of_lookup "documents" (by rfl)
      (Json.readList_map fun graph hgraph =>
        Graph.ofJson_toJson (h.documents graph hgraph)),
    Json.optional_of_lookup "variables" (by rfl)
      (Json.readList_map fun var hvar =>
        Variable.readDict_object (h.vars var hvar)),
    Json.optional_of_lookup "items" (by rfl)
      (Json.readList_map fun item hitem =>
        Item.ofJson_toJson (h.items item hitem))]
  rfl

theorem fits_toJson (h : database.Lawful) :
    Fits Json.IsNormal Json.Tolerance.strict.depth database.toJson := by
  have hactors : Fits Json.IsNormal 199
      (.array (database.actors.map ActorRecord.toJson)) :=
    fits_array_map fun actor hactor =>
      ActorRecord.fits_toJson (h.actors actor hactor)
  have hdocuments : Fits Json.IsNormal 199
      (.array (database.documents.map Graph.toJson)) :=
    fits_array_map fun graph hgraph =>
      Graph.fits_toJson (h.documents graph hgraph)
  have hvars : Fits Json.IsNormal 199
      (.array (database.vars.map .object)) :=
    fits_array_map fun var hvar => .object (h.fits var hvar)
  have hitems : Fits Json.IsNormal 199
      (.array (database.items.map Item.toJson)) :=
    fits_array_map fun item _ => item.fits_toJson
  apply Fits.object
  simp only [List.forall_mem_cons]
  exact ⟨hactors, hdocuments, hvars, hitems, nofun⟩

/-- A lawful database that is written is read back as it was. -/
theorem document_toJson (h : database.Lawful) :
    Json.document ofJson database.toJson.indented = .valid database := by
  unfold Json.document
  rw [Json.ofString_indented (fits_toJson h)]
  exact ofJson_toJson h

/-- What was read as a database, taken apart: the variables and the items
were read from lists that are members of the object. -/
theorem exists_of_ofJson {json : Json} (h : ofJson json = .valid database) :
    ∃ members, json = .object members
      ∧ (∀ var ∈ database.vars, ∃ member ∈ members, ∃ items,
          member.2 = .array items
            ∧ ∃ item ∈ items, Json.readDict Json.readAny item = .valid var)
      ∧ ∀ item ∈ database.items, ∃ json, Item.ofJson json = .valid item := by
  obtain ⟨members, rfl, hall⟩ := Json.exists_members h
  obtain ⟨_, items, hthree, hitems, rfl⟩ := Json.ap_eq_valid.1 hall
  obtain ⟨_, vars, htwo, hvars, rfl⟩ := Json.ap_eq_valid.1 hthree
  obtain ⟨_, documents, hone, -, rfl⟩ := Json.ap_eq_valid.1 htwo
  obtain ⟨_, actors, hnone, -, rfl⟩ := Json.ap_eq_valid.1 hone
  cases hnone
  refine ⟨members, rfl, fun var hvar => ?_, fun item hitem => ?_⟩
  · rcases Json.eq_or_exists_of_optional hvars with rfl | ⟨member, hmem, hread⟩
    · cases hvar
    · obtain ⟨values, hvalues, hall⟩ := Json.exists_items hread
      exact ⟨member, Dict.mem_of_mem_settle hmem, values, hvalues,
        hall var hvar⟩
  · rcases Json.eq_or_exists_of_optional hitems with
      rfl | ⟨member, hmem, hread⟩
    · cases hitem
    · obtain ⟨values, -, hall⟩ := Json.exists_items hread
      obtain ⟨value, -, hvalue⟩ := hall item hitem
      exact ⟨value, hvalue⟩

/-- The variables and the items of what was read can be written and read
again. -/
theorem lawful_of_ofJson {json : Json} (h : ofJson json = .valid database) :
    (∀ var ∈ database.vars, Variable.Lawful var)
      ∧ ∀ item ∈ database.items, Dict.Distinct item.fields := by
  obtain ⟨members, -, hvars, hitems⟩ := exists_of_ofJson h
  refine ⟨fun var hvar => ?_, fun item hitem => ?_⟩
  · obtain ⟨_, -, _, -, value, -, hread⟩ := hvars var hvar
    obtain ⟨_, -, hdistinct, hentries⟩ := Json.exists_entries hread
    refine ⟨hdistinct, fun entry hentry => ?_⟩
    obtain ⟨member, -, hvalue⟩ := hentries entry hentry
    rw [← Checked.valid.inj hvalue, Json.settled_settled]
  · obtain ⟨value, hvalue⟩ := hitems item hitem
    obtain ⟨members, -, htwo⟩ := Json.exists_members hvalue
    obtain ⟨_, fields, hone, hfields, rfl⟩ := Json.ap_eq_valid.1 htwo
    obtain ⟨_, name, hnone, -, rfl⟩ := Json.ap_eq_valid.1 hone
    cases hnone
    rcases Json.eq_or_exists_of_optional hfields with rfl | ⟨_, -, hread⟩
    · exact List.nodup_nil
    · obtain ⟨_, -, hdistinct, -⟩ := Json.exists_entries hread
      exact hdistinct

/-- The values of the variables fit below the three containers around
them. -/
theorem fits_vars_of_ofJson {good : Double → Prop} {room : Nat} {json : Json}
    (hfits : Json.Fits good (room + 3) json)
    (h : ofJson json = .valid database) :
    ∀ var ∈ database.vars, ∀ entry ∈ var, Json.Fits good room entry.2 := by
  obtain ⟨members, rfl, hvars, -⟩ := exists_of_ofJson h
  intro var hvar entry hentry
  obtain ⟨member, hmember, items, hitems, item, hitem, hread⟩ := hvars var hvar
  obtain ⟨values, rfl, -, hentries⟩ := Json.exists_entries hread
  obtain ⟨value, hvalue, hsettled⟩ := hentries entry hentry
  rw [← Checked.valid.inj hsettled]
  apply Json.Fits.settled
  have hmember := hfits.of_mem_object hmember
  rw [hitems] at hmember
  exact (hmember.of_mem_array hitem).of_mem_object hvalue

/-- What carries over of a text that was read as a database: the variables
are lawful, their values fit into the reader's room below the object, the
list and the variable, and no item has two fields of one name. -/
theorem carried_of_document {text : String}
    (h : Json.document ofJson text = .valid database) :
    (∀ var ∈ database.vars, Variable.Lawful var)
      ∧ (∀ var ∈ database.vars, ∀ entry ∈ var,
          Fits Json.IsRead (Json.Tolerance.strict.depth - 3) entry.2)
      ∧ ∀ item ∈ database.items, Dict.Distinct item.fields := by
  unfold Json.document at h
  split at h
  · cases h
  · next json hjson =>
    obtain ⟨hvars, hitems⟩ := lawful_of_ofJson h
    exact ⟨hvars, fits_vars_of_ofJson (Json.fits_of_ofString hjson) h, hitems⟩

/-- What was read with finite doubles only can be carried over. -/
theorem portable_of_document {text : String}
    (h : Json.document ofJson text = .valid database)
    (hfinite : ∀ var ∈ database.vars, ∀ entry ∈ var, entry.2.OnlyFinite) :
    database.Portable := by
  obtain ⟨hvars, hfits, hitems⟩ := carried_of_document h
  exact ⟨hvars, fun var hvar entry hentry =>
    (hfits var hvar entry hentry).isNormal (hfinite var hvar entry hentry),
    hitems⟩

end Database

end Storyline

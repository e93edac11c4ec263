/-
Graphs, their nodes and edges, and pending links as JSON.
-/
import Storyline.Graph.Basic
import Storyline.Json.Checked

namespace Storyline

-- ============================================================= edges

namespace Edge

/-- The members of an edge. -/
def memberNames : List String :=
  ["origin_document", "origin_node", "destination_document",
   "destination_node"]

/-- Reads an edge. -/
def ofJson : Json → Checked Edge :=
  Json.strictObject memberNames fun members =>
    (Checked.valid Edge.mk)
      |>.ap (Json.required members "origin_document" Json.readInt)
      |>.ap (Json.required members "origin_node" Json.readInt)
      |>.ap (Json.required members "destination_document" Json.readInt)
      |>.ap (Json.required members "destination_node" Json.readInt)

/-- Writes an edge. -/
def toJson (edge : Edge) : Json :=
  .object
    [("origin_document", .integer edge.originDocument),
     ("origin_node", .integer edge.originNode),
     ("destination_document", .integer edge.destinationDocument),
     ("destination_node", .integer edge.destinationNode)]

end Edge

-- ============================================================= nodes

namespace Node

/-- The members of a node. -/
def memberNames : List String :=
  ["document_id", "local_id", "title", "speaker_actor_id",
   "listener_actor_id", "body_text", "menu_text", "sequence_script",
   "extra_fields", "outgoing_edges", "is_root", "row_number"]

/-- Reads a node. -/
def ofJson : Json → Checked Node :=
  Json.strictObject memberNames fun members =>
    let text (name : String) : Checked String :=
      Json.optional members name Json.readString ""
    (Checked.valid Node.mk)
      |>.ap (Json.required members "document_id" Json.readInt)
      |>.ap (Json.required members "local_id" (Json.readAtLeast 0))
      |>.ap (text "title")
      |>.ap (Json.required members "speaker_actor_id" Json.readInt)
      |>.ap (Json.required members "listener_actor_id" Json.readInt)
      |>.ap (text "body_text")
      |>.ap (text "menu_text")
      |>.ap (text "sequence_script")
      |>.ap (Json.optional members "extra_fields"
        (Json.readDict Json.readString) [])
      |>.ap (Json.optional members "outgoing_edges"
        (Json.readList Edge.ofJson) [])
      |>.ap (Json.optional members "is_root" Json.readBool false)
      |>.ap (Json.optional members "row_number"
        (Json.readNullable Json.readInt) none)

/-- Writes a node. -/
def toJson (node : Node) : Json :=
  .object
    [("document_id", .integer node.documentId),
     ("local_id", .integer node.localId),
     ("title", .string node.title),
     ("speaker_actor_id", .integer node.speaker),
     ("listener_actor_id", .integer node.listener),
     ("body_text", .string node.bodyText),
     ("menu_text", .string node.menuText),
     ("sequence_script", .string node.sequenceScript),
     ("extra_fields", .object
       (node.extraFields.map fun (name, value) => (name, .string value))),
     ("outgoing_edges", .array (node.outgoing.map Edge.toJson)),
     ("is_root", .bool node.isRoot),
     ("row_number", Json.ofOption .integer node.rowNumber)]

end Node

-- ============================================================ graphs

namespace Graph

/-- The members of a graph. -/
def memberNames : List String :=
  ["document_id", "title", "actor_id", "conversant_id", "nodes"]

/-- Reads a graph. -/
def ofJson : Json → Checked Graph :=
  Json.strictObject memberNames fun members =>
    (Checked.valid Graph.mk)
      |>.ap (Json.required members "document_id" (Json.readAtLeast 1))
      |>.ap (Json.required members "title" Json.readFilled)
      |>.ap (Json.optional members "actor_id" Json.readInt Actor.player)
      |>.ap (Json.required members "conversant_id" Json.readInt)
      |>.ap (Json.optional members "nodes" (Json.readList Node.ofJson) [])

/-- Writes a graph. -/
def toJson (graph : Graph) : Json :=
  .object
    [("document_id", .integer graph.documentId),
     ("title", .string graph.title),
     ("actor_id", .integer graph.actor),
     ("conversant_id", .integer graph.conversant),
     ("nodes", .array (graph.nodes.map Node.toJson))]

end Graph

-- ===================================================== pending links

namespace PendingLink

/-- The members of a pending link. -/
def memberNames : List String :=
  ["document_id", "document_title", "origin_node", "target", "row_number"]

/-- Reads a pending link. -/
def ofJson : Json → Checked PendingLink :=
  Json.strictObject memberNames fun members =>
    (Checked.valid PendingLink.mk)
      |>.ap (Json.required members "document_id" Json.readInt)
      |>.ap (Json.required members "document_title" Json.readString)
      |>.ap (Json.required members "origin_node" Json.readInt)
      |>.ap (Json.required members "target" Json.readString)
      |>.ap (Json.required members "row_number" Json.readInt)

/-- Writes a pending link. -/
def toJson (link : PendingLink) : Json :=
  .object
    [("document_id", .integer link.documentId),
     ("document_title", .string link.documentTitle),
     ("origin_node", .integer link.originNode),
     ("target", .string link.target),
     ("row_number", .integer link.rowNumber)]

end PendingLink

end Storyline

/-
Dialogue graphs. Each document is one graph: an entry node and one node
for each row, with the edges that leave a node kept at the node in the
order in which they were made. A node is addressed by its document and
its number in it.
-/
import Storyline.Error
import Storyline.Script.Row
import Storyline.Text.Blank
import Storyline.Text.Lower

namespace Storyline

-- ======================================================== the types

/-- An edge between two nodes, of one document or of two. -/
structure Edge where
  originDocument : Int
  originNode : Int
  destinationDocument : Int
  destinationNode : Int
deriving DecidableEq, Repr

/-- A node of a dialogue. -/
structure Node where
  documentId : Int
  localId : Int
  title : String
  speaker : Int
  listener : Int
  bodyText : String
  menuText : String
  sequenceScript : String
  extraFields : List (String × String)
  outgoing : List Edge
  isRoot : Bool
  rowNumber : Option Int
deriving DecidableEq, Repr

/-- The graph of a document. -/
structure Graph where
  documentId : Int
  title : String
  actor : Int
  conversant : Int
  nodes : List Node
deriving DecidableEq, Repr

/-- A link to another document that is still to be made. -/
structure PendingLink where
  documentId : Int
  documentTitle : String
  originNode : Int
  target : String
  rowNumber : Int
deriving DecidableEq, Repr

/-- The number of the entry node. -/
def rootId : Int := 0

/-- The title of the entry node, which no other node may have. -/
def rootTitle : String := "START"

-- =========================================================== linking

namespace Node

/-- Whether an edge leads from the node to an address already. -/
def linksTo (node : Node) (document localId : Int) : Bool :=
  node.outgoing.any fun e =>
    e.destinationDocument = document && e.destinationNode = localId

/-- The edge from a node to an address. -/
def edgeTo (node : Node) (document localId : Int) : Edge :=
  ⟨node.documentId, node.localId, document, localId⟩

/-- Adds an edge to an address unless there is one. -/
def link (node : Node) (document localId : Int) : Node :=
  if node.linksTo document localId then node
  else
    { node with outgoing := node.outgoing ++ [node.edgeTo document localId] }

/-- Adds edges to several nodes of one document. -/
def linkAll (node : Node) (document : Int) (localIds : List Int) : Node :=
  localIds.foldl (·.link document ·) node

@[simp] theorem linkAll_nil (node : Node) (document : Int) :
    node.linkAll document [] = node :=
  rfl

@[simp] theorem linkAll_cons (node : Node) (document localId : Int)
    (rest : List Int) :
    node.linkAll document (localId :: rest)
      = (node.link document localId).linkAll document rest :=
  rfl

end Node

-- ========================================================== look-ups

/-- Changes the first element of a kind. -/
def modifyFirst {α : Type _} (p : α → Bool) (f : α → α) : List α → List α
  | [] => []
  | a :: rest => if p a then f a :: rest else a :: modifyFirst p f rest

namespace Graph

/-- The first node with a number. -/
def node? (graph : Graph) (localId : Int) : Option Node :=
  graph.nodes.find? (·.localId = localId)

/-- The entry node. -/
def root? (graph : Graph) : Option Node := graph.node? rootId

/-- The entry node, or the error that there is none. -/
def root (graph : Graph) : Except Error Node :=
  match graph.root? with
  | some node => .ok node
  | none => .error (.noRoot graph.title)

/-- Whether a trimmed key means a node: by its title in any case, or by its
number. Nodes are counted up, so their numbers can be printed. -/
def keyMeans (key : String) (node : Node) : Bool :=
  Text.sameName node.title key || Numeral.text node.localId = key

/-- The first node that a key means; a blank key means none. -/
def findNode? (graph : Graph) (key : String) : Option Node :=
  let key := Text.trim key
  if key = "" then none else graph.nodes.find? (keyMeans key)

/-- All edges of the graph, by node and then in the order in which they were
made. -/
def edges (graph : Graph) : List Edge := graph.nodes.flatMap (·.outgoing)

/-- Changes the first node with a number. -/
def modifyNode (graph : Graph) (localId : Int) (f : Node → Node) : Graph :=
  { graph with nodes := modifyFirst (·.localId = localId) f graph.nodes }

end Graph

end Storyline

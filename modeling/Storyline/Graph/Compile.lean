/-
Compiling the rows of one story sheet into a graph, in four steps:

* every meaningful row becomes a node, numbered from one, and claims a
  key under which the others can link to it;
* every node is linked: to the targets that its row names, or else to the
  next row, past the options of a menu where it is one of them itself;
  and a row that is no option is linked to the options behind it;
* the entry node is linked to the first node;
* rows that look like the entry node are taken out again.

Links that name another document are only collected here.
-/
import Storyline.Graph.Basic
import Storyline.Graph.Speaker
import Storyline.Script.Staging

namespace Storyline.Compile

open Script (Row)

-- ============================================================== keys

/-- The keys that rows have claimed so far, each with the number of its
node. -/
abbrev KeyIndex := List (String × Int)

/-- The key of a row that has none of its own. -/
def rowKey (row : Row) : Except Error String :=
  return "__row_" ++ (← Numeral.print row.rowNumber)

/-- Claims a key, unless it is taken. -/
def KeyIndex.claim (index : KeyIndex) (key : String) (localId : Int) :
    KeyIndex :=
  match index.lookup key with
  | some _ => index
  | none => index ++ [(key, localId)]

/-- Whether the row's own key is taken by an earlier row. -/
def KeyIndex.isTaken (index : KeyIndex) (row : Row) : Bool :=
  row.nodeKey ≠ "" && (index.lookup (Text.lower row.nodeKey)).isSome

/-- The key that a row claims: its own one in small letters, or the one of
its number. -/
def KeyIndex.keyFor (index : KeyIndex) (row : Row) : Except Error String :=
  if row.nodeKey = "" || index.isTaken row then rowKey row
  else .ok (Text.lower row.nodeKey)

/-- The report on a row whose own key is taken. -/
def KeyIndex.reports (index : KeyIndex) (document : String) (row : Row) :
    List Diagnostic :=
  if index.isTaken row then
    [.duplicateNodeKey document row.rowNumber row.nodeKey]
  else []

-- ============================================================= nodes

/-- The document that is being compiled. -/
structure Heading where
  documentId : Int
  title : String
deriving DecidableEq, Repr

/-- A row and the node made of it. -/
structure Authored where
  row : Row
  node : Node
deriving DecidableEq, Repr

/-- The nodes of all rows before they are linked. -/
structure Draft where
  authored : List Authored
  index : KeyIndex
  reports : List Diagnostic
deriving DecidableEq, Repr

/-- The fields of a row that a node carries along, if they are filled in. -/
def extraFields (row : Row) : List (String × String) :=
  [("Background", row.background), ("Expression", row.expression),
   ("AutoProgressLocked", row.autoProgressLocked)].filter (·.2 ≠ "")

/-- The node of a row. -/
def nodeOf (heading : Heading) (localId : Int) (row : Row)
    (voice : Speaker.Voice)
    (script : String) : Node :=
  { documentId := heading.documentId
    localId
    title := row.nodeKey
    speaker := voice.speaker
    listener := voice.listener
    bodyText := row.text
    menuText := if voice.isOption then row.text else ""
    sequenceScript := script
    extraFields := extraFields row
    outgoing := []
    isRoot := false
    rowNumber := some row.rowNumber }

/-- The nodes of meaningful rows, from a number on. -/
def draftFrom (heading : Heading) (state : Speaker.State) (index : KeyIndex)
    (localId : Int) :
    List Row → Except Error Draft
  | [] => .ok ⟨[], index, []⟩
  | row :: rows => do
    let (voice, state, speakerReports) ←
      Speaker.resolve heading.title state row
    let script ← row.script
    let keyReports := index.reports heading.title row
    Diagnostic.log keyReports
    let index := index.claim (← index.keyFor row) localId
    let rest ← draftFrom heading state index (localId + 1) rows
    return ⟨⟨row, nodeOf heading localId row voice script⟩ :: rest.authored,
      rest.index,
      speakerReports ++ keyReports ++ rest.reports⟩

-- =========================================================== linking

/-- Whether a link target names another document. -/
def isCrossTarget (target : String) : Bool := target.toList.contains ':'

/-- The node that a link target names, if it is one of this document. -/
def targetId? (index : KeyIndex) (target : String) : Option Int :=
  if isCrossTarget target then none else index.lookup (Text.lower target)

/-- The targets that a row names itself. -/
def namedIds (index : KeyIndex) (row : Row) : List Int :=
  row.linkTargets.filterMap (targetId? index)

/-- Where a row without targets leads, given the rows behind it. -/
def followingIds (row : Row) : List Authored → List Int
  | [] => []
  | next :: rest =>
    if !next.row.isOption then [next.node.localId]
    else if row.isOption then
      ((rest.find? fun a => !a.row.isOption).map (·.node.localId)).toList
    else []

/-- The options behind a row. -/
def menuIds (rest : List Authored) : List Int :=
  (rest.takeWhile (·.row.isOption)).map (·.node.localId)

/-- Where a row leads, given the rows behind it. -/
def destinationIds (index : KeyIndex) (row : Row) (rest : List Authored) :
    List Int :=
  (if row.linkTargets.isEmpty then followingIds row rest
    else namedIds index row)
    ++ (if row.isOption then [] else menuIds rest)

/-- The nodes with their edges. -/
def linkNodes (heading : Heading) (index : KeyIndex) :
    List Authored → List Node
  | [] => []
  | a :: rest =>
    a.node.linkAll heading.documentId (destinationIds index a.row rest)
      :: linkNodes heading index rest

/-- The links of a row to other documents. -/
def pendingLinks (heading : Heading) (a : Authored) : List PendingLink :=
  (a.row.linkTargets.filter isCrossTarget).map fun target =>
    ⟨heading.documentId, heading.title, a.node.localId, target,
     a.row.rowNumber⟩

/-- The reports on targets of a row that no row has claimed. -/
def danglingReports (heading : Heading) (index : KeyIndex) (row : Row) :
    List Diagnostic :=
  (row.linkTargets.filter fun target =>
    !isCrossTarget target && (targetId? index target).isNone).map
      (.danglingLink heading.title row.rowNumber)

-- ========================================================= the entry

/-- The entry node of a document, before it is linked. -/
def rootNode (heading : Heading) (counterpart : Int) : Node :=
  { documentId := heading.documentId
    localId := rootId
    title := rootTitle
    speaker := Actor.player
    listener := counterpart
    bodyText := ""
    menuText := ""
    sequenceScript := ""
    extraFields := []
    outgoing := []
    isRoot := true
    rowNumber := none }

/-- A node that a reader would take for the entry: by its title or by its
text. -/
def looksLikeEntry (node : Node) : Bool :=
  node.localId ≠ rootId
    && (node.title = rootTitle || node.bodyText = rootTitle)

/-- The node without its edges to some nodes of its document. -/
def dropEdges (documentId : Int) (gone : List Int) (node : Node) : Node :=
  { node with
    outgoing := node.outgoing.filter fun e =>
      !(e.destinationDocument = documentId
        && gone.contains e.destinationNode) }

/-- The nodes without those that look like the entry, and without the edges to
them. -/
def dropReserved (documentId : Int) (nodes : List Node) : List Node :=
  let gone := (nodes.filter looksLikeEntry).map (·.localId)
  (nodes.filter fun node => !gone.contains node.localId).map
    (dropEdges documentId gone)

/-- The entry node linked to the first of the other nodes, if it leads
nowhere. -/
def linkEntry (documentId : Int) (others : List Node) (root : Node) : Node :=
  match root.outgoing, others with
  | [], first :: _ => root.link documentId first.localId
  | _, _ => root

-- ======================================================== the result

/-- A compiled document. -/
structure Compiled where
  graph : Graph
  pending : List PendingLink
  rowCount : Nat
  reports : List Diagnostic
deriving DecidableEq, Repr

/-- What is wrong with the number and the title of a document. -/
def Heading.issues (heading : Heading) : List Issue :=
  (if heading.documentId < 1 then
      [⟨[.member "document_id"], .greaterThanEqual⟩] else [])
    ++ (if heading.title = "" then
      [⟨[.member "title"], .stringTooShort⟩] else [])

/-- The reports on all targets in a draft that no row has claimed. -/
def Draft.linkReports (heading : Heading) (draft : Draft) :
    List Diagnostic :=
  draft.authored.flatMap fun a => danglingReports heading draft.index a.row

/-- Links a draft and puts the entry node in front. -/
def finish (heading : Heading) (counterpart : Int) (draft : Draft) :
    Compiled :=
  let linked := linkNodes heading draft.index draft.authored
  let root :=
    linkEntry heading.documentId linked (rootNode heading counterpart)
  let gone := (linked.filter looksLikeEntry).map (·.localId)
  let kept := dropReserved heading.documentId linked
  let root :=
    linkEntry heading.documentId kept (dropEdges heading.documentId gone root)
  let pending :=
    (draft.authored.flatMap (pendingLinks heading)).filter fun link =>
    !gone.contains link.originNode
  let reports :=
    draft.reports
      ++ draft.linkReports heading
      ++ (if gone.isEmpty then []
          else [Diagnostic.reservedStartRemoved heading.title gone.length])
      ++ [Diagnostic.documentCompiled heading.title draft.authored.length
            pending.length]
  { graph :=
      { documentId := heading.documentId
        title := heading.title
        actor := Actor.player
        conversant := counterpart
        nodes := root :: kept }
    pending
    rowCount := draft.authored.length
    reports }

/-- Compiles the rows of a story sheet. The reports on links are entered
into the log after those on the rows. -/
def compile (rows : List Row) (heading : Heading) : Except Error Compiled := do
  let counterpart ← Speaker.primaryCounterpart rows
  if heading.issues ≠ [] then throw (.invalid heading.issues)
  let draft ← draftFrom heading (.initial counterpart) [] (rootId + 1)
    (rows.filter (·.isMeaningful))
  Diagnostic.log (draft.linkReports heading)
  return finish heading counterpart draft

end Storyline.Compile

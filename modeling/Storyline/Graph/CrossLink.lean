/-
The pass over the links between documents. A link names its target as
`document:node`. The document is the first one with that title in any
case; the node is the entry when it is called `start`, and otherwise
found as in its graph. Links that lead nowhere are reported and skipped.
-/
import Storyline.Diagnostic
import Storyline.Error
import Storyline.Graph.Basic

namespace Storyline.CrossLink

-- =========================================================== targets

/-- The two sides of the only colon, trimmed; none when one of them is
blank. -/
def splitTarget? (target : String) : Option (String × String) :=
  let cs := target.toList
  match cs.dropWhile (· ≠ ':') with
  | [] => none
  | _ :: after =>
    if after.contains ':' then none
    else
      let document := Text.trim (String.ofList (cs.takeWhile (· ≠ ':')))
      let key := Text.trim (String.ofList after)
      if document = "" || key = "" then none else some (document, key)

/-- The word that means the entry of a document. -/
def entryWord : String := "start"

/-- The node of a graph that a key means; none when there is no such node. -/
def targetNode? (graph : Graph) (key : String) : Except Error (Option Node) :=
  if Text.lower key = entryWord then graph.root.map some
  else .ok (graph.findNode? key)

/-- The first graph with a title, in any case. -/
def byTitle? (graphs : List Graph) (title : String) : Option Graph :=
  graphs.find? fun graph => Text.sameName graph.title title

/-- The last graph with a number. -/
def byId? (graphs : List Graph) (documentId : Int) : Option Graph :=
  graphs.reverse.find? (·.documentId = documentId)

/-- Changes the last graph with a number. -/
def modifyLast (documentId : Int) (f : Graph → Graph)
    (graphs : List Graph) : List Graph :=
  (modifyFirst (·.documentId = documentId) f graphs.reverse).reverse

-- ============================================================= links

/-- What becomes of a link. -/
inductive Outcome where
  | malformed
  | unknownDocument (title : String)
  | unknownNode (key title : String)
  /-- The number of the node that it starts from, as it is printed. -/
  | lostOrigin (origin : String)
  /-- The link is good: the title and the key that it names, the node that
  it starts from and the node that it leads to. -/
  | attached (title key : String) (origin destination : Node)
deriving DecidableEq, Repr

/-- Looks up both ends of a link. -/
def resolve (graphs : List Graph) (link : PendingLink) :
    Except Error Outcome :=
  match splitTarget? link.target with
  | none => .ok .malformed
  | some (title, key) =>
    match byTitle? graphs title with
    | none => .ok (.unknownDocument title)
    | some target => do
      match ← targetNode? target key with
      | none => return .unknownNode key target.title
      | some destination =>
        match (byId? graphs link.documentId).bind
          (·.node? link.originNode) with
        | none => return .lostOrigin (← Numeral.print link.originNode)
        | some origin => return .attached target.title key origin destination

/-- The report on a link. -/
def Outcome.report (link : PendingLink) : Outcome → Diagnostic
  | .malformed =>
    .crossLinkMalformed link.documentTitle link.rowNumber link.target
  | .unknownDocument title =>
    .crossLinkUnknownDocument link.documentTitle link.rowNumber title
  | .unknownNode key title =>
    .crossLinkUnknownNode link.documentTitle link.rowNumber key title
  | .lostOrigin origin =>
    .crossLinkLostOrigin link.documentTitle link.rowNumber origin link.target
  | .attached title key _ _ =>
    .crossLinkResolved link.documentTitle link.rowNumber title key

/-- The graphs with the link attached, if it is good. -/
def Outcome.apply (graphs : List Graph) (link : PendingLink) :
    Outcome → List Graph
  | .attached _ _ _ destination =>
    modifyLast link.documentId
      (·.modifyNode link.originNode
        (·.link destination.documentId destination.localId)) graphs
  | _ => graphs

/-- Whether attaching the link adds an edge. -/
def Outcome.isNew : Outcome → Bool
  | .attached _ _ origin destination =>
    !origin.linksTo destination.documentId destination.localId
  | _ => false

-- ========================================================== the pass

/-- The graphs after the pass, or as they are where it broke off. -/
structure Pass where
  graphs : List Graph
  added : Nat
  reports : List Diagnostic
  failure : Option Error
deriving DecidableEq

/-- The links that are still to be made after a pass: none when it went
through, and all of them when it broke off. -/
def Pass.remaining (pass : Pass) (pending : List PendingLink) :
    List PendingLink :=
  match pass.failure with
  | none => []
  | some _ => pending

/-- Attaches links in their order. A link is attached before its report is
entered into the log, and the report is there before it is printed; both
stay when that is what breaks the pass off. -/
def attachFrom (graphs : List Graph) : List PendingLink → Pass
  | [] => ⟨graphs, 0, [], none⟩
  | link :: links =>
    match resolve graphs link with
    | .error e => ⟨graphs, 0, [], some e⟩
    | .ok outcome =>
      let graphs := outcome.apply graphs link
      let added := if outcome.isNew then 1 else 0
      let report := outcome.report link
      match Diagnostic.log [report] with
      | .error e => ⟨graphs, added, [report], some e⟩
      | .ok () =>
        let rest := attachFrom graphs links
        { rest with
          added := added + rest.added
          reports := report :: rest.reports }

/-- Attaches all pending links; without any there is nothing to report. -/
def attachAll (graphs : List Graph) (pending : List PendingLink) : Pass :=
  match pending with
  | [] => ⟨graphs, 0, [], none⟩
  | _ :: _ =>
    let pass := attachFrom graphs pending
    { pass with reports := .crossLinksBegin pending.length :: pass.reports }

end Storyline.CrossLink

/-
What a build reports beside its result: notes on its progress and
anomalies that do not stop it, each with the document and the row it is
about. Every report that the build itself makes is a function here, so
that its code, level and wording stand in one place.
-/
import Storyline.Error
import Storyline.Text.Lower

namespace Storyline

/-- How much a report matters. -/
inductive Diagnostic.Level where
  | info
  | warn
  | error
deriving DecidableEq, Repr

/-- A report. -/
structure Diagnostic where
  level : Diagnostic.Level
  code : String
  message : String
  document : Option String
  rowNumber : Option Int
deriving DecidableEq, Repr

namespace Diagnostic

-- ============================================================= text

/-- The name of a level. -/
def Level.text : Level → String
  | .info => "INFO"
  | .warn => "WARN"
  | .error => "ERROR"

/-- The level of that name. -/
def Level.ofText? : String → Option Level
  | "INFO" => some .info
  | "WARN" => some .warn
  | "ERROR" => some .error
  | _ => none

/-- Where a report is about, with its row number as it is printed; a
document without a title is not named. -/
def place (document row : Option String) : String :=
  let document := document.getD ""
  match row with
  | some row =>
    if document = "" then "row " ++ row ++ ": "
    else document ++ " row " ++ row ++ ": "
  | none => if document = "" then "" else document ++ ": "

/-- A report as a line, with its row number as it is printed. -/
def line (d : Diagnostic) (row : Option String) : String :=
  "[" ++ d.level.text ++ "] " ++ place d.document row ++ d.message

/-- A report as a line of text, if its row number can be printed. -/
def text (d : Diagnostic) : Except Error String :=
  return d.line (← d.rowNumber.mapM Numeral.print)

/-- Enters reports into the log, which prints each of them. -/
def log (reports : List Diagnostic) : Except Error Unit :=
  reports.forM fun d => discard d.text

/-- A report that is no mere note. -/
def isAnomaly (d : Diagnostic) : Bool := d.level ≠ .info

-- ================================================= reports on a row

/-- The speaker cell is neither blank nor a number; the last speaker is
given as it is printed. -/
def unparsableSpeaker (document : String) (row : Int)
    (speaker last : String) : Diagnostic :=
  ⟨.warn, "UNPARSABLE_SPEAKER",
    "Actor '" ++ speaker ++ "' is not a numeric id; reusing actor " ++ last
      ++ ".",
    some document, some row⟩

/-- An earlier row has the same key. -/
def duplicateNodeKey (document : String) (row : Int) (key : String) :
    Diagnostic :=
  ⟨.warn, "DUPLICATE_NODE_KEY",
    "NodeID '" ++ key
      ++ "' is already used by an earlier row; "
      ++ "this row is only linkable by row.",
    some document, some row⟩

/-- No row has the key that a link names. -/
def danglingLink (document : String) (row : Int) (target : String) :
    Diagnostic :=
  ⟨.warn, "DANGLING_LINK",
    "Link target '" ++ target ++ "' was not found in this document.",
    some document, some row⟩

-- ============================================ reports on a document

/-- Rows that look like the entry node were left out. -/
def reservedStartRemoved (document : String) (count : Nat) : Diagnostic :=
  ⟨.warn, "RESERVED_START_REMOVED",
    "Removed " ++ Numeral.text count
      ++ " authored node(s) that collide with the reserved START entry.",
    some document, none⟩

/-- A document is compiled. -/
def documentCompiled (document : String) (nodes pending : Nat) : Diagnostic :=
  ⟨.info, "DOCUMENT_COMPILED",
    "Compiled " ++ Numeral.text nodes ++ " dialogue node(s), "
      ++ Numeral.text pending ++ " cross-document link(s) pending.",
    some document, none⟩

-- ================================== reports on links between documents

/-- The pass over the links between documents begins. -/
def crossLinksBegin (count : Nat) : Diagnostic :=
  ⟨.info, "CROSS_LINK_RESOLVED",
    "Processing " ++ Numeral.text count ++ " cross-document link(s).",
    none, none⟩

/-- A link between documents is not of the form `document:node`. -/
def crossLinkMalformed (document : String) (row : Int)
    (target : String) : Diagnostic :=
  ⟨.warn, "CROSS_LINK_MALFORMED",
    "Cross-document link '" ++ target
      ++ "' must look like '<document>:<node>'.",
    some document, some row⟩

/-- No document has the title that a link names. -/
def crossLinkUnknownDocument (document : String) (row : Int)
    (title : String) : Diagnostic :=
  ⟨.error, "CROSS_LINK_UNKNOWN_DOCUMENT",
    "Cross-document link target document '" ++ title ++ "' does not exist.",
    some document, some row⟩

/-- The document that a link names has no such node. -/
def crossLinkUnknownNode (document : String) (row : Int)
    (key title : String) : Diagnostic :=
  ⟨.error, "CROSS_LINK_UNKNOWN_NODE",
    "Node '" ++ key ++ "' was not found in document '" ++ title ++ "'.",
    some document, some row⟩

/-- The node from which a link starts is gone; its number is given as it
is printed. -/
def crossLinkLostOrigin (document : String) (row : Int)
    (origin target : String) : Diagnostic :=
  ⟨.error, "CROSS_LINK_UNKNOWN_NODE",
    "Origin node " ++ origin ++ " of link '" ++ target
      ++ "' is no longer compiled.",
    some document, some row⟩

/-- A link between documents is attached. -/
def crossLinkResolved (document : String) (row : Int)
    (title key : String) : Diagnostic :=
  ⟨.info, "CROSS_LINK_RESOLVED", "Linked to " ++ title ++ ":" ++ key ++ ".",
    some document, some row⟩

-- =============================================== reports on a build

/-- Items that the catalog replaces were dropped. -/
def legacyItemsRemoved (count : Nat) : Diagnostic :=
  ⟨.info, "LEGACY_ITEMS_REMOVED",
    "Removed " ++ Numeral.text count
      ++ " legacy resource item(s); the resource catalog now owns them.",
    none, none⟩

/-- The catalog is rebuilt, with the sizes of its tables. -/
def catalogUpdated (backgrounds music soundEffects sequences standings : Nat) :
    Diagnostic :=
  ⟨.info, "CATALOG_UPDATED",
    "Resource catalog updated: BG " ++ Numeral.text backgrounds
      ++ ", BGM " ++ Numeral.text music
      ++ ", SFX " ++ Numeral.text soundEffects
      ++ ", Sequence " ++ Numeral.text sequences
      ++ ", Standing " ++ Numeral.text standings ++ ".",
    none, none⟩

/-- A build is finished. -/
def runSummary (documents rows : Nat) : Diagnostic :=
  ⟨.info, "RUN_SUMMARY",
    "Compiled " ++ Numeral.text documents ++ " document(s) from "
      ++ Numeral.text rows ++ " row(s).",
    none, none⟩

end Diagnostic

/-- Whether a build went through without anomalies, as one word. -/
def statusOf (diagnostics : List Diagnostic) : String :=
  if diagnostics.any (·.isAnomaly) then "ok_with_warnings" else "ok"

end Storyline

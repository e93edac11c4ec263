/-
Sheets that are no text in their encoding. In every encoding a sheet is
read as the text that it is written for, and when there is no such text,
its path and the name of the encoding are reported; a build that comes to
it ends with that line and exit code 1. The exception is a text in UTF-16
of either byte order that has no mark: the error about the mark is not one
about the sheet, and it ends a build without any report.

# What is compared

The bytes of a sheet, by what an encoding writes (`Encoding.Writes`,
`Encoding.LacksMark`), and what reading the sheet and a whole run of the
program come to.

# What carries it

* what decoding comes to, for every encoding (`decode_eq_text_iff`,
  `decode_eq_unmarked_iff`);
* a build that comes to a sheet ends where reading it does
  (`Build.load_of_read_error`), and has printed nothing but what it says
  of the old database and of that error (`run_of_build_error`).

Main statement: `reports_of_undecodable`.
-/
import Storyline.Proofs.Build.Faults
import Storyline.Proofs.Command.History
import Storyline.Proofs.Command.Transcript
import Storyline.Proofs.Text.Encoding

namespace Storyline

-- ============================================================= a sheet

namespace Sheet

variable {tree : FileTree} {name : String} {encoding : Text.Encoding}
  {path : Path} {bytes : List UInt8}

/-- The text of a file under the name of an encoding is what decoding its
bytes comes to. -/
theorem readText_eq (hnull : name.toList.contains '\x00' = false)
    (hname : Text.Encoding.ofName? name = some encoding)
    (hread : tree.read path = .ok bytes) :
    readText tree name path
      = match encoding.decode bytes with
        | .text cs => .ok (String.ofList (Text.unifyBreaks cs))
        | .malformed => .error (.sourceNotFound path.text
            (some ("not valid " ++ name)))
        | .unmarked => .error .missingByteOrder := by
  unfold readText decodeText
  rw [hnull, if_neg Bool.false_ne_true, hread]
  simp only
  rewrite [hname]
  rfl

/-- A sheet whose text cannot be read makes no table. -/
theorem read_of_readText_error {format : Format} {columns : List String}
    {e : Error} (h : readText tree format.encoding path = .error e) :
    Table.read tree format path columns = .error e := by
  unfold Table.read readRecords
  rw [h]
  rfl

end Sheet

/-- Reading the sheets comes to the one at a path: there is a file for
each of them, and those before it have been read. -/
structure Sources.Reaches (sources : Sources) (tree : FileTree)
    (format : Sheet.Format) (path : Path) : Prop where
  files : ∀ p ∈ sources.paths, tree.holdsFile p = true
  ids : ShortIds tree format sources.actorSheet
  earlier : ∃ before sheet after, sources.sheets = before ++ sheet :: after
    ∧ sheet.path = path
    ∧ ∀ other ∈ before, ∃ table,
        Table.read tree format other.path other.columns = .ok table

/-- Where reading comes to a sheet whose text cannot be read, it ends. -/
theorem Sources.Reaches.load_eq {sources : Sources} {tree : FileTree}
    {format : Sheet.Format} {path : Path} {e : Error}
    (h : sources.Reaches tree format path)
    (he : Sheet.readText tree format.encoding path = .error e) :
    Build.load tree format sources = .error e := by
  obtain ⟨before, sheet, after, hsheets, rfl, hbefore⟩ := h.earlier
  exact Build.load_of_read_error h.ids h.files hsheets hbefore
    (Sheet.read_of_readText_error he)

-- ============================================================= a build

namespace Command

variable {settings : Settings} {options : CompileOptions}
  {words : List String} {tree : FileTree} {sources : Sources}
  {bytes : List UInt8}

/-- What is printed of an error that ends a build. -/
def errorLines (e : Error) : List String :=
  if e.isSheetError then ["error: " ++ e.message] else []

theorem errorLines_notValid (path name : String) :
    errorLines (.sourceNotFound path (some ("not valid " ++ name)))
      = ["error: required sheet not found: " ++ path ++ " (not valid "
          ++ name ++ ")"] := by
  have hdetail : "not valid " ++ name ≠ "" := by
    intro h
    exact absurd (String.append_eq_empty_iff.1 h).1 (by decide)
  have hhead : "error: required sheet not found: "
      = "error: " ++ "required sheet not found: " := by rfl
  have htail : " (not valid " = " (" ++ "not valid " := by rfl
  show ["error: " ++ ("required sheet not found: " ++ path
    ++ if "not valid " ++ name = "" then ""
      else " (" ++ ("not valid " ++ name) ++ ")")] = _
  rw [if_neg hdetail, hhead, htail]
  simp only [String.append_assoc]

theorem errorLines_missingByteOrder :
    errorLines .missingByteOrder = [] := by
  rfl

/-- A build that has named its sheets and looked for its old database ends
with the error of its sheets. -/
theorem run_prepare_of_error {world : World} {previous : Option Database}
    {e : Error} (hlevel : checkLevel (levelOf settings options) = .ok ())
    (hsources : sheetsOf settings options = .ok sources)
    (hprevious : oldDatabase world.tree (databasePathOf settings options)
      = .ok previous)
    (he : Build.run world.tree settings.format sources previous
      = .error e) :
    (prepare settings options).run world
      = (.error (stopFor e), world.printing
          (warnings world.tree (databasePathOf settings options)
            ++ errorLines e)) := by
  obtain ⟨files, hfiles, hsources⟩ := Error.bind_eq_ok.1 hsources
  have hold : (previousDatabase (databasePathOf settings options)).run world
      = (.ok previous, world.printing
          (warnings world.tree (databasePathOf settings options))) := by
    rw [run_previousDatabase, hprevious]
    rfl
  have hfails : Build.run world.tree
      { settings with storyFiles := files }.format sources previous
        = .error e := he
  rw [← World.printing_printing]
  unfold prepare
  rw [hlevel, hfiles]
  simp only [orFail, pure_bind]
  rw [hsources]
  simp only [pure_bind]
  refine (run_bind_ok hold).trans ?_
  refine (run_bind_ok (run_get _)).trans ?_
  simp only [World.tree_printing]
  rw [hfails]
  unfold stopFor errorLines
  by_cases hsheet : e.isSheetError = true
  · simp only [if_pos hsheet]
    exact run_bind_ok (run_say _ _)
  · simp only [if_neg hsheet]
    rw [World.printing_nil]
    rfl

/-- A command line that asks for such a build comes to the same. -/
theorem run_of_build_error {previous : Option Database} {e : Error}
    (hwords : Invocation.ofWords words = .compile options)
    (hlevel : checkLevel (levelOf settings options) = .ok ())
    (hsources : sheetsOf settings options = .ok sources)
    (hprevious : oldDatabase tree (databasePathOf settings options)
      = .ok previous)
    (he : Build.run tree settings.format sources previous = .error e) :
    run settings words tree
      = ⟨(stopFor e).ending, ⟨tree, transcript
          (warnings tree (databasePathOf settings options)
            ++ errorLines e)⟩⟩ := by
  have hperform : perform settings (.compile options)
      = prepare settings options >>= finish options :=
    compile_eq settings options
  have hprepare := @run_prepare_of_error settings options sources
    ⟨tree, ""⟩ previous e hlevel hsources hprevious he
  rw [run_eq, hwords, hperform, run_bind, hprepare]
  unfold World.printing
  rw [String.empty_append]
  rfl

/-- A build that comes to the sheet at a path: it has a log level with a
meaning, its sheets can be named and are read up to that one, and an old
database is read or there is none. -/
structure Reaches (settings : Settings) (options : CompileOptions)
    (tree : FileTree) (path : Path) : Prop where
  level : checkLevel (levelOf settings options) = .ok ()
  sheets : ∃ sources, sheetsOf settings options = .ok sources
    ∧ sources.Reaches tree settings.format path
  previous : ∃ previous,
    oldDatabase tree (databasePathOf settings options) = .ok previous

/-- A build that comes to a sheet whose text cannot be read ends with the
error about that. -/
theorem Reaches.run_eq {path : Path} {e : Error}
    (h : Reaches settings options tree path)
    (hwords : Invocation.ofWords words = .compile options)
    (he : Sheet.readText tree settings.sourceEncoding path = .error e) :
    run settings words tree
      = ⟨(stopFor e).ending, ⟨tree, transcript
          (warnings tree (databasePathOf settings options)
            ++ errorLines e)⟩⟩ := by
  obtain ⟨sources, hsources, hreaches⟩ := h.sheets
  obtain ⟨previous, hprevious⟩ := h.previous
  exact run_of_build_error hwords h.level hsources hprevious
    (Build.run_of_load_error (hreaches.load_eq he))

/-- How a sheet is read whose encoding goes by a name. As a text that the
encoding writes in these bytes, its line breaks alike. When there is no
such text, the error names the path of the sheet and the encoding, and a
build that comes to the sheet changes no file, prints that one error, and
ends with exit code 1. But where nothing else than the mark of its byte
order is missing, the error is about no sheet, and it ends a build without
being reported. -/
theorem reports_of_undecodable {name : String} {encoding : Text.Encoding}
    {path : Path} (hnull : name.toList.contains '\x00' = false)
    (hname : Text.Encoding.ofName? name = some encoding)
    (hread : tree.read path = .ok bytes) :
    (∀ cs, encoding.Writes cs bytes →
        Sheet.readText tree name path
          = .ok (String.ofList (Text.unifyBreaks cs)))
      ∧ ((∀ cs, ¬encoding.Writes cs bytes) → ¬encoding.LacksMark bytes →
          Sheet.readText tree name path
              = .error (.sourceNotFound path.text
                  (some ("not valid " ++ name)))
            ∧ ∀ settings options words,
                Invocation.ofWords words = .compile options →
                settings.sourceEncoding = name →
                Reaches settings options tree path →
                  run settings words tree
                    = ⟨.exited 1, ⟨tree, transcript
                        (warnings tree (databasePathOf settings options)
                          ++ ["error: required sheet not found: "
                            ++ path.text ++ " (not valid " ++ name
                            ++ ")"])⟩⟩)
      ∧ (encoding.LacksMark bytes →
          Sheet.readText tree name path = .error .missingByteOrder
            ∧ ∀ settings options words,
                Invocation.ofWords words = .compile options →
                settings.sourceEncoding = name →
                Reaches settings options tree path →
                  run settings words tree
                    = ⟨.escaped .missingByteOrder, ⟨tree, transcript
                        (warnings tree
                          (databasePathOf settings options))⟩⟩) := by
  have htext := Sheet.readText_eq hnull hname hread
  refine ⟨fun cs hcs => ?_, fun hnone hmarked => ?_, fun hlacks => ?_⟩
  · rw [htext, (Text.decode_eq_text_iff encoding).2 hcs]
  · cases hdecode : encoding.decode bytes with
    | text cs =>
        exact absurd ((Text.decode_eq_text_iff encoding).1 hdecode)
          (hnone cs)
    | unmarked =>
        exact absurd ((Text.decode_eq_unmarked_iff encoding).1 hdecode)
          hmarked
    | malformed =>
        rw [hdecode] at htext
        refine ⟨htext, fun settings options words hwords hsource hreaches =>
          ?_⟩
        subst hsource
        rw [hreaches.run_eq hwords htext, errorLines_notValid]
        rfl
  · rw [(Text.decode_eq_unmarked_iff encoding).2 hlacks] at htext
    refine ⟨htext, fun settings options words hwords hsource hreaches => ?_⟩
    subst hsource
    rw [hreaches.run_eq hwords htext, errorLines_missingByteOrder,
      List.append_nil]
    rfl

/-- A project in an encoding of that name. -/
def settingsIn (name : String) : Settings :=
  { bareSettings with sourceEncoding := name }

/-- The files of that project: an actor sheet in UTF-16, and a background
sheet that is half of a pair of surrogates. -/
def unpairedTree : FileTree :=
  ⟨(["actors"],
      .file (Text.utf16Bytes .little "id,displayName\n".toList))
    :: (["backgrounds"], .file [0x00, 0xD8]) :: Build.echoTree.entries⟩

theorem reaches_unpairedTree :
    Reaches (settingsIn "utf-16-le") plainOptions unpairedTree
      (.ofString "backgrounds") := by
  have hactors : Table.read unpairedTree ⟨",", "utf-16-le"⟩
      (.ofString "actors") Sheet.actorColumns
        = .ok ⟨⟨["id", "displayName"]⟩, [0, 1], []⟩ := by
    decide +kernel
  refine ⟨by decide +kernel, ⟨{ Build.echoSources with stories := [] },
    by decide +kernel, by decide +kernel, ?_, ?_⟩,
    ⟨none, by rfl⟩⟩
  · intro table htable row hrow
    cases hactors.symm.trans htable
    cases hrow
  · refine ⟨[⟨.ofString "actors", Sheet.actorColumns, by decide,
      by decide +kernel⟩], _, _, rfl, rfl, fun other hother => ?_⟩
    rw [List.mem_singleton.1 hother]
    exact ⟨_, hactors⟩

/-- The sheet that has been read before does not matter, and that no text
can be written in two bytes is an error about the sheet. -/
theorem reports_unpairedTree :
    Sheet.readText unpairedTree "utf-16-le" (.ofString "backgrounds")
        = .error (.sourceNotFound "backgrounds"
            (some "not valid utf-16-le"))
      ∧ run (settingsIn "utf-16-le") ["compile"] unpairedTree
        = ⟨.exited 1, ⟨unpairedTree, "error: required sheet not found: "
            ++ "backgrounds (not valid utf-16-le)\n"⟩⟩ := by
  have hdecode : Text.Encoding.utf16Little.decode [0x00, 0xD8]
      = .malformed := by decide +kernel
  obtain ⟨-, hreports, -⟩ := @reports_of_undecodable unpairedTree
    [0x00, 0xD8] "utf-16-le" .utf16Little (.ofString "backgrounds")
    (by decide +kernel) (by decide +kernel) (by decide +kernel)
  have hnone : ∀ cs, ¬Text.Encoding.utf16Little.Writes cs [0x00, 0xD8] := by
    intro cs hcs
    rw [(Text.decode_eq_text_iff _).2 hcs] at hdecode
    cases hdecode
  obtain ⟨hread, hrun⟩ := hreports hnone nofun
  refine ⟨hread, (hrun (settingsIn "utf-16-le") plainOptions ["compile"]
    (by rfl) (by rfl) reaches_unpairedTree).trans ?_⟩
  rw [show warnings unpairedTree
    (databasePathOf (settingsIn "utf-16-le") plainOptions) = [] by
      decide +kernel]
  congr 2
  decide +kernel

/-- The files of a project whose actor sheet is one letter in UTF-16. -/
def marklessTree : FileTree :=
  ⟨(["actors"], .file [0x61, 0x00]) :: Build.echoTree.entries⟩

/-- Without its mark this letter is read neither as a text nor with an
error about the sheet, and a build ends without saying anything. -/
theorem escapes_marklessTree :
    Text.Encoding.ofName? "utf-16" = some .utf16
      ∧ marklessTree.read (.ofString "actors") = .ok [0x61, 0x00]
      ∧ Sheet.readText marklessTree "utf-16" (.ofString "actors")
        = .error .missingByteOrder
      ∧ (run (settingsIn "utf-16") ["compile"] marklessTree).ending
        = .escaped .missingByteOrder
      ∧ (run (settingsIn "utf-16") ["compile"] marklessTree).world.printed
        = "" := by
  decide +kernel

end Command

end Storyline

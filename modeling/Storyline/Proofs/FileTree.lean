/-
What an operation on files leaves alone.

* A path leads to one place in every tree in which it leads anywhere
  (`Path.place`), and it goes on leading there as long as the
  directories stay (`locate_of_keeps`);
* making a directory puts directories where there was nothing
  (`AddsDirectories`), and made once it is not made again
  (`makeDirectory_again`);
* writing a file changes what stands at its own place and nothing else
  (`run_write`).

Main statements: `addsDirectories_makeDirectory`, `makeDirectory_again`,
`run_write`, `read_eq_ok`.
-/
import Mathlib.Data.List.Basic
import Mathlib.Logic.Function.Basic
import Storyline.FileTree

namespace Storyline

/-- Where a path leads, if it leads anywhere. -/
def Path.place (p : Path) : Place :=
  p.components.foldl FileTree.next (FileTree.startOf p.anchor)

namespace FileTree

variable {tree made after : FileTree} {p : Path} {place other : Place}
  {bytes content : List UInt8}

-- =============================================================== paths

theorem eq_of_walk {components : List String}
    (h : tree.walk place components = .ok other) :
    other = components.foldl next place := by
  induction components generalizing place with
  | nil =>
      cases h
      rfl
  | cons component rest ih =>
      unfold walk at h
      split at h
      · cases h
      · cases h
      · split at h
        · cases h
        · exact ih h

theorem eq_place_of_locate (h : tree.locate p = .ok place) :
    place = p.place := by
  unfold locate at h
  split at h
  · cases h
  · exact eq_of_walk h

/-- The directories of one tree are directories in another one. -/
def KeepsDirectories (tree after : FileTree) : Prop :=
  ∀ place, tree.at? place = some .directory →
    after.at? place = some .directory

theorem KeepsDirectories.trans (h : KeepsDirectories tree made)
    (hafter : KeepsDirectories made after) : KeepsDirectories tree after :=
  fun place hat => hafter place (h place hat)

/-- A walk goes through directories only, so it stays while they do. -/
theorem walk_of_keeps {components : List String}
    (hkeeps : KeepsDirectories tree after)
    (h : tree.walk place components = .ok other) :
    after.walk place components = .ok other := by
  induction components generalizing place with
  | nil => exact h
  | cons component rest ih =>
      unfold walk at h ⊢
      split at h
      · cases h
      · cases h
      · next hat =>
        rw [hkeeps place hat]
        split at h
        · cases h
        · next hshort => rw [if_neg hshort]; exact ih h

theorem locate_of_keeps (hkeeps : KeepsDirectories tree after)
    (h : tree.locate p = .ok place) : after.locate p = .ok place := by
  unfold locate at h ⊢
  split at h
  · cases h
  · exact walk_of_keeps hkeeps h

/-- A path that can be read leads to a file. -/
theorem read_eq_ok :
    tree.read p = .ok bytes
      ↔ tree.locate p = .ok p.place
          ∧ tree.at? p.place = some (.file bytes) := by
  unfold read
  cases hlocate : tree.locate p with
  | error obstacle => simp
  | ok place =>
      rw [eq_place_of_locate hlocate]
      simp only [true_and]
      cases hat : tree.at? p.place with
      | none => simp
      | some entry => cases entry <;> simp

theorem find?_of_read (h : tree.read p = .ok bytes) :
    tree.find? p = .ok (some (.file bytes)) := by
  obtain ⟨hlocate, hat⟩ := read_eq_ok.1 h
  unfold find?
  rw [hlocate]
  exact congrArg _ hat

/-- A tree with the same at every place has the same files. -/
theorem read_of_at?_eq (h : after.at? = tree.at?)
    (hread : tree.read p = .ok bytes) : after.read p = .ok bytes := by
  have hkeeps : KeepsDirectories tree after := by
    intro place hplace
    rw [h]
    exact hplace
  obtain ⟨hlocate, hat⟩ := read_eq_ok.1 hread
  refine read_eq_ok.2 ⟨locate_of_keeps hkeeps hlocate, ?_⟩
  rw [h]
  exact hat

/-- A path that is found to lead to a file can be read. -/
theorem isFile_eq_true :
    tree.isFile p = .ok true ↔ ∃ bytes, tree.read p = .ok bytes := by
  simp only [read_eq_ok]
  unfold isFile find?
  cases hlocate : tree.locate p with
  | error obstacle =>
      cases obstacle <;> simp [bind, Except.bind, pure, Except.pure]
  | ok place =>
      rw [eq_place_of_locate hlocate]
      cases hat : tree.at? p.place with
      | none => simp [bind, Except.bind, pure, Except.pure, hat]
      | some entry =>
          cases entry <;> simp [bind, Except.bind, pure, Except.pure, hat]

-- ============================================================ changes

theorem lookup_filter_of_ne (h : other ≠ place)
    (entries : List (Place × Entry)) :
    (entries.filter (·.1 ≠ place)).lookup other = entries.lookup other := by
  induction entries with
  | nil => rfl
  | cons first rest ih =>
      obtain ⟨found, content⟩ := first
      by_cases hfound : found = place
      · rw [List.filter_cons_of_neg (by simp [hfound]), ih, List.lookup_cons,
          beq_eq_false_iff_ne.2 (hfound ▸ h)]
      · rw [List.filter_cons_of_pos (by simp [hfound]), List.lookup_cons,
          List.lookup_cons, ih]

theorem at?_put_of_ne (h : other ≠ place) (entry : Entry) :
    (tree.put place entry).at? other = tree.at? other := by
  unfold at? put
  rw [List.lookup_cons, beq_eq_false_iff_ne.2 h, lookup_filter_of_ne h]

/-- A place that is no directory takes what is put there. -/
theorem at?_put (h : tree.at? place ≠ some .directory) (entry : Entry) :
    (tree.put place entry).at? place = some entry := by
  refine at?_put_self tree place entry ?_
  by_contra hbase
  exact h (if_pos (by simpa using hbase))

/-- Putting something where no directory is keeps the directories. -/
theorem keepsDirectories_put (h : tree.at? place ≠ some .directory)
    (entry : Entry) : KeepsDirectories tree (tree.put place entry) := by
  intro other hother
  rw [at?_put_of_ne _ entry]
  · exact hother
  · rintro rfl
    exact h hother

/-- A tree with more directories, where there was nothing, and otherwise
the same. -/
def AddsDirectories (tree after : FileTree) : Prop :=
  ∀ place, after.at? place = tree.at? place
    ∨ tree.at? place = none ∧ after.at? place = some .directory

namespace AddsDirectories

theorem refl (tree : FileTree) : AddsDirectories tree tree :=
  fun _ => Or.inl rfl

theorem trans (h : AddsDirectories tree made)
    (hafter : AddsDirectories made after) : AddsDirectories tree after := by
  intro place
  rcases h place with hsame | ⟨hnone, hmade⟩
  · rw [← hsame]
    exact hafter place
  · rcases hafter place with hsame | ⟨hnone', -⟩
    · exact Or.inr ⟨hnone, hsame.trans hmade⟩
    · rw [hmade] at hnone'
      cases hnone'

theorem put (h : tree.at? place = none) :
    AddsDirectories tree (tree.put place .directory) := by
  intro other
  by_cases hother : other = place
  · subst hother
    refine Or.inr ⟨h, at?_put ?_ _⟩
    rw [h]
    exact nofun
  · exact Or.inl (at?_put_of_ne hother _)

theorem at?_of_some (h : AddsDirectories tree after) {entry : Entry}
    (hat : tree.at? place = some entry) : after.at? place = some entry := by
  rcases h place with hsame | ⟨hnone, -⟩
  · exact hsame.trans hat
  · rw [hat] at hnone
    cases hnone

theorem keeps (h : AddsDirectories tree after) :
    KeepsDirectories tree after := fun _ => h.at?_of_some

theorem read (h : AddsDirectories tree after)
    (hread : tree.read p = .ok bytes) :
    after.read p = .ok bytes := by
  obtain ⟨hlocate, hat⟩ := read_eq_ok.1 hread
  exact read_eq_ok.2 ⟨locate_of_keeps h.keeps hlocate, h.at?_of_some hat⟩

end AddsDirectories

/-- The content of the file at a place, if there is a file. -/
def fileAt? (tree : FileTree) (place : Place) : Option (List UInt8) :=
  match tree.at? place with
  | some (.file content) => some content
  | some .directory | none => none

theorem fileAt?_eq_some :
    tree.fileAt? place = some content
      ↔ tree.at? place = some (.file content) := by
  unfold fileAt?
  cases tree.at? place with
  | none => simp
  | some entry => cases entry <;> simp

/-- Adding directories leaves the files as they are. -/
theorem AddsDirectories.fileAt?_eq (h : AddsDirectories tree after) :
    after.fileAt? = tree.fileAt? := by
  funext place
  unfold fileAt?
  rcases h place with hsame | ⟨hnone, hmade⟩
  · rw [hsame]
  · rw [hnone, hmade]

/-- A path that leads to a file, or to nothing in a directory. -/
structure Writable (tree : FileTree) (p : Path) : Prop where
  locate : tree.locate p = .ok p.place
  noDirectory : tree.at? p.place ≠ some .directory

/-- A file is read at its own place after it was written. -/
theorem Writable.read_put (h : tree.Writable p) :
    (tree.put p.place (.file content)).read p = .ok content :=
  read_eq_ok.2 ⟨locate_of_keeps (keepsDirectories_put h.noDirectory _)
    h.locate, at?_put h.noDirectory _⟩

/-- Writing changes one file. -/
theorem Writable.fileAt?_put (h : tree.Writable p) :
    (tree.put p.place (.file content)).fileAt?
      = Function.update tree.fileAt? p.place (some content) := by
  funext other
  by_cases hother : other = p.place
  · subst hother
    rw [Function.update_self, fileAt?_eq_some]
    exact at?_put h.noDirectory _
  · rw [Function.update_of_ne hother]
    unfold fileAt?
    rw [at?_put_of_ne hother]

/-- A file at another place is read as before. -/
theorem read_put_of_ne (hread : tree.read p = .ok bytes)
    (hplace : p.place ≠ place) (hat : tree.at? place ≠ some .directory) :
    (tree.put place (.file content)).read p = .ok bytes := by
  obtain ⟨hlocate, hfound⟩ := read_eq_ok.1 hread
  exact read_eq_ok.2 ⟨locate_of_keeps (keepsDirectories_put hat _) hlocate,
    by rwa [at?_put_of_ne hplace]⟩

/-- A file that can be read can be written. -/
theorem writable_of_read (h : tree.read p = .ok bytes) : tree.Writable p := by
  obtain ⟨hlocate, hat⟩ := read_eq_ok.1 h
  refine ⟨hlocate, ?_⟩
  rw [hat]
  exact nofun

/-- A file that is replaced by the same file changes nothing. -/
theorem at?_put_same (h : tree.at? place = some (.file content)) :
    (tree.put place (.file content)).at? = tree.at? := by
  funext other
  by_cases hother : other = place
  · subst hother
    rw [h]
    refine at?_put ?_ _
    rw [h]
    exact nofun
  · exact at?_put_of_ne hother _

-- ============================================================= writing

/-- Writing a file, spelled out. -/
theorem run_write_eq (tree : FileTree) (p : Path) (content : List UInt8) :
    (write p content).run tree
      = match tree.locate p with
        | .error obstacle => (.error (obstacle.error p), tree)
        | .ok place =>
          match tree.at? place with
          | some .directory => (.error (.isDirectory p), tree)
          | none | some (.file _) =>
            (.ok (), tree.put place (.file content)) := by
  show ExceptT.run (m := StateM FileTree)
    (match tree.locate p with
      | .error _ => _
      | .ok place =>
        match tree.at? place with
        | some .directory => _
        | none | some (.file _) => _) tree = _
  cases tree.locate p with
  | error obstacle => rfl
  | ok place =>
      simp only
      cases tree.at? place with
      | none => rfl
      | some entry => cases entry <;> rfl

theorem Writable.run_write (h : tree.Writable p) :
    (write p content).run tree
      = (.ok (), tree.put p.place (.file content)) := by
  rw [run_write_eq, h.locate]
  simp only
  split
  · next hdirectory => exact absurd hdirectory h.noDirectory
  · rfl
  · rfl

/-- Writing a file either fails and changes nothing, or puts the file at
the place of its path. -/
theorem run_write (tree : FileTree) (p : Path) (content : List UInt8) :
    (∃ e, (write p content).run tree = (.error e, tree))
      ∨ tree.Writable p
          ∧ (write p content).run tree
              = (.ok (), tree.put p.place (.file content)) := by
  cases hlocate : tree.locate p with
  | error obstacle =>
      refine Or.inl ⟨obstacle.error p, ?_⟩
      rw [run_write_eq, hlocate]
  | ok place =>
      obtain rfl := eq_place_of_locate hlocate
      by_cases hat : tree.at? p.place = some .directory
      · refine Or.inl ⟨.isDirectory p, ?_⟩
        rw [run_write_eq, hlocate]
        simp only [hat]
      · have hwritable : tree.Writable p := ⟨hlocate, hat⟩
        exact Or.inr ⟨hwritable, hwritable.run_write⟩

-- ================================================== making directories

/-- One step of making a directory, spelled out. -/
theorem run_makeFrom_cons (p : Path) (anyMade : Bool)
    (passed : List String) (place : Place) (component : String)
    (rest : List String) (tree : FileTree) :
    (makeFrom p anyMade passed place (component :: rest)).run tree
      = if componentLimit < component.utf8ByteSize then
          (.error (.nameTooLong p), tree)
        else
          match tree.at? (next place component) with
          | some .directory =>
            (makeFrom p anyMade (passed ++ [component])
              (next place component) rest).run tree
          | some (.file _) =>
            (.error (fileInTheWay p anyMade (passed ++ [component]) rest),
              tree)
          | none =>
            (makeFrom p true (passed ++ [component]) (next place component)
              rest).run (tree.put (next place component) .directory) := by
  by_cases hlong : componentLimit < component.utf8ByteSize
  · rw [if_pos hlong, makeFrom, if_pos hlong]
    rfl
  · rw [if_neg hlong, makeFrom, if_neg hlong]
    show ExceptT.run (m := StateM FileTree)
      (match tree.at? (next place component) with
        | some .directory => _
        | some (.file _) => _
        | none => _) tree = _
    cases tree.at? (next place component) with
    | none => rfl
    | some entry => cases entry <;> rfl

theorem addsDirectories_makeFrom (p : Path) (components : List String) :
    ∀ (anyMade : Bool) (passed : List String) (place : Place)
      (tree : FileTree),
      AddsDirectories tree
        ((makeFrom p anyMade passed place components).run tree).2 := by
  induction components with
  | nil => exact fun _ _ _ tree => .refl tree
  | cons component rest ih =>
      intro anyMade passed place tree
      rw [run_makeFrom_cons]
      split
      · exact .refl tree
      · split
        · exact ih _ _ _ tree
        · exact .refl tree
        · next hnone => exact (AddsDirectories.put hnone).trans (ih _ _ _ _)

/-- Making a directory adds directories and does nothing else, also when
it fails on the way. -/
theorem addsDirectories_makeDirectory (tree : FileTree) (p : Path) :
    AddsDirectories tree ((makeDirectory p).run tree).2 := by
  unfold makeDirectory
  split
  · exact .refl tree
  · exact addsDirectories_makeFrom p p.components false [] _ tree

/-- Where all directories have been made and kept, the way is free. -/
theorem makeFrom_again (p : Path) (components : List String) :
    ∀ (anyMade again : Bool) (passed others : List String) (place : Place)
      (tree : FileTree),
      (makeFrom p anyMade passed place components).run tree
          = (.ok (), made) →
        KeepsDirectories made after →
          (makeFrom p again others place components).run after
            = (.ok (), after) := by
  induction components with
  | nil => exact fun _ _ _ _ _ _ _ _ => rfl
  | cons component rest ih =>
      intro anyMade again passed others place tree h hkeeps
      rw [run_makeFrom_cons] at h ⊢
      split at h
      · cases h
      · next hshort =>
        -- in either case the step ends in a directory of the tree made
        have hdirectory : ∀ (before : FileTree) (some : Bool),
            before.at? (next place component) = Option.some .directory →
            (makeFrom p some (passed ++ [component]) (next place component)
              rest).run before = (.ok (), made) →
            after.at? (next place component) = Option.some .directory := by
          intro before some hat hrest
          have hadds := addsDirectories_makeFrom p rest some
            (passed ++ [component]) (next place component) before
          rw [hrest] at hadds
          exact hkeeps _ (hadds.at?_of_some hat)
        rw [if_neg hshort]
        split at h
        · next hat =>
          rw [hdirectory tree _ hat h]
          exact ih _ _ _ _ _ _ h hkeeps
        · cases h
        · next hnone =>
          rw [hdirectory _ _ (at?_put (by rw [hnone]; exact nofun) _) h]
          exact ih _ _ _ _ _ _ h hkeeps

/-- A directory that was made and kept is not made again. -/
theorem makeDirectory_again
    (h : (makeDirectory p).run tree = (.ok (), made))
    (hkeeps : KeepsDirectories made after) :
    (makeDirectory p).run after = (.ok (), after) := by
  unfold makeDirectory at h ⊢
  split at h
  · cases h
  · exact makeFrom_again p p.components _ _ _ _ _ _ h hkeeps

end FileTree

end Storyline

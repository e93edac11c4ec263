/-
The tables of the catalog one at a time, as shelves: setting one, counting
them all, and the requests that a catalog serves between two look-ups. A
request that fails may have been served in part.
-/
import Storyline.Catalog

namespace Storyline.Catalog

-- ============================================================ tables

/-- A kind of resource, with an id and one value in each row of its sheet. -/
inductive Kind where
  | background
  | music
  | soundEffect
  | sequence
deriving DecidableEq, Repr

/-- A table of the catalog: the resources of one kind, or the poses. -/
inductive Shelf where
  | resources (kind : Kind)
  | poses
deriving DecidableEq, Repr

namespace Kind

/-- The entries for a kind of resource. -/
abbrev Entry : Kind → Type
  | background => BackgroundEntry
  | music => MusicEntry
  | soundEffect => SoundEffectEntry
  | sequence => SequenceEntry

instance : (kind : Kind) → DecidableEq kind.Entry
  | background => inferInstanceAs (DecidableEq BackgroundEntry)
  | music => inferInstanceAs (DecidableEq MusicEntry)
  | soundEffect => inferInstanceAs (DecidableEq SoundEffectEntry)
  | sequence => inferInstanceAs (DecidableEq SequenceEntry)

/-- The entries of a catalog for a kind of resource. -/
def entries : (kind : Kind) → Catalog → List kind.Entry
  | background, catalog => catalog.backgrounds
  | music, catalog => catalog.musicTracks
  | soundEffect, catalog => catalog.soundEffects
  | sequence, catalog => catalog.sequenceTemplates

end Kind

namespace Shelf

/-- The entries on a shelf. -/
abbrev Entry : Shelf → Type
  | resources kind => kind.Entry
  | poses => StandingEntry

instance : (shelf : Shelf) → DecidableEq shelf.Entry
  | resources kind => inferInstanceAs (DecidableEq kind.Entry)
  | poses => inferInstanceAs (DecidableEq StandingEntry)

/-- What a catalog has on a shelf. -/
def entries : (shelf : Shelf) → Catalog → List shelf.Entry
  | resources kind, catalog => kind.entries catalog
  | poses, catalog => catalog.standingPoses

/-- The name that a shelf is counted under. -/
def name : Shelf → String
  | resources .background => "backgrounds"
  | resources .music => "music_tracks"
  | resources .soundEffect => "sound_effects"
  | resources .sequence => "sequence_templates"
  | poses => "standing_poses"

/-- All shelves in the order in which they are counted. -/
def all : List Shelf :=
  [resources .background, resources .music, resources .soundEffect,
   resources .sequence, poses]

/-- Puts entries on a shelf, in place of what was there. -/
def put : (shelf : Shelf) → List shelf.Entry → Catalog → Catalog
  | resources .background, entries, catalog =>
    { catalog with backgrounds := entries }
  | resources .music, entries, catalog =>
    { catalog with musicTracks := entries }
  | resources .soundEffect, entries, catalog =>
    { catalog with soundEffects := entries }
  | resources .sequence, entries, catalog =>
    { catalog with sequenceTemplates := entries }
  | poses, entries, catalog => { catalog with standingPoses := entries }

end Shelf

/-- How many entries there are on each shelf, by its name. -/
def counts (catalog : Catalog) : List (String × Nat) :=
  Shelf.all.map fun shelf => (shelf.name, (shelf.entries catalog).length)

-- ========================================================== requests

/-- What a catalog is asked to do: to replace one table by given entries, to
replace all of them by the rows of sheets, or to make room for a new catalog of
such rows. -/
inductive Request where
  | set (shelf : Shelf) (entries : List shelf.Entry)
  | update (sheets : Sheets)
  | build (sheets : Sheets)

/-- Serves a request. A catalog that cannot be built leaves the old one in its
place. -/
def serve (catalog : Catalog) : Request → Catalog × Except Error Unit
  | .set shelf entries => (shelf.put entries catalog, .ok ())
  | .update sheets => catalog.update sheets
  | .build sheets =>
    match ofSheets sheets with
    | .ok built => (built, .ok ())
    | .error e => (catalog, .error e)

/-- The catalog after requests, whichever of them failed. -/
def serveAll (catalog : Catalog) (requests : List Request) : Catalog :=
  requests.foldl (fun catalog request => (catalog.serve request).1) catalog

end Storyline.Catalog

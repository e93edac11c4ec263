/-
A catalog that is written is read back as it was, when the numbers of the
actors in its poses are short. All other fields are texts.

Main statement: `Catalog.document_toJson`.
-/
import Storyline.Catalog.Json
import Storyline.Proofs.Database.RoundTrip

namespace Storyline

open Json (Fits IsShort)

variable {good : Double → Prop} {room : Nat}

-- =========================================================== entries

/-- An object of two texts fits into any room. -/
theorem fits_two_strings (first second name value : String) :
    Fits good (room + 1)
      (.object [(first, .string name), (second, .string value)]) := by
  apply Fits.object
  simp only [List.forall_mem_cons]
  exact ⟨.string _, .string _, nofun⟩

theorem BackgroundEntry.ofJson_toJson (entry : BackgroundEntry) :
    ofJson entry.toJson = .valid entry := by
  apply Json.strictObject_of_names _ (by decide) (by rfl)
  rfl

theorem MusicEntry.ofJson_toJson (entry : MusicEntry) :
    ofJson entry.toJson = .valid entry := by
  apply Json.strictObject_of_names _ (by decide) (by rfl)
  rfl

theorem SoundEffectEntry.ofJson_toJson (entry : SoundEffectEntry) :
    ofJson entry.toJson = .valid entry := by
  apply Json.strictObject_of_names _ (by decide) (by rfl)
  rfl

theorem SequenceEntry.ofJson_toJson (entry : SequenceEntry) :
    ofJson entry.toJson = .valid entry := by
  apply Json.strictObject_of_names _ (by decide) (by rfl)
  rfl

theorem StandingEntry.ofJson_toJson (entry : StandingEntry) :
    ofJson entry.toJson = .valid entry := by
  apply Json.strictObject_of_names _ (by decide) (by rfl)
  rfl

theorem StandingEntry.fits_toJson {entry : StandingEntry}
    (h : IsShort entry.actorId) : Fits good (room + 1) entry.toJson := by
  apply Fits.object
  simp only [List.forall_mem_cons]
  exact ⟨.integer h, .string _, .string _, nofun⟩

-- ========================================================= the whole

namespace Catalog

variable {catalog : Catalog}

/-- A catalog that can be read. -/
def Lawful (catalog : Catalog) : Prop :=
  ∀ entry ∈ catalog.standingPoses, IsShort entry.actorId

theorem ofJson_toJson (catalog : Catalog) :
    ofJson catalog.toJson = .valid catalog := by
  apply Json.strictObject_of_names _ (by decide) (by rfl)
  rw [Json.optional_of_lookup "backgrounds" (by rfl)
      (Json.readList_map fun entry _ => entry.ofJson_toJson),
    Json.optional_of_lookup "music_tracks" (by rfl)
      (Json.readList_map fun entry _ => entry.ofJson_toJson),
    Json.optional_of_lookup "sound_effects" (by rfl)
      (Json.readList_map fun entry _ => entry.ofJson_toJson),
    Json.optional_of_lookup "sequence_templates" (by rfl)
      (Json.readList_map fun entry _ => entry.ofJson_toJson),
    Json.optional_of_lookup "standing_poses" (by rfl)
      (Json.readList_map fun entry _ => entry.ofJson_toJson)]
  rfl

theorem fits_toJson (h : catalog.Lawful) :
    Fits good Json.Tolerance.strict.depth catalog.toJson := by
  have hbackgrounds : Fits good 199
      (.array (catalog.backgrounds.map BackgroundEntry.toJson)) :=
    fits_array_map fun entry _ => fits_two_strings _ _ _ _
  have hmusic : Fits good 199
      (.array (catalog.musicTracks.map MusicEntry.toJson)) :=
    fits_array_map fun entry _ => fits_two_strings _ _ _ _
  have hsounds : Fits good 199
      (.array (catalog.soundEffects.map SoundEffectEntry.toJson)) :=
    fits_array_map fun entry _ => fits_two_strings _ _ _ _
  have hsequences : Fits good 199
      (.array (catalog.sequenceTemplates.map SequenceEntry.toJson)) :=
    fits_array_map fun entry _ => fits_two_strings _ _ _ _
  have hposes : Fits good 199
      (.array (catalog.standingPoses.map StandingEntry.toJson)) :=
    fits_array_map fun entry hentry =>
      StandingEntry.fits_toJson (h entry hentry)
  apply Fits.object
  simp only [List.forall_mem_cons]
  exact ⟨hbackgrounds, hmusic, hsounds, hsequences, hposes, nofun⟩

/-- A lawful catalog that is written is read back as it was. -/
theorem document_toJson (h : catalog.Lawful) :
    Json.document ofJson catalog.toJson.indented = .valid catalog := by
  unfold Json.document
  rw [Json.ofString_indented (fits_toJson h)]
  exact ofJson_toJson catalog

end Catalog

end Storyline

import Backbeat.Catalog.Memory
import Backbeat.Proofs.Data.Outcomes

/-!
# Candidates of a filter

A catalog tells its beats apart by the texts of their identifiers, because every beat stands under
its own identifier and the text of an identifier can be read back.  Excluding texts therefore
leaves out exactly the beats that were meant.
-/

namespace Backbeat

theorem map_idText (beats : List Beat) :
    beats.map Beat.idText = (beats.map Beat.id).map Uuid.toString :=
  List.map_map.symm

namespace MemoryCatalog

variable {catalog : MemoryCatalog} {filter : Filter} {excluded : List String} {beat : Beat}

/-- Recording an owner leaves the beats as they are. -/
@[simp]
theorem beats_saveOwner (catalog : MemoryCatalog) (id : Uuid) (user : String) :
    (catalog.saveOwner id user).2.beats = catalog.beats := by
  rw [saveOwner]
  split <;> rfl

theorem mem_values_iff : beat ∈ catalog.beats.values ↔ catalog.beats.get? beat.id = some beat := by
  rw [Table.get?_eq_some_iff, Table.values, List.mem_map]
  constructor
  · rintro ⟨entry, listed, rfl⟩
    rwa [catalog.keyed (Table.get?_of_mem listed)]
  · intro listed
    exact ⟨_, listed, rfl⟩

/-- The beats of a catalog stand in the order of their keys. -/
theorem map_id_values (catalog : MemoryCatalog) :
    catalog.beats.values.map Beat.id = catalog.beats.keys := by
  rw [Table.values, Table.keys, List.map_map]
  apply List.map_congr_left
  intro entry listed
  exact catalog.keyed (Table.get?_of_mem listed)

theorem nodup_idText_values (catalog : MemoryCatalog) :
    (catalog.beats.values.map Beat.idText).Nodup := by
  rw [map_idText, map_id_values]
  apply List.Pairwise.map _ _ catalog.beats.distinct
  intro left right different same
  exact different (Uuid.eq_of_toString_eq same)

/-- No two candidates have the same text. -/
theorem nodup_idText_candidates (catalog : MemoryCatalog) (filter : Filter)
    (excluded : List String) : ((catalog.candidates filter excluded).map Beat.idText).Nodup :=
  (nodup_idText_values catalog).sublist (List.filter_sublist.map Beat.idText)

/-- Excluding texts leaves out the beats of these texts. -/
theorem mem_candidates_iff :
    beat ∈ catalog.candidates filter excluded ↔
      beat ∈ catalog.candidates filter [] ∧ beat.idText ∉ excluded := by
  simp [candidates, and_assoc]

end MemoryCatalog

end Backbeat

import Backbeat.Proofs.Catalog.Candidates
import Backbeat.Rehearsal.Sample
import Mathlib.Data.Finset.Card

/-!
# What a catalog offers

A catalog is filled from a text or from a list, and then beat by beat.  However often identifiers
are repeated, it keeps the beat that came last of each, so that what it answers is given by the
sequence of the beats that came.

The main statement is that a search offers, over all choices, the last beats that the filter accepts
and whose texts are not excluded: none twice, none of an earlier version, and none left out.
-/

namespace Backbeat

/-- The choice of a given beat wherever it is among the candidates. -/
def Choice.preferring (wanted : Beat) : Choice where
  pick candidates := if wanted ∈ candidates then some wanted else candidates.head?
  mem_of_pick := by
    intro candidates beat picked
    split at picked
    · next listed => exact Option.some.inj picked ▸ listed
    · exact List.mem_of_head? picked
  pick_isSome := by
    intro candidates nonempty
    split
    · rfl
    · exact Choice.first.pick_isSome nonempty

theorem Choice.pick_preferring {wanted : Beat} {candidates : List Beat}
    (listed : wanted ∈ candidates) : (preferring wanted).pick candidates = some wanted :=
  if_pos listed

/-! ## The last of each identifier -/

/-- The beat came last of those with its identifier. -/
def IsLast (beats : List Beat) (beat : Beat) : Prop :=
  ∃ before after, beats = before ++ beat :: after ∧ ∀ later ∈ after, later.id ≠ beat.id

namespace IsLast

variable {beats : List Beat} {beat next : Beat}

theorem mem (last : IsLast beats beat) : beat ∈ beats := by
  obtain ⟨before, after, rfl, -⟩ := last
  exact List.mem_append_right before List.mem_cons_self

/-- One more beat is the last of its identifier, and changes nothing for the others. -/
theorem concat_iff :
    IsLast (beats ++ [next]) beat ↔ beat = next ∨ IsLast beats beat ∧ next.id ≠ beat.id := by
  constructor
  · rintro ⟨before, after, split, none_later⟩
    rcases List.eq_nil_or_concat after with rfl | ⟨between, final, rfl⟩
    · exact .inl (List.append_singleton_inj.mp split).2.symm
    · have moved : beats ++ [next] = (before ++ beat :: between) ++ [final] := by
        rw [split, List.concat_eq_append, List.append_assoc, List.cons_append]
      obtain ⟨rfl, rfl⟩ := List.append_singleton_inj.mp moved
      refine .inr ⟨⟨before, between, rfl, ?_⟩, none_later next (by simp)⟩
      exact fun later member => none_later later (by simp [member])
  · rintro (rfl | ⟨⟨before, after, rfl, none_later⟩, different⟩)
    · exact ⟨beats, [], rfl, List.forall_mem_nil _⟩
    · refine ⟨before, after ++ [next], by simp, ?_⟩
      intro later member
      rcases List.mem_append.mp member with earlier | final
      · exact none_later later earlier
      · rwa [List.mem_singleton.mp final]

theorem exists_of_mem {id : Uuid} (listed : id ∈ beats.map Beat.id) :
    ∃ beat, IsLast beats beat ∧ beat.id = id := by
  induction beats using List.reverseRecOn with
  | nil => cases listed
  | append_singleton beats next ih =>
    by_cases same : next.id = id
    · exact ⟨next, concat_iff.mpr (.inl rfl), same⟩
    · have earlier : id ∈ beats.map Beat.id := by
        simpa [Ne.symm same] using listed
      obtain ⟨beat, last, named⟩ := ih earlier
      exact ⟨beat, concat_iff.mpr (.inr ⟨last, named ▸ same⟩), named⟩

end IsLast

namespace MemoryCatalog

variable {catalog : MemoryCatalog} {beats : List Beat} {filter : Filter} {excluded : List String}
  {beat : Beat} {id : Uuid}

/-! ## Filling a catalog -/

/-- The text lists the beats at the time `now`. -/
def Lists (now : Calendar.Instant) (text : String) (beats : List Beat) : Prop :=
  ∃ items, Json.read text = .ok (.arr items) ∧ items.mapM (Beat.ofJson now) = .ok beats

/-- How a catalog is filled, with all beats that came in their order. -/
inductive FilledWith : List Beat → MemoryCatalog → Prop
  | ofText {now : Calendar.Instant} {text : String} {beats : List Beat} {catalog : MemoryCatalog}
    (listed : Lists now text beats) (loaded : ofText now text = .ok catalog) :
    FilledWith beats catalog
  | ofBeats (beats : List Beat) : FilledWith beats (ofBeats beats)
  | insert {beats : List Beat} {catalog : MemoryCatalog} (filled : FilledWith beats catalog)
    (beat : Beat) : FilledWith (beats ++ [beat]) (catalog.insert beat)
  | saveOwner {beats : List Beat} {catalog : MemoryCatalog} (filled : FilledWith beats catalog)
    (id : Uuid) (user : String) : FilledWith beats (catalog.saveOwner id user).2

/-- The catalog keeps the last beat of each identifier. -/
def KeepsLast (beats : List Beat) (catalog : MemoryCatalog) : Prop :=
  ∀ id beat, catalog.beats.get? id = some beat ↔ IsLast beats beat ∧ beat.id = id

theorem KeepsLast.insert (keeps : KeepsLast beats catalog) (next : Beat) :
    KeepsLast (beats ++ [next]) (catalog.insert next) := by
  intro id beat
  show (catalog.beats.insert next.id next).get? id = some beat ↔ _
  rw [Table.get?_insert, IsLast.concat_iff]
  split
  · next same =>
    constructor
    · rintro ⟨⟩
      exact ⟨.inl rfl, same⟩
    · rintro ⟨rfl | ⟨-, different⟩, named⟩
      · rfl
      · exact absurd (same.trans named.symm) different
  · next other =>
    rw [keeps id beat]
    constructor
    · rintro ⟨last, named⟩
      exact ⟨.inr ⟨last, named ▸ other⟩, named⟩
    · rintro ⟨rfl | ⟨last, -⟩, named⟩
      · exact absurd named other
      · exact ⟨last, named⟩

theorem keepsLast_ofBeats (beats : List Beat) : KeepsLast beats (ofBeats beats) := by
  induction beats using List.reverseRecOn with
  | nil =>
    intro id beat
    constructor
    · nofun
    · rintro ⟨last, -⟩
      cases last.mem
  | append_singleton beats next ih =>
    rw [ofBeats, List.foldl_concat]
    exact ih.insert next

theorem ofText_of_lists {now : Calendar.Instant} {text : String} (listed : Lists now text beats) :
    ofText now text = .ok (ofBeats beats) := by
  obtain ⟨items, read, listed⟩ := listed
  simp only [ofText, read, ofJson, listed]
  rfl

theorem FilledWith.keepsLast (filled : FilledWith beats catalog) : KeepsLast beats catalog := by
  induction filled with
  | ofText listed loaded =>
    rw [ofText_of_lists listed] at loaded
    exact Except.ok.inj loaded ▸ keepsLast_ofBeats _
  | ofBeats beats => exact keepsLast_ofBeats beats
  | insert _ beat ih => exact ih.insert beat
  | saveOwner _ id user ih =>
    intro other beat
    rw [beats_saveOwner]
    exact ih other beat

/-! ## What is found -/

/-- Some choice finds the beat. -/
def Offers (catalog : MemoryCatalog) (filter : Filter) (excluded : List String) (beat : Beat) :
    Prop :=
  ∃ choice, catalog.findMatching choice filter excluded = .ok beat

theorem findMatching_eq_ok_iff {choice : Choice} :
    catalog.findMatching choice filter excluded = .ok beat ↔
      choice.pick (catalog.candidates filter excluded) = some beat := by
  rw [findMatching]
  split
  · next found picked => simp [picked]
  · next picked => simp [picked]

/-- Every candidate is offered, and nothing else is. -/
theorem offers_iff_mem : catalog.Offers filter excluded beat ↔
    beat ∈ catalog.candidates filter excluded := by
  constructor
  · rintro ⟨choice, found⟩
    exact choice.mem_of_pick (findMatching_eq_ok_iff.mp found)
  · intro listed
    exact ⟨.preferring beat, findMatching_eq_ok_iff.mpr (Choice.pick_preferring listed)⟩

theorem findMatching_eq_error_iff {choice : Choice} {error : RepositoryError} :
    catalog.findMatching choice filter excluded = .error error ↔
      error = .notFound "no beat matches the filter" ∧
        catalog.candidates filter excluded = [] := by
  rw [findMatching]
  split
  · next found picked =>
    have some := List.ne_nil_of_mem (choice.mem_of_pick picked)
    simp [some]
  · next picked =>
    have none : catalog.candidates filter excluded = [] := by
      by_contra some
      have found := choice.pick_isSome some
      rw [picked] at found
      cases found
    simp [none, eq_comm]

theorem FilledWith.mem_candidates_iff (filled : FilledWith beats catalog) :
    beat ∈ catalog.candidates filter excluded ↔
      IsLast beats beat ∧ filter.accepts beat = true ∧ beat.idText ∉ excluded := by
  rw [candidates, List.mem_filter, mem_values_iff, filled.keepsLast]
  simp

theorem nodup_id_candidates (catalog : MemoryCatalog) (filter : Filter) (excluded : List String) :
    ((catalog.candidates filter excluded).map Beat.id).Nodup := by
  have texts := catalog.nodup_idText_candidates filter excluded
  rw [map_idText] at texts
  exact texts.of_map Uuid.toString

theorem FilledWith.mem_keys_iff (filled : FilledWith beats catalog) :
    id ∈ catalog.beats.keys ↔ id ∈ beats.map Beat.id := by
  rw [← map_id_values]
  constructor
  · intro listed
    obtain ⟨beat, kept, rfl⟩ := List.mem_map.mp listed
    obtain ⟨last, -⟩ := (filled.keepsLast _ _).mp (mem_values_iff.mp kept)
    exact List.mem_map_of_mem last.mem
  · intro came
    obtain ⟨beat, last, rfl⟩ := IsLast.exists_of_mem came
    exact List.mem_map_of_mem (mem_values_iff.mpr ((filled.keepsLast _ _).mpr ⟨last, rfl⟩))

/-- There are as many beats as identifiers have come. -/
theorem FilledWith.size_eq (filled : FilledWith beats catalog) :
    catalog.size = (beats.map Beat.id).toFinset.card := by
  have same : catalog.beats.keys.toFinset = (beats.map Beat.id).toFinset := by
    ext id
    rw [List.mem_toFinset, List.mem_toFinset, filled.mem_keys_iff]
  have distinct : catalog.beats.keys.Nodup := catalog.beats.distinct
  rw [← same, List.toFinset_card_of_nodup distinct, Table.keys, List.length_map]
  rfl

theorem FilledWith.getById_eq_ok_iff (filled : FilledWith beats catalog) :
    catalog.getById id = .ok beat ↔ IsLast beats beat ∧ beat.id = id := by
  rw [← filled.keepsLast, getById]
  cases catalog.beats.get? id <;> simp

theorem FilledWith.getById_eq_error_iff (filled : FilledWith beats catalog)
    {error : RepositoryError} :
    catalog.getById id = .error error ↔ error = .notFound id.toString ∧ id ∉ beats.map Beat.id := by
  have missing : catalog.beats.get? id = none ↔ id ∉ beats.map Beat.id := by
    rw [Option.eq_none_iff_forall_ne_some]
    constructor
    · intro none came
      obtain ⟨beat, last, named⟩ := IsLast.exists_of_mem came
      exact none beat ((filled.keepsLast id beat).mpr ⟨last, named⟩)
    · intro absent beat found
      obtain ⟨last, rfl⟩ := (filled.keepsLast id beat).mp found
      exact absent (List.mem_map_of_mem last.mem)
  rw [← missing, getById]
  cases catalog.beats.get? id <;> simp [eq_comm]

/-- A search offers, over all choices, exactly the last beats of their identifiers that the filter
accepts and whose texts are not excluded, each once; it finds nothing when there is none; an earlier
version is never found, and one text excludes the beats of at most one identifier.  The catalog has
as many beats as identifiers came, and answers for each with the last one. -/
theorem FilledWith.offers_exactly (filled : FilledWith beats catalog) (filter : Filter)
    (excluded : List String) :
    (∀ beat, catalog.Offers filter excluded beat ↔
      IsLast beats beat ∧ filter.accepts beat = true ∧ beat.idText ∉ excluded) ∧
    ((catalog.candidates filter excluded).map Beat.id).Nodup ∧
    (∀ choice error, catalog.findMatching choice filter excluded = .error error ↔
      error = .notFound "no beat matches the filter" ∧
        ∀ beat, IsLast beats beat → filter.accepts beat = true → beat.idText ∈ excluded) ∧
    (∀ last, IsLast beats last → filter.accepts last = false →
      ∀ beat, catalog.Offers filter excluded beat → beat.id ≠ last.id) ∧
    (∀ (text : String) (first second : Beat),
      catalog.Offers filter excluded first → ¬ catalog.Offers filter (text :: excluded) first →
      catalog.Offers filter excluded second → ¬ catalog.Offers filter (text :: excluded) second →
        first.id = second.id) ∧
    catalog.size = (beats.map Beat.id).toFinset.card ∧
    ∀ id, (∀ beat, catalog.getById id = .ok beat ↔ IsLast beats beat ∧ beat.id = id) ∧
      ∀ error, catalog.getById id = .error error ↔
        error = .notFound id.toString ∧ id ∉ beats.map Beat.id := by
  have offered (excluded : List String) (beat : Beat) : catalog.Offers filter excluded beat ↔
      IsLast beats beat ∧ filter.accepts beat = true ∧ beat.idText ∉ excluded := by
    rw [offers_iff_mem, filled.mem_candidates_iff]
  refine ⟨offered excluded, catalog.nodup_id_candidates filter excluded, ?_, ?_, ?_,
    filled.size_eq, fun id => ⟨fun _ => filled.getById_eq_ok_iff,
      fun _ => filled.getById_eq_error_iff⟩⟩
  · intro choice error
    rw [findMatching_eq_error_iff, List.eq_nil_iff_forall_not_mem]
    refine and_congr_right fun _ => forall_congr' fun beat => ?_
    rw [filled.mem_candidates_iff]
    simp
  · intro last came rejected beat found same
    obtain ⟨beat_last, accepted, -⟩ := (offered excluded beat).mp found
    have one : beat = last := by
      have kept := (filled.keepsLast last.id beat).mpr ⟨beat_last, same⟩
      rw [(filled.keepsLast last.id last).mpr ⟨came, rfl⟩] at kept
      exact (Option.some.inj kept).symm
    rw [one, rejected] at accepted
    cases accepted
  · intro text first second found_first lost_first found_second lost_second
    have named {beat : Beat} (found : catalog.Offers filter excluded beat)
        (lost : ¬ catalog.Offers filter (text :: excluded) beat) : beat.idText = text := by
      rw [offered] at found lost
      obtain ⟨last, accepted, outside⟩ := found
      by_contra other
      exact lost ⟨last, accepted, by simp [other, outside]⟩
    apply Uuid.eq_of_toString_eq
    exact (named found_first lost_first).trans (named found_second lost_second).symm

end MemoryCatalog

namespace Rehearsal.Sample

def otherBeat : Beat :=
  { beat with id := .ofNat 2, name := "Day Drive" }

/-- A later version of the beat, which is too slow for the filter. -/
def slowerBeat : Beat :=
  { beat with bpm := 60 }

def fastFilter : Filter where
  bpm := some 92

/-- A catalog in which the first of two beats has been replaced. -/
def revisedCatalog : MemoryCatalog :=
  (MemoryCatalog.ofBeats [beat, otherBeat]).insert slowerBeat

end Rehearsal.Sample

namespace MemoryCatalog

open Rehearsal.Sample

theorem offers_exactly_revised :
    FilledWith [beat, otherBeat, slowerBeat] revisedCatalog ∧
      fastFilter.accepts beat = true ∧ fastFilter.accepts slowerBeat = false ∧
      (∀ found, revisedCatalog.Offers fastFilter [] found → found.id ≠ beat.id) ∧
      revisedCatalog.Offers fastFilter [] otherBeat ∧
      ¬ revisedCatalog.Offers fastFilter [otherBeat.idText] otherBeat ∧
      revisedCatalog.size = 2 ∧ revisedCatalog.getById beat.id = .ok slowerBeat := by
  have filled : FilledWith [beat, otherBeat, slowerBeat] revisedCatalog :=
    .insert (.ofBeats [beat, otherBeat]) slowerBeat
  have slower_last : IsLast [beat, otherBeat, slowerBeat] slowerBeat :=
    ⟨[beat, otherBeat], [], rfl, List.forall_mem_nil _⟩
  have other_last : IsLast [beat, otherBeat, slowerBeat] otherBeat :=
    ⟨[beat], [slowerBeat], rfl, by decide⟩
  obtain ⟨offered, -, -, stale, -, size, found⟩ := filled.offers_exactly fastFilter []
  obtain ⟨offered_less, -⟩ := filled.offers_exactly fastFilter [otherBeat.idText]
  refine ⟨filled, by decide, by decide, stale slowerBeat slower_last (by decide), ?_, ?_,
    size.trans (by decide), ((found beat.id).1 slowerBeat).mpr ⟨slower_last, rfl⟩⟩
  · exact (offered otherBeat).mpr ⟨other_last, by decide, List.not_mem_nil⟩
  · intro still
    exact ((offered_less otherBeat).mp still).2.2 List.mem_cons_self

end MemoryCatalog

end Backbeat

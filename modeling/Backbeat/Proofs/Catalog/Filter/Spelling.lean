import Backbeat.Proofs.Catalog.Filter.Reading

/-!
# Queries in another spelling

What a filter selects depends on its words only, and not on their letter case, on their order, on
how often a list repeats them, or on the blanks around them.  Two queries of the same words are
therefore both refused, or select the same beats.

The main statement adds how queries grow: another entry in a list that has one already selects no
less, and another parameter selects no more.  A list that has no entry asks for nothing, so that
its first entry is of the second sort.
-/

namespace Backbeat

open Text

variable {left right : Filter} {wanted more present there : List String}

/-- A note up to the letter case of its name. -/
def Note.folded (note : Note) : String × Scale :=
  (foldText note.name, note.scale)

theorem foldText_eq_iff {first second : String} :
    foldText first = foldText second ↔ fold first.toList = fold second.toList :=
  String.ofList_inj

theorem fold_eq_nil_iff {text : List Char} : fold text = [] ↔ text = [] :=
  List.map_eq_nil_iff

theorem Scale.ofText?_congr {first second : List Char}
    (same : fold (trim first) = fold (trim second)) : ofText? first = ofText? second := by
  rw [ofText?, ofText?, same]

namespace Filter

/-! ## What a filter accepts -/

theorem accepts_iff {filter : Filter} {beat : Beat} :
    filter.accepts beat = true ↔
      beat.fileUploaded = true ∧ anyOf filter.genres beat.genres = true ∧
        anyOf filter.moods beat.moods = true ∧ anyOf filter.tags beat.tags = true ∧
        noteFits filter.note beat.note = true ∧ tempoFits filter.bpm beat.bpm = true := by
  simp [accepts, and_assoc]

/-- A list asks for nothing when it is empty, and for any of its words otherwise. -/
theorem anyOf_iff :
    anyOf wanted present = true ↔
      wanted = [] ∨ ∃ word ∈ wanted.map foldText, word ∈ present.map foldText := by
  have found : (∃ word ∈ wanted.map foldText, word ∈ present.map foldText) ↔
      ∃ entry ∈ wanted, ∃ tag ∈ present, foldText tag = foldText entry := by
    simp only [List.mem_map, exists_exists_and_eq_and]
  simp only [anyOf, Bool.or_eq_true, List.isEmpty_iff, List.any_eq_true, sameCaseless_iff, found,
    foldText_eq_iff]

theorem noteFits_iff {wanted present : Option Note} :
    noteFits wanted present = true ↔
      wanted = none ∨ present.map Note.folded = wanted.map Note.folded := by
  cases wanted with
  | none => simp [noteFits]
  | some want =>
    cases present with
    | none => simp [noteFits]
    | some found =>
      simp [noteFits, Note.folded, sameCaseless_iff, foldText_eq_iff, and_comm]

theorem anyOf_congr
    (same : ∀ word, word ∈ wanted.map foldText ↔ word ∈ more.map foldText)
    (cased : present.map foldText = there.map foldText) :
    anyOf wanted present = anyOf more there := by
  have empty : wanted = [] ↔ more = [] := by
    rw [← List.map_eq_nil_iff (f := foldText) (l := wanted),
      ← List.map_eq_nil_iff (f := foldText) (l := more), List.eq_nil_iff_forall_not_mem,
      List.eq_nil_iff_forall_not_mem]
    exact forall_congr' fun word => not_congr (same word)
  rw [Bool.eq_iff_iff, anyOf_iff, anyOf_iff, empty, cased]
  simp only [same]

/-- Two filters of the same words. -/
structure Alike (left right : Filter) : Prop where
  genres : ∀ word, word ∈ left.genres.map foldText ↔ word ∈ right.genres.map foldText
  moods : ∀ word, word ∈ left.moods.map foldText ↔ word ∈ right.moods.map foldText
  tags : ∀ word, word ∈ left.tags.map foldText ↔ word ∈ right.tags.map foldText
  note : left.note.map Note.folded = right.note.map Note.folded
  bpm : left.bpm = right.bpm

end Filter

/-- Two beats that a filter may see and that differ at most in the letter case of their words. -/
structure Beat.SameButCase (beat other : Beat) : Prop where
  fileUploaded : beat.fileUploaded = other.fileUploaded
  genres : beat.genres.map foldText = other.genres.map foldText
  moods : beat.moods.map foldText = other.moods.map foldText
  tags : beat.tags.map foldText = other.tags.map foldText
  note : beat.note.map Note.folded = other.note.map Note.folded
  bpm : beat.bpm = other.bpm

namespace Filter

/-- Filters of the same words accept the same beats, whatever the letter case of these. -/
theorem Alike.accepts_eq (alike : left.Alike right) {beat other : Beat}
    (same : beat.SameButCase other) : left.accepts beat = right.accepts other := by
  have noted : noteFits left.note beat.note = noteFits right.note other.note := by
    have asked : left.note = none ↔ right.note = none := by
      rw [← Option.map_eq_none_iff (f := Note.folded), alike.note, Option.map_eq_none_iff]
    rw [Bool.eq_iff_iff, noteFits_iff, noteFits_iff, asked, alike.note, same.note]
  rw [accepts, accepts, same.fileUploaded, anyOf_congr alike.genres same.genres,
    anyOf_congr alike.moods same.moods, anyOf_congr alike.tags same.tags, noted, alike.bpm,
    same.bpm]

/-! ## Queries of the same words -/

/-- The names of the parameters that are lists. -/
def listNames : List String :=
  ["genres", "moods", "tags"]

end Filter

open Backbeat.Filter (listNames pieces)

/-- Two queries that say the same, if perhaps in another spelling: the lists have the same
entries up to letter case, the pieces of the note are the same up to letter case, and the tempos
are the same text or numerals of one number.  An absent parameter counts as a blank one. -/
structure Query.SameWords (left right : Query) : Prop where
  lists : ∀ name ∈ listNames, ∀ entry ≠ [],
    entry ∈ (pieces (left.text name)).map fold ↔ entry ∈ (pieces (right.text name)).map fold
  note : (pieces (left.text "note")).map fold = (pieces (right.text "note")).map fold
  bpm : trim (left.text "bpm") = trim (right.text "bpm") ∨
    ∃ value, IsNumeral (trim (left.text "bpm")) value ∧ IsNumeral (trim (right.text "bpm")) value

theorem Query.SameWords.symm {left right : Query} (same : left.SameWords right) :
    right.SameWords left where
  lists name listed entry filled := (same.lists name listed entry filled).symm
  note := same.note.symm
  bpm := by
    rcases same.bpm with equal | ⟨value, first, second⟩
    · exact .inl equal.symm
    · exact .inr ⟨value, second, first⟩

namespace Filter

theorem mem_map_foldText_entries {parameter : Option String} {word : String} :
    word ∈ (entries parameter).map foldText ↔
      word.toList ≠ [] ∧ word.toList ∈ (pieces (parameterText parameter)).map fold := by
  rw [entries_eq, List.map_map, List.mem_map, List.mem_map]
  constructor
  · rintro ⟨piece, kept, rfl⟩
    obtain ⟨cut, filled⟩ := List.mem_filter.mp kept
    have folded : ((foldText ∘ String.ofList) piece).toList = fold piece := by
      simp [foldText]
    rw [folded]
    refine ⟨?_, piece, cut, rfl⟩
    rw [ne_eq, fold_eq_nil_iff]
    simpa using filled
  · rintro ⟨filled, piece, cut, folded⟩
    refine ⟨piece, List.mem_filter.mpr ⟨cut, ?_⟩, ?_⟩
    · rw [← folded, ne_eq, fold_eq_nil_iff] at filled
      simpa using filled
    · simp [foldText, folded]

theorem pieces_blank_of_same {text other : List Char}
    (same : (pieces text).map fold = (pieces other).map fold) (blank : pieces text = [[]]) :
    pieces other = [[]] := by
  rw [blank, eq_comm, List.map_singleton, List.map_eq_singleton_iff] at same
  obtain ⟨piece, single, folded⟩ := same
  rw [single, fold_eq_nil_iff.mp (folded.trans rfl)]

/-- Two pieces are still two pieces in another spelling. -/
theorem pieces_pair_of_same {text other name scale : List Char}
    (same : (pieces text).map fold = (pieces other).map fold) (pair : pieces text = [name, scale]) :
    ∃ name' scale', pieces other = [name', scale'] ∧ fold name' = fold name ∧
      Scale.ofText? scale' = Scale.ofText? scale := by
  have cut := same
  rw [pair, eq_comm, List.map_cons, List.map_cons, List.map_nil, List.map_eq_cons_iff] at cut
  obtain ⟨name', rest, other_pair, names, single⟩ := cut
  obtain ⟨scale', rfl, scales⟩ := List.map_eq_singleton_iff.mp single
  refine ⟨name', scale', other_pair, names, Scale.ofText?_congr ?_⟩
  rw [trim_of_mem_pieces (other_pair ▸ List.mem_cons_of_mem name' List.mem_cons_self),
    trim_of_mem_pieces (pair ▸ List.mem_cons_of_mem name List.mem_cons_self), scales]

/-- In another spelling a note is read as the same note up to letter case, or refused again. -/
theorem ReadsNote.respelled {text other : List Char}
    {result : Except QueryProblem (Option Note)} (reads : ReadsNote text result)
    (same : (pieces text).map fold = (pieces other).map fold) :
    ∃ again, ReadsNote other again ∧
      again.map (Option.map Note.folded) = result.map (Option.map Note.folded) := by
  cases reads with
  | blank blank => exact ⟨_, .blank (pieces_blank_of_same same blank), rfl⟩
  | unpaired filled unnamed =>
    refine ⟨_, .unpaired ?_ ?_, rfl⟩
    · exact fun blank => filled (pieces_blank_of_same same.symm blank)
    · intro name scale pair
      obtain ⟨name', scale', other_pair, names, -⟩ := pieces_pair_of_same same.symm pair
      rw [unnamed name' scale' other_pair, eq_comm] at names
      exact fold_eq_nil_iff.mp names
  | unknown pair named unknown =>
    obtain ⟨name', scale', other_pair, names, scales⟩ := pieces_pair_of_same same pair
    refine ⟨_, .unknown other_pair ?_ (scales.trans unknown), rfl⟩
    rwa [ne_eq, ← fold_eq_nil_iff, names, fold_eq_nil_iff]
  | @known note scale pair named known =>
    obtain ⟨name', scale', other_pair, names, scales⟩ := pieces_pair_of_same same pair
    have spelled : (String.ofList name').toList = name' := String.toList_ofList
    refine ⟨.ok (some ⟨String.ofList name', note.scale⟩), .known ?_ ?_ (scales.trans known), ?_⟩
    · rw [other_pair, spelled]
    · rwa [spelled, ne_eq, ← fold_eq_nil_iff, names, fold_eq_nil_iff]
    · simp [Except.map, Note.folded, foldText, names]

theorem readNote_congr {left right : Option String}
    (same : (pieces (parameterText left)).map fold = (pieces (parameterText right)).map fold) :
    (readNote right).map (Option.map Note.folded) =
      (readNote left).map (Option.map Note.folded) := by
  obtain ⟨again, reads, folded⟩ := (readsNote_readNote left).respelled same
  rw [readNote_eq_iff.mpr reads, folded]

theorem readBpm_congr {left right : Option String} {tempo : Option UInt32}
    (same : trim (parameterText left) = trim (parameterText right) ∨
      ∃ value, IsNumeral (trim (parameterText left)) value ∧
        IsNumeral (trim (parameterText right)) value)
    (read : readBpm left = .ok tempo) : readBpm right = .ok tempo := by
  rw [readBpm_eq_ok_iff] at read ⊢
  rcases same with equal | ⟨value, first, second⟩
  · rwa [← equal]
  · rcases read with ⟨blank, -⟩ | ⟨found, numeral, positive, small, rfl⟩
    · exact absurd blank first.ne_nil
    · obtain rfl := numeral.unique first
      exact .inr ⟨found, second, positive, small, rfl⟩

/-- What one query is read as, another one of the same words is read as too. -/
theorem alike_of_sameWords {left right : Query} (same : left.SameWords right) {filter : Filter}
    (read : ofQuery left = .ok filter) :
    ∃ again, ofQuery right = .ok again ∧ filter.Alike again := by
  obtain ⟨genres, moods, tags, noted, timed⟩ := ofQuery_eq_ok_iff.mp read
  have words {name : String} (listed : name ∈ listNames) (word : String) :
      word ∈ (entries (left.get? name)).map foldText ↔
        word ∈ (entries (right.get? name)).map foldText := by
    rw [mem_map_foldText_entries, mem_map_foldText_entries]
    exact and_congr_right fun filled => same.lists name listed word.toList filled
  have folded := readNote_congr same.note
  rw [noted] at folded
  cases again : readNote (right.get? "note") with
  | error problem =>
    rw [again] at folded
    cases folded
  | ok note =>
    rw [again] at folded
    refine ⟨⟨entries (right.get? "genres"), entries (right.get? "moods"),
      entries (right.get? "tags"), note, filter.bpm⟩, ?_, ?_⟩
    · exact ofQuery_eq_ok_iff.mpr ⟨rfl, rfl, rfl, again, readBpm_congr same.bpm timed⟩
    · constructor
      case genres => exact genres ▸ words (by decide)
      case moods => exact moods ▸ words (by decide)
      case tags => exact tags ▸ words (by decide)
      case note => exact (Except.ok.inj folded).symm
      case bpm => rfl

/-! ## Queries that grow -/

/-- Whatever has a word that the one list asks for has one that the other list asks for. -/
def Looser (wanted more : List String) : Prop :=
  ∀ present, anyOf wanted present = true → anyOf more present = true

theorem Looser.refl (wanted : List String) : Looser wanted wanted :=
  fun _ => id

/-- A list without entries asks for nothing. -/
theorem looser_nil (wanted : List String) : Looser wanted [] :=
  fun _ _ => rfl

theorem looser_of_subset (some : wanted ≠ []) (subset : wanted ⊆ more) : Looser wanted more := by
  intro present found
  rcases anyOf_iff.mp found with empty | ⟨word, asked, there⟩
  · exact absurd empty some
  · exact anyOf_iff.mpr (.inr ⟨word, List.map_subset foldText subset asked, there⟩)

theorem accepts_of_looser {filter wider : Filter} {beat : Beat}
    (genres : Looser filter.genres wider.genres) (moods : Looser filter.moods wider.moods)
    (tags : Looser filter.tags wider.tags) (note : wider.note = none ∨ wider.note = filter.note)
    (bpm : wider.bpm = none ∨ wider.bpm = filter.bpm) (accepted : filter.accepts beat = true) :
    wider.accepts beat = true := by
  obtain ⟨uploaded, has_genre, has_mood, has_tag, noted, timed⟩ := accepts_iff.mp accepted
  refine accepts_iff.mpr ⟨uploaded, genres _ has_genre, moods _ has_mood, tags _ has_tag, ?_, ?_⟩
  · rcases note with none | same
    · rw [none]
      rfl
    · rwa [same]
  · rcases bpm with none | same
    · rw [none]
      rfl
    · rwa [same]

theorem entries_subset {parameter other : Option String}
    (subset : pieces (parameterText parameter) ⊆ pieces (parameterText other)) :
    entries parameter ⊆ entries other := by
  rw [entries_eq, entries_eq]
  exact List.map_subset String.ofList (List.filter_subset _ subset)

theorem entries_ne_nil {parameter : Option String}
    (some : ∃ entry ∈ pieces (parameterText parameter), entry ≠ []) : entries parameter ≠ [] := by
  obtain ⟨entry, listed, filled⟩ := some
  rw [entries_eq, ne_eq, List.map_eq_nil_iff]
  exact List.ne_nil_of_mem (List.mem_filter.mpr ⟨listed, by simpa using filled⟩)

theorem entries_of_blank {parameter : Option String} (blank : trim (parameterText parameter) = []) :
    entries parameter = [] := by
  rw [entries_eq, pieces_of_blank blank]
  rfl

/-- With more entries in a list that has one, a query selects no less. -/
theorem accepts_of_more_entries {query : Query} {name text : String} {filter : Filter}
    (listed : name ∈ listNames) (some : ∃ entry ∈ pieces (query.text name), entry ≠ [])
    (subset : pieces (query.text name) ⊆ pieces text.toList)
    (read : ofQuery query = .ok filter) :
    ∃ wider, ofQuery (query.insert name text) = .ok wider ∧
      ∀ beat, filter.accepts beat = true → wider.accepts beat = true := by
  obtain ⟨genres, moods, tags, noted, timed⟩ := ofQuery_eq_ok_iff.mp read
  have looser (other : String) :
      Looser (entries (query.get? other)) (entries ((query.insert name text).get? other)) := by
    rw [Table.get?_insert]
    split
    · next same =>
      subst same
      exact looser_of_subset (entries_ne_nil some) (entries_subset subset)
    · exact Looser.refl _
  have not_note : name ≠ "note" := fun same => absurd (same ▸ listed) (by decide)
  have not_bpm : name ≠ "bpm" := fun same => absurd (same ▸ listed) (by decide)
  refine ⟨⟨entries ((query.insert name text).get? "genres"),
    entries ((query.insert name text).get? "moods"),
    entries ((query.insert name text).get? "tags"), filter.note, filter.bpm⟩, ?_, ?_⟩
  · rw [ofQuery_eq_ok_iff, Table.get?_insert_of_ne query text not_note,
      Table.get?_insert_of_ne query text not_bpm]
    exact ⟨rfl, rfl, rfl, noted, timed⟩
  · intro beat
    exact accepts_of_looser (genres ▸ looser "genres") (moods ▸ looser "moods")
      (tags ▸ looser "tags") (.inr rfl) (.inr rfl)

/-- Without a parameter that asked for something, a query selects no less. -/
theorem accepts_without {query : Query} {name text : String} {filter : Filter}
    (blank : trim (query.text name) = []) (read : ofQuery (query.insert name text) = .ok filter) :
    ∃ wider, ofQuery query = .ok wider ∧
      ∀ beat, filter.accepts beat = true → wider.accepts beat = true := by
  obtain ⟨genres, moods, tags, noted, timed⟩ := ofQuery_eq_ok_iff.mp read
  have looser (other : String) :
      Looser (entries ((query.insert name text).get? other)) (entries (query.get? other)) := by
    rw [Table.get?_insert]
    split
    · next same =>
      subst same
      rw [entries_of_blank blank]
      exact looser_nil _
    · exact Looser.refl _
  have less_note : ∃ note, readNote (query.get? "note") = .ok note ∧
      (note = none ∨ note = filter.note) := by
    rw [Table.get?_insert] at noted
    split at noted
    · next same =>
      subst same
      exact ⟨none, readNote_eq_iff.mpr (.blank (pieces_of_blank blank)), .inl rfl⟩
    · exact ⟨filter.note, noted, .inr rfl⟩
  have less_bpm : ∃ bpm, readBpm (query.get? "bpm") = .ok bpm ∧
      (bpm = none ∨ bpm = filter.bpm) := by
    rw [Table.get?_insert] at timed
    split at timed
    · next same =>
      subst same
      exact ⟨none, readBpm_eq_ok_iff.mpr (.inl ⟨blank, rfl⟩), .inl rfl⟩
    · exact ⟨filter.bpm, timed, .inr rfl⟩
  obtain ⟨note, noted_less, note_less⟩ := less_note
  obtain ⟨bpm, timed_less, bpm_less⟩ := less_bpm
  refine ⟨⟨entries (query.get? "genres"), entries (query.get? "moods"),
    entries (query.get? "tags"), note, bpm⟩, ?_, ?_⟩
  · exact ofQuery_eq_ok_iff.mpr ⟨rfl, rfl, rfl, noted_less, timed_less⟩
  · intro beat
    exact accepts_of_looser (genres ▸ looser "genres") (moods ▸ looser "moods")
      (tags ▸ looser "tags") note_less bpm_less

/-- Two queries of the same words are both refused, or their filters accept the same beats,
whatever the letter case of these.  One more entry in a list that has one takes no beat away, and a
parameter that was absent or blank adds none. -/
theorem query_spelled_freely :
    (∀ left right : Query, left.SameWords right →
      ((∃ filter, ofQuery left = .ok filter) ↔ ∃ filter, ofQuery right = .ok filter) ∧
      ∀ first second, ofQuery left = .ok first → ofQuery right = .ok second →
        ∀ beat other : Beat, beat.SameButCase other →
          first.accepts beat = second.accepts other) ∧
    (∀ (query : Query) (name text : String) (before after : List (List Char)) (entry : List Char)
        (filter : Filter), name ∈ listNames →
      (query.text name).splitOn ',' = before ++ after →
      text.toList.splitOn ',' = before ++ entry :: after →
      (∃ piece ∈ before ++ after, trim piece ≠ []) → ofQuery query = .ok filter →
        ∃ wider, ofQuery (query.insert name text) = .ok wider ∧
          ∀ beat, filter.accepts beat = true → wider.accepts beat = true) ∧
    ∀ (query : Query) (name text : String) (filter : Filter), trim (query.text name) = [] →
      ofQuery (query.insert name text) = .ok filter →
        ∃ wider, ofQuery query = .ok wider ∧
          ∀ beat, filter.accepts beat = true → wider.accepts beat = true := by
  refine ⟨?_, ?_, fun _ _ _ _ => accepts_without⟩
  · intro left right same
    refine ⟨?_, ?_⟩
    · constructor
      · rintro ⟨filter, read⟩
        obtain ⟨again, other, -⟩ := alike_of_sameWords same read
        exact ⟨again, other⟩
      · rintro ⟨filter, read⟩
        obtain ⟨again, other, -⟩ := alike_of_sameWords same.symm read
        exact ⟨again, other⟩
    · intro first second read_left read_right beat other cased
      obtain ⟨again, read, alike⟩ := alike_of_sameWords same read_left
      obtain rfl : again = second := Except.ok.inj (read.symm.trans read_right)
      exact alike.accepts_eq cased
  · intro query name text before after entry filter listed old new some read
    have old_pieces : pieces (query.text name) = before.map trim ++ after.map trim := by
      rw [pieces, old, List.map_append]
    have new_pieces : pieces text.toList = before.map trim ++ trim entry :: after.map trim := by
      rw [pieces, new, List.map_append, List.map_cons]
    refine accepts_of_more_entries listed ?_ ?_ read
    · obtain ⟨piece, member, filled⟩ := some
      rw [old_pieces, ← List.map_append]
      exact ⟨trim piece, List.mem_map_of_mem member, filled⟩
    · rw [old_pieces, new_pieces]
      exact List.append_subset.mpr ⟨List.subset_append_left _ _,
        fun _ member => List.mem_append_right _ (List.mem_cons_of_mem _ member)⟩

/-- The words of the sloppy query in another spelling. -/
def respelledQuery : Query :=
  .ofList [("bpm", "140"), ("note", "c#,minor"), ("genres", "DRILL,trap,Drill")]

theorem sameWords_sloppyQuery : sloppyQuery.SameWords respelledQuery where
  lists := by
    intro name listed entry filled
    have genres : (pieces (sloppyQuery.text "genres")).map fold =
          ["trap".toList, "drill".toList, [], []] ∧
        (pieces (respelledQuery.text "genres")).map fold =
          ["drill".toList, "trap".toList, "drill".toList] := ⟨rfl, rfl⟩
    rcases List.mem_cons.mp listed with rfl | listed
    · rw [genres.1, genres.2]
      simp only [List.mem_cons, filled, List.not_mem_nil, or_false]
      constructor
      · rintro (rfl | rfl) <;> simp
      · rintro (rfl | rfl | rfl) <;> simp
    · rcases List.mem_cons.mp listed with rfl | listed
      · exact Iff.rfl
      · rw [List.mem_singleton.mp listed]
        exact Iff.rfl
  note := rfl
  bpm := .inr ⟨140, ⟨"0140".toList, .inr rfl, by decide, List.all_eq_true.mp rfl, rfl⟩,
    ⟨"140".toList, .inl rfl, by decide, List.all_eq_true.mp rfl, rfl⟩⟩

theorem query_spelled_freely_sloppy :
    ofQuery sloppyQuery = .ok tidyFilter ∧ sloppyQuery.SameWords respelledQuery ∧
      (∃ again, ofQuery respelledQuery = .ok again ∧
        ∀ beat other : Beat, beat.SameButCase other →
          tidyFilter.accepts beat = again.accepts other) ∧
      (∃ wider, ofQuery (sloppyQuery.insert "genres" " Trap ,jazz,drill,, ") = .ok wider ∧
        ∀ beat, tidyFilter.accepts beat = true → wider.accepts beat = true) ∧
      ∃ narrower, ofQuery (sloppyQuery.insert "moods" "dark") = .ok narrower ∧
        ∀ beat, narrower.accepts beat = true → tidyFilter.accepts beat = true := by
  have read : ofQuery sloppyQuery = .ok tidyFilter := rfl
  obtain ⟨respelled, more, fewer⟩ := query_spelled_freely
  obtain ⟨both, same⟩ := respelled _ _ sameWords_sloppyQuery
  obtain ⟨again, read_again⟩ := both.mp ⟨_, read⟩
  refine ⟨read, sameWords_sloppyQuery, ⟨again, read_again, same _ _ read read_again⟩, ?_, ?_⟩
  · exact more sloppyQuery "genres" " Trap ,jazz,drill,, " [" Trap ".toList]
      ["drill".toList, [], " ".toList] "jazz".toList tidyFilter (by decide) rfl rfl
      ⟨"drill".toList, by decide, by decide⟩ read
  · obtain ⟨wider, read_wider, accepted⟩ := fewer sloppyQuery "moods" "dark"
      { tidyFilter with moods := ["dark"] } rfl rfl
    obtain rfl : tidyFilter = wider := Except.ok.inj (read.symm.trans read_wider)
    exact ⟨_, rfl, accepted⟩

end Filter

end Backbeat

import Backbeat.Catalog.Filter.Query
import Backbeat.Proofs.Text.Decimal
import Backbeat.Proofs.Text.Splitting

/-!
# Filters read from queries

Each parameter of a query is read by a rule of its own: a list is cut at its commas and its blank
entries are passed over, a note is a name and a scale with a comma between, a tempo is a numeral.
What is wrong with one of them does not hide what is wrong with another.

The main statement is that a query is refused for exactly the fields at fault, that what it is read
as otherwise can be written, and that what is written of a filter is read as this filter.
-/

namespace Backbeat

open Text

/-- The text of a parameter, which is empty where the parameter is absent. -/
def parameterText (parameter : Option String) : List Char :=
  (parameter.getD "").toList

def Query.text (query : Query) (name : String) : List Char :=
  parameterText (query.get? name)

theorem Scale.ofText?_eq_some_iff {text : List Char} {scale : Scale} :
    ofText? text = some scale ↔ fold (trim text) = scale.name.toList := by
  unfold ofText?
  dsimp only
  split
  · next minor =>
    rw [minor]
    cases scale <;> decide
  · next not_minor =>
    split
    · next major =>
      rw [major]
      cases scale <;> decide
    · next not_major =>
      constructor
      · nofun
      · intro same
        cases scale with
        | minor => exact absurd same not_minor
        | major => exact absurd same not_major

namespace Filter

/-! ## Pieces -/

theorem pieces_trim (text : List Char) : pieces (trim text) = pieces text :=
  map_trim_splitOn_trim (by decide) text

theorem pieces_of_blank {text : List Char} (blank : trim text = []) : pieces text = [[]] := by
  rw [← pieces_trim, blank]
  rfl

/-- A text of one blank piece is blank. -/
theorem pieces_eq_blank_iff {text : List Char} : pieces text = [[]] ↔ trim text = [] := by
  refine ⟨?_, pieces_of_blank⟩
  intro single
  obtain ⟨piece, split, blank⟩ := List.map_eq_singleton_iff.mp single
  rw [(splitOn_eq_singleton_iff.mp split).2]
  exact blank

theorem trim_of_mem_pieces {text piece : List Char} (listed : piece ∈ pieces text) :
    trim piece = piece := by
  obtain ⟨whole, -, rfl⟩ := List.mem_map.mp listed
  exact trim_trim whole

theorem comma_not_mem_of_mem_pieces {text piece : List Char} (listed : piece ∈ pieces text) :
    ',' ∉ piece := by
  obtain ⟨whole, cut, rfl⟩ := List.mem_map.mp listed
  exact fun member => not_mem_of_mem_splitOn cut (mem_of_mem_trim member)

/-- The text is two texts with a comma between, and there is no other comma. -/
def IsPair (text first second : List Char) : Prop :=
  text = first ++ ',' :: second ∧ ',' ∉ first ∧ ',' ∉ second

theorem pieces_eq_pair_iff {text left right : List Char} :
    pieces text = [left, right] ↔
      ∃ first second, IsPair text first second ∧ trim first = left ∧ trim second = right := by
  constructor
  · intro pair
    obtain ⟨first, rest, split, left_eq, single⟩ := List.map_eq_cons_iff.mp pair
    obtain ⟨second, rfl, right_eq⟩ := List.map_eq_singleton_iff.mp single
    exact ⟨first, second, splitOn_eq_pair_iff.mp split, left_eq, right_eq⟩
  · rintro ⟨first, second, pair, rfl, rfl⟩
    rw [pieces, splitOn_eq_pair_iff.mpr pair]
    rfl

/-! ## Reading one parameter -/

theorem filled?_eq (parameter : Option String) :
    filled? parameter = trimmed? (parameterText parameter) := by
  cases parameter with
  | none => rfl
  | some text => rfl

theorem entries_eq (parameter : Option String) :
    entries parameter =
      ((pieces (parameterText parameter)).filter (! ·.isEmpty)).map String.ofList := by
  cases parameter with
  | none => rfl
  | some text => rfl

/-- How a text is read as a note. -/
inductive ReadsNote (text : List Char) : Except QueryProblem (Option Note) → Prop
  | blank (blank : pieces text = [[]]) : ReadsNote text (.ok none)
  | unpaired (filled : pieces text ≠ [[]])
      (unnamed : ∀ name scale, pieces text = [name, scale] → name = []) :
      ReadsNote text (.error .noteForm)
  | unknown {name scale : List Char} (pair : pieces text = [name, scale]) (named : name ≠ [])
      (unknown : Scale.ofText? scale = none) : ReadsNote text (.error .scaleName)
  | known {note : Note} {scale : List Char} (pair : pieces text = [note.name.toList, scale])
      (named : note.name.toList ≠ []) (known : Scale.ofText? scale = some note.scale) :
      ReadsNote text (.ok (some note))

theorem readsNote_readNote (parameter : Option String) :
    ReadsNote (parameterText parameter) (readNote parameter) := by
  rw [readNote, filled?_eq]
  split
  · next nothing => exact .blank (pieces_of_blank (trimmed?_eq_none_iff.mp nothing))
  · next text trimmed =>
    obtain ⟨rfl, something⟩ := trimmed?_eq_some_iff.mp trimmed
    have filled : pieces (parameterText parameter) ≠ [[]] := by
      rwa [ne_eq, pieces_eq_blank_iff]
    rw [pieces_trim]
    split
    · next name scale pair =>
      split
      · next unnamed =>
        refine .unpaired filled ?_
        intro other _ same
        rw [pair] at same
        rw [← List.head_eq_of_cons_eq same]
        exact List.isEmpty_iff.mp unnamed
      · next named =>
        rw [List.isEmpty_iff] at named
        split
        · next known =>
          have spelled := String.toList_ofList (l := name)
          exact .known (by rw [spelled, pair]) (by rwa [spelled]) known
        · next unknown => exact .unknown pair named unknown
    · next unpaired =>
      refine .unpaired filled ?_
      intro name scale pair
      exact absurd pair (unpaired name scale)

/-- A text is read as a note in one way only. -/
theorem ReadsNote.unique {text : List Char} {first second : Except QueryProblem (Option Note)}
    (left : ReadsNote text first) (right : ReadsNote text second) : first = second := by
  cases left with
  | blank blank => cases right <;> simp_all
  | unpaired filled unnamed => cases right <;> simp_all
  | unknown pair named unknown => cases right <;> simp_all
  | @known note scale pair named known =>
    cases right with
    | @known other _ other_pair _ other_known =>
      rw [pair, List.cons_eq_cons, List.cons_eq_cons] at other_pair
      obtain ⟨names, rfl, -⟩ := other_pair
      obtain ⟨name, kind⟩ := note
      obtain ⟨other_name, other_kind⟩ := other
      obtain rfl : name = other_name := String.toList_inj.mp names
      obtain rfl : kind = other_kind := Option.some.inj (known.symm.trans other_known)
      rfl
    | _ => simp_all

theorem readNote_eq_iff {parameter : Option String} {result : Except QueryProblem (Option Note)} :
    readNote parameter = result ↔ ReadsNote (parameterText parameter) result := by
  constructor
  · rintro rfl
    exact readsNote_readNote parameter
  · exact (readsNote_readNote parameter).unique

/-- A tempo is read from the numerals of its values, and no tempo from a blank text. -/
theorem readBpm_eq_ok_iff {parameter : Option String} {tempo : Option UInt32} :
    readBpm parameter = .ok tempo ↔
      trim (parameterText parameter) = [] ∧ tempo = none ∨
        ∃ value, IsNumeral (trim (parameterText parameter)) value ∧ 1 ≤ value ∧ value ≤ max32 ∧
          tempo = some (UInt32.ofNat value) := by
  rw [readBpm, filled?_eq]
  split
  · next nothing =>
    have blank := trimmed?_eq_none_iff.mp nothing
    constructor
    · rintro ⟨⟩
      exact .inl ⟨blank, rfl⟩
    · rintro (⟨-, rfl⟩ | ⟨value, numeral, -⟩)
      · rfl
      · exact absurd blank numeral.ne_nil
  · next text trimmed =>
    obtain ⟨rfl, something⟩ := trimmed?_eq_some_iff.mp trimmed
    simp only [something, false_and, false_or]
    have reads {value : Nat} (positive : 1 ≤ value) (small : value ≤ max32) :
        readSigned64 (trim (parameterText parameter)) = .ok (value : Int) ↔
          IsNumeral (trim (parameterText parameter)) value := by
      rw [readSigned64, readInt_eq_ok_natCast_iff positive, and_iff_left]
      rw [max32] at small
      rw [maxSigned64]
      omega
    split
    · next refused =>
      constructor
      · nofun
      · rintro ⟨value, numeral, positive, small, -⟩
        cases refused.symm.trans ((reads positive small).mpr numeral)
    · next found read =>
      split
      · next inside =>
        obtain ⟨value, rfl⟩ := Int.eq_ofNat_of_zero_le (by omega : 0 ≤ found)
        have positive : 1 ≤ value := by omega
        have small : value ≤ max32 := by omega
        have numeral := (reads positive small).mp read
        constructor
        · rintro ⟨⟩
          exact ⟨value, numeral, positive, small, rfl⟩
        · rintro ⟨other, other_numeral, -, -, rfl⟩
          rw [numeral.unique other_numeral, Int.toNat_natCast]
      · next outside =>
        constructor
        · nofun
        · rintro ⟨value, numeral, positive, small, -⟩
          cases read.symm.trans ((reads positive small).mpr numeral)
          omega

theorem field_of_readBpm {parameter : Option String} {problem : QueryProblem}
    (refused : readBpm parameter = .error problem) : problem.field = "bpm" := by
  rw [readBpm] at refused
  split at refused
  · cases refused
  · split at refused
    · cases refused
      rfl
    · split at refused
      · cases refused
      · cases refused
        rfl

/-! ## Reading a query -/

/-- A field of a query that is at fault. -/
inductive Faulty (query : Query) : String → Prop
  | note (filled : trim (query.text "note") ≠ [])
      (unpaired : ∀ first second, IsPair (query.text "note") first second → trim first = []) :
      Faulty query "note"
  | scale {first second : List Char} (pair : IsPair (query.text "note") first second)
      (named : trim first ≠ [])
      (unknown : ∀ scale : Scale, fold (trim second) ≠ scale.name.toList) : Faulty query "scale"
  | bpm (filled : trim (query.text "bpm") ≠ [])
      (outside : ∀ value, IsNumeral (trim (query.text "bpm")) value →
        value < 1 ∨ max32 < value) : Faulty query "bpm"

theorem faulty_iff {query : Query} {field : String} :
    Faulty query field ↔
      ∃ problem : QueryProblem, problem.field = field ∧
        (readNote (query.get? "note") = .error problem ∨
          readBpm (query.get? "bpm") = .error problem) := by
  constructor
  · intro faulty
    cases faulty with
    | note filled unpaired =>
      refine ⟨.noteForm, rfl, .inl (readNote_eq_iff.mpr (.unpaired ?_ ?_))⟩
      · rwa [ne_eq, pieces_eq_blank_iff]
      · intro name scale pair
        obtain ⟨first, second, cut, rfl, -⟩ := pieces_eq_pair_iff.mp pair
        exact unpaired first second cut
    | @scale first second pair named unknown =>
      have cut := pieces_eq_pair_iff.mpr ⟨first, second, pair, rfl, rfl⟩
      refine ⟨.scaleName, rfl, .inl (readNote_eq_iff.mpr (.unknown cut named ?_))⟩
      rw [Option.eq_none_iff_forall_ne_some]
      intro scale
      rw [ne_eq, Scale.ofText?_eq_some_iff, trim_trim]
      exact unknown scale
    | bpm filled outside =>
      cases timed : readBpm (query.get? "bpm") with
      | error problem => exact ⟨problem, field_of_readBpm timed, .inr rfl⟩
      | ok tempo =>
        rcases readBpm_eq_ok_iff.mp timed with ⟨blank, -⟩ | ⟨value, numeral, positive, small, -⟩
        · exact absurd blank filled
        · have := outside value numeral
          omega
  · rintro ⟨problem, rfl, noted | timed⟩
    · cases readNote_eq_iff.mp noted with
      | unpaired filled unnamed =>
        refine .note ?_ ?_
        · rwa [ne_eq, pieces_eq_blank_iff] at filled
        · intro first second pair
          exact unnamed _ _ (pieces_eq_pair_iff.mpr ⟨first, second, pair, rfl, rfl⟩)
      | unknown cut named unknown =>
        obtain ⟨first, second, pair, rfl, rfl⟩ := pieces_eq_pair_iff.mp cut
        refine .scale pair named ?_
        intro scale same
        rw [Scale.ofText?_eq_some_iff.mpr (by rw [trim_trim, same])] at unknown
        cases unknown
    · rw [field_of_readBpm timed]
      refine .bpm ?_ ?_
      · intro blank
        have read := readBpm_eq_ok_iff.mpr (.inl ⟨blank, rfl⟩)
        cases timed.symm.trans read
      · intro value numeral
        by_contra inside
        have read := readBpm_eq_ok_iff.mpr (.inr ⟨value, numeral, by omega, by omega, rfl⟩)
        cases timed.symm.trans read

theorem ofQuery_eq_ok_iff {query : Query} {filter : Filter} :
    ofQuery query = .ok filter ↔
      filter.genres = entries (query.get? "genres") ∧ filter.moods = entries (query.get? "moods") ∧
        filter.tags = entries (query.get? "tags") ∧
        readNote (query.get? "note") = .ok filter.note ∧
        readBpm (query.get? "bpm") = .ok filter.bpm := by
  obtain ⟨genres, moods, tags, note, bpm⟩ := filter
  rw [ofQuery]
  cases readNote (query.get? "note") with
  | error problem => cases readBpm (query.get? "bpm") <;> simp
  | ok noted =>
    cases readBpm (query.get? "bpm") with
    | error problem => simp
    | ok timed =>
      simp only [Except.ok.injEq, Filter.mk.injEq, eq_comm]

/-- The problems of a query are those of its note and of its tempo, and they are in different
fields. -/
theorem problems_of_ofQuery {query : Query} {problems : List QueryProblem}
    (refused : ofQuery query = .error problems) :
    problems ≠ [] ∧ (problems.map QueryProblem.field).Nodup ∧
      ∀ problem, problem ∈ problems ↔
        readNote (query.get? "note") = .error problem ∨
          readBpm (query.get? "bpm") = .error problem := by
  rw [ofQuery] at refused
  split at refused
  · cases refused
  · next noted timed =>
    cases refused
    simp [noted, timed, eq_comm]
  · next noted timed =>
    cases refused
    simp [noted, timed, eq_comm]
  · next note bpm noted timed =>
    cases refused
    have different : note.field ≠ bpm.field := by
      rw [field_of_readBpm timed]
      cases readNote_eq_iff.mp noted <;> decide
    refine ⟨List.cons_ne_nil note [bpm], by simp [different], ?_⟩
    intro problem
    rw [noted, timed, Except.error.injEq, Except.error.injEq, List.mem_cons,
      List.mem_singleton]
    exact or_congr eq_comm eq_comm

theorem ofQuery_eq_error_iff {query : Query} :
    (∃ problems, ofQuery query = .error problems) ↔ ∃ field, Faulty query field := by
  constructor
  · rintro ⟨problems, refused⟩
    obtain ⟨some, -, whose⟩ := problems_of_ofQuery refused
    obtain ⟨problem, listed⟩ := List.exists_mem_of_ne_nil problems some
    exact ⟨problem.field, faulty_iff.mpr ⟨problem, rfl, (whose problem).mp listed⟩⟩
  · rintro ⟨field, faulty⟩
    obtain ⟨problem, -, failed⟩ := faulty_iff.mp faulty
    cases read : ofQuery query with
    | error problems => exact ⟨problems, rfl⟩
    | ok filter =>
      obtain ⟨-, -, -, noted, timed⟩ := ofQuery_eq_ok_iff.mp read
      rw [noted, timed] at failed
      rcases failed with impossible | impossible <;> cases impossible

/-! ## What can be written -/

/-- A text that can stand in a list: not empty, without blanks at its ends, and without commas. -/
structure IsEntry (text : String) : Prop where
  filled : text ≠ ""
  trimmed : trimText text = text
  unbroken : ',' ∉ text.toList

/-- A filter that can be written in a query. -/
structure Writable (filter : Filter) : Prop where
  genres : ∀ entry ∈ filter.genres, IsEntry entry
  moods : ∀ entry ∈ filter.moods, IsEntry entry
  tags : ∀ entry ∈ filter.tags, IsEntry entry
  note : ∀ note, filter.note = some note → IsEntry note.name
  bpm : ∀ bpm, filter.bpm = some bpm → 1 ≤ bpm.toNat ∧ bpm.toNat ≤ max32

theorem IsEntry.toList_ne_nil {text : String} (entry : IsEntry text) : text.toList ≠ [] := by
  rw [ne_eq, String.toList_eq_nil_iff]
  exact entry.filled

theorem IsEntry.trim_toList {text : String} (entry : IsEntry text) :
    trim text.toList = text.toList := by
  rw [← toList_trimText, entry.trimmed]

theorem isEntry_of_mem_pieces {text : List Char} {entry : String}
    (listed : entry.toList ∈ pieces text) (filled : entry.toList ≠ []) : IsEntry entry where
  filled := by rwa [ne_eq, String.toList_eq_nil_iff] at filled
  trimmed := by rw [trimText, trim_of_mem_pieces listed, String.ofList_toList]
  unbroken := comma_not_mem_of_mem_pieces listed

theorem isEntry_of_mem_entries {parameter : Option String} {entry : String}
    (listed : entry ∈ entries parameter) : IsEntry entry := by
  rw [entries_eq] at listed
  obtain ⟨piece, kept, rfl⟩ := List.mem_map.mp listed
  obtain ⟨cut, filled⟩ := List.mem_filter.mp kept
  apply isEntry_of_mem_pieces
  · rwa [String.toList_ofList]
  · rw [String.toList_ofList]
    rintro rfl
    cases filled

/-- What a query is read as can be written. -/
theorem writable_of_ofQuery {query : Query} {filter : Filter} (read : ofQuery query = .ok filter) :
    filter.Writable := by
  obtain ⟨genres, moods, tags, noted, timed⟩ := ofQuery_eq_ok_iff.mp read
  constructor
  case genres => exact genres ▸ fun _ => isEntry_of_mem_entries
  case moods => exact moods ▸ fun _ => isEntry_of_mem_entries
  case tags => exact tags ▸ fun _ => isEntry_of_mem_entries
  case note =>
    intro note same
    rw [same] at noted
    cases readNote_eq_iff.mp noted with
    | known cut named => exact isEntry_of_mem_pieces (cut ▸ List.mem_cons_self) named
  case bpm =>
    intro bpm same
    rw [same] at timed
    rcases readBpm_eq_ok_iff.mp timed with ⟨-, impossible⟩ | ⟨value, -, positive, small, given⟩
    · cases impossible
    · cases given
      rw [UInt32.toNat_ofNat_of_lt' (Nat.lt_succ_of_le small)]
      exact ⟨positive, small⟩

/-! ## Reading back -/

theorem pieces_intercalate {entries : List String} (some : entries ≠ [])
    (each : ∀ entry ∈ entries, IsEntry entry) :
    pieces (",".intercalate entries).toList = entries.map String.toList := by
  have unbroken : ∀ piece ∈ entries.map String.toList, ',' ∉ piece := by
    intro piece listed
    obtain ⟨entry, member, rfl⟩ := List.mem_map.mp listed
    exact (each entry member).unbroken
  have comma : ",".toList = [','] := rfl
  rw [pieces, String.toList_intercalate, comma, List.splitOn_intercalate _ unbroken (by simpa),
    List.map_map]
  apply List.map_congr_left
  intro entry member
  exact (each entry member).trim_toList

theorem entries_writeEntries {list : List String} (each : ∀ entry ∈ list, IsEntry entry) :
    entries (some (writeEntries list)) = list := by
  cases list with
  | nil => rfl
  | cons first rest =>
    have kept : ((first :: rest).map String.toList).filter (! ·.isEmpty) =
        (first :: rest).map String.toList := by
      rw [List.filter_eq_self]
      intro piece listed
      obtain ⟨entry, member, rfl⟩ := List.mem_map.mp listed
      simpa using (each entry member).filled
    rw [entries_eq]
    show ((pieces (",".intercalate (first :: rest)).toList).filter _).map _ = _
    rw [pieces_intercalate (List.cons_ne_nil first rest) each, kept, List.map_map]
    simp [Function.comp_def]

theorem readNote_writeNote {note : Note} (entry : IsEntry note.name) :
    readNote (some (writeNote note)) = .ok (some note) := by
  have pair : IsPair (writeNote note).toList note.name.toList note.scale.name.toList := by
    refine ⟨?_, entry.unbroken, ?_⟩
    · simp [writeNote]
    · cases note.scale <;> decide
  have scale : fold (trim note.scale.name.toList) = note.scale.name.toList := by
    cases note.scale <;> decide
  refine readNote_eq_iff.mpr (.known ?_ entry.toList_ne_nil (Scale.ofText?_eq_some_iff.mpr scale))
  refine pieces_eq_pair_iff.mpr ⟨_, _, pair, entry.trim_toList, ?_⟩
  cases note.scale <;> decide

theorem readBpm_toString {bpm : UInt32} (positive : 1 ≤ bpm.toNat) :
    readBpm (some (toString bpm.toNat)) = .ok (some bpm) := by
  have digits : parameterText (some (toString bpm.toNat)) = Nat.toDigits 10 bpm.toNat :=
    Nat.toList_repr
  refine readBpm_eq_ok_iff.mpr (.inr ⟨bpm.toNat, ?_, positive, Nat.le_of_lt_succ bpm.toNat_lt, ?_⟩)
  · rw [digits, trim_of_isDigit isDigit_of_mem_toDigits]
    exact isNumeral_toDigits bpm.toNat
  · rw [UInt32.ofNat_toNat]

theorem get?_toQuery (filter : Filter) :
    filter.toQuery.get? "genres" = some (writeEntries filter.genres) ∧
      filter.toQuery.get? "moods" = some (writeEntries filter.moods) ∧
      filter.toQuery.get? "tags" = some (writeEntries filter.tags) ∧
      filter.toQuery.get? "note" = filter.note.map writeNote ∧
      filter.toQuery.get? "bpm" = filter.bpm.map fun bpm => toString bpm.toNat := by
  obtain ⟨genres, moods, tags, note, bpm⟩ := filter
  cases note <;> cases bpm <;> simp [toQuery, Table.ofList, Table.get?_insert]

/-- What is written of a filter is read as this filter. -/
theorem ofQuery_toQuery {filter : Filter} (writable : filter.Writable) :
    ofQuery filter.toQuery = .ok filter := by
  obtain ⟨genres, moods, tags, note, bpm⟩ := get?_toQuery filter
  rw [ofQuery_eq_ok_iff, genres, moods, tags, note, bpm, entries_writeEntries writable.genres,
    entries_writeEntries writable.moods, entries_writeEntries writable.tags]
  refine ⟨rfl, rfl, rfl, ?_, ?_⟩
  · cases noted : filter.note with
    | none => rfl
    | some note => exact readNote_writeNote (writable.note note noted)
  · cases timed : filter.bpm with
    | none => rfl
    | some bpm => exact readBpm_toString (writable.bpm bpm timed).1

/-- A query is refused for exactly the fields that are at fault, each named once; what it is read as
otherwise can be written; and what is written of a filter is read as this filter. -/
theorem query_read_exactly (query : Query) :
    (∀ filter, ofQuery query = .ok filter → filter.Writable) ∧
    (∀ problems, ofQuery query = .error problems →
      (problemsFailure problems).kind.code = 400 ∧
      (problemsFailure problems).reason = some "ValidationFailed" ∧
      ∃ members, (problemsFailure problems).details = some (.obj members) ∧
        (members.map Prod.fst).Nodup ∧
        ∀ field, field ∈ members.map Prod.fst ↔ Faulty query field) ∧
    ((∃ problems, ofQuery query = .error problems) ↔ ∃ field, Faulty query field) ∧
    ∀ filter : Filter, filter.Writable → ofQuery filter.toQuery = .ok filter := by
  refine ⟨fun _ => writable_of_ofQuery, ?_, ofQuery_eq_error_iff, fun _ => ofQuery_toQuery⟩
  intro problems refused
  obtain ⟨-, different, whose⟩ := problems_of_ofQuery refused
  have fields : (problems.map fun problem => (problem.field, Json.strs [problem.message])).map
      Prod.fst = problems.map QueryProblem.field := by
    rw [List.map_map]
    rfl
  refine ⟨rfl, rfl, _, rfl, ?_, ?_⟩
  · rwa [fields]
  · intro field
    rw [fields, List.mem_map, faulty_iff]
    simp only [whose, and_comm]

/-- A query with blanks, blank entries, capitals and a leading zero. -/
def sloppyQuery : Query :=
  .ofList
    [("genres", " Trap ,drill,, "), ("note", " C# , MINOR "), ("bpm", " +0140"), ("tags", "\u00a0")]

/-- What that query asks for. -/
def tidyFilter : Filter where
  genres := ["Trap", "drill"]
  note := some { name := "C#", scale := .minor }
  bpm := some 140

/-- A query of an unknown scale and a negative tempo. -/
def faultyQuery : Query :=
  .ofList [("note", "C#,lydian"), ("bpm", "-3")]

theorem query_read_exactly_sloppy :
    ofQuery sloppyQuery = .ok tidyFilter ∧ tidyFilter.Writable ∧
      ofQuery tidyFilter.toQuery = .ok tidyFilter ∧
      ofQuery faultyQuery = .error [.scaleName, .bpmRange] ∧
      Faulty faultyQuery "scale" ∧ Faulty faultyQuery "bpm" ∧ ¬ Faulty faultyQuery "note" := by
  have read : ofQuery sloppyQuery = .ok tidyFilter := rfl
  have refused : ofQuery faultyQuery = .error [.scaleName, .bpmRange] := rfl
  obtain ⟨writable, -, -, back⟩ := query_read_exactly sloppyQuery
  obtain ⟨-, refusal, -, -⟩ := query_read_exactly faultyQuery
  obtain ⟨-, -, members, details, -, fields⟩ := refusal _ refused
  cases details
  refine ⟨read, writable _ read, back _ (writable _ read), refused, ?_, ?_, ?_⟩
  · exact (fields "scale").mp (by decide)
  · exact (fields "bpm").mp (by decide)
  · intro faulty
    exact absurd ((fields "note").mpr faulty) (by decide)

end Filter

end Backbeat

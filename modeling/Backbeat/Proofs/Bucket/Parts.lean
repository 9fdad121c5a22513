import Backbeat.Bucket.Parts
import Backbeat.Proofs.Media.Bytes

/-!
# What the parts of a body make up

Nothing of a stream is lost when it is cut into parts: the full parts and the rest make up all bytes
that it yields, every full part has at least the size asked for, and the rest has less.  There is
a full part exactly when there are enough bytes for one.

The parts that are uploaded are the full ones and what is left of a body that did not break off.
None of them is empty, and only the last one may be smaller than asked for.
-/

namespace Backbeat

namespace Parts

theorem size_eq (parts : Parts) : parts.size = (joined parts.full ++ parts.rest).size := by
  rw [size, ByteArray.size_append]
  generalize parts.rest.size = left
  induction parts.full with
  | nil => simp
  | cons part later ih =>
    rw [List.foldr_cons, ih, joined_cons, ByteArray.size_append, Nat.add_assoc]

/-- The last part is what is left of a body that did not break off. -/
theorem joined_last {parts : Parts} (unbroken : parts.fault = none) :
    joined parts.last = parts.rest := by
  cases empty : parts.rest.isEmpty with
  | true =>
    rw [last, empty, Bool.or_true, if_pos rfl, ByteStream.eq_empty_of_isEmpty empty, joined_nil]
  | false => simp [last, unbroken, empty]

theorem length_last_le (parts : Parts) : parts.last.length ≤ 1 := by
  rw [last]
  split <;> simp

theorem size_pos_of_mem_last {parts : Parts} {part : ByteArray} (listed : part ∈ parts.last) :
    0 < part.size := by
  rw [last] at listed
  split at listed
  · cases listed
  · next left =>
    rw [Bool.or_eq_true, not_or, Bool.not_eq_true, Bool.not_eq_true] at left
    rw [List.mem_singleton.mp listed, ← isEmpty_eq_false_iff]
    exact left.2

theorem joined_pieces {parts : Parts} (unbroken : parts.fault = none) :
    joined parts.pieces = joined parts.full ++ parts.rest := by
  rw [pieces, joined_append, joined_last unbroken]

/-- What is uploaded of a body is no more than there is of it. -/
theorem size_joined_pieces_le (parts : Parts) : (joined parts.pieces).size ≤ parts.size := by
  have left : (joined parts.last).size ≤ parts.rest.size := by
    rw [last]
    split
    · exact Nat.zero_le _
    · exact Nat.le_of_eq (congrArg ByteArray.size (joined_singleton parts.rest))
  rw [pieces, joined_append, size_eq, ByteArray.size_append, ByteArray.size_append]
  exact Nat.add_le_add_left left _

/-- Every part but the last is a full one. -/
theorem mem_full_of_mem_dropLast {parts : Parts} {part : ByteArray}
    (early : part ∈ parts.pieces.dropLast) : part ∈ parts.full := by
  rw [pieces] at early
  match found : parts.last, parts.length_last_le with
  | [], _ =>
    rw [found, List.append_nil] at early
    exact List.dropLast_subset _ early
  | [one], _ =>
    rwa [found, List.dropLast_concat] at early

end Parts

namespace ByteStream

variable {size : Nat}

theorem partsFrom_data_of_le {begun bytes : ByteArray} (later : ByteStream)
    (filled : size ≤ (begun ++ bytes).size) :
    partsFrom size begun (.data bytes :: later) =
      { partsFrom size ByteArray.empty later with
        full := (begun ++ bytes) :: (partsFrom size ByteArray.empty later).full } :=
  if_pos filled

theorem partsFrom_data_of_lt {begun bytes : ByteArray} (later : ByteStream)
    (unfilled : (begun ++ bytes).size < size) :
    partsFrom size begun (.data bytes :: later) = partsFrom size (begun ++ bytes) later :=
  if_neg (Nat.not_le_of_lt unfilled)

/-- The full parts and the rest make up the part that was begun and all that the stream yields. -/
theorem joined_partsFrom (size : Nat) (begun : ByteArray) (stream : ByteStream) :
    joined (partsFrom size begun stream).full ++ (partsFrom size begun stream).rest =
      begun ++ stream.yielded := by
  induction stream generalizing begun with
  | nil => simp [partsFrom, yielded]
  | cons piece later ih =>
    cases piece with
    | fault fault => simp [partsFrom, yielded]
    | data bytes =>
      rw [yielded, ← ByteArray.append_assoc]
      rcases Nat.lt_or_ge (begun ++ bytes).size size with unfilled | filled
      · rw [partsFrom_data_of_lt later unfilled]
        exact ih (begun ++ bytes)
      · rw [partsFrom_data_of_le later filled, joined_cons, ByteArray.append_assoc, ih,
          ByteArray.empty_append]

theorem size_le_of_mem_full (begun : ByteArray) (stream : ByteStream) :
    ∀ part ∈ (partsFrom size begun stream).full, size ≤ part.size := by
  induction stream generalizing begun with
  | nil => nofun
  | cons piece later ih =>
    cases piece with
    | fault fault => nofun
    | data bytes =>
      rcases Nat.lt_or_ge (begun ++ bytes).size size with unfilled | filled
      · rw [partsFrom_data_of_lt later unfilled]
        exact ih (begun ++ bytes)
      · rw [partsFrom_data_of_le later filled]
        intro part listed
        rcases List.mem_cons.mp listed with rfl | behind
        · exact filled
        · exact ih ByteArray.empty part behind

theorem size_rest_lt (positive : 0 < size) (begun : ByteArray) (stream : ByteStream)
    (open_part : begun.size < size) : (partsFrom size begun stream).rest.size < size := by
  induction stream generalizing begun with
  | nil => exact open_part
  | cons piece later ih =>
    cases piece with
    | fault fault => exact open_part
    | data bytes =>
      rcases Nat.lt_or_ge (begun ++ bytes).size size with unfilled | filled
      · rw [partsFrom_data_of_lt later unfilled]
        exact ih (begun ++ bytes) unfilled
      · rw [partsFrom_data_of_le later filled]
        exact ih ByteArray.empty positive

/-- A body breaks off in parts as it does when it is collected. -/
theorem collectInto_eq (size : Nat) (begun gathered : ByteArray) (stream : ByteStream) :
    collectInto gathered stream =
      match (partsFrom size begun stream).fault with
      | some fault => .error fault
      | none => .ok (gathered ++ stream.yielded) := by
  induction stream generalizing begun gathered with
  | nil => simp [collectInto, partsFrom, yielded]
  | cons piece later ih =>
    cases piece with
    | fault fault => rfl
    | data bytes =>
      rw [collectInto, yielded, ← ByteArray.append_assoc]
      rcases Nat.lt_or_ge (begun ++ bytes).size size with unfilled | filled
      · rw [partsFrom_data_of_lt later unfilled]
        exact ih (begun ++ bytes) (gathered ++ bytes)
      · rw [partsFrom_data_of_le later filled]
        exact ih ByteArray.empty (gathered ++ bytes)

theorem collect_eq (size : Nat) (stream : ByteStream) :
    stream.collect =
      match (stream.parts size).fault with
      | some fault => .error fault
      | none => .ok stream.yielded := by
  have same := collectInto_eq size ByteArray.empty ByteArray.empty stream
  rwa [ByteArray.empty_append] at same

theorem fault_parts_eq_some_iff (size : Nat) (stream : ByteStream) (fault : StreamFault) :
    (stream.parts size).fault = some fault ↔ stream.collect = .error fault := by
  rw [collect_eq size]
  cases (stream.parts size).fault <;> simp

theorem fault_parts_eq_none_iff (size : Nat) (stream : ByteStream) :
    (stream.parts size).fault = none ↔ stream.collect = .ok stream.yielded := by
  rw [collect_eq size]
  cases (stream.parts size).fault <;> simp

theorem yielded_of_collect {stream : ByteStream} {data : ByteArray}
    (collected : stream.collect = .ok data) : stream.yielded = data := by
  rw [collect_eq 0] at collected
  split at collected
  · cases collected
  · exact Except.ok.inj collected

theorem fault_parts_of_collect {stream : ByteStream} {data : ByteArray}
    (collected : stream.collect = .ok data) (size : Nat) : (stream.parts size).fault = none := by
  rw [fault_parts_eq_none_iff, yielded_of_collect collected, collected]

theorem joined_parts (size : Nat) (stream : ByteStream) :
    joined (stream.parts size).full ++ (stream.parts size).rest = stream.yielded := by
  rw [parts, joined_partsFrom, ByteArray.empty_append]

theorem size_parts (size : Nat) (stream : ByteStream) :
    (stream.parts size).size = stream.yielded.size := by
  rw [Parts.size_eq, joined_parts]

/-- There is no full part exactly when there are too few bytes for one. -/
theorem full_parts_eq_nil_iff (positive : 0 < size) (stream : ByteStream) :
    (stream.parts size).full = [] ↔ stream.yielded.size < size := by
  rw [← joined_parts size]
  constructor
  · intro none_full
    rw [none_full, joined_nil, ByteArray.empty_append]
    exact size_rest_lt positive ByteArray.empty stream positive
  · intro few
    match found : (stream.parts size).full with
    | [] => rfl
    | part :: later =>
      have big : size ≤ part.size :=
        size_le_of_mem_full ByteArray.empty stream part (found ▸ List.mem_cons_self)
      rw [found, joined_cons, ByteArray.size_append, ByteArray.size_append] at few
      omega

/-- No part that is uploaded is empty. -/
theorem size_pos_of_mem_pieces (positive : 0 < size) {stream : ByteStream} {part : ByteArray}
    (listed : part ∈ (stream.parts size).pieces) : 0 < part.size := by
  rcases List.mem_append.mp listed with full | last
  · exact Nat.lt_of_lt_of_le positive (size_le_of_mem_full ByteArray.empty stream part full)
  · exact Parts.size_pos_of_mem_last last

/-- Only the last part that is uploaded may be smaller than asked for. -/
theorem size_le_of_mem_dropLast {stream : ByteStream} {part : ByteArray}
    (early : part ∈ (stream.parts size).pieces.dropLast) : size ≤ part.size :=
  size_le_of_mem_full ByteArray.empty stream part (Parts.mem_full_of_mem_dropLast early)

end ByteStream

end Backbeat

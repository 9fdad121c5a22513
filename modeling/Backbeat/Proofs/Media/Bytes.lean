import Backbeat.Media.Stream

/-!
# The bytes of streams

A stream is the list of its pieces, but what counts is the bytes that they make up together.  This
module says which bytes a stream yields, and which of them plain reads get at, and relates both to
the ways in which streams are cut: slices of a byte string make it up again, and dropping the
empty pieces of a stream changes none of its bytes.
-/

namespace Backbeat

/-- Byte strings put one after the other. -/
def joined : List ByteArray → ByteArray
  | [] => ByteArray.empty
  | bytes :: rest => bytes ++ joined rest

@[simp]
theorem joined_nil : joined [] = ByteArray.empty := rfl

@[simp]
theorem joined_cons (bytes : ByteArray) (rest : List ByteArray) :
    joined (bytes :: rest) = bytes ++ joined rest := rfl

theorem joined_singleton (bytes : ByteArray) : joined [bytes] = bytes := by
  rw [joined_cons, joined_nil, ByteArray.append_empty]

theorem joined_append (left right : List ByteArray) :
    joined (left ++ right) = joined left ++ joined right := by
  induction left with
  | nil => simp
  | cons bytes rest ih => simp [ih, ByteArray.append_assoc]

theorem size_joined (chunks : List ByteArray) :
    (joined chunks).size = chunks.foldr (fun bytes count => bytes.size + count) 0 := by
  induction chunks with
  | nil => rfl
  | cons bytes rest ih => rw [joined_cons, ByteArray.size_append, ih, List.foldr_cons]

/-- The first slices of a byte string make up its beginning. -/
theorem joined_map_extract (size count : Nat) (bytes : ByteArray) :
    joined ((List.range count).map fun index =>
      bytes.extract (index * size) (index * size + size)) = bytes.extract 0 (count * size) := by
  induction count with
  | zero => simp
  | succ count ih =>
    rw [List.range_succ, List.map_append, joined_append, ih]
    simp [Nat.succ_mul]

/-- There are enough slices for all bytes. -/
theorem le_slices_mul {size : Nat} (positive : 0 < size) (total : Nat) :
    total ≤ (total + size - 1) / size * size := by
  have split := Nat.div_add_mod (total + size - 1) size
  have small := Nat.mod_lt (total + size - 1) positive
  rw [Nat.mul_comm] at split
  omega

theorem extract_zero_of_size_le {bytes : ByteArray} {stop : Nat} (all : bytes.size ≤ stop) :
    bytes.extract 0 stop = bytes := by
  rw [← Nat.max_eq_left all]
  exact ByteArray.extract_zero_max_size

theorem extract_append_of_le {bytes rest : ByteArray} {stop : Nat} (inside : stop ≤ bytes.size) :
    (bytes ++ rest).extract 0 stop = bytes.extract 0 stop := by
  rw [ByteArray.extract_append, Nat.zero_sub, Nat.sub_eq_zero_of_le inside,
    ByteArray.extract_same, ByteArray.append_empty]

theorem isEmpty_eq_false_iff {bytes : ByteArray} : bytes.isEmpty = false ↔ 0 < bytes.size := by
  rw [ByteArray.isEmpty, beq_eq_false_iff_ne, Nat.pos_iff_ne_zero]

theorem extract_extract_size (bytes : ByteArray) (start first last : Nat) :
    (bytes.extract start bytes.size).extract first last =
      bytes.extract (start + first) (start + last) := by
  rw [ByteArray.extract_extract]
  ext1
  rw [ByteArray.data_extract, ByteArray.data_extract, Array.extract_eq_extract_right,
    ByteArray.size_data]
  omega

/-- The slices of a byte string make it up. -/
theorem joined_slices {size : Nat} (positive : 0 < size) (bytes : ByteArray) :
    joined (slices size bytes) = bytes := by
  rw [slices, joined_map_extract]
  exact extract_zero_of_size_le (le_slices_mul positive bytes.size)

theorem slices_of_size_le {size : Nat} {bytes : ByteArray} (some_bytes : 0 < bytes.size)
    (fits : bytes.size ≤ size) : slices size bytes = [bytes] := by
  have one : (bytes.size + size - 1) / size = 1 := by
    apply Nat.div_eq_of_lt_le
    · omega
    · omega
  rw [slices, one, List.range_one, List.map_singleton, Nat.zero_mul, Nat.zero_add,
    extract_zero_of_size_le fits]

theorem slices_of_lt_size {size : Nat} {bytes : ByteArray} (positive : 0 < size)
    (more : size < bytes.size) :
    slices size bytes = bytes.extract 0 size :: slices size (bytes.extract size bytes.size) := by
  have count : (bytes.size + size - 1) / size =
      ((bytes.extract size bytes.size).size + size - 1) / size + 1 := by
    rw [← Nat.add_div_right _ positive, ByteArray.size_extract]
    congr 1
    omega
  rw [slices, count, List.range_succ_eq_map, List.map_cons, List.map_map, slices, Nat.zero_mul,
    Nat.zero_add]
  congr 1
  apply List.map_congr_left
  intro index _
  rw [extract_extract_size]
  show bytes.extract ((index + 1) * size) ((index + 1) * size + size) = _
  rw [Nat.succ_mul, Nat.add_comm size, Nat.add_comm size, Nat.add_right_comm]

namespace ByteStream

/-- The bytes that a stream yields before it ends or breaks. -/
def yielded : ByteStream → ByteArray
  | [] => ByteArray.empty
  | .data bytes :: rest => bytes ++ yielded rest
  | .fault _ :: _ => ByteArray.empty

/-- The bytes that plain reads of a stream get at: an empty piece is read as its end. -/
def readable : ByteStream → ByteArray
  | [] => ByteArray.empty
  | .data bytes :: rest => if bytes.isEmpty then ByteArray.empty else bytes ++ readable rest
  | .fault _ :: _ => ByteArray.empty

/-- The fault that plain reads of a stream meet, unless they come to an end. -/
def readFault : ByteStream → Option StreamFault
  | [] => none
  | .data bytes :: rest => if bytes.isEmpty then none else readFault rest
  | .fault fault :: _ => some fault

theorem yielded_ofChunks (chunks : List ByteArray) : (ofChunks chunks).yielded = joined chunks := by
  induction chunks with
  | nil => rfl
  | cons bytes rest ih =>
    rw [joined_cons, ← ih]
    rfl

theorem collectInto_ofChunks (gathered : ByteArray) (chunks : List ByteArray) :
    collectInto gathered (ofChunks chunks) = .ok (gathered ++ joined chunks) := by
  induction chunks generalizing gathered with
  | nil => simp [ofChunks, collectInto]
  | cons bytes rest ih =>
    show collectInto (gathered ++ bytes) (ofChunks rest) = _
    rw [ih, joined_cons, ByteArray.append_assoc]

/-- A stream of chunks does not break. -/
theorem collect_ofChunks (chunks : List ByteArray) :
    (ofChunks chunks).collect = .ok (joined chunks) := by
  rw [collect, collectInto_ofChunks, ByteArray.empty_append]

theorem eq_empty_of_isEmpty {bytes : ByteArray} (empty : bytes.isEmpty = true) :
    bytes = ByteArray.empty := by
  rw [← ByteArray.size_eq_zero_iff]
  simpa [ByteArray.isEmpty] using empty

/-- Without its empty pieces, all bytes of a stream can be read. -/
theorem readable_withoutEmpty (stream : ByteStream) :
    stream.withoutEmpty.readable = stream.yielded := by
  rw [withoutEmpty]
  induction stream with
  | nil => rfl
  | cons piece rest ih =>
    cases piece with
    | fault fault => rfl
    | data bytes =>
      cases blank : bytes.isEmpty with
      | true =>
        rw [List.filter_cons_of_neg (by simp [blank]), ih, yielded, eq_empty_of_isEmpty blank,
          ByteArray.empty_append]
      | false =>
        rw [List.filter_cons_of_pos (by simp [blank]), readable, ih]
        simp [blank, yielded]

end ByteStream

end Backbeat

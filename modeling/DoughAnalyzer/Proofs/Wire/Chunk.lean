import DoughAnalyzer.Wire.Chunk
import DoughAnalyzer.Wire.Frame

set_option autoImplicit false

namespace DoughAnalyzer

namespace Octets

theorem takeWord_eq_some_iff {s rest : Octets} {w : UInt32} :
    takeWord s = some (w, rest) ↔ s = ofWord w ++ rest := by
  constructor
  · intro h
    unfold takeWord at h
    split at h
    · cases h
      rw [ofWord_word]
      rfl
    · cases h
  · rintro rfl
    exact takeWord_ofWord w rest

theorem ofWord_inj {v w : UInt32} : ofWord v = ofWord w ↔ v = w := by
  constructor
  · intro h
    have taken := takeWord_eq_some_iff.2 (congrArg (· ++ []) h)
    rw [takeWord_ofWord] at taken
    cases taken
    rfl
  · rintro rfl
    rfl

end Octets

namespace Wire

namespace Chunk

theorem length_encode (index : UInt32) (payload : Octets) :
    (encode index payload).length = chunkHeaderLength + payload.length := by
  simp only [encode, List.length_append, Octets.length_ofWord]
  rfl

theorem decode_eq_ok_iff {frame : Octets} {c : Chunk} :
    decode frame = .ok c ↔
      frame = Octets.ofWord c.index ++ Octets.ofWord c.declared ++ c.payload := by
  constructor
  · intro h
    unfold decode at h
    split at h
    · cases h
    rename_i index rest first
    split at h
    · cases h
    rename_i declared payload second
    cases h
    rw [Octets.takeWord_eq_some_iff.1 first, Octets.takeWord_eq_some_iff.1 second,
      List.append_assoc]
  · rintro rfl
    simp only [decode, List.append_assoc, Octets.takeWord_ofWord]

theorem decode_encode (index : UInt32) (payload : Octets) :
    decode (encode index payload) = .ok ⟨index, UInt32.ofNat payload.length, payload⟩ :=
  decode_eq_ok_iff.2 rfl

theorem encode_eq_iff {frame : Octets} {c : Chunk} (read : decode frame = .ok c) :
    encode c.index c.payload = frame ↔ c.declared = UInt32.ofNat c.payload.length := by
  rw [decode_eq_ok_iff.1 read, encode, List.append_left_inj, List.append_right_inj,
    Octets.ofWord_inj]
  exact eq_comm

theorem declared_eq_iff {c : Chunk} (word : c.payload.length < UInt32.size) :
    c.declared = UInt32.ofNat c.payload.length ↔ c.declared.toNat = c.payload.length := by
  rw [← UInt32.toNat_inj, UInt32.toNat_ofNat_of_lt' word]

theorem decode_error {frame : Octets} {e : DecodeError} (h : decode frame = .error e) :
    e = .truncated := by
  unfold decode at h
  split at h
  · cases h; rfl
  · split at h
    · cases h; rfl
    · cases h

theorem decode_eq_truncated_iff (frame : Octets) :
    decode frame = .error .truncated ↔ frame.length < chunkHeaderLength := by
  cases first : Octets.takeWord frame with
  | none =>
    have short := (Octets.takeWord_eq_none_iff frame).1 first
    simp only [decode, first, chunkHeaderLength, true_iff]
    omega
  | some taken =>
    obtain ⟨index, rest⟩ := taken
    obtain rfl := Octets.takeWord_eq_some_iff.1 first
    cases second : Octets.takeWord rest with
    | none =>
      have short := (Octets.takeWord_eq_none_iff rest).1 second
      simp only [decode, first, second, chunkHeaderLength, List.length_append,
        Octets.length_ofWord, true_iff]
      omega
    | some taken =>
      obtain ⟨declared, payload⟩ := taken
      obtain rfl := Octets.takeWord_eq_some_iff.1 second
      simp only [decode, first, second, chunkHeaderLength, List.length_append,
        Octets.length_ofWord, reduceCtorEq, false_iff]
      omega

theorem decode_of_long {frame : Octets} (long : chunkHeaderLength ≤ frame.length) :
    ∃ c, decode frame = .ok c := by
  cases read : decode frame with
  | ok c => exact ⟨c, rfl⟩
  | error e =>
    obtain rfl := decode_error read
    exact absurd ((decode_eq_truncated_iff frame).1 read) (Nat.not_lt_of_le long)

end Chunk

namespace Frame

theorem make?_eq_some {topic : String} {payload : Octets}
    (htopic : topic.utf8ByteSize ≤ topicCapacity) (hpayload : payload.length ≤ maxFrameLength) :
    make? topic payload = some ⟨topic, payload⟩ := by
  simp [make?, Text.fits, htopic, hpayload]

/-- A piece is buffered as it was encoded, or not at all. -/
theorem make?_encode {topic : String} (room : topic.utf8ByteSize ≤ topicCapacity) (index : UInt32)
    (payload : Octets) :
    make? topic (Chunk.encode index payload) =
      if payload.length ≤ maxChunkPayload then some ⟨topic, Chunk.encode index payload⟩
      else none := by
  have length := Chunk.length_encode index payload
  split
  case isTrue small =>
    refine make?_eq_some room ?_
    rw [length]
    exact Nat.add_le_add_left small _
  case isFalse large =>
    have exceeds : ¬ (Chunk.encode index payload).length ≤ maxFrameLength := by
      rw [length, maxFrameLength]
      omega
    simp [make?, exceeds]

end Frame

/-- What is encoded is read back. A frame that is read is the encoding of what was read exactly if
it declares the size that it carries, and every frame is read that is no shorter than a header. An
encoded piece is buffered unchanged up to the largest size, and beyond it not at all. -/
theorem Chunk.frames_round_trip (index : UInt32) (payload frame : Octets) (topic : String) :
    (payload.length < UInt32.size → ∃ c, decode (encode index payload) = .ok c ∧ c.index = index ∧
      c.declared.toNat = payload.length ∧ c.payload = payload) ∧
    (8 ≤ frame.length → ∃ c, decode frame = .ok c ∧
      (encode c.index c.payload = frame ↔ c.declared = UInt32.ofNat c.payload.length) ∧
      (c.payload.length < UInt32.size →
        (encode c.index c.payload = frame ↔ c.declared.toNat = c.payload.length))) ∧
    (frame.length < 8 → decode frame = .error .truncated) ∧
    (topic.utf8ByteSize ≤ 96 → Frame.make? topic (encode index payload) =
      if payload.length ≤ 4096 then some ⟨topic, encode index payload⟩ else none) := by
  refine ⟨fun word => ?_, fun long => ?_, (decode_eq_truncated_iff frame).2, fun room =>
    Frame.make?_encode room index payload⟩
  · exact ⟨_, decode_encode index payload, rfl, UInt32.toNat_ofNat_of_lt' word, rfl⟩
  · obtain ⟨c, read⟩ := decode_of_long long
    have same := encode_eq_iff read
    exact ⟨c, read, same, fun word => same.trans (declared_eq_iff word)⟩

end Wire

end DoughAnalyzer

import DoughAnalyzer.Proofs.Update.Pieces
import DoughAnalyzer.Proofs.Wire.Chunk
import DoughAnalyzer.Wire.Router

set_option autoImplicit false

namespace DoughAnalyzer

namespace Wire

theorem Topics.updateChunk_size_le (id : String) :
    (ofId id).updateChunk.utf8ByteSize ≤ topicCapacity :=
  Nat.le_trans (Text.fill_size_le ..) (by decide)

theorem Router.classify_updateChunk (topics : Topics) (payload : Octets) :
    classify topics topics.updateChunk payload = (Chunk.decode payload).map .chunk :=
  if_pos rfl

end Wire

namespace Store

structure Faultless (s : Store) : Prop where
  slot : s.hasSlot = true
  opens : s.failOpen = false
  writes : s.failWriteAt = none
  activates : s.failActivate = false

end Store

namespace Update

open Session (Piece Cut)

structure Intake where
  router : Wire.Router
  session : Session

namespace Intake

/-- Buffers a message, reads it, and hands a chunk to the session. There is no verdict on what no
frame holds or what is not read as a chunk. -/
def deliver (n : Intake) (topic : String) (payload : Octets) (now : Nat) :
    Option Verdict × Intake :=
  match Wire.Frame.make? topic payload with
  | none => (none, n)
  | some frame =>
    let (router, message, _) := n.router.route frame.topic frame.payload
    match message with
    | .ok (.chunk c) =>
      let o := n.session.receive c now
      (some o.result, ⟨router, o.session⟩)
    | .ok (.announcement _) | .ok .diagnosticsRequest | .ok .other | .error _ =>
      (none, { n with router })

def deliverAll (n : Intake) : List Piece → List (Option Verdict) × Intake
  | [] => ([], n)
  | p :: rest =>
    let frame := Wire.Chunk.encode p.index p.data
    let (verdict, n) := n.deliver n.router.topics.updateChunk frame p.now
    let (verdicts, n) := n.deliverAll rest
    (verdict :: verdicts, n)

theorem deliver_piece {n : Intake}
    (room : n.router.topics.updateChunk.utf8ByteSize ≤ Wire.topicCapacity) {p : Piece}
    (small : p.data.length ≤ Wire.maxChunkPayload) :
    n.deliver n.router.topics.updateChunk (Wire.Chunk.encode p.index p.data) p.now =
      (some (n.session.receive p.chunk p.now).result,
        ⟨n.router.counted, (n.session.receive p.chunk p.now).session⟩) := by
  have hframe := Wire.Frame.make?_encode room p.index p.data
  rw [if_pos small] at hframe
  have hread : Wire.Router.classify n.router.topics n.router.topics.updateChunk
      (Wire.Chunk.encode p.index p.data) = .ok (.chunk p.chunk) := by
    rw [Wire.Router.classify_updateChunk, Wire.Chunk.decode_encode]
    rfl
  simp only [deliver, hframe, Wire.Router.route, Wire.Router.counted, hread]

theorem deliverAll_eq_takeAll {n : Intake}
    (room : n.router.topics.updateChunk.utf8ByteSize ≤ Wire.topicCapacity) {pieces : List Piece}
    (small : ∀ p ∈ pieces, p.data.length ≤ Wire.maxChunkPayload) :
    (n.deliverAll pieces).1 = (n.session.takeAll pieces).1.map some ∧
      (n.deliverAll pieces).2.session = (n.session.takeAll pieces).2 := by
  induction pieces generalizing n with
  | nil => exact ⟨rfl, rfl⟩
  | cons p rest ih =>
    obtain ⟨hp, hrest⟩ := List.forall_mem_cons.1 small
    obtain ⟨hverdicts, hsession⟩ :=
      ih (n := ⟨n.router.counted, (n.session.receive p.chunk p.now).session⟩) room hrest
    simp only [deliverAll, deliver_piece room hp, Session.takeAll]
    exact ⟨congrArg _ hverdicts, hsession⟩

end Intake

namespace Session

theorem Cut.image_ne_nil {limit start : Nat} {image : Octets} {pieces : List Piece}
    (h : Cut limit start image pieces) : image ≠ [] := by
  obtain ⟨rfl, -, rest, last, rfl, ends⟩ := h
  simp [joined, ends]

theorem Cut.length_pos {limit start : Nat} {image : Octets} {pieces : List Piece}
    (h : Cut limit start image pieces) : 0 < pieces.length := by
  obtain ⟨-, -, rest, last, rfl, -⟩ := h
  simp

theorem start_of_faultless {s : Session} (h : s.Settled)
    (rest : s.status = .idle ∨ s.status = .error) (faultless : s.store.Faultless)
    {a : Wire.Announcement} (hsize : a.size ≠ 0) (room : a.size.toNat ≤ s.store.capacity)
    (now : Nat) : (s.start a true now).result = .ok () :=
  (start_ok_iff h a true now).2 ⟨h.accepts_iff.2 rest, (startFault?_eq_none_iff s a true).2
    ⟨rfl, hsize, faultless.slot, room, faultless.opens⟩⟩

/-- An image that a faultless store has room for is announced to a session at rest. However it is
cut, and whatever the index of each piece, every piece is taken and the image runs next. -/
theorem any_cut_activates (capacity : Nat) (timing : Timing) (history : List Input) (id : String)
    (count : UInt32) (version : String) (start : Nat) (image : Octets) (pieces : List Piece)
    (rest : ((fresh capacity timing).after history).status = .idle ∨
      ((fresh capacity timing).after history).status = .error)
    (faultless : ((fresh capacity timing).after history).store.Faultless)
    (room : image.length ≤ capacity) (word : image.length < UInt32.size)
    (cut : Cut timing.chunkTimeout start image pieces)
    (small : ∀ p ∈ pieces, p.data.length ≤ Wire.maxChunkPayload) :
    let s := (fresh capacity timing).after history
    let announced :=
      s.start ⟨version, UInt32.ofNat image.length, Checksum.ofOctets image⟩ true start
    let delivered := Intake.deliverAll ⟨⟨Wire.Topics.ofId id, count⟩, announced.session⟩ pieces
    let r := delivered.2.session
    announced.result = .ok () ∧ delivered.1 = List.replicate pieces.length (some (.ok ())) ∧
      r.status = .complete ∧ r.store.switches = s.store.switches + 1 ∧
      r.writer = none ∧ r.store.live = 0 ∧ r.store.nextBoot = some image := by
  intro s announced delivered r
  obtain ⟨hs, hcapacity⟩ := settled_after_fresh capacity timing history
  have htiming : s.timing = timing := timing_after (.fresh capacity timing) history
  have hrunning : s.status ≠ .downloading := by
    rcases rest with h | h <;> simp [s, h]
  have hsize : (UInt32.ofNat image.length).toNat = image.length := UInt32.toNat_ofNat_of_lt' word
  have accepted : announced.result = .ok () := by
    refine start_of_faultless hs rest faultless (fun hzero => ?_) ?_ start
    · have hlength : image.length = 0 := hsize.symm.trans (congrArg UInt32.toNat hzero)
      exact cut.image_ne_nil (List.length_eq_zero_iff.1 hlength)
    · rw [hsize, hcapacity]
      exact room
  obtain ⟨whole, now, ⟨⟨w, holds, rfl⟩, summed, hstore, hexpected⟩, heq⟩ :=
    takeAll_of_cut hs accepted hsize (by simp [faultless.writes]) (htiming ▸ cut)
  have verified : whole.imageFault? = none := by
    refine (imageFault?_eq_none_iff whole).2 ⟨?_, ?_⟩
    · rw [summed, hexpected]
      rfl
    · rw [hstore]
      exact faultless.activates
  obtain ⟨hverdicts, hsession⟩ := Intake.deliverAll_eq_takeAll
    (n := ⟨⟨Wire.Topics.ofId id, count⟩, announced.session⟩) (Wire.Topics.updateChunk_size_le id)
    small
  rw [heq, finalize_of_verified holds now verified] at hverdicts hsession
  refine ⟨accepted, ?_, ?_⟩
  · rw [hverdicts, ← List.replicate_succ', Nat.sub_add_cancel cut.length_pos, List.map_replicate]
  · have hr : r = whole.activated w now := hsession
    simp [hr, activated, Store.release, hstore, begin, openedStore, hs.live_eq_zero hrunning, s]

theorem second_attempt_activates :
    let image : Octets := [1, 2, 3]
    let a : Wire.Announcement := ⟨"2", UInt32.ofNat image.length, Checksum.ofOctets image⟩
    let history : List Input := [.call (.start a true 0), .call (.abort .stalled)]
    let s := (fresh 8 ⟨50, 50, 50, 50, 50, 5⟩).after history
    let pieces : List Piece := [⟨0, [1, 2], 60⟩, ⟨9, [], 110⟩, ⟨9, [3], 160⟩]
    let delivered :=
      Intake.deliverAll ⟨⟨Wire.Topics.ofId "bb-1", 0⟩, (s.start a true 10).session⟩ pieces
    s.status = .error ∧ s.store.Faultless ∧ Cut 50 10 image pieces ∧
      (∀ p ∈ pieces, p.data.length ≤ Wire.maxChunkPayload) ∧
      delivered.2.session.status = .complete ∧
      delivered.2.session.store.nextBoot = some image := by
  intro image a history s pieces delivered
  have failed : s.status = .error := rfl
  have faultless : s.store.Faultless := ⟨rfl, rfl, rfl, rfl⟩
  have cut : Cut 50 10 image pieces :=
    ⟨rfl, ⟨by decide, by decide, by decide, trivial⟩, pieces.take 2, ⟨9, [3], 160⟩, rfl,
      by decide⟩
  have small : ∀ p ∈ pieces, p.data.length ≤ Wire.maxChunkPayload := by decide
  obtain ⟨-, -, hstatus, -, -, -, hboot⟩ :=
    any_cut_activates 8 ⟨50, 50, 50, 50, 50, 5⟩ history "bb-1" 0 "2" 10 image pieces
      (.inr failed) faultless (by decide) (by decide) cut small
  refine ⟨failed, faultless, cut, small, ?_, ?_⟩
  · with_reducible exact hstatus
  · with_reducible exact hboot

end Session

end Update

end DoughAnalyzer

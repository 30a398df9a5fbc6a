import DoughAnalyzer.Proofs.Checksum
import DoughAnalyzer.Proofs.Update.Invariant

/-!
An image in pieces. However it is cut, pieces that come in time arrive one after the other, and the
last one brings the session to the verification with exactly the octets that were cut. So an image
that differs from the announced one by a burst is refused.
-/

set_option autoImplicit false

namespace DoughAnalyzer.Update.Session

structure Piece where
  index : UInt32
  data : Octets
  now : Nat

def Piece.chunk (p : Piece) : Wire.Chunk := ⟨p.index, UInt32.ofNat p.data.length, p.data⟩

def joined (pieces : List Piece) : Octets := pieces.flatMap Piece.data

/-- Each piece comes within a limit after the one before, the first one after a given time. -/
def Timely (limit : Nat) : Nat → List Piece → Prop
  | _, [] => True
  | before, p :: rest => p.now - before ≤ limit ∧ Timely limit p.now rest

/-- An image cut into pieces that come in time. Any of them may be empty but the last. -/
structure Cut (limit start : Nat) (image : Octets) (pieces : List Piece) : Prop where
  joined_eq : joined pieces = image
  timely : Timely limit start pieces
  ends : ∃ rest last, pieces = rest ++ [last] ∧ last.data ≠ []

def takeAll (s : Session) : List Piece → List Verdict × Session
  | [] => ([], s)
  | p :: rest =>
    let o := s.receive p.chunk p.now
    let (verdicts, after) := o.session.takeAll rest
    (o.result :: verdicts, after)

/-- A running download that still expects some octets, and meets no write fault on the way. -/
structure Expects (s : Session) (w : Store.Writer) (rest : Octets) : Prop where
  settled : s.Settled
  running : s.status = .downloading
  holds : s.writer = some w
  total_eq : s.total = (w.data ++ rest).length
  word : s.total < UInt32.size
  writable : ∀ limit, w.failAt = some limit → s.total ≤ limit

theorem Expects.receiving {s : Session} {w : Store.Writer} {rest : Octets} (h : s.Expects w rest) :
    s.Receiving w :=
  h.settled.receiving_of_holds h.running h.holds

theorem Expects.sound {s : Session} {w : Store.Writer} {p : Piece} {rest : Octets}
    (h : s.Expects w (p.data ++ rest)) (timely : p.now - s.lastChunkAt ≤ s.timing.chunkTimeout) :
    s.chunkFault? w p.chunk p.now = none := by
  have hreceived : s.received = w.data.length := h.receiving.counted
  have htotal := h.total_eq
  have hword := h.word
  simp only [List.length_append] at htotal
  have hdeclared : p.data.length = p.chunk.declared.toNat :=
    (UInt32.toNat_ofNat_of_lt' (by omega)).symm
  refine (chunkFault?_eq_none_iff ..).2 ⟨timely, hdeclared, ?_, ?_⟩
  · show s.received + p.data.length ≤ s.total
    omega
  · show w.failAt.any (· < w.data.length + p.data.length) = false
    cases hfail : w.failAt with
    | none => rfl
    | some limit =>
      have hlimit := h.writable limit hfail
      simp only [Option.any_some, decide_eq_false_iff_not]
      omega

theorem Expects.received_add {s : Session} {w : Store.Writer} {p : Piece} {rest : Octets}
    (h : s.Expects w (p.data ++ rest)) :
    s.received + p.data.length + rest.length = s.total := by
  have hreceived : s.received = w.data.length := h.receiving.counted
  have htotal := h.total_eq
  simp only [List.length_append] at htotal
  omega

theorem Expects.receive_eq {s : Session} {w : Store.Writer} {p : Piece} {rest : Octets}
    (h : s.Expects w (p.data ++ rest)) (timely : p.now - s.lastChunkAt ≤ s.timing.chunkTimeout) :
    s.receive p.chunk p.now =
      if rest = [] then
        let o := (s.grown w p.chunk p.now).finalize p.now
        { o with effects := s.grownEffects w p.chunk p.now ++ o.effects }
      else ⟨s.grown w p.chunk p.now, .ok (), s.grownEffects w p.chunk p.now⟩ := by
  have hadd := h.received_add
  have hwhole : s.total ≤ s.received + p.chunk.payload.length ↔ rest = [] := by
    rw [← List.length_eq_zero_iff]
    show s.total ≤ s.received + p.data.length ↔ rest.length = 0
    omega
  rw [receive_of_sound h.receiving p.chunk p.now h.running (h.sound timely)]
  exact ite_congr (propext hwhole) (fun _ => rfl) fun _ => rfl

theorem Expects.grown {s : Session} {w : Store.Writer} {p : Piece} {rest : Octets}
    (h : s.Expects w (p.data ++ rest)) (timely : p.now - s.lastChunkAt ≤ s.timing.chunkTimeout)
    (more : rest ≠ []) :
    (s.grown w p.chunk p.now).Expects { w with data := w.data ++ p.data } rest := by
  have hsound := h.sound timely
  have hadd := h.received_add
  have hpos := List.length_pos_iff.2 more
  have hsettled := h.settled.grown h.running h.receiving hsound (by
    show s.received + p.data.length < s.total
    omega)
  obtain ⟨notified, hgrown⟩ := grown_eq hsound
  refine ⟨hsettled, ?_, ?_, ?_, ?_, ?_⟩
  · rw [hgrown]; exact h.running
  · rw [hgrown]; rfl
  · rw [hgrown]
    simp only [List.append_assoc]
    exact h.total_eq
  · rw [hgrown]; exact h.word
  · rw [hgrown]; exact h.writable

structure Arrived (s r : Session) (image : Octets) : Prop where
  holds : ∃ w, r.writer = some w ∧ w.data = image
  summed : r.checksum = Checksum.start.update image
  store_eq : r.store = s.store
  expected_eq : r.expected = s.expected

theorem takeAll_eq_finalize {s : Session} {w : Store.Writer} {pieces : List Piece} {last : Piece}
    (h : s.Expects w (joined (pieces ++ [last])))
    (timely : Timely s.timing.chunkTimeout s.lastChunkAt (pieces ++ [last]))
    (ends : last.data ≠ []) :
    ∃ r : Session, Arrived s r (w.data ++ joined (pieces ++ [last])) ∧
      s.takeAll (pieces ++ [last]) =
        (List.replicate pieces.length (.ok ()) ++ [(r.finalize last.now).result],
          (r.finalize last.now).session) := by
  induction pieces generalizing s w with
  | nil =>
    have hj : joined ([] ++ [last]) = last.data ++ [] := by simp [joined]
    rw [hj] at h ⊢
    obtain ⟨hlast, -⟩ := timely
    obtain ⟨notified, hgrown⟩ := grown_eq (h.sound hlast)
    refine ⟨s.grown w last.chunk last.now, ?_, ?_⟩
    · rw [hgrown, List.append_nil]
      refine ⟨⟨_, rfl, rfl⟩, ?_, rfl, rfl⟩
      rw [h.receiving.summed, Checksum.update_append]
      rfl
    · simp [takeAll, h.receive_eq hlast]
  | cons p rest ih =>
    have hj : joined (p :: rest ++ [last]) = p.data ++ joined (rest ++ [last]) := rfl
    rw [hj] at h ⊢
    obtain ⟨hp, hrest⟩ := timely
    have more : joined (rest ++ [last]) ≠ [] := by simp [joined, ends]
    obtain ⟨notified, hgrown⟩ := grown_eq (h.sound hp)
    have htimely : Timely (s.grown w p.chunk p.now).timing.chunkTimeout
        (s.grown w p.chunk p.now).lastChunkAt (rest ++ [last]) := by
      rw [hgrown]
      exact hrest
    obtain ⟨r, hr, heq⟩ := ih (h.grown hp more) htimely
    refine ⟨r, ?_, ?_⟩
    · rw [← List.append_assoc]
      exact ⟨hr.holds, hr.summed, hr.store_eq.trans (by rw [hgrown]),
        hr.expected_eq.trans (by rw [hgrown])⟩
    · simp only [List.cons_append, takeAll, h.receive_eq hp, if_neg more, heq]
      rfl

theorem expects_of_begin {s : Session} (h : s.Settled) {a : Wire.Announcement} {safe : Bool}
    (now : Nat) (free : s.acceptsAnnouncement = true) (sound : s.startFault? a safe = none)
    {image : Octets} (size : a.size.toNat = image.length)
    (writable : ∀ limit, s.store.failWriteAt = some limit → image.length ≤ limit) :
    (s.begin a s.openedWriter s.openedStore now).Expects s.openedWriter image where
  settled := h.begin now free sound
  running := rfl
  holds := rfl
  total_eq := size
  word := a.size.toNat_lt
  writable := fun limit hlimit => Nat.le_trans (Nat.le_of_eq size) (writable limit hlimit)

theorem takeAll_of_cut {s : Session} (h : s.Settled) {a : Wire.Announcement} {safe : Bool}
    {start : Nat} (accepted : (s.start a safe start).result = .ok ()) {image : Octets}
    (size : a.size.toNat = image.length)
    (writable : ∀ limit, s.store.failWriteAt = some limit → image.length ≤ limit)
    {pieces : List Piece} (cut : Cut s.timing.chunkTimeout start image pieces) :
    ∃ (r : Session) (now : Nat),
      Arrived (s.begin a s.openedWriter s.openedStore start) r image ∧
      (s.start a safe start).session.takeAll pieces =
        (List.replicate (pieces.length - 1) (.ok ()) ++ [(r.finalize now).result],
          (r.finalize now).session) := by
  obtain ⟨rfl, timely, rest, last, rfl, ends⟩ := cut
  obtain ⟨free, sound⟩ := (start_ok_iff h a safe start).1 accepted
  have hexpects := expects_of_begin h start free sound size writable
  obtain ⟨r, hr, heq⟩ := takeAll_eq_finalize hexpects timely ends
  refine ⟨r, last.now, hr, ?_⟩
  rw [start_of_sound h a safe start free sound, heq]
  simp

/-- An image that differs by a burst from the announced one is never activated: however it is cut,
its last piece is answered with a checksum mismatch. -/
theorem burst_never_boots (capacity : Nat) (timing : Timing) (history : List Input)
    (a : Wire.Announcement) (safe : Bool) (start : Nat) (image bad : Octets) (pieces : List Piece)
    (accepted : (((fresh capacity timing).after history).start a safe start).result = .ok ())
    (size : a.size.toNat = image.length) (sum : a.checksum = Checksum.ofOctets image)
    (burst : Checksum.Burst image bad) (cut : Cut timing.chunkTimeout start bad pieces)
    (writable : ∀ limit, ((fresh capacity timing).after history).store.failWriteAt = some limit →
      bad.length ≤ limit) :
    let s := (fresh capacity timing).after history
    let taken := (s.start a safe start).session.takeAll pieces
    taken.1 = List.replicate (pieces.length - 1) (.ok ()) ++ [.error .checksumMismatch] ∧
      taken.2.status = .error ∧ taken.2.store.switches = s.store.switches ∧
      taken.2.store.nextBoot = s.store.nextBoot := by
  intro s taken
  obtain ⟨hs, -⟩ := settled_after_fresh capacity timing history
  have htiming : s.timing = timing := timing_after (.fresh capacity timing) history
  obtain ⟨r, now, ⟨⟨w, holds, -⟩, summed, hstore, hexpected⟩, heq⟩ :=
    takeAll_of_cut hs accepted (size.trans burst.length_eq) writable (htiming ▸ cut)
  have hfault : r.imageFault? = some .checksumMismatch := by
    refine if_pos ?_
    rw [summed, hexpected]
    exact fun h => burst.ofOctets_ne (sum.symm.trans h.symm)
  obtain ⟨remarks, hfinalize⟩ := finalize_of_fault holds now hfault
  rw [hfinalize] at heq
  have htaken : taken = _ := heq
  rw [htaken]
  refine ⟨rfl, rfl, ?_, ?_⟩ <;> simp [ended, Store.release, hstore, begin, openedStore, s]

theorem four_altered_octets_refused :
    let image : Octets := [1, 2, 3, 4, 5, 6]
    let bad : Octets := [1, 9, 9, 9, 9, 6]
    let pieces : List Piece := [⟨0, [1, 9], 5⟩, ⟨7, [], 50⟩, ⟨7, [9, 9, 9, 6], 100⟩]
    let s := (fresh 8 ⟨50, 50, 50, 50, 50, 5⟩).after []
    let announced := s.start ⟨"2", 6, Checksum.ofOctets image⟩ true 0
    let taken := announced.session.takeAll pieces
    announced.result = .ok () ∧ Checksum.Burst image bad ∧ Cut 50 0 bad pieces ∧
      taken.1 = [.ok (), .ok (), .error .checksumMismatch] ∧
      taken.2.store.nextBoot = s.store.nextBoot := by
  intro image bad pieces s announced taken
  have accepted : announced.result = .ok () := rfl
  have burst : Checksum.Burst image bad := by
    refine ⟨rfl, by decide, 1, fun i hi => ?_⟩
    match i with
    | 0 | 5 => exact absurd rfl hi
    | 1 | 2 | 3 | 4 => decide
    | _ + 6 => exact absurd rfl hi
  have cut : Cut 50 0 bad pieces :=
    ⟨rfl, ⟨by decide, by decide, by decide, trivial⟩, pieces.take 2, ⟨7, [9, 9, 9, 6], 100⟩, rfl,
      by decide⟩
  obtain ⟨hverdicts, -, -, hboot⟩ :=
    burst_never_boots 8 ⟨50, 50, 50, 50, 50, 5⟩ [] ⟨"2", 6, Checksum.ofOctets image⟩ true 0 image
      bad pieces accepted rfl rfl burst cut (fun _ h => nomatch h)
  refine ⟨accepted, burst, cut, ?_, ?_⟩
  · with_reducible exact hverdicts.trans rfl
  · with_reducible exact hboot

end DoughAnalyzer.Update.Session

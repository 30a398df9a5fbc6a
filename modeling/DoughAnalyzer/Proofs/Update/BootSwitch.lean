import DoughAnalyzer.Proofs.Update.Invariant

set_option autoImplicit false

namespace DoughAnalyzer.Update.Session

/-- A running download has what was delivered, for what was announced. -/
structure Follows (s : Session) (d : Delivery) : Prop where
  announced : s.status = .downloading →
    ∃ a, d.announcement = some a ∧ s.total = a.size.toNat ∧ s.expected = a.checksum
  written : ∀ w, s.writer = some w → w.data = d.image

theorem Follows.of_not_running {s : Session} (d : Delivery) (hs : s.status ≠ .downloading)
    (hw : s.writer = none) : s.Follows d where
  announced := fun running => absurd running hs
  written := by simp [hw]

theorem Follows.congr {s r : Session} {d : Delivery} (h : s.Follows d) (hs : r.status = s.status)
    (ht : r.total = s.total) (he : r.expected = s.expected) (hw : r.writer = s.writer) :
    r.Follows d where
  announced := by rw [hs, ht, he]; exact h.announced
  written := by rw [hw]; exact h.written

theorem Follows.grown {s : Session} {d : Delivery} {w : Store.Writer} {c : Wire.Chunk} {now : Nat}
    (h : s.Follows d) (holds : s.writer = some w) (sound : s.chunkFault? w c now = none) :
    (s.grown w c now).Follows ⟨d.announcement, d.image ++ c.payload⟩ := by
  obtain ⟨notified, hgrown⟩ := grown_eq sound
  rw [hgrown]
  refine ⟨h.announced, fun v hv => ?_⟩
  cases hv
  rw [h.written w holds]

theorem Transition.follows {s : Session} {i : Input} {o : Outcome Reply} {d : Delivery}
    (t : Transition s i o) (hs : s.Settled) (h : s.Follows d) :
    o.session.Follows (d.add ⟨i, o⟩) := by
  cases t with
  | fault | startIgnored | startRejected | chunkUnexpected | abortIgnored | pollIdle | pollQuiet
  | reconnectIgnored | pollWarned | resumed => exact h.congr rfl rfl rfl rfl
  | started a safe now =>
    refine ⟨fun _ => ⟨a, rfl, rfl, rfl⟩, fun w hw => ?_⟩
    cases hw
    rfl
  | chunkFailed | imageRefused | aborted | timedOut => exact .of_not_running _ (by simp [ended]) rfl
  | imageActivated => exact .of_not_running _ (by simp [activated]) rfl
  | chunkTaken c now w running holds sound partly => exact h.grown holds sound
  | reset =>
    have idle : s.reset.status ≠ .downloading := by simp [Session.reset]
    exact .of_not_running _ idle (hs.reset.writer_none idle)
  | rebooted now time complete =>
    exact .of_not_running _ (by simp) (hs.writer_none (by simp [complete]))

theorem follows_after_fresh (capacity : Nat) (timing : Timing) (history : List Input) :
    ((fresh capacity timing).after history).Follows
      (Delivery.ofRecord ((fresh capacity timing).record history)) := by
  have first : (fresh capacity timing).Settled ∧ (fresh capacity timing).Follows Delivery.none :=
    ⟨.fresh capacity timing, .of_not_running _ (by simp [fresh, ofStore]) rfl⟩
  have h := record_induction
    (P := fun s log => s.Settled ∧ s.Follows (Delivery.ofRecord log)) [] first
    (fun s log i h => ?_) history
  · exact h.2
  · have t := take_transition h.1 i
    rw [Delivery.ofRecord_append_singleton]
    exact ⟨t.settled h.1, t.follows h.1 h.2⟩

def Completes (i : Input) (o : Outcome Reply) : Prop :=
  (∃ c now, i = .call (.chunk c now)) ∧ o.result = .verdict (.ok ()) ∧
    o.session.status = .complete

theorem Transition.boot_of_not_completes {s : Session} {i : Input} {o : Outcome Reply}
    (t : Transition s i o) (hc : ¬ Completes i o) :
    o.session.store.switches = s.store.switches ∧
      o.session.store.nextBoot = s.store.nextBoot := by
  cases t with
  | fault f => cases f <;> exact ⟨rfl, rfl⟩
  | chunkTaken c now w running holds sound
  | imageRefused c now w reason remarks running holds sound =>
    obtain ⟨notified, hgrown⟩ := grown_eq sound
    simp [hgrown, ended, Store.release]
  | imageActivated c now => exact absurd ⟨⟨c, now, rfl⟩, rfl, rfl⟩ hc
  | reset => cases hw : s.writer <;> simp [Session.reset, release, hw, Store.release]
  | _ => exact ⟨rfl, rfl⟩

theorem Transition.boot_of_completes {s : Session} {i : Input} {o : Outcome Reply} {d : Delivery}
    (t : Transition s i o) (hs : s.Settled) (h : s.Follows d) (hc : Completes i o) :
    o.session.store.switches = s.store.switches + 1 ∧
      o.session.store.nextBoot = some (d.add ⟨i, o⟩).image ∧
      ∃ a, (d.add ⟨i, o⟩).announcement = some a ∧
        (d.add ⟨i, o⟩).image.length = a.size.toNat ∧ 0 < a.size.toNat ∧
        a.size.toNat ≤ s.store.capacity ∧
        Checksum.ofOctets (d.add ⟨i, o⟩).image = a.checksum := by
  obtain ⟨⟨c', now', hi⟩, hresult, hcomplete⟩ := hc
  cases t with
  | imageActivated c now w running holds sound whole verified =>
    have hw := hs.receiving_of_holds running holds
    have hcounted : s.received = w.data.length := hw.counted
    have hunfinished := hw.unfinished
    obtain ⟨a, ha, htotal, hexpected⟩ := h.announced running
    obtain ⟨notified, hgrown⟩ := grown_eq sound
    obtain ⟨hsum, -⟩ := (imageFault?_eq_none_iff _).1 verified
    simp only [hgrown, hw.summed, ← Checksum.update_append] at hsum
    simp only [Delivery.add, ← h.written w holds]
    refine ⟨?_, rfl, a, ha, ?_, ?_, ?_, hsum.trans hexpected⟩
    · simp [hgrown, activated]
    · rw [List.length_append, ← hcounted, whole, htotal]
    · omega
    · exact htotal ▸ hw.room
  | chunkTaken c now w running holds sound =>
    obtain ⟨notified, hgrown⟩ := grown_eq sound
    simp [hgrown, running] at hcomplete
  | chunkUnexpected | chunkFailed | imageRefused => cases hresult
  | _ => cases hi

/-- What runs next changes only when the chunk that completes an update is accepted. Then it is
exactly what was delivered since the last accepted announcement, of the announced size and
checksum. -/
theorem boot_changes_only_on_completion (capacity : Nat) (timing : Timing) (history : List Input)
    (i : Input) :
    let s := (fresh capacity timing).after history
    let o := s.take i
    let d := Delivery.ofRecord ((fresh capacity timing).record (history ++ [i]))
    (Completes i o →
      o.session.store.switches = s.store.switches + 1 ∧
        o.session.store.nextBoot = some d.image ∧
        ∃ a, d.announcement = some a ∧ d.image.length = a.size.toNat ∧ 0 < a.size.toNat ∧
          a.size.toNat ≤ capacity ∧ Checksum.ofOctets d.image = a.checksum) ∧
    (¬ Completes i o →
      o.session.store.switches = s.store.switches ∧
        o.session.store.nextBoot = s.store.nextBoot) := by
  obtain ⟨hs, hcapacity⟩ := settled_after_fresh capacity timing history
  have hfollows := follows_after_fresh capacity timing history
  have t := take_transition hs i
  refine ⟨fun hc => ?_, t.boot_of_not_completes⟩
  have hboot := t.boot_of_completes hs hfollows hc
  rw [record_append]
  simp only [record, Delivery.ofRecord_append_singleton]
  rwa [hcapacity] at hboot

theorem one_octet_boots :
    let announced := Input.call (.start ⟨"2", 1, Checksum.ofOctets [7]⟩ true 0)
    let delivered := Input.call (.chunk ⟨0, 1, [7]⟩ 5)
    let s := (fresh 8 ⟨50, 50, 50, 50, 50, 5⟩).after [announced]
    Completes delivered (s.take delivered) ∧
      (s.take delivered).session.store.nextBoot = some [7] := by
  intro announced delivered s
  let before := fresh 8 ⟨50, 50, 50, 50, 50, 5⟩
  obtain ⟨hresult, hstatus, himage⟩ : (s.take delivered).result.accepts = true ∧
      (s.take delivered).session.status = .complete ∧
      (Delivery.ofRecord (before.record ([announced] ++ [delivered]))).image = [7] := by
    decide +kernel
  have hc : Completes delivered (s.take delivered) :=
    ⟨⟨_, _, rfl⟩, (Reply.accepts_iff _).1 hresult, hstatus⟩
  have h := boot_changes_only_on_completion 8 ⟨50, 50, 50, 50, 50, 5⟩ [announced] delivered
  exact ⟨hc, himage ▸ (h.1 hc).2.1⟩

end DoughAnalyzer.Update.Session

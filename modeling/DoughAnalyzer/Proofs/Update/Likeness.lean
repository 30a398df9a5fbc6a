import DoughAnalyzer.Proofs.Update.History

set_option autoImplicit false

namespace DoughAnalyzer.Update

structure Likeness where
  change : Store → Store
  clocks : Nat → Nat → Prop
  slot : ∀ s, (change s).slot = s.slot
  isBusy : ∀ s, (change s).isBusy = s.isBusy
  openWriter : ∀ s, (change s).openWriter = s.openWriter.map fun (w, s) => (w, change s)
  release : ∀ s, (change s).release = change s.release
  activate : ∀ s w, (change s).activate w = ((s.activate w).1, change (s.activate w).2)
  set : ∀ s f, (change s).set f = change (s.set f)
  same : ∀ time, clocks time time

/-- Whether a chunk at this time comes too long after what was last heard. -/
def Session.callsLate (s : Session) (now : Nat) : Prop :=
  s.timing.chunkTimeout < now - s.lastChunkAt

variable {L : Likeness} {s r : Session} {α : Type} {o p : Outcome α}

def Session.Like (L : Likeness) (s r : Session) : Prop :=
  ∃ heard, r = { s with store := L.change s.store, lastChunkAt := heard } ∧
    L.clocks s.lastChunkAt heard

structure Outcome.Like (L : Likeness) (o p : Outcome α) : Prop where
  session : o.session.Like L p.session
  result : p.result = o.result
  effects : p.effects = o.effects

namespace Outcome.Like

theorem after (h : o.Like L p) (remarks : List Remark) :
    (o.after remarks).Like L (p.after remarks) :=
  ⟨h.session, h.result, congrArg (remarks.map Effect.remark ++ ·) h.effects⟩

theorem ite_of_iff {c d : Prop} [Decidable c] [Decidable d] {o' p' : Outcome α} (agree : c ↔ d)
    (yes : c → o.Like L p) (no : ¬ c → o'.Like L p') :
    (if c then o else o').Like L (if d then p else p') := by
  by_cases h : c
  · rw [if_pos h, if_pos (agree.1 h)]
    exact yes h
  · rw [if_neg h, if_neg (mt agree.2 h)]
    exact no h

theorem ite {c : Prop} [Decidable c] {o' p' : Outcome α} (yes : c → o.Like L p)
    (no : ¬ c → o'.Like L p') : (if c then o else o').Like L (if c then p else p') :=
  ite_of_iff .rfl yes no

end Outcome.Like

namespace Session.Like

theorem release (h : s.Like L r) : s.release.Like L r.release := by
  obtain ⟨heard, rfl, clocks⟩ := h
  cases holds : s.writer with
  | none => exact ⟨heard, by simp [Session.release, holds], by simpa [Session.release, holds]⟩
  | some w =>
    exact ⟨heard, by simp [Session.release, holds, L.release], by simpa [Session.release, holds]⟩

theorem fail (h : s.Like L r) (reason : UpdateError) : (s.fail reason).Like L (r.fail reason) := by
  obtain ⟨later, released, clocks⟩ := h.release
  obtain ⟨heard, rfl, -⟩ := h
  unfold Session.fail
  rw [released]
  exact .ite (fun _ => ⟨⟨later, rfl, clocks⟩, rfl, rfl⟩) (fun _ => ⟨⟨later, rfl, clocks⟩, rfl, rfl⟩)

theorem start (h : s.Like L r) (a : Wire.Announcement) (safe : Bool) (now : Nat) :
    (s.start a safe now).Like L (r.start a safe now) := by
  obtain ⟨heard, rfl, clocks⟩ := h
  have still (result : Verdict) (effects : List Effect) :
      Outcome.Like L ⟨s, result, effects⟩
        ⟨{ s with store := L.change s.store, lastChunkAt := heard }, result, effects⟩ :=
    ⟨⟨heard, rfl, clocks⟩, rfl, rfl⟩
  unfold Session.start
  refine .ite (fun busy => still _ _) fun free => ?_
  refine .ite (fun low => still _ _) fun power => ?_
  refine .ite (fun empty => still _ _) fun size => ?_
  simp only [L.slot, L.isBusy, L.openWriter]
  cases s.store.slot with
  | error e => exact .after (still _ _) _
  | ok capacity =>
    refine .ite (fun _ => .after (still _ _) _) fun _ => ?_
    cases s.store.openWriter with
    | error e => exact .after (still _ _) _
    | ok opened => exact ⟨⟨now, rfl, L.same now⟩, rfl, rfl⟩

theorem finalize (h : s.Like L r) (now : Nat) : (s.finalize now).Like L (r.finalize now) := by
  obtain ⟨heard, rfl, clocks⟩ := h
  have applying : ({ s with status := .applying } : Session).Like L
      { s with store := L.change s.store, lastChunkAt := heard, status := .applying } :=
    ⟨heard, rfl, clocks⟩
  unfold Session.finalize
  refine .ite (fun _ => (applying.fail _).after _) fun _ => ?_
  simp only [L.activate]
  cases holds : s.writer with
  | none => simpa only [holds] using applying.fail .notReady
  | some w =>
    simp only
    rcases s.store.activate w with ⟨e | _, store⟩
    · have sealed : ({ s with status := .applying, writer := none, store } : Session).Like L
          { s with
            status := .applying, writer := none, store := L.change store, lastChunkAt := heard } :=
        ⟨heard, rfl, clocks⟩
      exact (sealed.fail .activateFailed).after [.activateFailed e]
    · exact ⟨⟨heard, rfl, clocks⟩, rfl, rfl⟩

theorem told (h : s.Like L r) : s.told.Like L r.told := by
  obtain ⟨heard, rfl, clocks⟩ := h
  unfold Session.told
  change Like L _ (if s.tellsProgress then _ else _)
  split <;> exact ⟨heard, rfl, clocks⟩

theorem settle (h : s.Like L r) (c : Wire.Chunk) (now : Nat) :
    (s.settle c now).Like L (r.settle c now) := by
  have finalized := h.told.finalize now
  have told := h.told
  obtain ⟨heard, rfl, -⟩ := h
  obtain ⟨later, htold, clocks⟩ := told
  unfold Session.settle
  rw [htold] at finalized ⊢
  exact .ite (fun _ => ⟨finalized.session, finalized.result, congrArg (_ ++ ·) finalized.effects⟩)
    fun _ => ⟨⟨later, rfl, clocks⟩, rfl, rfl⟩

theorem receive (h : s.Like L r) (c : Wire.Chunk) (now : Nat)
    (agree : s.status = .downloading → (s.callsLate now ↔ r.callsLate now)) :
    (s.receive c now).Like L (r.receive c now) := by
  obtain ⟨heard, rfl, clocks⟩ := id h
  unfold Session.receive
  refine .ite (fun _ => ⟨h, rfl, rfl⟩) fun running => ?_
  refine .ite_of_iff (agree (by simpa using running)) (fun late => h.fail _) fun timely => ?_
  refine .ite (fun differs => (h.fail _).after _) fun whole => ?_
  refine .ite (fun exceeds => h.fail _) fun fits => ?_
  have summed : ({ s with checksum := s.checksum.update c.payload } : Session).Like L
      { s with
        store := L.change s.store, lastChunkAt := heard
        checksum := s.checksum.update c.payload } := ⟨heard, rfl, clocks⟩
  cases holds : s.writer with
  | none => simpa only [holds] using summed.fail .notReady
  | some w =>
    simp only
    cases w.write c.payload with
    | error e => simpa only [holds] using (summed.fail .writeFailed).after [.writeFailed c.index e]
    | ok w => exact settle ⟨now, rfl, L.same now⟩ c now

theorem abort (h : s.Like L r) (reason : UpdateError) :
    (s.abort reason).Like L (r.abort reason) :=
  ⟨(h.fail reason).session, rfl, (h.fail reason).effects⟩

theorem reset (h : s.Like L r) : s.reset.Like L r.reset := by
  obtain ⟨later, released, clocks⟩ := h.release
  exact ⟨later, by rw [Session.reset, released]; rfl, clocks⟩

theorem supervise (h : s.Like L r) (now : Nat) : (s.supervise now).Like L (r.supervise now) := by
  have aborts := h.abort
  obtain ⟨heard, rfl, clocks⟩ := id h
  have same (effects : List Effect) : Outcome.Like L ⟨s, (), effects⟩ ⟨_, (), effects⟩ :=
    ⟨h, rfl, rfl⟩
  refine .ite (fun none => ?_) fun some => ?_
  · exact .ite (fun late => aborts _) fun timely => same _
  · refine .ite (fun late => aborts _) fun timely => ?_
    exact .ite (fun warned => ⟨⟨heard, rfl, clocks⟩, rfl, rfl⟩) fun quiet => same _

theorem rebooted (h : s.Like L r) :
    ({ s with status := .rebooting, rebootAt := none } : Session).Like L
      { r with status := .rebooting, rebootAt := none } := by
  obtain ⟨heard, rfl, clocks⟩ := h
  exact ⟨heard, rfl, clocks⟩

theorem poll (h : s.Like L r) (now : Nat) : (s.poll now).Like L (r.poll now) := by
  have supervised := h.supervise now
  obtain ⟨status, rebootAt⟩ : r.status = s.status ∧ r.rebootAt = s.rebootAt := by
    obtain ⟨heard, rfl, -⟩ := h
    exact ⟨rfl, rfl⟩
  unfold Session.poll
  rw [status, rebootAt]
  cases s.status with
  | downloading => exact ⟨supervised.session, rfl, supervised.effects⟩
  | complete =>
    cases s.rebootAt with
    | none => exact ⟨h, rfl, rfl⟩
    | some time => exact .ite (fun _ => ⟨h.rebooted, rfl, rfl⟩) fun _ => ⟨h, rfl, rfl⟩
  | idle | applying | rebooting | error => exact ⟨h, rfl, rfl⟩

theorem reconnect (h : s.Like L r) (now : Nat) :
    (s.reconnect now).Like L (r.reconnect now) := by
  obtain ⟨heard, rfl, clocks⟩ := id h
  exact .ite (fun _ => ⟨⟨now, rfl, L.same now⟩, rfl, rfl⟩) fun _ => ⟨h, rfl, rfl⟩

theorem take (h : s.Like L r) (i : Session.Input)
    (agree : ∀ c now, i = .call (.chunk c now) → s.status = .downloading →
      (s.callsLate now ↔ r.callsLate now)) :
    (s.take i).Like L (r.take i) := by
  cases i with
  | fault f =>
    obtain ⟨heard, rfl, clocks⟩ := h
    exact ⟨⟨heard, by simp [Session.take, L.set], clocks⟩, rfl, rfl⟩
  | call c =>
    cases c with
    | start a safe now =>
      have h := h.start a safe now
      exact ⟨h.session, congrArg Session.Reply.verdict h.result, h.effects⟩
    | chunk c now =>
      have h := h.receive c now (agree c now rfl)
      exact ⟨h.session, congrArg Session.Reply.verdict h.result, h.effects⟩
    | abort reason =>
      have h := h.abort reason
      exact ⟨h.session, rfl, h.effects⟩
    | reset => exact ⟨h.reset, rfl, rfl⟩
    | poll now =>
      have h := h.poll now
      exact ⟨h.session, congrArg Session.Reply.poll h.result, h.effects⟩
    | reconnect now =>
      have h := h.reconnect now
      exact ⟨h.session, rfl, h.effects⟩

end Session.Like

end DoughAnalyzer.Update

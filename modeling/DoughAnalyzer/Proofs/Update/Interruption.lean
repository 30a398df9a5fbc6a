import DoughAnalyzer.Proofs.Update.Likeness
import DoughAnalyzer.Proofs.Update.NoticeStream
import DoughAnalyzer.Proofs.Update.TimeLimits

/-!
A channel that is lost and comes back in the middle of an update. The history is compared with the
same one without the reconnections: they move nothing but the clock between two chunks, and that
only forward, so a chunk that is in time without them is in time with them.
-/

set_option autoImplicit false

namespace DoughAnalyzer.Update

/-- The clock of the second session may be ahead. -/
def ahead : Likeness where
  change := id
  clocks s r := s ≤ r
  slot _ := rfl
  isBusy _ := rfl
  openWriter s := by cases h : s.openWriter <;> simp [h, Except.map]
  release _ := rfl
  activate _ _ := rfl
  set _ _ := rfl
  same _ := Nat.le_refl _

namespace Session

/-- A history with reconnections put into it. -/
inductive Moment where
  | own (i : Input)
  | reconnected (now : Nat)
  deriving DecidableEq, Repr

namespace Moment

def input : Moment → Input
  | own i => i
  | reconnected now => .call (.reconnect now)

def own? : Moment → Option Input
  | own i => some i
  | reconnected _ => none

end Moment

def Input.time? : Input → Option Nat
  | .call (.start _ _ now) | .call (.chunk _ now) | .call (.poll now) | .call (.reconnect now) =>
    some now
  | .call (.abort _) | .call .reset | .fault _ => none

def interrupted (moments : List Moment) : List Input := moments.map Moment.input

def uninterrupted (moments : List Moment) : List Input := moments.filterMap Moment.own?

def times (history : List Input) : List Nat := history.filterMap Input.time?

deriving instance DecidableEq for Reply

/-- No chunk of a history is refused for its time. -/
def InTime (s : Session) (history : List Input) : Prop :=
  ∀ e ∈ s.record history, e.outcome.result ≠ .verdict (.error .chunkTimeout)

instance (s : Session) (history : List Input) : Decidable (s.InTime history) :=
  inferInstanceAs (Decidable (∀ e ∈ s.record history, _))

variable {s r : Session}

theorem inTime_cons {i : Input} {history : List Input} :
    s.InTime (i :: history) ↔ (s.take i).result ≠ .verdict (.error .chunkTimeout) ∧
      (s.take i).session.InTime history :=
  List.forall_mem_cons

theorem inTime_append {x y : List Input} :
    s.InTime (x ++ y) ↔ s.InTime x ∧ (s.after x).InTime y := by
  simp [InTime, record_append, or_imp, forall_and]

theorem Transition.lastChunkAt_eq {i : Input} {o : Outcome Reply} (t : Transition s i o) :
    o.session.lastChunkAt = s.lastChunkAt ∨ i.time? = some o.session.lastChunkAt := by
  cases t with
  | started | resumed => exact .inr rfl
  | chunkTaken c now w running holds sound | imageRefused c now w reason remarks running holds sound
  | imageActivated c now w running holds sound =>
    obtain ⟨notified, grown⟩ := grown_eq sound
    exact .inr (by simp [grown, ended, activated, Input.time?])
  | reset =>
    left
    change s.release.lastChunkAt = s.lastChunkAt
    unfold release
    split <;> rfl
  | _ => exact .inl rfl

theorem Like.agree {i : Input} (h : s.Like ahead r) (settled : s.Settled)
    (timely : (s.take i).result ≠ .verdict (.error .chunkTimeout)) (c : Wire.Chunk) (now : Nat)
    (hi : i = .call (.chunk c now)) (running : s.status = .downloading) :
    s.callsLate now ↔ r.callsLate now := by
  subst hi
  have in_time := mt ((take_transition settled _).chunk_timeout_iff running).1.2 timely
  obtain ⟨heard, rfl, clocks⟩ := h
  have clocks : s.lastChunkAt ≤ heard := clocks
  unfold callsLate
  simp only
  omega

theorem Like.reconnected (h : s.Like ahead r) {now : Nat} (after : s.lastChunkAt ≤ now) :
    s.Like ahead (r.take (.call (.reconnect now))).session := by
  obtain ⟨heard, rfl, clocks⟩ := h
  change s.Like ahead (Session.reconnect _ now).session
  unfold Session.reconnect
  split
  · exact ⟨now, rfl, after⟩
  · exact ⟨heard, rfl, clocks⟩

theorem Like.notices_reconnect (h : s.Like ahead r) (now : Nat) :
    notices (r.take (.call (.reconnect now))).effects =
      if s.status = .downloading then [.resumed s.progress] else [] := by
  obtain ⟨heard, rfl, -⟩ := h
  exact Session.notices_reconnect _ now

theorem ordered_tail {clock later : Nat} {i : Input} {history : List Input}
    (ordered : (clock :: times (i :: history)).Pairwise (· ≤ ·))
    (moved : later = clock ∨ i.time? = some later) :
    (later :: times history).Pairwise (· ≤ ·) := by
  cases at' : i.time? with
  | none =>
    obtain rfl : later = clock := by simpa [at'] using moved
    simpa [times, at'] using ordered
  | some time =>
    simp only [times, List.filterMap_cons, at', List.pairwise_cons, List.mem_cons] at ordered ⊢
    obtain ⟨behind, next, rest⟩ := ordered
    rcases moved with rfl | moved
    · exact ⟨fun t ht => behind t (.inr ht), rest⟩
    · obtain rfl : time = later := Option.some.inj (at'.symm.trans moved)
      exact ⟨next, rest⟩

theorem Like.after_interrupted {moments : List Moment} (h : s.Like ahead r) (settled : s.Settled)
    (ordered : (s.lastChunkAt :: times (interrupted moments)).Pairwise (· ≤ ·))
    (timely : s.InTime (uninterrupted moments)) :
    (s.after (uninterrupted moments)).Like ahead (r.after (interrupted moments)) := by
  -- Of the two clocks only the first is compared with the times to come; the other is ahead of it.
  induction moments generalizing s r with
  | nil => exact h
  | cons m moments ih =>
    cases m with
    | own i =>
      have t := take_transition settled i
      obtain ⟨now_timely, timely⟩ := inTime_cons.1 timely
      have next := h.take i (h.agree settled now_timely)
      exact ih next.session (t.settled settled) (ordered_tail ordered t.lastChunkAt_eq) timely
    | reconnected now =>
      have later : s.lastChunkAt ≤ now := List.rel_of_pairwise_cons ordered List.mem_cons_self
      exact ih (h.reconnected later) settled (ordered_tail ordered (.inl rfl)) timely

/-- A session that is interrupted in due order goes on as if it had not been. Every answer and every
effect is the same, each reconnection adds that the running download is resumed, and of the session
only the time last heard may differ. -/
theorem resume_transparent (capacity : Nat) (timing : Timing) (moments : List Moment)
    (ordered : (times (interrupted moments)).Pairwise (· ≤ ·))
    (timely : (fresh capacity timing).InTime (uninterrupted moments)) :
    let first := fresh capacity timing
    (∀ before i later, moments = before ++ .own i :: later →
      let o := (first.after (uninterrupted before)).take i
      let p := (first.after (interrupted before)).take i
      p.result = o.result ∧ p.effects = o.effects) ∧
    (∀ before now later, moments = before ++ .reconnected now :: later →
      let s := first.after (uninterrupted before)
      let p := (first.after (interrupted before)).take (.call (.reconnect now))
      notices p.effects = if s.status = .downloading then [.resumed s.progress] else []) ∧
    let s := first.after (uninterrupted moments)
    let r := first.after (interrupted moments)
    r = { s with lastChunkAt := r.lastChunkAt } := by
  intro first
  have settled : first.Settled := .fresh capacity timing
  have like {before later : List Moment} (hm : moments = before ++ later) :
      (first.after (uninterrupted before)).Like ahead (first.after (interrupted before)) ∧
        (first.after (uninterrupted before)).InTime (uninterrupted later) := by
    subst hm
    simp only [interrupted, uninterrupted, times, List.map_append, List.filterMap_append,
      List.pairwise_append, inTime_append] at ordered timely
    exact ⟨Like.after_interrupted ⟨0, rfl, Nat.le_refl 0⟩ settled
      (List.pairwise_cons.2 ⟨fun _ _ => Nat.zero_le _, ordered.1⟩) timely.1, timely.2⟩
  refine ⟨fun before i later hm => ?_, fun before now later hm => ?_, ?_⟩
  · obtain ⟨h, timely⟩ := like hm
    have h := h.take i (h.agree (settled_after settled _) (inTime_cons.1 timely).1)
    exact ⟨h.result, h.effects⟩
  · exact (like hm).1.notices_reconnect now
  · obtain ⟨⟨heard, same, -⟩, -⟩ := like (List.append_nil moments).symm
    simp only [same]
    rfl

theorem resumed_twice :
    let first := fresh 8 ⟨50, 50, 50, 50, 50, 5⟩
    let announced := Input.call (.start ⟨"2", 2, Checksum.ofOctets [7, 8]⟩ true 0)
    let half := Input.call (.chunk ⟨0, 1, [7]⟩ 20)
    let whole := Input.call (.chunk ⟨1, 1, [8]⟩ 60)
    let moments := [.own announced, .reconnected 10, .own half, .reconnected 50, .own whole,
      .reconnected 70]
    let s := first.after (uninterrupted moments)
    let r := first.after (interrupted moments)
    r = { s with lastChunkAt := r.lastChunkAt } ∧ s.store.nextBoot = some [7, 8] ∧
      notices ((first.after [announced, .call (.reconnect 10), half]).take
        (.call (.reconnect 50))).effects = [.resumed 50] := by
  intro first announced half whole moments s r
  obtain ⟨-, told, same⟩ := resume_transparent 8 ⟨50, 50, 50, 50, 50, 5⟩ moments
    (by decide +kernel) (by decide +kernel)
  have second := told [.own announced, .reconnected 10, .own half] 50 _ rfl
  exact ⟨same, by decide +kernel, second.trans (by decide +kernel)⟩

end Session

end DoughAnalyzer.Update

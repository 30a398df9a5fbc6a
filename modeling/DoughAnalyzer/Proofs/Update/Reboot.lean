import DoughAnalyzer.Proofs.Update.BootSwitch

set_option autoImplicit false

namespace DoughAnalyzer.Update.Session

def HasImage (s : Session) : Prop := s.status = .complete ∨ s.status = .rebooting

/-- What an input comes to once an image has been activated. -/
structure Rests (s : Session) (i : Input) (o : Outcome Reply) : Prop where
  course : o.session.status = s.status ∨ s.status = .complete ∧ o.session.status = .rebooting
  start : ∀ a safe now, i = .call (.start a safe now) →
    o.result = .verdict (.error .alreadyInProgress)
  chunk : ∀ c now, i = .call (.chunk c now) → o.result = .verdict (.error .notReady)
  opened : o.session.store.opened = s.store.opened
  boot : o.session.store.switches = s.store.switches ∧
    o.session.store.nextBoot = s.store.nextBoot
  silent : notices o.effects = []

theorem HasImage.not_running {s : Session} (h : s.HasImage) : s.status ≠ .downloading := by
  rcases h with h | h <;> simp [h]

theorem Settled.busy_of_hasImage {s : Session} (h : s.Settled) (active : s.HasImage) :
    s.acceptsAnnouncement = false := by
  refine Bool.eq_false_iff.2 fun free => ?_
  rcases h.accepts_iff.1 free with hs | hs <;> simp [HasImage, hs] at active

theorem Transition.rests {s : Session} {i : Input} {o : Outcome Reply} (t : Transition s i o)
    (h : s.Settled) (active : s.HasImage) (unreset : i ≠ .call .reset) : Rests s i o := by
  have hrunning := active.not_running
  have hbusy := h.busy_of_hasImage active
  cases t with
  | fault f => cases f <;> exact ⟨.inl rfl, by simp, by simp, rfl, ⟨rfl, rfl⟩, rfl⟩
  | startIgnored | chunkUnexpected | abortIgnored | pollIdle | reconnectIgnored =>
    exact ⟨.inl rfl, by simp, by simp, rfl, ⟨rfl, rfl⟩, rfl⟩
  | rebooted now time complete =>
    exact ⟨.inr ⟨complete, rfl⟩, by simp, by simp, rfl, ⟨rfl, rfl⟩, rfl⟩
  | startRejected a safe now reason remarks free => simp [hbusy] at free
  | started a safe now free => simp [hbusy] at free
  | reset => exact absurd rfl unreset
  | _ => exact absurd ‹s.status = .downloading› hrunning

theorem Rests.hasImage {s : Session} {i : Input} {o : Outcome Reply} (h : Rests s i o)
    (active : s.HasImage) : o.session.HasImage := by
  rcases h.course with hs | ⟨-, hs⟩
  · rwa [HasImage, hs]
  · exact .inr hs

theorem Transition.hasImage_iff {s : Session} {i : Input} {o : Outcome Reply}
    (t : Transition s i o) (h : ¬ s.HasImage) : o.session.HasImage ↔ Completes i o := by
  refine ⟨fun active => ?_, fun hc => .inl hc.2.2⟩
  cases t with
  | imageActivated c now => exact ⟨⟨c, now, rfl⟩, rfl, rfl⟩
  | chunkTaken c now w running holds sound =>
    obtain ⟨notified, hgrown⟩ := grown_eq sound
    simp [HasImage, hgrown, running] at active
  | rebooted now time complete => exact absurd (.inl complete) h
  | started | chunkFailed | imageRefused | aborted | timedOut | reset =>
    simp [HasImage, begin, ended, Session.reset] at active
  | _ => exact absurd active h

theorem image_after_fresh (capacity : Nat) (timing : Timing) {history : List Input}
    (unreset : .call .reset ∉ history) :
    ¬ ((fresh capacity timing).after history).HasImage ∧
        ((fresh capacity timing).after history).store.switches = 0 ∨
      ((fresh capacity timing).after history).HasImage ∧
        ((fresh capacity timing).after history).store.switches = 1 ∧
        ∃ e ∈ (fresh capacity timing).record history, Completes e.input e.outcome := by
  refine unreset_induction ?_ (fun x i hi ih => ?_) unreset
  · exact .inl ⟨by simp [HasImage, after, fresh, ofStore], rfl⟩
  · have hs := (settled_after_fresh capacity timing x).1
    have t := take_transition hs i
    rw [after_append_singleton, record_append]
    rcases ih with ⟨inactive, hzero⟩ | ⟨active, hone, e, he, hc⟩
    · by_cases hc : Completes i (((fresh capacity timing).after x).take i)
      · have hboot := t.boot_of_completes hs (follows_after_fresh capacity timing x) hc
        refine .inr ⟨(t.hasImage_iff inactive).2 hc, ?_, ⟨i, _⟩, ?_, hc⟩
        · rw [hboot.1, hzero]
        · exact List.mem_append_right _ (List.mem_singleton_self _)
      · refine .inl ⟨fun active => hc ((t.hasImage_iff inactive).1 active), ?_⟩
        rw [(t.boot_of_not_completes hc).1, hzero]
    · have hr := t.rests hs active hi
      refine .inr ⟨hr.hasImage active, hr.boot.1.trans hone, e, ?_, hc⟩
      exact List.mem_append_left _ he

def Input.IsLatePoll (due : Nat) (i : Input) : Prop := ∃ now, i = .call (.poll now) ∧ due ≤ now

/-- The reboot is due at a time, and no poll since was late enough; or one was. -/
def Awaits (due : Nat) (since : List Input) (s : Session) : Prop :=
  s.status = .complete ∧ s.rebootAt = some due ∧ (∀ i ∈ since, ¬ i.IsLatePoll due) ∨
    s.status = .rebooting ∧ ∃ i ∈ since, i.IsLatePoll due

theorem Awaits.hasImage {due : Nat} {since : List Input} {s : Session} (h : s.Awaits due since) :
    s.HasImage := h.imp And.left And.left

theorem Awaits.keep {due : Nat} {since : List Input} {s : Session} {i : Input} {o : Outcome Reply}
    (h : s.Awaits due since) (hs : o.session.status = s.status)
    (hat : o.session.rebootAt = s.rebootAt) (idle : o.result ≠ .poll .rebootNow)
    (early : s.status = .complete → ¬ i.IsLatePoll due) :
    o.session.Awaits due (since ++ [i]) ∧
      (o.result = .poll .rebootNow ↔ i.IsLatePoll due ∧ ∀ j ∈ since, ¬ j.IsLatePoll due) := by
  simp only [idle, false_iff]
  rcases h with ⟨complete, due_at, none⟩ | ⟨rebooting, j, hj, late⟩
  · have hi := early complete
    refine ⟨.inl ⟨hs.trans complete, hat.trans due_at, ?_⟩, fun h => hi h.1⟩
    simp only [List.mem_append, List.mem_singleton]
    rintro j (hj | rfl)
    · exact none j hj
    · exact hi
  · exact ⟨.inr ⟨hs.trans rebooting, j, by simp [hj], late⟩, fun h => h.2 j hj late⟩

theorem Transition.awaits {s : Session} {i : Input} {o : Outcome Reply} {due : Nat}
    {since : List Input} (t : Transition s i o) (h : s.Settled) (hw : s.Awaits due since)
    (unreset : i ≠ .call .reset) :
    o.session.Awaits due (since ++ [i]) ∧
      (o.result = .poll .rebootNow ↔ i.IsLatePoll due ∧ ∀ j ∈ since, ¬ j.IsLatePoll due) := by
  have hrunning := hw.hasImage.not_running
  have hbusy := h.busy_of_hasImage hw.hasImage
  cases t with
  | fault | startIgnored | chunkUnexpected | abortIgnored | reconnectIgnored =>
    exact hw.keep rfl rfl (by simp) (by simp [Input.IsLatePoll])
  | pollIdle now other early =>
    refine hw.keep rfl rfl (by simp) ?_
    rintro complete ⟨now', hnow, late⟩
    cases hnow
    rcases hw with ⟨-, due_at, -⟩ | ⟨rebooting, -⟩
    · exact Nat.not_lt_of_le late (early complete due due_at)
    · simp [complete] at rebooting
  | rebooted now time complete due_at late =>
    rcases hw with ⟨-, hat, none⟩ | ⟨rebooting, -⟩
    · cases due_at.symm.trans hat
      have hi : Input.IsLatePoll due (.call (.poll now)) := ⟨now, rfl, late⟩
      exact ⟨.inr ⟨rfl, _, by simp, hi⟩, by simpa [hi] using none⟩
    · simp [complete] at rebooting
  | startRejected a safe now reason remarks free => simp [hbusy] at free
  | started a safe now free => simp [hbusy] at free
  | reset => exact absurd rfl unreset
  | _ => exact absurd ‹s.status = .downloading› hrunning

theorem rests_after {s : Session} {due : Nat} (h : s.Settled) (hw : s.Awaits due [])
    {since : List Input} (unreset : .call .reset ∉ since) {i : Input} (hi : i ≠ .call .reset) :
    (s.after since).HasImage ∧ Rests (s.after since) i ((s.after since).take i) ∧
      (((s.after since).take i).result = .poll .rebootNow ↔
        i.IsLatePoll due ∧ ∀ j ∈ since, ¬ j.IsLatePoll due) := by
  have hawaits : (s.after since).Awaits due since := by
    refine unreset_induction hw (fun x j hj ih => ?_) unreset
    rw [after_append_singleton]
    exact ((take_transition (settled_after h x) j).awaits (settled_after h x) ih hj).1
  have hs := settled_after h since
  have t := take_transition hs i
  exact ⟨hawaits.hasImage, t.rests hs hawaits.hasImage hi, (t.awaits hs hawaits hi).2⟩

theorem Completes.awaits {s : Session} {c : Wire.Chunk} {time : Nat} {o : Outcome Reply}
    (hc : Completes (.call (.chunk c time)) o) (t : Transition s (.call (.chunk c time)) o) :
    o.session.Awaits (time + s.timing.rebootDelay) [] := by
  obtain ⟨-, hresult, hcomplete⟩ := hc
  cases t with
  | imageActivated c now w running holds sound =>
    obtain ⟨notified, hgrown⟩ := grown_eq sound
    exact .inl ⟨rfl, by simp [activated, hgrown], by simp⟩
  | chunkTaken c now w running holds sound =>
    obtain ⟨notified, hgrown⟩ := grown_eq sound
    simp [hgrown, running] at hcomplete
  | chunkUnexpected | chunkFailed | imageRefused => cases hresult

theorem Transition.hasImage_of_rebootNow {s : Session} {i : Input} {o : Outcome Reply}
    (t : Transition s i o) (h : o.result = .poll .rebootNow) : s.HasImage := by
  cases t with
  | rebooted now time complete => exact .inl complete
  | _ => cases h

/-- A session that is not reset activates one image at most, and asks for no reboot before. From
the activation on it rests, and of all polls the first that comes after the delay asks for the
reboot. -/
theorem one_activation_one_reboot (capacity : Nat) (timing : Timing) (history : List Input)
    (unreset : .call .reset ∉ history) :
    let first := fresh capacity timing
    (first.after history).store.switches ≤ 1 ∧
    (∀ before i later, history = before ++ i :: later →
      ((first.after before).take i).result = .poll .rebootNow →
        ∃ e ∈ first.record before, Completes e.input e.outcome) ∧
    ∀ before c time since i later,
      history = before ++ .call (.chunk c time) :: since ++ i :: later →
      Completes (.call (.chunk c time)) ((first.after before).take (.call (.chunk c time))) →
      let s := first.after (before ++ .call (.chunk c time) :: since)
      s.HasImage ∧ Rests s i (s.take i) ∧
        ((s.take i).result = .poll .rebootNow ↔
          i.IsLatePoll (time + timing.rebootDelay) ∧
            ∀ j ∈ since, ¬ j.IsLatePoll (time + timing.rebootDelay)) := by
  intro first
  refine ⟨?_, fun before i later hh hresult => ?_,
    fun before c time since i later hh hc => ?_⟩
  · rcases image_after_fresh capacity timing unreset with ⟨-, h⟩ | ⟨-, h, -⟩ <;> simp [first, h]
  · have hbefore : .call .reset ∉ before := fun h => unreset (by simp [hh, h])
    have active := (take_transition (settled_after_fresh capacity timing before).1 i)
      |>.hasImage_of_rebootNow hresult
    rcases image_after_fresh capacity timing hbefore with ⟨inactive, -⟩ | ⟨-, -, h⟩
    · exact absurd active inactive
    · exact h
  · have hsince : .call .reset ∉ since := fun h => unreset (by simp [hh, h])
    have hi : i ≠ .call .reset := fun h => unreset (by simp [hh, h])
    obtain ⟨hs, -⟩ := settled_after_fresh capacity timing before
    have t := take_transition hs (.call (.chunk c time))
    have hw := hc.awaits t
    rw [timing_after (.fresh capacity timing) before] at hw
    have hafter := after_append first before (.call (.chunk c time) :: since)
    simp only [hafter]
    exact rests_after (t.settled hs) hw hsince hi

theorem second_poll_reboots :
    let announced := Input.call (.start ⟨"2", 1, Checksum.ofOctets [7]⟩ true 0)
    let delivered := Input.call (.chunk ⟨0, 1, [7]⟩ 5)
    let first := fresh 8 ⟨50, 50, 50, 50, 50, 5⟩
    let poll (now : Nat) := Input.call (.poll now)
    let history := [announced, delivered, poll 54, poll 55, poll 56]
    .call .reset ∉ history ∧ (first.after history).store.switches ≤ 1 ∧
      ((first.after [announced, delivered, poll 54]).take (poll 55)).result = .poll .rebootNow ∧
      ((first.after [announced, delivered, poll 54, poll 55]).take (poll 56)).result ≠
        .poll .rebootNow := by
  intro announced delivered first poll history
  have unreset : .call .reset ∉ history := by decide
  obtain ⟨hresult, hstatus⟩ : ((first.after [announced]).take delivered).result.accepts = true ∧
      ((first.after [announced]).take delivered).session.status = .complete := by
    decide +kernel
  have hc : Completes delivered ((first.after [announced]).take delivered) :=
    ⟨⟨_, _, rfl⟩, (Reply.accepts_iff _).1 hresult, hstatus⟩
  obtain ⟨hswitches, -, hrests⟩ :=
    one_activation_one_reboot 8 ⟨50, 50, 50, 50, 50, 5⟩ history unreset
  have hsecond := (hrests [announced] _ _ [poll 54] (poll 55) [poll 56] rfl hc).2.2
  have hthird := (hrests [announced] _ _ [poll 54, poll 55] (poll 56) [] rfl hc).2.2
  have hlate (now : Nat) : (poll now).IsLatePoll (5 + 50) ↔ 55 ≤ now := by
    simp [Input.IsLatePoll, poll]
  refine ⟨unreset, hswitches, hsecond.2 ?_, fun h => (hthird.1 h).2 (poll 55) (by simp) ?_⟩
  · simp [hlate]
  · simp [hlate]

end DoughAnalyzer.Update.Session

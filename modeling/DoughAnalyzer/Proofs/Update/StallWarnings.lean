import DoughAnalyzer.Proofs.Update.Download

/-!
How often a stall is warned of. A stretch of a history begins when octets are accepted, or the
announcement that they are awaited from, and lasts until the next such event; empty chunks,
reconnections and polls come and go in it. `Stalled` says from the outside when a poll finds that
octets have failed to come for long. The first poll of a stretch that finds so warns, and no other
input does. Nothing depends on the order of the times.
-/

set_option autoImplicit false

namespace DoughAnalyzer.Update

def Remark.isStallWarning : Remark → Bool
  | noProgress .. => true
  | ignored _ | rejected _ | noSlot _ | tooLarge .. | storeBusy | cannotOpen _ | begun .. |
    sizeDiffers .. | writeFailed .. | counted .. | checksumDiffers .. | activateFailed _ |
    activated .. | aborted .. | rebooting | resuming .. => false

def stallWarnings (effects : List Effect) : List Remark :=
  (remarks effects).filter Remark.isStallWarning

@[simp] theorem stallWarnings_append (x y : List Effect) :
    stallWarnings (x ++ y) = stallWarnings x ++ stallWarnings y := by
  simp [stallWarnings]

@[simp] theorem stallWarnings_map_notice (x : List Notice) :
    stallWarnings (x.map .notice) = [] := by
  induction x with
  | nil => rfl
  | cons n x ih => exact ih

namespace Session

theorem unwarned_fail (s : Session) (reason : UpdateError) :
    stallWarnings (s.fail reason).effects = [] := by
  unfold fail
  split <;> rfl

theorem unwarned_start (s : Session) (a : Wire.Announcement) (safe : Bool) (now : Nat) :
    stallWarnings (s.start a safe now).effects = [] := by
  unfold start
  repeat' split
  all_goals rfl

theorem unwarned_finalize (s : Session) (now : Nat) :
    stallWarnings (s.finalize now).effects = [] := by
  unfold finalize
  simp only
  split
  · exact unwarned_fail _ _
  split
  · exact unwarned_fail _ _
  split
  · exact unwarned_fail _ _
  · rfl

theorem unwarned_settle (s : Session) (c : Wire.Chunk) (now : Nat) :
    stallWarnings (s.settle c now).effects = [] := by
  have counted : stallWarnings ((s.countRemarks c).map .remark) = [] := by
    unfold countRemarks
    split <;> rfl
  unfold settle
  simp only
  split
  · simp only [stallWarnings_append, counted, stallWarnings_map_notice, unwarned_finalize,
      List.append_nil]
  · simp only [stallWarnings_append, counted, stallWarnings_map_notice, List.append_nil]

theorem unwarned_receive (s : Session) (c : Wire.Chunk) (now : Nat) :
    stallWarnings (s.receive c now).effects = [] := by
  unfold receive
  split
  · rfl
  split
  · exact unwarned_fail _ _
  split
  · exact unwarned_fail _ _
  split
  · exact unwarned_fail _ _
  simp only
  split
  · exact unwarned_fail _ _
  split
  · exact unwarned_fail _ _
  · exact unwarned_settle _ _ _

theorem unwarned_reconnect (s : Session) (now : Nat) :
    stallWarnings (s.reconnect now).effects = [] := by
  unfold reconnect
  split <;> rfl

/-- Only a poll warns. -/
theorem unwarned_take (s : Session) {i : Input} (other : ∀ now, i ≠ .call (.poll now)) :
    stallWarnings (s.take i).effects = [] := by
  cases i with
  | fault f => rfl
  | call c =>
    cases c with
    | start a safe now => exact unwarned_start s a safe now
    | chunk c now => exact unwarned_receive s c now
    | abort reason => exact unwarned_fail s reason
    | reset => rfl
    | poll now => exact absurd rfl (other now)
    | reconnect now => exact unwarned_reconnect s now

namespace Entry

def advancedAt? (e : Entry) : Option Nat :=
  e.begunAt?.or ((e.taken?.filter fun c => c.1.payload ≠ []).map Prod.snd)

def stallWarnings (e : Entry) : List Remark := Update.stallWarnings e.outcome.effects

end Entry

def warned (log : List Entry) : List Remark := log.flatMap Entry.stallWarnings

/-- The chunks that were accepted, in the order of their arrival, each with its time. -/
def takenIn (log : List Entry) : List (Wire.Chunk × Nat) := log.filterMap Entry.taken?

theorem warned_append_singleton (log : List Entry) (e : Entry) :
    warned (log ++ [e]) = warned log ++ e.stallWarnings := by
  simp [warned]

theorem takenIn_append_singleton (log : List Entry) (e : Entry) :
    takenIn (log ++ [e]) = takenIn log ++ e.taken?.toList := by
  cases h : e.taken? <;> simp [takenIn, h]

/-- The first input begins a stretch, and none of those that follow begins another. -/
structure Stretch (s : Session) (began : Nat) (i : Input) (during : List Input) : Prop where
  first : Entry.advancedAt? ⟨i, s.take i⟩ = some began
  quiet : ∀ e ∈ (s.take i).session.record during, e.advancedAt? = none

/-- What a poll finds after some inputs of a stretch: the download runs, a chunk was accepted, and
no octets have come for longer than the warning allows, though no longer than the limit. -/
structure Stalled (s : Session) (began : Nat) (stretch : List Input) (now : Nat) : Prop where
  running : (s.after stretch).status = .downloading
  taken : takenIn (s.record stretch) ≠ []
  long : began + s.timing.stallWarning < now
  short : now ≤ began + s.timing.stallTimeout

variable {s r : Session} {began now : Nat} {log : List Entry} {e : Entry} {i j : Input}
  {x during : List Input}

theorem Stretch.of_prefix (h : s.Stretch began i during) (early : x <+: during) :
    s.Stretch began i x := by
  obtain ⟨y, rfl⟩ := early
  refine ⟨h.first, fun e he => h.quiet e ?_⟩
  rw [record_append]
  exact List.mem_append_left _ he

theorem Stretch.quiet_last (h : s.Stretch began i (x ++ [j])) :
    Entry.advancedAt? ⟨j, (s.after (i :: x)).take j⟩ = none := by
  refine h.quiet _ ?_
  rw [record_append_singleton]
  exact List.mem_append_right _ (List.mem_singleton_self _)

structure Watches (s : Session) (began : Nat) (log : List Entry) : Prop where
  advanced : s.lastProgressAt = began
  counted : s.chunks = 0 ↔ takenIn log = []
  flagged : s.stallWarned = true ↔ warned log ≠ []

/-- What was warned of in a stretch, and how a running download stands to it. -/
structure Watched (s : Session) (began : Nat) (log : List Entry) : Prop where
  once : (warned log).length ≤ 1
  running : s.status = .downloading → s.Watches began log

theorem watched_singleton (unwarned : e.stallWarnings = [])
    (running : s.status = .downloading → s.lastProgressAt = began ∧ s.stallWarned = false ∧
      (s.chunks = 0 ↔ e.taken? = none)) : s.Watched began [e] := by
  have none : warned [e] = [] := by simp [warned, unwarned]
  refine ⟨by simp [none], fun h => ?_⟩
  obtain ⟨advanced, unflagged, counted⟩ := running h
  refine ⟨advanced, counted.trans ?_, by simp [none, unflagged]⟩
  simp [takenIn]

theorem Watched.silent (h : s.Watched began log) (unwarned : e.stallWarnings = [])
    (still : r.status = .downloading → s.status = .downloading ∧
      r.lastProgressAt = s.lastProgressAt ∧ r.stallWarned = s.stallWarned ∧
      (r.chunks = s.chunks ∧ e.taken? = none ∨ r.chunks = s.chunks + 1 ∧ e.taken? ≠ none)) :
    r.Watched began (log ++ [e]) := by
  have same : warned (log ++ [e]) = warned log := by
    rw [warned_append_singleton, unwarned, List.append_nil]
  refine ⟨same ▸ h.once, fun running' => ?_⟩
  obtain ⟨running, advanced, flag, chunks⟩ := still running'
  obtain ⟨since, counted, flagged⟩ := h.running running
  refine ⟨advanced.trans since, ?_, by rw [flag, same, flagged]⟩
  rw [takenIn_append_singleton]
  rcases chunks with ⟨same, untaken⟩ | ⟨more, taken⟩
  · rw [same, untaken, counted]
    simp
  · obtain ⟨c, hc⟩ := Option.ne_none_iff_exists'.1 taken
    simp [more, hc]

theorem Watches.unwarned_iff (h : s.Watches began log) :
    s.stallWarned = false ↔ warned log = [] := by
  rw [← Bool.not_eq_true, h.flagged, ne_eq, Decidable.not_not]

theorem Watched.warn {remark : Remark} (h : s.Watched began log) (running : s.status = .downloading)
    (down : s.stallWarned = false) (told : e.stallWarnings = [remark]) (untaken : e.taken? = none) :
    Watched { s with stallWarned := true } began (log ++ [e]) := by
  have one : warned (log ++ [e]) = [remark] := by
    rw [warned_append_singleton, (h.running running).unwarned_iff.1 down, told, List.nil_append]
  obtain ⟨advanced, counted, -⟩ := h.running running
  refine ⟨Nat.le_of_eq (congrArg List.length one), fun _ => ⟨advanced, ?_, by simp [one]⟩⟩
  rw [takenIn_append_singleton, untaken]
  simpa using counted

theorem Entry.advancedAt?_of_chunk (c : Wire.Chunk) (now : Nat) (r : Session)
    (effects : List Effect) :
    advancedAt? ⟨.call (.chunk c now), ⟨r, .verdict (.ok ()), effects⟩⟩ =
      if c.payload = [] then none else some now := by
  by_cases h : c.payload = [] <;> simp [advancedAt?, begunAt?, taken?, h]

theorem Transition.watched_first {o : Outcome Reply} (t : Transition s i o)
    (unwarned : stallWarnings o.effects = []) (first : Entry.advancedAt? ⟨i, o⟩ = some began) :
    o.session.Watched began [⟨i, o⟩] := by
  refine watched_singleton unwarned fun running => ?_
  cases t with
  | started a safe now =>
    cases first
    exact ⟨rfl, rfl, by simp [begin, Entry.taken?]⟩
  | chunkTaken c now w _ holds sound =>
    rw [Entry.advancedAt?_of_chunk] at first
    split at first
    · cases first
    rename_i octets
    cases first
    have pos : 0 < c.payload.length := List.length_pos_iff.2 octets
    obtain ⟨notified, grown⟩ := grown_eq sound
    simp [grown, pos, Entry.taken?]
  | imageActivated => cases running
  | _ => cases first

theorem warns_iff (s : Session) (now : Nat) :
    s.warns now = true ↔
      s.chunks ≠ 0 ∧ s.timing.stallWarning < s.idleFor now ∧ s.stallWarned = false := by
  simp [warns, and_assoc]

theorem Transition.watched {o : Outcome Reply} (t : Transition s i o)
    (unwarned : (∀ now, i ≠ .call (.poll now)) → stallWarnings o.effects = [])
    (h : s.Watched began log) (quiet : Entry.advancedAt? ⟨i, o⟩ = none) :
    o.session.Watched began (log ++ [⟨i, o⟩]) := by
  cases t with
  | started => cases quiet
  | fault | startIgnored | startRejected | chunkUnexpected | abortIgnored | reconnectIgnored
  | resumed =>
    exact h.silent (unwarned nofun) fun running => ⟨running, rfl, rfl, .inl ⟨rfl, rfl⟩⟩
  | pollIdle | pollQuiet =>
    exact h.silent rfl fun running => ⟨running, rfl, rfl, .inl ⟨rfl, rfl⟩⟩
  | chunkFailed | imageRefused | imageActivated | aborted | reset =>
    exact h.silent (unwarned nofun) nofun
  | timedOut | rebooted => exact h.silent rfl nofun
  | chunkTaken c now w running holds sound =>
    have empty : c.payload = [] := by
      rw [Entry.advancedAt?_of_chunk] at quiet
      simpa using quiet
    obtain ⟨notified, grown⟩ := grown_eq sound
    refine h.silent (unwarned nofun) fun _ => ⟨running, ?_, ?_, .inr ⟨?_, nofun⟩⟩
    · simp [grown, empty]
    · simp [grown, empty]
    · simp [grown]
  | pollWarned now running timely due => exact h.warn running ((warns_iff s now).1 due).2.2 rfl rfl

theorem Stretch.unwarned_first (h : s.Stretch began i during) :
    Entry.stallWarnings ⟨i, s.take i⟩ = [] := by
  refine unwarned_take s ?_
  rintro now rfl
  cases h.first

theorem watched_after (settled : s.Settled) (h : s.Stretch began i during) :
    (s.after (i :: during)).Watched began (s.record (i :: during)) := by
  induction during using List.reverseRecOn with
  | nil => exact (take_transition settled i).watched_first h.unwarned_first h.first
  | append_singleton x j ih =>
    have t := take_transition (settled_after settled (i :: x)) j
    have next := t.watched (unwarned_take _) (ih (h.of_prefix (List.prefix_append x [j])))
      h.quiet_last
    rw [← List.cons_append, after_append_singleton, record_append_singleton]
    exact next

theorem Transition.stallWarnings_of_poll {o : Outcome Reply}
    (t : Transition s (.call (.poll now)) o) :
    stallWarnings o.effects =
      if s.status = .downloading ∧ s.timeFault? now = none ∧ s.warns now = true then
        [.noProgress (s.idleFor now) s.received s.total]
      else [] := by
  cases t with
  | pollIdle now other => simp [other, stallWarnings, remarks]
  | pollQuiet now running timely quiet => simp [quiet, stallWarnings, remarks]
  | pollWarned now running timely due =>
    rw [if_pos ⟨running, timely, due⟩]
    rfl
  | timedOut now reason running why =>
    rw [if_neg (by simp [why])]
    rfl
  | rebooted now time complete =>
    rw [if_neg (by simp [complete])]
    rfl

theorem Watches.idleFor_eq (h : s.Watches began log) (now : Nat) : s.idleFor now = now - began := by
  rw [idleFor, h.advanced]

theorem timeFault?_of_taken (taken : s.chunks ≠ 0) :
    s.timeFault? now = none ↔ s.idleFor now ≤ s.timing.stallTimeout := by
  simp [timeFault?, taken]

/-- A warning is due where a poll finds the download stalled for the first time in the stretch. -/
theorem due_iff (settled : s.Settled) (h : s.Stretch began i x) (now : Nat) :
    (s.after (i :: x)).status = .downloading ∧ (s.after (i :: x)).timeFault? now = none ∧
        (s.after (i :: x)).warns now = true ↔
      s.Stalled began (i :: x) now ∧ warned (s.record (i :: x)) = [] := by
  have watched := watched_after settled h
  have timing := timing_after settled (i :: x)
  constructor
  · rintro ⟨running, timely, due⟩
    have watches := watched.running running
    obtain ⟨taken, long, down⟩ := (warns_iff _ now).1 due
    rw [timeFault?_of_taken taken, watches.idleFor_eq, timing] at timely
    rw [watches.idleFor_eq, timing] at long
    refine ⟨⟨running, mt watches.counted.2 taken, ?_, ?_⟩, watches.unwarned_iff.1 down⟩ <;> omega
  · rintro ⟨⟨running, taken, long, short⟩, none⟩
    have watches := watched.running running
    have counted := mt watches.counted.1 taken
    refine ⟨running, ?_, (warns_iff _ now).2 ⟨counted, ?_, watches.unwarned_iff.2 none⟩⟩
    · rw [timeFault?_of_taken counted, watches.idleFor_eq, timing]
      omega
    · rw [watches.idleFor_eq, timing]
      omega

theorem mem_stallWarnings_iff (settled : s.Settled) (h : s.Stretch began i x) (j : Input)
    (remark : Remark) :
    remark ∈ Entry.stallWarnings ⟨j, (s.after (i :: x)).take j⟩ ↔
      ∃ now, j = .call (.poll now) ∧
        remark = .noProgress (now - began) (s.after (i :: x)).received (s.after (i :: x)).total ∧
        s.Stalled began (i :: x) now ∧ warned (s.record (i :: x)) = [] := by
  have t := take_transition (settled_after settled (i :: x)) j
  by_cases poll : ∃ now, j = .call (.poll now)
  · obtain ⟨now, rfl⟩ := poll
    simp only [Input.call.injEq, Call.poll.injEq, exists_eq_left', ← due_iff settled h now]
    rw [Entry.stallWarnings, t.stallWarnings_of_poll]
    split
    case isTrue due =>
      rw [((watched_after settled h).running due.1).idleFor_eq, List.mem_singleton]
      exact (and_iff_left due).symm
    case isFalse quiet => simp [quiet]
  · rw [Entry.stallWarnings, unwarned_take _ fun now hj => poll ⟨now, hj⟩]
    simp only [List.not_mem_nil, false_iff]
    exact fun ⟨now, hj, _⟩ => poll ⟨now, hj⟩

theorem forall_poll_prefix_concat {Found : List Input → Nat → Prop} :
    (∀ earlier time, earlier ++ [.call (.poll time)] <+: x ++ [j] → ¬ Found earlier time) ↔
      (∀ earlier time, earlier ++ [.call (.poll time)] <+: x → ¬ Found earlier time) ∧
        ∀ time, j = .call (.poll time) → ¬ Found x time := by
  constructor
  · intro h
    refine ⟨fun earlier time early => h earlier time (early.trans (List.prefix_append x [j])), ?_⟩
    rintro time rfl
    exact h x time List.prefix_rfl
  · rintro ⟨before, last⟩ earlier time early
    rcases List.prefix_concat_iff.1 early with same | early
    · obtain ⟨rfl, hj⟩ := List.append_inj' same rfl
      exact last time (List.singleton_inj.1 hj).symm
    · exact before earlier time early

theorem warned_eq_nil_iff (settled : s.Settled) (h : s.Stretch began i x) :
    warned (s.record (i :: x)) = [] ↔
      ∀ earlier time, earlier ++ [.call (.poll time)] <+: x →
        ¬ s.Stalled began (i :: earlier) time := by
  induction x using List.reverseRecOn with
  | nil =>
    have unwarned : warned (s.record [i]) = [] := by
      simp [warned, record, h.unwarned_first]
    simp [unwarned]
  | append_singleton x j ih =>
    have early := h.of_prefix (List.prefix_append x [j])
    rw [← List.cons_append, record_append_singleton, warned_append_singleton,
      List.append_eq_nil_iff, forall_poll_prefix_concat, ih early]
    refine and_congr_right fun before => ?_
    simp only [List.eq_nil_iff_forall_not_mem, mem_stallWarnings_iff settled early,
      (ih early).2 before, and_true]
    grind

theorem warns_after_octets {c : Wire.Chunk} {later : Nat} (settled : s.Settled)
    (octets : c.payload ≠ [])
    (accepted : (s.take (.call (.chunk c now))).result = .verdict (.ok ()))
    (running : (s.take (.call (.chunk c now))).session.status = .downloading)
    (long : now + s.timing.stallWarning < later) (short : later ≤ now + s.timing.stallTimeout) :
    let r := (s.take (.call (.chunk c now))).session
    .noProgress (later - now) r.received r.total ∈
      Entry.stallWarnings ⟨.call (.poll later), r.take (.call (.poll later))⟩ := by
  have taken : Entry.taken? ⟨.call (.chunk c now), s.take (.call (.chunk c now))⟩ =
      some (c, now) := by
    simp [Entry.taken?, accepted]
  have first : Entry.advancedAt? ⟨.call (.chunk c now), s.take (.call (.chunk c now))⟩ =
      some now := by
    simp [Entry.advancedAt?, Entry.begunAt?, taken, octets]
  have next : s.Stretch now (.call (.chunk c now)) [] := ⟨first, by simp [record]⟩
  have unwarned := (warned_eq_nil_iff settled next).2 (by simp)
  have stalled : s.Stalled now [.call (.chunk c now)] later :=
    ⟨running, by simp [takenIn, record, taken], long, short⟩
  exact (mem_stallWarnings_iff settled next _ _).2 ⟨later, rfl, rfl, stalled, unwarned⟩

/-- From the time octets were accepted, or the announcement, until the next octets at most one
warning is given, whatever else is asked meanwhile. It is given by the first poll that finds the
download stalled, and tells how long no octets have come and how many there are. After the next
octets a poll that finds the download stalled warns again. -/
theorem one_warning_per_stall (capacity : Nat) (timing : Timing) (before : List Input)
    (i : Input) (during : List Input) (began : Nat)
    (stretch : ((fresh capacity timing).after before).Stretch began i during) :
    let s := (fresh capacity timing).after before
    (warned (s.record (i :: during))).length ≤ 1 ∧
    (∀ x j, x ++ [j] <+: during →
      let r := s.after (i :: x)
      ∀ remark, remark ∈ Entry.stallWarnings ⟨j, r.take j⟩ ↔
        ∃ now, j = .call (.poll now) ∧ remark = .noProgress (now - began) r.received r.total ∧
          s.Stalled began (i :: x) now ∧
          ∀ earlier time, earlier ++ [.call (.poll time)] <+: x →
            ¬ s.Stalled began (i :: earlier) time) ∧
    ∀ c now, c.payload ≠ [] →
      let o := (s.after (i :: during)).take (.call (.chunk c now))
      o.result = .verdict (.ok ()) → o.session.status = .downloading →
        ∀ later, now + timing.stallWarning < later → later ≤ now + timing.stallTimeout →
          .noProgress (later - now) o.session.received o.session.total ∈
            Entry.stallWarnings ⟨.call (.poll later), o.session.take (.call (.poll later))⟩ := by
  intro s
  have settled : s.Settled := (settled_after_fresh capacity timing before).1
  refine ⟨(watched_after settled stretch).once, ?_, ?_⟩
  · intro x j early r remark
    have shorter := stretch.of_prefix ((List.prefix_append x [j]).trans early)
    rw [mem_stallWarnings_iff settled shorter, warned_eq_nil_iff settled shorter]
  · intro c now octets o accepted running later long short
    have timing_eq : (s.after (i :: during)).timing = timing :=
      (timing_after settled _).trans (timing_after (.fresh capacity timing) before)
    rw [← timing_eq] at long short
    exact warns_after_octets (settled_after settled _) octets accepted running long short

theorem two_stalls_warned_of :
    let timing : Timing := ⟨50, 50, 20, 40, 50, 5⟩
    let before := [Input.call (.start ⟨"2", 2, 0⟩ false 0)]
    let announced := Input.call (.start ⟨"2", 2, 0⟩ true 0)
    let during := [Input.call (.poll 25), .call (.chunk ⟨0, 0, []⟩ 26), .call (.poll 27),
      .call (.reconnect 28), .call (.chunk ⟨1, 0, []⟩ 29), .call (.poll 30)]
    let s := (fresh 8 timing).after before
    let o := (s.after (announced :: during)).take (.call (.chunk ⟨2, 1, [7]⟩ 31))
    s.Stretch 0 announced during ∧
      warned (s.record (announced :: during)) = [.noProgress 27 0 2] ∧
      (warned (s.record (announced :: during))).length ≤ 1 ∧
      o.session.received = 1 ∧ o.session.total = 2 ∧
      .noProgress 21 o.session.received o.session.total ∈
        Entry.stallWarnings ⟨.call (.poll 52), o.session.take (.call (.poll 52))⟩ := by
  intro timing before announced during s o
  have stretch : s.Stretch 0 announced during := ⟨by decide +kernel, by decide +kernel⟩
  obtain ⟨once, -, again⟩ := one_warning_per_stall 8 timing before announced during 0 stretch
  have accepted : o.result = .verdict (.ok ()) := (Reply.accepts_iff _).1 (by decide +kernel)
  have told := again ⟨2, 1, [7]⟩ 31 (by decide) accepted (by decide +kernel) 52 (by decide)
    (by decide)
  refine ⟨stretch, by decide +kernel, once, by decide +kernel, by decide +kernel, ?_⟩
  simp only [o, s]
  exact told

end Session

end DoughAnalyzer.Update

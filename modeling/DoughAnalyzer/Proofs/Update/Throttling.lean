import DoughAnalyzer.Proofs.Update.Download
import DoughAnalyzer.Proofs.Update.NoticeStream
import Mathlib.Data.List.Chain
import Mathlib.Data.List.Nodup

/-!
How often an update tells its progress. A percentage is told once it is a step above the last one
told, and at the end; a resumption repeats the percentage without telling it. So the percentages
that one update tells ascend in steps, and there are only so many of them.
-/

set_option autoImplicit false

namespace DoughAnalyzer.Update

/-- The progress that a notice tells. A resumption only repeats it. -/
def Notice.advance? : Notice → Option Nat
  | downloading p => some p
  | started | resumed _ | applying | complete | error .. => none

namespace Session

def Entry.advances (e : Entry) : List Nat := (notices e.outcome.effects).filterMap Notice.advance?

/-- How many octets were written. Those that complete an image were, even if it is refused. -/
def Entry.written (e : Entry) : Nat :=
  match e.input, e.outcome.result with
  | .call (.chunk c _), .verdict (.ok ())
  | .call (.chunk c _), .verdict (.error .checksumMismatch)
  | .call (.chunk c _), .verdict (.error .activateFailed) => c.payload.length
  | _, _ => 0

def advances (log : List Entry) : List Nat := log.flatMap Entry.advances

def written (log : List Entry) : Nat := log.foldl (fun n e => n + e.written) 0

theorem advances_append_singleton (log : List Entry) (e : Entry) :
    advances (log ++ [e]) = advances log ++ e.advances := by
  simp [advances]

theorem written_append_singleton (log : List Entry) (e : Entry) :
    written (log ++ [e]) = written log + e.written := by
  simp [written]

/-- Whether one percentage may be told next after another. -/
def Spaced (step p q : Nat) : Prop := p < q ∧ q ≤ 100 ∧ (p + step ≤ q ∨ q = 100)

theorem length_le_of_spaced {step p : Nat} {told : List Nat} (pos : 0 < step)
    (h : (p :: told).IsChain (Spaced step)) : told.length ≤ (99 - p) / step + 1 := by
  induction told generalizing p with
  | nil => exact Nat.zero_le _
  | cons q rest ih =>
    obtain ⟨⟨above, bound, apart⟩, others⟩ := List.isChain_cons_cons.1 h
    rcases Nat.lt_or_eq_of_le bound with below | rfl
    · have left : (99 - q) / step + 1 ≤ (99 - p) / step := by
        rw [← Nat.add_div_right _ pos]
        exact Nat.div_le_div_right (by omega)
      exact Nat.succ_le_succ (Nat.le_trans (ih others) left)
    · cases rest with
      | nil => exact Nat.succ_le_succ (Nat.zero_le _)
      | cons r rest =>
        obtain ⟨⟨above, bound, -⟩, -⟩ := List.isChain_cons_cons.1 others
        omega

theorem isChain_append_of_last {R : Nat → Nat → Prop} {p : Nat} {told more : List Nat}
    (h : (p :: told).IsChain R) (hmore : (told.getLastD p :: more).IsChain R) :
    (p :: (told ++ more)).IsChain R := by
  induction told generalizing p with
  | nil => exact hmore
  | cons q rest ih =>
    obtain ⟨first, others⟩ := List.isChain_cons_cons.1 h
    rw [List.getLastD_cons] at hmore
    exact List.isChain_cons_cons.2 ⟨first, ih others hmore⟩

variable {s r : Session} {size : Nat} {log : List Entry} {e : Entry}

structure Abreast (s : Session) (size : Nat) (log : List Entry) : Prop where
  total : s.total = size
  received : s.received = written log
  notified : s.notified = (advances log).getLastD 0
  told : s.notified ≤ s.progress
  near : s.progress < s.notified + s.timing.progressStep

/-- What was told and written since the announcement, and how a running download stands to it. -/
structure Throttled (s : Session) (size : Nat) (log : List Entry) : Prop where
  spaced : (0 :: advances log).IsChain (Spaced s.timing.progressStep)
  whole : 100 ∈ advances log ↔ written log = size
  running : s.status = .downloading → s.Abreast size log

theorem throttled_begin (s : Session) (a : Wire.Announcement) (w : Store.Writer) (store : Store)
    (now : Nat) (nonempty : a.size ≠ 0) (pos : 1 ≤ s.timing.progressStep) :
    (s.begin a w store now).Throttled a.size.toNat [] where
  spaced := .singleton 0
  whole := by
    have : 0 ≠ a.size.toNat := fun zero => nonempty (UInt32.toNat_inj.1 zero.symm)
    simpa [advances, written] using this
  running := fun _ => by
    have unbegun : (s.begin a w store now).progress = 0 := by simp [progress, percentage, begin]
    refine ⟨rfl, rfl, rfl, Nat.zero_le _, ?_⟩
    rw [unbegun]
    exact Nat.lt_of_lt_of_le pos (Nat.le_add_left _ _)

theorem Throttled.silent (h : s.Throttled size log) (told : e.advances = [])
    (unwritten : e.written = 0) (timing : r.timing = s.timing)
    (still : r.status = .downloading → ∃ store lastChunkAt stallWarned,
      r = { s with store, lastChunkAt, stallWarned }) : r.Throttled size (log ++ [e]) := by
  have advances_eq : advances (log ++ [e]) = advances log := by
    rw [advances_append_singleton, told, List.append_nil]
  have written_eq : written (log ++ [e]) = written log := by
    rw [written_append_singleton, unwritten, Nat.add_zero]
  refine ⟨?_, ?_, fun running => ?_⟩
  · rw [advances_eq, timing]
    exact h.spaced
  · rw [advances_eq, written_eq]
    exact h.whole
  · obtain ⟨store, lastChunkAt, stallWarned, rfl⟩ := still running
    obtain ⟨total, received, notified, told, near⟩ := h.running running
    exact ⟨total, received.trans written_eq.symm, by rw [advances_eq, ← notified], told, near⟩

variable {w : Store.Writer} {c : Wire.Chunk} {now : Nat}

theorem progress_grown_le (sound : s.chunkFault? w c now = none) :
    (s.grown w c now).progress ≤ 100 := by
  have hle := received_grown_le sound
  exact progress_eq_percentage hle ▸ percentage_le hle

theorem tellsProgress_iff (h : s.progress ≤ 100) :
    s.tellsProgress = true ↔
      s.progress = 100 ∨ s.notified + s.timing.progressStep ≤ s.progress := by
  rw [tellsProgress, Bool.or_eq_true, decide_eq_true_eq, decide_eq_true_eq]
  omega

def grownAdvances (s : Session) (w : Store.Writer) (c : Wire.Chunk) (now : Nat) : List Nat :=
  (notices (s.grownEffects w c now)).filterMap Notice.advance?

theorem Receiving.grownAdvances_spaced (h : s.Receiving w) (sound : s.chunkFault? w c now = none)
    (pos : 1 ≤ s.timing.progressStep) (low : s.notified ≤ s.progress) :
    let p := (s.grown w c now).progress
    let more := s.grownAdvances w c now
    (s.notified :: more).IsChain (Spaced s.timing.progressStep) ∧ (100 ∈ more ↔ p = 100) ∧
      (s.grown w c now).notified = more.getLastD s.notified ∧
      more.getLastD s.notified ≤ p ∧ p < more.getLastD s.notified + s.timing.progressStep := by
  intro p more
  let r := s.advance c { w with data := w.data ++ c.payload } now
  have same : p = r.progress := progress_told r
  have bound : p ≤ 100 := progress_grown_le sound
  have tells : r.tellsProgress = true ↔ p = 100 ∨ s.notified + s.timing.progressStep ≤ p :=
    same ▸ tellsProgress_iff (same ▸ bound)
  have more_eq : more = r.toldNotices.filterMap Notice.advance? := by
    simp only [more, grownAdvances, grownEffects, notices_append, notices_map_remark,
      notices_map_notice, List.nil_append, r]
  have notified_eq : (s.grown w c now).notified = if r.tellsProgress then p else s.notified := by
    rw [same, grown, told_eq]
    rfl
  have grows : s.progress ≤ p := (h.progress_grown sound).1
  have unfinished : s.progress < 100 := progress_lt_hundred h.unfinished
  rw [notified_eq]
  by_cases told : r.tellsProgress = true
  · have far := tells.1 told
    have only : more = [p] := by
      rw [more_eq, toldNotices, if_pos told, same]
      rfl
    rw [only, if_pos told]
    refine ⟨.cons_cons ⟨?_, bound, far.symm⟩ (.singleton p), ?_, rfl, Nat.le_refl p, ?_⟩
    · omega
    · rw [List.mem_singleton, eq_comm]
    · exact Nat.lt_add_of_pos_right pos
  · have near := not_or.1 (mt tells.2 told)
    have nothing : more = [] := by
      rw [more_eq, toldNotices, if_neg told]
      rfl
    rw [nothing, if_neg told]
    refine ⟨.singleton _, ?_, rfl, Nat.le_trans low grows, Nat.lt_of_not_le near.2⟩
    simpa using near.1

theorem Throttled.grown (h : s.Throttled size log) (pos : 1 ≤ s.timing.progressStep)
    (running : s.status = .downloading) (hw : s.Receiving w)
    (sound : s.chunkFault? w c now = none) (told : e.advances = s.grownAdvances w c now)
    (wrote : e.written = c.payload.length) (timing : r.timing = s.timing)
    (next : r.status = .downloading → r = s.grown w c now) : r.Throttled size (log ++ [e]) := by
  obtain ⟨total, received, notified, low, near⟩ := h.running running
  obtain ⟨spaced, ends, kept, low', near'⟩ := hw.grownAdvances_spaced sound pos low
  have whole := (hw.progress_grown sound).2
  have unfinished := hw.unfinished
  have advances_eq : advances (log ++ [e]) = advances log ++ s.grownAdvances w c now := by
    rw [advances_append_singleton, told]
  have written_eq : written (log ++ [e]) = s.received + c.payload.length := by
    rw [written_append_singleton, wrote, received]
  refine ⟨?_, ?_, fun still => ?_⟩
  · rw [advances_eq, timing]
    exact isChain_append_of_last h.spaced (notified ▸ spaced)
  · have untold : 100 ∉ advances log := fun mem => by
      have := h.whole.1 mem
      omega
    rw [advances_eq, written_eq, List.mem_append, ends, whole, total]
    exact or_iff_right untold
  · cases next still
    have last : (advances (log ++ [e])).getLastD 0 =
        (s.grownAdvances w c now).getLastD s.notified := by
      rw [advances_eq, notified]
      simp [List.getLastD_eq_getLast?, Option.getD_or]
    obtain ⟨notified', hgrown⟩ := grown_eq sound
    rw [← kept] at low' near' last
    refine ⟨?_, ?_, last.symm, low', ?_⟩
    · rw [hgrown]
      exact total
    · rw [written_eq, hgrown]
    · rw [timing]
      exact near'

theorem not_written_of_chunkFault? {reason : UpdateError}
    (why : s.chunkFault? w c now = some reason) :
    reason ≠ .checksumMismatch ∧ reason ≠ .activateFailed := by
  unfold chunkFault? at why
  grind

theorem Transition.throttled {i : Input} {o : Outcome Reply} (t : Transition s i o)
    (settled : s.Settled) (h : s.Throttled size log) (pos : 1 ≤ s.timing.progressStep)
    (other : Entry.begunAt? ⟨i, o⟩ = none) : o.session.Throttled size (log ++ [⟨i, o⟩]) := by
  have timing := t.timing_eq
  have reading {w : Store.Writer} (running : s.status = .downloading) (holds : s.writer = some w) :=
    settled.receiving_of_holds running holds
  cases t with
  | started => cases other
  | fault f => exact h.silent rfl rfl timing fun _ => ⟨_, _, _, rfl⟩
  | resumed now running => exact h.silent rfl rfl timing fun _ => ⟨_, _, _, rfl⟩
  | pollWarned => exact h.silent rfl rfl timing fun _ => ⟨_, _, _, rfl⟩
  | startIgnored | chunkUnexpected | abortIgnored | pollIdle | pollQuiet | reconnectIgnored =>
    exact h.silent rfl rfl timing fun _ => ⟨_, _, _, rfl⟩
  | startRejected a safe now reason remarks =>
    refine h.silent ?_ rfl timing fun _ => ⟨_, _, _, rfl⟩
    rw [Entry.advances, notices_append, notices_map_remark]
    rfl
  | aborted | timedOut => exact h.silent rfl rfl timing nofun
  | reset => exact h.silent rfl rfl timing nofun
  | rebooted => exact h.silent rfl rfl timing nofun
  | chunkFailed c now w reason checksum remarks running holds why =>
    obtain ⟨summed, activated⟩ := not_written_of_chunkFault? why
    refine h.silent ?_ ?_ timing nofun
    · rw [Entry.advances, notices_append, notices_map_remark]
      rfl
    · unfold Entry.written
      grind
  | chunkTaken c now w running holds sound =>
    exact h.grown pos running (reading running holds) sound rfl rfl timing fun _ => rfl
  | imageRefused c now w reason remarks running holds sound whole why =>
    refine h.grown pos running (reading running holds) sound ?_ ?_ timing nofun
    · rw [Entry.advances, notices_append, notices_append, notices_map_remark,
        List.append_nil, List.filterMap_append]
      exact List.append_nil _
    · rcases eq_of_imageFault? why with rfl | rfl <;> rfl
  | imageActivated c now w running holds sound =>
    refine h.grown pos running (reading running holds) sound ?_ rfl timing nofun
    rw [Entry.advances, notices_append, List.filterMap_append]
    exact List.append_nil _

theorem throttled_after (settled : s.Settled) (first : s.Throttled size [])
    (pos : 1 ≤ s.timing.progressStep) (during : List Input)
    (other : ∀ e ∈ s.record during, e.begunAt? = none) :
    (s.after during).Throttled size (s.record during) := by
  have all : (s.after during).Settled ∧ (s.after during).timing = s.timing ∧
      ((∀ e ∈ s.record during, e.begunAt? = none) →
        (s.after during).Throttled size (s.record during)) := by
    refine record_induction (P := fun r log => r.Settled ∧ r.timing = s.timing ∧
      ((∀ e ∈ log, e.begunAt? = none) → r.Throttled size log)) []
      ⟨settled, rfl, fun _ => first⟩ (fun r log i h => ?_) during
    obtain ⟨hr, timing, throttled⟩ := h
    have t := take_transition hr i
    refine ⟨t.settled hr, t.timing_eq.trans timing, fun other => ?_⟩
    obtain ⟨others, last⟩ := List.forall_mem_append.1 other
    exact t.throttled hr (throttled others) (timing ▸ pos) (last _ (List.mem_singleton_self _))
  exact all.2.2 other

/-- Whatever comes between an accepted announcement and the next one, the percentages that are told
ascend, each at least a step above the one before unless it is the last. So there are at most as
many as there are steps. The progress of a running download is less than a step above the one told
last, and the end is told once, if and only if all octets were written. -/
theorem progress_is_throttled (capacity : Nat) (timing : Timing) (before : List Input)
    (a : Wire.Announcement) (safe : Bool) (now : Nat) (during : List Input)
    (step : 1 ≤ timing.progressStep)
    (accepted : (((fresh capacity timing).after before).start a safe now).result = .ok ())
    (other : ∀ e ∈ (((fresh capacity timing).after before).start a safe now).session.record during,
      e.begunAt? = none) :
    let s := (((fresh capacity timing).after before).start a safe now).session
    let told := advances (s.record during)
    told.Pairwise (· < ·) ∧
      told.IsChain (fun p q => p + timing.progressStep ≤ q ∨ q = 100) ∧
      told.length ≤ 99 / timing.progressStep + 1 ∧
      ((s.after during).status = .downloading →
        (s.after during).progress < told.getLastD 0 + timing.progressStep) ∧
      told.count 100 = if written (s.record during) = a.size.toNat then 1 else 0 := by
  intro s told
  obtain ⟨h, -⟩ := settled_after_fresh capacity timing before
  obtain ⟨free, sound⟩ := (start_ok_iff h a safe now).1 accepted
  obtain ⟨-, nonempty, -⟩ := (startFault?_eq_none_iff _ a safe).1 sound
  have timing_eq : ((fresh capacity timing).after before).timing = timing :=
    timing_after (.fresh capacity timing) before
  have started : s = ((fresh capacity timing).after before).begin a _ _ now :=
    congrArg Outcome.session (start_of_sound h a safe now free sound)
  have first : s.Throttled a.size.toNat [] := by
    rw [started]
    exact throttled_begin _ a _ _ now nonempty (timing_eq.symm ▸ step)
  have settled : s.Settled := (take_transition h (.call (.start a safe now))).settled h
  have step_eq : s.timing = timing := by
    rw [started]
    exact timing_eq
  have all := throttled_after settled first (step_eq.symm ▸ step) during other
  have kept : (s.after during).timing = timing := (timing_after settled during).trans step_eq
  have spaced : (0 :: told).IsChain (Spaced timing.progressStep) := kept ▸ all.spaced
  have ascending : told.Pairwise (· < ·) :=
    List.isChain_iff_pairwise.1 (spaced.tail.imp fun p q h => h.1)
  refine ⟨ascending, spaced.tail.imp fun p q h => h.2.2, ?_, fun running => ?_, ?_⟩
  · exact length_le_of_spaced step spaced
  · obtain ⟨-, -, notified, -, near⟩ := all.running running
    rw [← notified, ← kept]
    exact near
  · have distinct : told.Nodup := ascending.imp Nat.ne_of_lt
    rw [distinct.count]
    exact if_congr all.whole rfl rfl

theorem quarters_are_told_twice :
    let timing : Timing := ⟨50, 50, 50, 50, 50, 30⟩
    let image : Octets := [7, 8, 9, 10]
    let o := (fresh 8 timing).start ⟨"2", 4, Checksum.ofOctets image⟩ true 0
    let log := o.session.record
      [.call (.chunk ⟨0, 1, [7]⟩ 5), .call (.chunk ⟨1, 1, [8]⟩ 6), .call (.reconnect 7),
        .call (.start ⟨"3", 1, 0⟩ true 8), .call (.chunk ⟨2, 1, [9]⟩ 9), .call (.poll 10),
        .call (.chunk ⟨3, 1, [10]⟩ 11)]
    o.result = .ok () ∧ (∀ e ∈ log, e.begunAt? = none) ∧ advances log = [50, 100] ∧
      (advances log).IsChain (fun p q => p + 30 ≤ q ∨ q = 100) ∧
      (advances log).length ≤ 99 / 30 + 1 ∧ (advances log).count 100 = 1 := by
  intro timing image o log
  have accepted : o.result = .ok () := by rfl
  have other : ∀ e ∈ log, e.begunAt? = none := by decide +kernel
  obtain ⟨-, spaced, few, -, once⟩ :=
    progress_is_throttled 8 timing [] _ true 0 _ (by decide) accepted other
  have all : written log = 4 := by decide +kernel
  exact ⟨accepted, other, by decide +kernel, spaced, few, once.trans (if_pos all)⟩

end Session

end DoughAnalyzer.Update

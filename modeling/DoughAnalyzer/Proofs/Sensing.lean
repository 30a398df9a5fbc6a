import DoughAnalyzer.Proofs.Mean
import DoughAnalyzer.Proofs.WholeFloat
import DoughAnalyzer.Sensing.Hub
import Mathlib.Data.List.Induction

/-!
What a pass of the hub makes of its reads. Climate and distance are judged each for itself, so the
account of a pass is one of its reads as a list: which climates are valid, which distances are, and
how often either is missing. The baseline lies between the bounds of a valid distance because a mean
does.
-/

set_option autoImplicit false

namespace DoughAnalyzer.Sensing

def samples (reads : List Read) : List Sample := reads.filterMap Except.toOption

def validDistances (reads : List Read) : List Nat :=
  (samples reads).filterMap fun s => (Tally.validDistance s).map UInt16.toNat

/-- Why a read brings no valid climate, if it does not. -/
def climateFault? : Read → Option SensorError
  | .error e => some e
  | .ok s => if climateValid s then none else some .outOfRange

def errored (reads : List Read) : Nat := reads.countP (·.toOption.isNone)

def invalidClimates (reads : List Read) : Nat := (samples reads).countP (!climateValid ·)

def invalidDistances (reads : List Read) : Nat :=
  (samples reads).countP fun s => (Tally.validDistance s).isNone

/-- The reads that a pass counts as failed. A sample may be counted twice, for its climate and for its
distance. -/
def failures (reads : List Read) : Nat :=
  errored reads + invalidClimates reads + invalidDistances reads

section append

variable (reads later : List Read)

theorem samples_append : samples (reads ++ later) = samples reads ++ samples later :=
  List.filterMap_append

theorem validDistances_append :
    validDistances (reads ++ later) = validDistances reads ++ validDistances later := by
  rw [validDistances, samples_append, List.filterMap_append]
  rfl

theorem failures_append : failures (reads ++ later) = failures reads + failures later := by
  simp only [failures, errored, invalidClimates, invalidDistances, samples_append,
    List.countP_append]
  omega

end append

namespace Tally

/-- What a pass has counted after some reads. -/
structure Counts (t : Tally) (reads : List Read) : Prop where
  climates_eq : t.climates = (samples reads).countP climateValid
  distanceSum_eq : t.distanceSum = (validDistances reads).sum
  distances_eq : t.distances = (validDistances reads).length
  failed_eq : t.failed = failures reads
  lastError_eq : t.lastError = (reads.filterMap climateFault?).getLast?.getD .readFailed

variable (t : Tally) (r : Read)

theorem climates_add : (t.add r).climates = t.climates + (samples [r]).countP climateValid := by
  cases r with
  | error e => rfl
  | ok s =>
    simp only [add, addClimate, addDistance]
    split <;> split <;> simp [samples, Except.toOption, *]

theorem distanceSum_add : (t.add r).distanceSum = t.distanceSum + (validDistances [r]).sum := by
  cases r with
  | error e => rfl
  | ok s =>
    simp only [add, addClimate, addDistance]
    split <;> split <;> simp [validDistances, samples, Except.toOption, *]

theorem distances_add : (t.add r).distances = t.distances + (validDistances [r]).length := by
  cases r with
  | error e => rfl
  | ok s =>
    simp only [add, addClimate, addDistance]
    split <;> split <;> simp [validDistances, samples, Except.toOption, *]

theorem failed_add : (t.add r).failed = t.failed + failures [r] := by
  cases r with
  | error e => rfl
  | ok s =>
    simp only [add, addClimate, addDistance]
    split <;> split <;>
      simp [failures, errored, invalidClimates, invalidDistances, samples, Except.toOption, *]

theorem lastError_add : (t.add r).lastError = (climateFault? r).getD t.lastError := by
  cases r with
  | error e => rfl
  | ok s =>
    simp only [add, addClimate, addDistance, climateFault?]
    split <;> split <;> rfl

variable {t} {reads : List Read}

theorem Counts.add (c : t.Counts reads) (r : Read) : (t.add r).Counts (reads ++ [r]) where
  climates_eq := by rw [climates_add, c.climates_eq, samples_append, List.countP_append]
  distanceSum_eq := by rw [distanceSum_add, c.distanceSum_eq, validDistances_append, List.sum_append]
  distances_eq := by
    rw [distances_add, c.distances_eq, validDistances_append, List.length_append]
  failed_eq := by rw [failed_add, c.failed_eq, failures_append]
  lastError_eq := by
    rw [lastError_add, c.lastError_eq]
    cases fault : climateFault? r <;> simp [fault]

theorem counts_ofReads (reads : List Read) : (ofReads reads).Counts reads := by
  induction reads using List.reverseRecOn with
  | nil => exact ⟨rfl, rfl, rfl, rfl, rfl⟩
  | append_singleton reads r ih =>
    rw [ofReads, List.foldl_concat]
    exact ih.add r

theorem meanDistance_ofReads (reads : List Read) :
    (ofReads reads).meanDistance =
      if validDistances reads = [] then none else some (mean (validDistances reads)) := by
  have counts := counts_ofReads reads
  rw [meanDistance, counts.distances_eq, counts.distanceSum_eq]
  simp only [List.length_pos_iff, ite_not, mean]

end Tally

theorem bounds_of_mem_validDistances {reads : List Read} {mm : Nat}
    (h : mm ∈ validDistances reads) : 20 < mm ∧ mm < 2000 := by
  obtain ⟨s, -, seen⟩ := List.mem_filterMap.1 h
  obtain ⟨distance, valid, rfl⟩ := Option.map_eq_some_iff.1 seen
  have within := (Option.filter_eq_some_iff.1 valid).2
  simp only [distanceValid, Bool.and_eq_true, decide_eq_true_eq, UInt16.lt_iff_toNat_lt] at within
  exact within

theorem bounds_of_mean {reads : List Read} (some : validDistances reads ≠ []) :
    20 < mean (validDistances reads) ∧ mean (validDistances reads) < 2000 :=
  ⟨le_mean some fun _ h => (bounds_of_mem_validDistances h).1,
    Nat.lt_succ_of_le (mean_le fun _ h => Nat.le_of_lt_succ (bounds_of_mem_validDistances h).2)⟩

theorem valid_mem_iff {reads : List Read} :
    (∃ s ∈ samples reads, climateValid s) ↔ none ∈ reads.map climateFault? := by
  rw [List.mem_map]
  constructor
  · rintro ⟨s, hs, valid⟩
    obtain ⟨r, hr, read⟩ := List.mem_filterMap.1 hs
    cases r with
    | error e => cases read
    | ok s' =>
      cases read
      exact ⟨.ok s, hr, if_pos valid⟩
  · rintro ⟨r, hr, faultless⟩
    cases r with
    | error e => cases faultless
    | ok s =>
      rw [climateFault?, ite_eq_left_iff] at faultless
      exact ⟨s, List.mem_filterMap.2 ⟨.ok s, hr, rfl⟩, by_contra fun h => nomatch faultless h⟩

def withoutDistance (r : Read) : Read := r.map fun s => { s with distance := none }

theorem climateFault?_withoutDistance (r : Read) :
    climateFault? (withoutDistance r) = climateFault? r := by
  cases r <;> rfl

namespace Source

/-- A source after some reads. -/
def past (s : Source) (n : Nat) : Source := (fun s => s.read.2)^[n] s

theorem take_eq (n : Nat) (s : Source) :
    s.take n = ((List.range n).map fun k => (s.past k).read.1, s.past n) := by
  induction n generalizing s with
  | zero => rfl
  | succ n ih =>
    simp only [take, ih, List.range_succ_eq_map, List.map_cons, List.map_map]
    rfl

end Source

inductive Call where
  | collect (now : Nat)
  | resetBaseline
  | supply (source : Source)

namespace Hub

variable {h : Hub} {now : Nat}

def reads (h : Hub) : List Read := (h.source.take readsPerPass).1

def Succeeds (h : Hub) : Prop := ∃ s ∈ samples h.reads, climateValid s

theorem succeeds_iff (h : Hub) : h.Succeeds ↔ (Tally.ofReads h.reads).climates ≠ 0 := by
  rw [(Tally.counts_ofReads h.reads).climates_eq, ← Nat.pos_iff_ne_zero, List.countP_pos_iff]
  rfl

theorem collect_of_succeeds (ok : h.Succeeds) (now : Nat) :
    ∃ r, (h.collect now).1 = .ok r ∧
      r.rise = h.rise (Tally.ofReads h.reads).meanDistance ∧
      (h.collect now).2.1 =
        { h with
          source := (h.source.take readsPerPass).2, lastPassAt := some now
          failed := h.failed + failures h.reads
          baseline := h.baselineAfter (Tally.ofReads h.reads).meanDistance } := by
  have counted := h.succeeds_iff.1 ok
  rw [← (Tally.counts_ofReads h.reads).failed_eq]
  unfold collect
  unfold reads at counted ⊢
  simp only [if_neg counted]
  exact ⟨_, rfl, rfl, rfl⟩

theorem collect_of_not_succeeds (failing : ¬ h.Succeeds) (now : Nat) :
    (h.collect now).1 = .error ((h.reads.filterMap climateFault?).getLast?.getD .readFailed) ∧
      (h.collect now).2.1 =
        { h with
          source := (h.source.take readsPerPass).2, lastPassAt := some now
          failed := h.failed + failures h.reads } := by
  have counted : (Tally.ofReads h.reads).climates = 0 :=
    Decidable.not_not.1 (mt h.succeeds_iff.2 failing)
  rw [← (Tally.counts_ofReads h.reads).failed_eq, ← (Tally.counts_ofReads h.reads).lastError_eq]
  unfold collect
  unfold reads at counted ⊢
  simp only [if_pos counted, true_and]

theorem reads_eq (h : Hub) :
    h.reads = (List.range 5).map fun k => (h.source.past k).read.1 := by
  rw [reads, Source.take_eq]
  rfl

theorem succeeds_iff_faultless (h : Hub) : h.Succeeds ↔ none ∈ h.reads.map climateFault? :=
  valid_mem_iff

theorem exists_fault (failing : ¬ h.Succeeds) :
    ∃ e, (h.reads.filterMap climateFault?).getLast? = some e := by
  have first : h.source.read.1 ∈ h.reads := List.mem_cons_self
  cases fault : climateFault? h.source.read.1 with
  | none => exact absurd (h.succeeds_iff_faultless.2 (fault ▸ List.mem_map_of_mem first)) failing
  | some e =>
    have mem : e ∈ h.reads.filterMap climateFault? := List.mem_filterMap.2 ⟨_, first, fault⟩
    exact ⟨_, List.getLast?_eq_some_getLast (List.ne_nil_of_mem mem)⟩

theorem collect_error_iff (h : Hub) (now : Nat) (e : SensorError) :
    (h.collect now).1 = .error e ↔
      ¬ h.Succeeds ∧ (h.reads.filterMap climateFault?).getLast? = some e := by
  by_cases ok : h.Succeeds
  · obtain ⟨r, result, -⟩ := collect_of_succeeds ok now
    simp only [result, ok, not_true, false_and, iff_false]
    exact nofun
  · obtain ⟨last, last_eq⟩ := exists_fault ok
    rw [(collect_of_not_succeeds ok now).1, last_eq]
    simp only [Option.getD_some, Except.error.injEq, Option.some.injEq, ok, not_false_eq_true,
      true_and]

theorem collect_fails_iff (h : Hub) (now : Nat) :
    (∃ e, (h.collect now).1 = .error e) ↔ ∀ s ∈ samples h.reads, climateValid s = false := by
  simp only [collect_error_iff, exists_and_left]
  have invalid_iff : ¬ h.Succeeds ↔ ∀ s ∈ samples h.reads, climateValid s = false := by
    simp [Succeeds]
  rw [← invalid_iff]
  exact ⟨And.left, fun failing => ⟨failing, exists_fault failing⟩⟩

theorem collect_error_congr {other : Hub}
    (same : other.reads.map withoutDistance = h.reads.map withoutDistance) (now later : Nat)
    (e : SensorError) : (other.collect later).1 = .error e ↔ (h.collect now).1 = .error e := by
  have faults : other.reads.map climateFault? = h.reads.map climateFault? := by
    have erased := congrArg (List.map climateFault?) same
    simpa only [List.map_map, Function.comp_def, climateFault?_withoutDistance] using erased
  have last : other.reads.filterMap climateFault? = h.reads.filterMap climateFault? := by
    have found := congrArg (List.filterMap id) faults
    simpa only [List.filterMap_map, Function.id_comp] using found
  rw [collect_error_iff, collect_error_iff, succeeds_iff_faultless, succeeds_iff_faultless, faults,
    last]

theorem collect_always (h : Hub) (now : Nat) :
    (h.collect now).2.1.source = h.source.past readsPerPass ∧
      (h.collect now).2.1.lastPassAt = some now ∧
      (h.collect now).2.1.failed = h.failed + failures h.reads := by
  have past : (h.source.take readsPerPass).2 = h.source.past readsPerPass := by
    rw [Source.take_eq]
  rw [← past]
  by_cases ok : h.Succeeds
  · obtain ⟨r, -, -, next⟩ := collect_of_succeeds ok now
    rw [next]
    exact ⟨rfl, rfl, rfl⟩
  · rw [(collect_of_not_succeeds ok now).2]
    exact ⟨rfl, rfl, rfl⟩

/-- Only a pass that succeeds sets a baseline, and only where there is none. -/
theorem collect_baseline (h : Hub) (now : Nat) :
    (h.collect now).2.1.baseline =
      if h.baseline = none ∧ (∃ s ∈ samples h.reads, climateValid s) ∧ validDistances h.reads ≠ []
      then some (mean (validDistances h.reads)) else h.baseline := by
  by_cases ok : h.Succeeds
  · obtain ⟨r, -, -, next⟩ := collect_of_succeeds ok now
    have ok : ∃ s ∈ samples h.reads, climateValid s := ok
    rw [next, baselineAfter, Tally.meanDistance_ofReads]
    cases h.baseline <;> by_cases unseen : validDistances h.reads = [] <;> simp [ok, unseen]
  · rw [(collect_of_not_succeeds ok now).2, if_neg fun set => ok set.2.1]

theorem collect_rise {r : Reading} (result : (h.collect now).1 = .ok r) :
    r.rise =
      match h.baseline with
      | none => 0
      | some b =>
        if validDistances h.reads = [] then 0 else riseFrom b (mean (validDistances h.reads)) := by
  by_cases ok : h.Succeeds
  · obtain ⟨r', result', rise, -⟩ := collect_of_succeeds ok now
    obtain rfl := Except.ok.inj (result.symm.trans result')
    rw [rise, Tally.meanDistance_ofReads]
    cases known : h.baseline <;> by_cases unseen : validDistances h.reads = [] <;>
      simp [Hub.rise, known, unseen]
  · exact nomatch (collect_of_not_succeeds ok now).1.symm.trans result

def fresh (source : Source) (interval : Nat) : Hub := { source, interval }

def take (h : Hub) : Call → Hub
  | .collect now => (h.collect now).2.1
  | .resetBaseline => h.resetBaseline
  | .supply source => { h with source }

def after (h : Hub) (history : List Call) : Hub := history.foldl take h

theorem after_concat (h : Hub) (history : List Call) (call : Call) :
    h.after (history ++ [call]) = (h.after history).take call := List.foldl_append

theorem baseline_take_cases {call : Call} {b : Nat} (set : (h.take call).baseline = some b) :
    h.baseline = some b ∨
      ∃ now, call = .collect now ∧ validDistances h.reads ≠ [] ∧
        b = mean (validDistances h.reads) := by
  cases call with
  | resetBaseline => cases set
  | supply source => exact .inl set
  | collect now =>
    rw [take, collect_baseline] at set
    split at set
    case isTrue fresh => exact .inr ⟨now, rfl, fresh.2.2, (Option.some.inj set).symm⟩
    case isFalse => exact .inl set

theorem baseline_take_of_some {call : Call} {b : Nat} (kept : call ≠ .resetBaseline)
    (known : h.baseline = some b) : (h.take call).baseline = some b := by
  cases call with
  | resetBaseline => exact absurd rfl kept
  | supply source => exact known
  | collect now => rw [take, collect_baseline, if_neg (by simp [known]), known]

theorem baseline_after_of_some {later : List Call} {b : Nat} (kept : .resetBaseline ∉ later)
    (known : h.baseline = some b) : (h.after later).baseline = some b := by
  induction later generalizing h with
  | nil => exact known
  | cons call rest ih =>
    rw [List.mem_cons, not_or] at kept
    exact ih kept.2 (baseline_take_of_some (Ne.symm kept.1) known)

theorem baseline_bounds (source : Source) (interval : Nat) (history : List Call) {b : Nat}
    (known : ((fresh source interval).after history).baseline = some b) : 20 < b ∧ b < 2000 := by
  induction history using List.reverseRecOn with
  | nil => cases known
  | append_singleton history call ih =>
    rw [after_concat] at known
    rcases baseline_take_cases known with known | ⟨now, rfl, seen, rfl⟩
    · exact ih known
    · exact bounds_of_mean seen

/-- After any history, a pass takes five reads and counts as the last pass. It fails exactly if none
of them has a valid climate, with the error of the last of them and whatever the distances. Every read
that errs, every invalid climate and every distance that is missing or invalid is counted. The
baseline is the mean of the valid distances of the first pass that succeeds and has any, which itself
reports no rise; it lasts until it is reset, always lies within the bounds of a distance, and as a
divisor is never zero. -/
theorem baseline_and_reads_accounted (source : Source) (interval : Nat) (history : List Call) :
    let h := (fresh source interval).after history
    let reads := (List.range 5).map fun k => (h.source.past k).read.1
    (∀ now,
      (h.collect now).2.1.source = h.source.past 5 ∧
      (h.collect now).2.1.lastPassAt = some now ∧
      (h.collect now).2.1.failed =
        h.failed + (errored reads + invalidClimates reads + invalidDistances reads) ∧
      ((∃ e, (h.collect now).1 = .error e) ↔ ∀ s ∈ samples reads, climateValid s = false) ∧
      (∀ e, (h.collect now).1 = .error e → (reads.filterMap climateFault?).getLast? = some e) ∧
      (∀ (other : Hub) (later : Nat) (e : SensorError),
        ((List.range 5).map fun k => withoutDistance (other.source.past k).read.1) =
          reads.map withoutDistance →
        ((other.collect later).1 = .error e ↔ (h.collect now).1 = .error e)) ∧
      (h.collect now).2.1.baseline =
        (if h.baseline = none ∧ (∃ s ∈ samples reads, climateValid s) ∧ validDistances reads ≠ []
          then some ((validDistances reads).sum / (validDistances reads).length)
          else h.baseline) ∧
      (∀ r, (h.collect now).1 = .ok r →
        r.rise =
          match h.baseline with
          | none => 0
          | some b =>
            if validDistances reads = [] then 0
            else riseFrom b ((validDistances reads).sum / (validDistances reads).length))) ∧
    (∀ call b, (h.take call).baseline = some b →
      h.baseline = some b ∨ ∃ now, call = .collect now) ∧
    (∀ later b, .resetBaseline ∉ later → h.baseline = some b →
      (h.after later).baseline = some b) ∧
    (∀ b, h.baseline = some b → 20 < b ∧ b < 2000 ∧ (Float32.ofNat b == 0) = false) := by
  intro h reads
  have taken : reads = h.reads := (reads_eq h).symm
  rw [taken]
  refine ⟨?_, ?_, ?_, ?_⟩
  · intro now
    obtain ⟨source_eq, lastPassAt_eq, failed_eq⟩ := collect_always h now
    refine ⟨source_eq, lastPassAt_eq, failed_eq, collect_fails_iff h now, ?_, ?_,
      collect_baseline h now, fun r => collect_rise⟩
    · intro e failed
      exact ((collect_error_iff h now e).1 failed).2
    · intro other later e same
      refine collect_error_congr ?_ now later e
      rw [← same, reads_eq, List.map_map]
      rfl
  · intro call b set
    exact (baseline_take_cases set).imp_right fun ⟨now, collects, _⟩ => ⟨now, collects⟩
  · exact fun later b kept known => baseline_after_of_some kept known
  · intro b known
    obtain ⟨above, below⟩ := baseline_bounds source interval history known
    exact ⟨above, below, WholeFloat.ofNat_beq_zero (by omega) (by omega)⟩

end Hub

end DoughAnalyzer.Sensing

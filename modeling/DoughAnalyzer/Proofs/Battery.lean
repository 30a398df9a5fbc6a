import DoughAnalyzer.Battery
import DoughAnalyzer.Proofs.Mean
import Mathlib.Data.List.Induction

/-!
What the gauge says after any history. Between a reading and the percentage lie four roundings: the
mean, the scale, the divider and the share. Each is monotone, so their composition is. The level is
always that of the last measurement, and a failed one leaves none.
-/

set_option autoImplicit false

namespace DoughAnalyzer.Battery

theorem millivolts_le_millivolts {a b : Nat} (h : a ≤ b) : millivolts a ≤ millivolts b :=
  Nat.mul_le_mul_right _ (Nat.div_le_div_right (Nat.mul_le_mul_right _ h))

theorem percent_le_percent {a b : Nat} (h : a ≤ b) : percent a ≤ percent b := by
  have share_le_hundred : ∀ {mv : Nat}, ¬ 4200 ≤ mv → (mv - 3300) * 100 / (4200 - 3300) ≤ 100 := by
    omega
  have share_le_share := Nat.div_le_div_right (c := 4200 - 3300)
    (Nat.mul_le_mul_right 100 (Nat.sub_le_sub_right h 3300))
  simp only [percent, emptyMillivolts, fullMillivolts]
  grind

def good (readings : List RawReading) : List Nat := readings.filterMap (·.map UInt16.toNat)

theorem measure_eq (readings : List RawReading) :
    measure readings =
      if good readings = [] then none else some (millivolts (mean (good readings))) := by
  have good_eq : good readings = (readings.filterMap id).map UInt16.toNat := by
    simp [good, List.map_filterMap]
  rw [good_eq, measure]
  split
  case h_1 none => rw [if_pos (by rw [none, List.map_nil])]
  case h_2 some =>
    rw [if_neg (by simpa using some), mean, List.sum_eq_foldl, List.foldl_map, List.length_map]

/-- The same reads succeeded, and none read less. -/
def AtMost (readings readings' : List RawReading) : Prop :=
  List.Forall₂ (Option.Rel (· ≤ ·)) readings readings'

theorem AtMost.good {readings readings' : List RawReading} (h : AtMost readings readings') :
    List.Forall₂ (· ≤ ·) (good readings) (good readings') := by
  refine List.rel_filterMap (fun _ _ rel => ?_) h
  cases rel with
  | none => exact .none
  | some le => exact .some (UInt16.le_iff_toNat_le.1 le)

theorem measure_between (readings : List RawReading) (some : good readings ≠ []) :
    ∃ lo hi mv, (good readings).min? = .some lo ∧ (good readings).max? = .some hi ∧
      measure readings = .some mv ∧ millivolts lo ≤ mv ∧ mv ≤ millivolts hi := by
  obtain ⟨lo, least⟩ := Option.isSome_iff_exists.1 (List.isSome_min?_iff.2 some)
  obtain ⟨hi, greatest⟩ := Option.isSome_iff_exists.1 (List.isSome_max?_iff.2 some)
  refine ⟨lo, hi, _, least, greatest, (measure_eq readings).trans (if_neg some), ?_, ?_⟩
  · exact millivolts_le_millivolts (le_mean some (List.min?_eq_some_iff.1 least).2)
  · exact millivolts_le_millivolts (mean_le (List.max?_eq_some_iff.1 greatest).2)

theorem measure_fits (readings : List RawReading) (few : readings.length ≤ readingsPerMeasurement) :
    (good readings).sum < 2 ^ 32 ∧ mean (good readings) < 2 ^ 16 ∧
      mean (good readings) * referenceMillivolts < 2 ^ 32 ∧
      millivolts (mean (good readings)) < 2 ^ 32 := by
  have small : ∀ r ∈ good readings, r ≤ 2 ^ 16 - 1 := by
    intro r hr
    obtain ⟨_, -, read⟩ := List.mem_filterMap.1 hr
    obtain ⟨raw, -, rfl⟩ := Option.map_eq_some_iff.1 read
    exact Nat.le_pred_of_lt raw.toNat_lt
  have length_le : (good readings).length ≤ 8 := (List.length_filterMap_le _ _).trans few
  have sum_le : (good readings).sum ≤ 8 * (2 ^ 16 - 1) :=
    ((good readings).sum_le_card_nsmul _ small).trans (Nat.mul_le_mul_right _ length_le)
  have mean_le := mean_le small
  simp only [millivolts, referenceMillivolts, largestReading, dividerRatio]
  omega

theorem AtMost.measure {readings readings' : List RawReading} (h : AtMost readings readings') :
    Option.Rel (· ≤ ·) (measure readings) (measure readings') := by
  rw [measure_eq, measure_eq]
  by_cases none : Battery.good readings = []
  · have none' : Battery.good readings' = [] := by
      rw [← List.forall₂_nil_left_iff, ← none]
      exact h.good
    rw [if_pos none, if_pos none']
    exact .none
  · have some' : Battery.good readings' ≠ [] := by
      intro none'
      exact none (List.forall₂_nil_right_iff.1 (none' ▸ h.good))
    rw [if_neg none, if_neg some']
    exact .some (millivolts_le_millivolts (mean_le_mean h.good))

theorem rel_measure {last last' : Option (List RawReading)} (h : Option.Rel AtMost last last') :
    Option.Rel (· ≤ ·) (last.bind measure) (last'.bind measure) := by
  cases h with
  | none => exact .none
  | some atMost => exact atMost.measure

namespace Supply

/-- The reading at a position; past the end it is the last one. -/
def reading (s : Supply) (k : Nat) : RawReading := (s[min k (s.length - 1)]?).join

theorem read_fst (s : Supply) : s.read.1 = s.reading 0 := by
  match s with
  | [] | [_] | _ :: _ :: _ => simp [read, reading]

theorem reading_read (s : Supply) (k : Nat) : s.read.2.reading k = s.reading (k + 1) := by
  match s with
  | [] | [_] => simp [read, reading]
  | r :: next :: rest =>
    have pos : min (k + 1) (rest.length + 1) = min k rest.length + 1 := Nat.add_min_add_right ..
    simp only [read, reading, List.length_cons, Nat.add_sub_cancel, pos, List.getElem?_cons_succ]

theorem take_fst (n : Nat) (s : Supply) : (s.take n).1 = (List.range n).map s.reading := by
  induction n generalizing s with
  | zero => rfl
  | succ n ih =>
    simp only [take, ih, read_fst, List.range_succ_eq_map, List.map_cons, List.map_map]
    exact congrArg _ (List.map_congr_left fun k _ => s.reading_read k)

theorem reading_take (n : Nat) (s : Supply) (k : Nat) :
    (s.take n).2.reading k = s.reading (n + k) := by
  induction n generalizing s with
  | zero => rw [Nat.zero_add]; rfl
  | succ n ih =>
    simp only [take, ih, reading_read]
    congr 1
    omega

theorem take_length (n : Nat) (s : Supply) : (s.take n).1.length = n := by
  rw [take_fst, List.length_map, List.length_range]

end Supply

inductive Input where
  | refresh
  | poll (now : Nat)
  | supply (supply : Supply)
  deriving DecidableEq, Repr

namespace Input

def time? : Input → Option Nat
  | .poll now => some now
  | .refresh | .supply _ => none

end Input

namespace Gauge

def fresh (supply : Supply) (minPercent : Nat) : Gauge := { supply, minPercent }

def readings? (g : Gauge) : Input → Option (List RawReading)
  | .refresh => some (g.supply.take readingsPerMeasurement).1
  | .poll now => if g.isDue now then some (g.supply.take readingsPerMeasurement).1 else none
  | .supply _ => none

def take (g : Gauge) : Input → Gauge
  | .refresh => g.refresh.1
  | .poll now => (g.poll now).1
  | .supply supply => { g with supply }

def after (g : Gauge) (history : List Input) : Gauge := history.foldl take g

end Gauge

structure Entry where
  input : Input
  readings? : Option (List RawReading)
  deriving DecidableEq, Repr

def Entry.polledAt? (e : Entry) : Option Nat := e.readings?.bind fun _ => e.input.time?

def measured (log : List Entry) : List (List RawReading) := log.filterMap Entry.readings?

def polled (log : List Entry) : List Nat := log.filterMap Entry.polledAt?

/-- Whether a gauge with such a record measures: not at a poll soon after one that did. -/
def measures (log : List Entry) : Input → Bool
  | .refresh => true
  | .poll now => (polled log).getLast?.all fun t => 30000 ≤ now - t
  | .supply _ => false

/-- The supply that was given last, and how often it was read since. -/
structure Feed where
  supply : Supply
  reads : Nat := 0

namespace Feed

def add (f : Feed) (e : Entry) : Feed :=
  match e.input with
  | .supply supply => { supply }
  | .refresh | .poll _ => { f with reads := f.reads + e.readings?.elim 0 List.length }

def after (f : Feed) (log : List Entry) : Feed := log.foldl add f

theorem after_concat (f : Feed) (log : List Entry) (e : Entry) :
    f.after (log ++ [e]) = (f.after log).add e := List.foldl_append

def reading (f : Feed) (k : Nat) : RawReading := f.supply.reading (f.reads + k)

end Feed

namespace Gauge

def record (g : Gauge) : List Input → List Entry
  | [] => []
  | input :: rest => ⟨input, g.readings? input⟩ :: (g.take input).record rest

variable {g : Gauge}

theorem after_concat (g : Gauge) (history : List Input) (input : Input) :
    g.after (history ++ [input]) = (g.after history).take input := List.foldl_append

theorem record_concat (g : Gauge) (history : List Input) (input : Input) :
    g.record (history ++ [input]) =
      g.record history ++ [⟨input, (g.after history).readings? input⟩] := by
  induction history generalizing g with
  | nil => rfl
  | cons first rest ih => exact congrArg _ (ih _)

theorem inputs_record (g : Gauge) (history : List Input) :
    (g.record history).map Entry.input = history := by
  induction history generalizing g with
  | nil => rfl
  | cons input rest ih => exact congrArg _ (ih _)

theorem take_level (g : Gauge) (input : Input) :
    (g.take input).level = ((g.readings? input).map measure).getD g.level := by
  cases input with
  | refresh | supply => rfl
  | poll now =>
    simp only [take, poll, readings?]
    split <;> rfl

theorem take_refreshedAt (g : Gauge) (input : Input) :
    (g.take input).refreshedAt =
      (Entry.polledAt? ⟨input, g.readings? input⟩).or g.refreshedAt := by
  cases input with
  | refresh | supply => rfl
  | poll now =>
    simp only [take, poll, readings?]
    split <;> rfl

theorem take_minPercent (g : Gauge) (input : Input) : (g.take input).minPercent = g.minPercent := by
  cases input with
  | refresh | supply => rfl
  | poll now =>
    simp only [take, poll]
    split <;> rfl

theorem take_supply (g : Gauge) (f : Feed) (abreast : g.supply.reading = f.reading)
    (input : Input) :
    (g.take input).supply.reading = (f.add ⟨input, g.readings? input⟩).reading := by
  have drawn (n : Nat) : (g.supply.take n).2.reading =
      Feed.reading { f with reads := f.reads + (g.supply.take n).1.length } := by
    funext k
    rw [Supply.reading_take, Supply.take_length, abreast, Feed.reading, Feed.reading, Nat.add_assoc]
  cases input with
  | refresh => exact drawn readingsPerMeasurement
  | supply supply =>
    funext k
    exact congrArg supply.reading (Nat.zero_add k).symm
  | poll now =>
    simp only [take, poll, readings?]
    split
    · exact drawn readingsPerMeasurement
    · exact abreast

theorem record_split {history : List Input} {earlier later : List Entry} {e : Entry}
    (split : g.record history = earlier ++ e :: later) :
    ∃ past input, earlier = g.record past ∧ e = ⟨input, (g.after past).readings? input⟩ := by
  induction history generalizing g earlier with
  | nil => simp [record] at split
  | cons input rest ih =>
    cases earlier with
    | nil =>
      obtain ⟨rfl, -⟩ := List.cons.inj split
      exact ⟨[], input, rfl, rfl⟩
    | cons first earlier =>
      obtain ⟨rfl, tail_eq⟩ := List.cons.inj split
      obtain ⟨past, next, rfl, rfl⟩ := ih tail_eq
      exact ⟨input :: past, next, rfl, rfl⟩

theorem time_of_mem_polled {history : List Input} {t : Nat} (h : t ∈ polled (g.record history)) :
    t ∈ history.filterMap Input.time? := by
  obtain ⟨e, he, polledAt⟩ := List.mem_filterMap.1 h
  obtain ⟨_, -, time⟩ := Option.bind_eq_some_iff.1 polledAt
  have mem := List.mem_map_of_mem (f := Entry.input) he
  rw [inputs_record] at mem
  exact List.mem_filterMap.2 ⟨e.input, mem, time⟩

/-- What holds of a gauge that was new when the record began. -/
structure Recalls (supply : Supply) (minPercent : Nat) (g : Gauge) (log : List Entry) : Prop where
  level_eq : g.level = (measured log).getLast?.bind measure
  refreshedAt_eq : g.refreshedAt = (polled log).getLast?
  minPercent_eq : g.minPercent = minPercent
  supply_eq : g.supply.reading = (Feed.after { supply } log).reading

namespace Recalls

variable {supply : Supply} {minPercent : Nat} {log : List Entry}

theorem take (r : g.Recalls supply minPercent log) (input : Input) :
    (g.take input).Recalls supply minPercent (log ++ [⟨input, g.readings? input⟩]) := by
  refine ⟨?_, ?_, ?_, ?_⟩
  · rw [take_level, r.level_eq]
    cases g.readings? input <;> simp [measured]
  · rw [take_refreshedAt, r.refreshedAt_eq]
    cases polledAt : Entry.polledAt? ⟨input, g.readings? input⟩ <;> simp [polled, polledAt]
  · rw [take_minPercent, r.minPercent_eq]
  · rw [Feed.after_concat]
    exact take_supply g _ r.supply_eq input

theorem readings?_eq (r : g.Recalls supply minPercent log) (input : Input) :
    g.readings? input =
      if measures log input then some ((List.range 8).map (Feed.after { supply } log).reading)
      else none := by
  have drawn : (g.supply.take readingsPerMeasurement).1 =
      (List.range 8).map (Feed.after { supply } log).reading := by
    rw [Supply.take_fst, r.supply_eq]
    rfl
  cases input with
  | refresh => exact congrArg some drawn
  | supply => rfl
  | poll now =>
    have due : g.isDue now = measures log (.poll now) := by
      rw [measures, ← r.refreshedAt_eq, isDue]
      cases g.refreshedAt <;> rfl
    rw [readings?, due, drawn]

end Recalls

theorem recalls_after (supply : Supply) (minPercent : Nat) (history : List Input) :
    ((fresh supply minPercent).after history).Recalls supply minPercent
      ((fresh supply minPercent).record history) := by
  induction history using List.reverseRecOn with
  | nil => exact ⟨rfl, rfl, rfl, funext fun k => congrArg supply.reading (Nat.zero_add k).symm⟩
  | append_singleton history input ih =>
    rw [after_concat, record_concat]
    exact ih.take input

theorem readings?_of_split {supply : Supply} {minPercent : Nat} {history : List Input}
    {earlier later : List Entry} {e : Entry}
    (split : (fresh supply minPercent).record history = earlier ++ e :: later) :
    e.readings? =
      if measures earlier e.input
      then some ((List.range 8).map (Feed.after { supply } earlier).reading) else none := by
  obtain ⟨past, input, rfl, rfl⟩ := record_split split
  exact (recalls_after supply minPercent past).readings?_eq input

theorem length_of_mem_measured {supply : Supply} {minPercent : Nat} {history : List Input}
    {readings : List RawReading}
    (h : readings ∈ measured ((fresh supply minPercent).record history)) :
    readings.length = 8 := by
  obtain ⟨e, he, taken⟩ := List.mem_filterMap.1 h
  obtain ⟨_, _, split⟩ := List.append_of_mem he
  rw [readings?_of_split split, Option.ite_none_right_eq_some] at taken
  rw [← Option.some.inj taken.2, List.length_map, List.length_range]

theorem percent_eq (g : Gauge) : g.percent = g.level.elim 0 Battery.percent := by
  unfold percent
  cases g.level <;> rfl

theorem percent_le_of_level {h : Gauge} (le : Option.Rel (· ≤ ·) g.level h.level) :
    g.percent ≤ h.percent := by
  obtain ⟨_, _, level, _⟩ := g
  obtain ⟨_, _, level', _⟩ := h
  cases le with
  | none => exact Nat.le_refl 0
  | some le => exact percent_le_percent le

theorem isSafe_of_level {h : Gauge} (le : Option.Rel (· ≤ ·) g.level h.level)
    (same : g.minPercent = h.minPercent) (safe : g.isSafe = true) : h.isSafe = true := by
  have enough := percent_le_of_level le
  have known : g.level.isSome = h.level.isSome := by
    obtain ⟨_, _, level, _⟩ := g
    obtain ⟨_, _, level', _⟩ := h
    cases le <;> rfl
  simp only [isSafe, Bool.and_eq_true, decide_eq_true_eq, known, same] at safe ⊢
  exact ⟨safe.1, safe.2.trans enough⟩

/-- A poll that does not measure comes soon after one that did. -/
theorem recent_of_poll {supply : Supply} {minPercent : Nat} {log : List Entry}
    (r : g.Recalls supply minPercent log) (now : Nat) (ordered : ∀ t ∈ polled log, t ≤ now) :
    ∃ t ∈ polled (log ++ [⟨.poll now, g.readings? (.poll now)⟩]), t ≤ now ∧ now < t + 30000 := by
  by_cases due : g.isDue now
  · refine ⟨now, ?_, Nat.le_refl _, by omega⟩
    simp [polled, readings?, due, Entry.polledAt?, Input.time?]
  · rcases last : g.refreshedAt with _ | t
    · simp [isDue, last] at due
    · have taken : t ∈ polled log := List.mem_of_getLast? (r.refreshedAt_eq.symm.trans last)
      have recent : ¬ refreshInterval ≤ now - t := by simpa [isDue, last] using due
      rw [refreshInterval] at recent
      have past := ordered t taken
      refine ⟨t, ?_, past, by omega⟩
      rw [polled, List.filterMap_append]
      exact List.mem_append_left _ taken

/-- Whatever the calls, a measurement reads the next eight readings of the supply that was given last,
and nothing that it computes outgrows its word. The level lies between what the least and the greatest
reading of the last measurement stand for; a gauge whose last measurement read as much or more says no
less and is no less safe; and where every reading failed, nothing is left of what was known before.
When polls keep to the order of time, each follows within the interval upon one that measured, or
measures itself. -/
theorem gate_is_monotone_and_fail_safe (supply : Supply) (minPercent : Nat)
    (history : List Input) :
    let log := (fresh supply minPercent).record history
    let gauge := (fresh supply minPercent).after history
    log.map Entry.input = history ∧
    (∀ earlier e later, log = earlier ++ e :: later →
      e.readings? =
        if measures earlier e.input
        then some ((List.range 8).map (Feed.after { supply } earlier).reading) else none) ∧
    (∀ readings ∈ measured log,
      (good readings).sum < 2 ^ 32 ∧ mean (good readings) < 2 ^ 16 ∧
        mean (good readings) * referenceMillivolts < 2 ^ 32 ∧
        millivolts (mean (good readings)) < 2 ^ 32) ∧
    (∀ readings, (measured log).getLast? = some readings →
      readings.length = 8 ∧
      (good readings ≠ [] →
        ∃ lo hi mv, (good readings).min? = some lo ∧ (good readings).max? = some hi ∧
          gauge.level = some mv ∧ millivolts lo ≤ mv ∧ mv ≤ millivolts hi) ∧
      (good readings = [] → gauge.isSafe = false ∧ gauge.percent = 0)) ∧
    (∀ supply' history',
      Option.Rel AtMost (measured log).getLast?
        (measured ((fresh supply' minPercent).record history')).getLast? →
      gauge.percent ≤ ((fresh supply' minPercent).after history').percent ∧
      (gauge.isSafe = true → ((fresh supply' minPercent).after history').isSafe = true)) ∧
    (∀ now, ((history ++ [Input.poll now]).filterMap Input.time?).Pairwise (· ≤ ·) →
      ∃ t ∈ polled ((fresh supply minPercent).record (history ++ [Input.poll now])),
        t ≤ now ∧ now < t + 30000) := by
  intro log gauge
  have recalls := recalls_after supply minPercent history
  refine ⟨inputs_record _ _, fun _ _ _ => readings?_of_split, fun readings taken => ?_, ?_, ?_, ?_⟩
  · exact measure_fits readings (length_of_mem_measured taken).le
  · intro readings last
    have level : gauge.level = measure readings := by
      rw [recalls.level_eq, last, Option.bind_some]
    refine ⟨length_of_mem_measured (List.mem_of_getLast? last), ?_, ?_⟩
    · intro some
      rw [level]
      exact measure_between readings some
    · intro none
      have unknown : gauge.level = .none := by rw [level, measure_eq, if_pos none]
      rw [isSafe, percent_eq, unknown]
      exact ⟨rfl, rfl⟩
  · intro supply' history' atMost
    have recalls' := recalls_after supply' minPercent history'
    have le := rel_measure atMost
    rw [← recalls.level_eq, ← recalls'.level_eq] at le
    exact ⟨percent_le_of_level le,
      isSafe_of_level le (recalls.minPercent_eq.trans recalls'.minPercent_eq.symm)⟩
  · intro now ordered
    rw [List.filterMap_append, List.pairwise_append] at ordered
    rw [record_concat]
    refine recent_of_poll recalls now fun t ht => ?_
    exact ordered.2.2 t (time_of_mem_polled ht) now (List.mem_singleton_self now)

end Gauge

end DoughAnalyzer.Battery

import DoughAnalyzer.Proofs.Link.History
import Mathlib.Data.List.Chain

/-!
The budget of requests. A station that leaves its rest begins a campaign; while it lasts, the number
of the attempt counts its requests, which keep their distance. It ends in failure only when the
whole budget has been spent on it and one more interval has passed without a link.
-/

set_option autoImplicit false

namespace DoughAnalyzer.Link

def State.isResting : State → Bool
  | idle | connected => true
  | connecting _ | suspended | failed => false

namespace Station

def Entry.requestTimes (e : Entry) : List Nat :=
  match e.input with
  | .poll now => List.replicate (e.after.radio.requests - e.before.radio.requests) now
  | .suspend | .resume | .reach _ => []

def requestTimes (log : List Entry) : List Nat := log.flatMap Entry.requestTimes

def Entry.leavesRest (e : Entry) : Bool :=
  e.before.state.isResting && e.after.state ≠ e.before.state

def extend (campaign : List Entry) (e : Entry) : List Entry :=
  if e.leavesRest then [e] else campaign ++ [e]

/-- The last part of a record, from the input on with which the station last left its rest; all of
it, if the station never did. -/
def sinceRest (log : List Entry) : List Entry := log.foldl extend []

theorem requestTimes_concat (log : List Entry) (e : Entry) :
    requestTimes (log ++ [e]) = requestTimes log ++ e.requestTimes := by
  simp [requestTimes]

theorem extend_of_trying {campaign : List Entry} {e : Entry} {attempt : Nat}
    (trying : e.before.state = .connecting attempt) : extend campaign e = campaign ++ [e] := by
  simp [extend, Entry.leavesRest, trying, State.isResting]

theorem sinceRest_concat (log : List Entry) (e : Entry) :
    sinceRest (log ++ [e]) = extend (sinceRest log) e := by
  simp [sinceRest]

theorem Transition.requests_eq {s r : Station} {i : Input} (t : Transition s i r) :
    r.radio.requests = s.radio.requests + (Entry.requestTimes ⟨i, s, r⟩).length := by
  cases t <;>
    simp [Entry.requestTimes, asked, Radio.request, Radio.powerDown, Radio.powerUp, setReachable]

theorem interval_of_due {s : Station} {now last : Nat} (due : s.isDue now = true)
    (asked : s.lastAttemptAt = some last) : last + retryInterval ≤ now := by
  have passed : retryInterval ≤ now - last := by simpa [isDue, asked] using due
  have interval : 0 < retryInterval := by decide
  omega

/-- What the record of a campaign shows while the station is at some attempt. -/
structure Campaign (s : Station) (attempt : Nat) (campaign : List Entry) : Prop where
  counted : (requestTimes campaign).length = attempt
  positive : 1 ≤ attempt
  within : attempt ≤ s.maxAttempts
  spaced : (requestTimes campaign).IsChain fun t u => t + retryInterval ≤ u
  last : (requestTimes campaign).getLast? = s.lastAttemptAt
  unbroken : ∀ e ∈ campaign, ∃ attempt, e.after.state = .connecting attempt

theorem add_mul_le_of_isChain {d first last : Nat} {times : List Nat}
    (spaced : (first :: times).IsChain fun t u => t + d ≤ u)
    (ends : (first :: times).getLast? = some last) : first + d * times.length ≤ last := by
  induction times generalizing first with
  | nil =>
    cases ends
    simp
  | cons second times ih =>
    obtain ⟨apart, later⟩ := List.isChain_cons_cons.1 spaced
    have rest := ih later (by simpa using ends)
    rw [List.length_cons, Nat.mul_succ]
    omega

namespace Campaign

theorem first {s : Station} {e : Entry} {now : Nat} (budget : 0 < s.maxAttempts)
    (asks : e.requestTimes = [now]) (last : s.lastAttemptAt = some now)
    (trying : e.after.state = .connecting 1) : Campaign s 1 [e] where
  counted := by simp [requestTimes, asks]
  positive := Nat.le_refl 1
  within := budget
  spaced := by simp [requestTimes, asks]
  last := by simp [requestTimes, asks, last]
  unbroken := by simpa using ⟨1, trying⟩

theorem quiet {s r : Station} {attempt : Nat} {campaign : List Entry} {e : Entry}
    (h : Campaign s attempt campaign) (silent : e.requestTimes = [])
    (trying : e.after.state = .connecting attempt) (budget : r.maxAttempts = s.maxAttempts)
    (last : r.lastAttemptAt = s.lastAttemptAt) : Campaign r attempt (campaign ++ [e]) := by
  have same : requestTimes (campaign ++ [e]) = requestTimes campaign := by
    rw [requestTimes_concat, silent, List.append_nil]
  refine ⟨same ▸ h.counted, h.positive, budget ▸ h.within, same ▸ h.spaced, ?_, ?_⟩
  · rw [same, last, h.last]
  · simpa [or_imp, forall_and] using ⟨h.unbroken, attempt, trying⟩

theorem retry {s r : Station} {attempt now : Nat} {campaign : List Entry} {e : Entry}
    (h : Campaign s attempt campaign) (asks : e.requestTimes = [now])
    (trying : e.after.state = .connecting (attempt + 1)) (due : s.isDue now = true)
    (allowed : attempt < r.maxAttempts) (last : r.lastAttemptAt = some now) :
    Campaign r (attempt + 1) (campaign ++ [e]) := by
  have longer : requestTimes (campaign ++ [e]) = requestTimes campaign ++ [now] := by
    rw [requestTimes_concat, asks]
  refine ⟨?_, Nat.succ_pos _, allowed, ?_, ?_, ?_⟩
  · rw [longer, List.length_append, h.counted, List.length_singleton]
  · rw [longer]
    refine h.spaced.append (List.isChain_singleton now) fun t ht u hu => ?_
    rw [h.last] at ht
    obtain rfl : now = u := by simpa using hu
    exact interval_of_due due ht
  · rw [longer, last, List.getLast?_concat]
  · simpa [or_imp, forall_and] using ⟨h.unbroken, attempt + 1, trying⟩

/-- When nothing is left of the budget, a poll that is due comes one interval for each request after
the first one. -/
theorem exhausted {s : Station} {attempt now : Nat} {campaign : List Entry}
    (h : Campaign s attempt campaign) (due : s.isDue now = true)
    (spent : s.maxAttempts ≤ attempt) :
    ∃ first later, requestTimes campaign = first :: later ∧ later.length + 1 = s.maxAttempts ∧
      first + retryInterval * s.maxAttempts ≤ now := by
  obtain ⟨counted, positive, within, spaced, ends, -⟩ := h
  cases times : requestTimes campaign with
  | nil =>
    rw [times, List.length_nil] at counted
    omega
  | cons first later =>
    rw [times] at counted spaced ends
    have whole : later.length + 1 = s.maxAttempts := by
      rw [List.length_cons] at counted
      omega
    have latest := List.getLast?_eq_some_getLast (List.cons_ne_nil first later)
    have apart := add_mul_le_of_isChain spaced latest
    have passed := interval_of_due due (ends.symm.trans latest)
    refine ⟨first, later, rfl, whole, ?_⟩
    rw [← whole, Nat.mul_succ]
    omega

end Campaign

theorem requestTimes_asked {s r : Station} (same : r.radio = s.radio) (attempt now : Nat) :
    Entry.requestTimes ⟨.poll now, s, r.asked attempt now⟩ = [now] := by
  simp [Entry.requestTimes, asked, Radio.request, same]

theorem Transition.campaign {s r : Station} {i : Input} {part : List Entry}
    (t : Transition s i r) (budget : 0 < s.maxAttempts)
    (h : ∀ attempt, s.state = .connecting attempt → Campaign s attempt part) (attempt : Nat)
    (trying : r.state = .connecting attempt) : Campaign r attempt (extend part ⟨i, s, r⟩) := by
  have quiet (r : Station) (silent : Entry.requestTimes ⟨i, s, r⟩ = [])
      (same : r.state = s.state) (budget : r.maxAttempts = s.maxAttempts)
      (last : r.lastAttemptAt = s.lastAttemptAt) (trying : r.state = .connecting attempt) :
      Campaign r attempt (extend part ⟨i, s, r⟩) := by
    have before : s.state = .connecting attempt := same.symm.trans trying
    rw [extend_of_trying before]
    exact (h attempt before).quiet silent trying budget last
  cases t with
  | opened now idle =>
    cases trying
    rw [extend, if_pos (by simp [Entry.leavesRest, idle, State.isResting, asked])]
    exact .first budget (requestTimes_asked rfl 1 now) rfl rfl
  | lost now connected down =>
    cases trying
    rw [extend, if_pos (by simp [Entry.leavesRest, connected, State.isResting, asked])]
    exact .first budget (requestTimes_asked rfl 1 now) rfl rfl
  | retried now made before down due allowed =>
    cases trying
    rw [extend_of_trying before]
    exact (h made before).retry (requestTimes_asked rfl _ now) rfl due allowed rfl
  | waited | pollIgnored | suspendIgnored | resumeIgnored =>
    exact quiet s (by simp [Entry.requestTimes]) rfl rfl rfl trying
  | reached on => exact quiet _ rfl rfl rfl rfl trying
  | held now connected => exact absurd (connected.symm.trans trying) nofun
  | associated | gaveUp | suspended | resumed => cases trying

theorem campaign_after (radio : Radio) (maxAttempts : Nat) (history : List Input) {attempt : Nat}
    (trying : ((ofRadio radio maxAttempts).after history).state = .connecting attempt) :
    Campaign ((ofRadio radio maxAttempts).after history) attempt
      (sinceRest ((ofRadio radio maxAttempts).record history)) := by
  refine history_induction (P := fun s log => ∀ attempt, s.state = .connecting attempt →
    Campaign s attempt (sinceRest log)) (ofRadio_budget radio maxAttempts) nofun ?_ history attempt
    trying
  intro s log i r budget t h attempt trying
  rw [sinceRest_concat]
  exact t.campaign budget h attempt trying

theorem requests_after (reachable : Bool) (maxAttempts : Nat) (history : List Input) :
    (requestTimes ((ofRadio { reachable } maxAttempts).record history)).length =
      ((ofRadio { reachable } maxAttempts).after history).radio.requests := by
  refine history_induction (P := fun s log => (requestTimes log).length = s.radio.requests)
    (ofRadio_budget _ maxAttempts) rfl (fun s log i r _ t h => ?_) history
  rw [requestTimes_concat, List.length_append, h, t.requests_eq]

theorem Transition.failing {s r : Station} {i : Input} {part : List Entry}
    (t : Transition s i r) (working : s.state ≠ .failed) (failed : r.state = .failed)
    (h : ∀ attempt, s.state = .connecting attempt → Campaign s attempt part) :
    ∃ now first later, i = .poll now ∧ s.radio.isUp = false ∧
      requestTimes (extend part ⟨i, s, r⟩) = first :: later ∧ later.length + 1 = s.maxAttempts ∧
      first + retryInterval * s.maxAttempts ≤ now ∧
      ∀ e ∈ extend part ⟨i, s, r⟩, e.after.state ≠ .connected ∧ e.after.state ≠ .suspended := by
  cases t with
  | gaveUp now attempt trying down due spent =>
    have c := h attempt trying
    obtain ⟨first, later, times, whole, late⟩ := c.exhausted due spent
    rw [extend_of_trying trying]
    refine ⟨now, first, later, rfl, down, ?_, whole, late, fun e he => ?_⟩
    · rw [requestTimes_concat, times]
      simp [Entry.requestTimes]
    · rcases List.mem_append.1 he with he | he
      · obtain ⟨attempt, after⟩ := c.unbroken e he
        simp [after]
      · cases List.mem_singleton.1 he
        simp
  | waited | pollIgnored | suspendIgnored | resumeIgnored | held | reached =>
    exact absurd failed working
  | opened | associated | retried | lost | suspended | resumed => cases failed

theorem Transition.of_failed {s r : Station} {i : Input} (t : Transition s i r)
    (failed : s.state = .failed) : r.state = .failed ∧ r.radio.requests = s.radio.requests := by
  cases t with
  | pollIgnored | suspendIgnored | resumeIgnored | reached => exact ⟨failed, rfl⟩
  | _ => simp_all

theorem failed_after {s : Station} (budget : 0 < s.maxAttempts) (failed : s.state = .failed)
    (later : List Input) :
    (s.after later).state = .failed ∧ (s.after later).radio.requests = s.radio.requests := by
  refine history_induction (P := fun r _ => r.state = .failed ∧
    r.radio.requests = s.radio.requests) budget ⟨failed, rfl⟩ (fun _ _ _ _ _ t h => ?_) later
  have stays := t.of_failed h.1
  exact ⟨stays.1, stays.2.trans h.2⟩

/-- While a station is trying, it has made as many requests since it left its rest as its attempt
says, one at least, never more than its budget, and with an interval between any two. It fails only
in a poll that finds no link, when all requests of the budget have been made without a connection or
a suspension in between and an interval has passed since the last one. After that nothing changes
its state or makes a request. -/
theorem requests_keep_to_budget (reachable : Bool) (maxAttempts : Nat) (history : List Input) :
    let start := ofRadio { reachable } maxAttempts
    let s := start.after history
    (requestTimes (start.record history)).length = s.radio.requests ∧
    (∀ attempt, s.state = .connecting attempt →
      let times := requestTimes (sinceRest (start.record history))
      times.length = attempt ∧ 1 ≤ attempt ∧ attempt ≤ max maxAttempts 1 ∧
        times.IsChain fun t u => t + 1000 ≤ u) ∧
    (∀ i, s.state ≠ .failed → (s.take i).state = .failed →
      let campaign := sinceRest (start.record (history ++ [i]))
      ∃ now first later, i = .poll now ∧ s.radio.isUp = false ∧
        requestTimes campaign = first :: later ∧ later.length + 1 = max maxAttempts 1 ∧
        first + 1000 * max maxAttempts 1 ≤ now ∧
        ∀ e ∈ campaign, e.after.state ≠ .connected ∧ e.after.state ≠ .suspended) ∧
    (s.state = .failed → ∀ later,
      (s.after later).state = .failed ∧ (s.after later).radio.requests = s.radio.requests) := by
  intro start s
  have budget : s.maxAttempts = max maxAttempts 1 := maxAttempts_after _ maxAttempts history
  refine ⟨requests_after reachable maxAttempts history, ?trying, ?failing, ?failed⟩
  case trying =>
    intro attempt trying
    have c := campaign_after _ maxAttempts history trying
    exact ⟨c.counted, c.positive, budget ▸ c.within, c.spaced⟩
  case failing =>
    intro i working failed campaign
    have extended : campaign = extend (sinceRest (start.record history)) ⟨i, s, s.take i⟩ := by
      rw [← sinceRest_concat, ← record_concat]
    rw [extended, ← budget]
    exact (transition_after _ maxAttempts history i).failing working failed
      fun attempt trying => campaign_after _ maxAttempts history trying
  case failed =>
    exact failed_after (by omega)

example :
    let s := (ofRadio ⟨false, false, true, 0⟩ 2).after
      [.poll 5, .poll 1004, .poll 1005, .reach true, .reach false, .poll 2005]
    s.state = .failed ∧ s.radio.requests = 2 := by decide

end Station

end DoughAnalyzer.Link

import DoughAnalyzer.Link.Station
import Mathlib.Data.List.Induction

set_option autoImplicit false

namespace DoughAnalyzer.Link.Station

inductive Input where
  | poll (now : Nat)
  | suspend
  | resume
  | reach (on : Bool)
  deriving DecidableEq, Repr

def take (s : Station) : Input → Station
  | .poll now => (s.poll now).1
  | .suspend => s.suspend.1
  | .resume => s.resume.1
  | .reach on => s.setReachable on

structure Entry where
  input : Input
  before : Station
  after : Station
  deriving DecidableEq, Repr

def after (s : Station) (history : List Input) : Station := history.foldl take s

def record (s : Station) : List Input → List Entry
  | [] => []
  | i :: rest => ⟨i, s, s.take i⟩ :: (s.take i).record rest

theorem after_concat (s : Station) (history : List Input) (i : Input) :
    s.after (history ++ [i]) = (s.after history).take i :=
  List.foldl_append

theorem record_concat (s : Station) (history : List Input) (i : Input) :
    s.record (history ++ [i]) =
      s.record history ++ [⟨i, s.after history, (s.after history).take i⟩] := by
  induction history generalizing s with
  | nil => rfl
  | cons j rest ih => exact congrArg _ (ih _)

def asked (s : Station) (attempt now : Nat) : Station :=
  { s with
    radio := s.radio.request, lastAttemptAt := some now, state := .connecting attempt }

inductive Transition (s : Station) : Input → Station → Prop where
  | opened (now : Nat) (idle : s.state = .idle) : Transition s (.poll now) (s.asked 1 now)
  | associated (now attempt : Nat) (trying : s.state = .connecting attempt)
      (up : s.radio.isUp = true) :
      Transition s (.poll now) { s with state := .connected, rssi := s.radio.rssi }
  | retried (now attempt : Nat) (trying : s.state = .connecting attempt)
      (down : s.radio.isUp = false) (due : s.isDue now = true)
      (allowed : attempt < s.maxAttempts) :
      Transition s (.poll now) (s.asked (attempt + 1) now)
  | gaveUp (now attempt : Nat) (trying : s.state = .connecting attempt)
      (down : s.radio.isUp = false) (due : s.isDue now = true) (spent : s.maxAttempts ≤ attempt) :
      Transition s (.poll now) { s with state := .failed }
  | waited (now attempt : Nat) (trying : s.state = .connecting attempt)
      (down : s.radio.isUp = false) (early : s.isDue now = false) : Transition s (.poll now) s
  | held (now : Nat) (connected : s.state = .connected) (up : s.radio.isUp = true) :
      Transition s (.poll now) { s with rssi := s.radio.rssi }
  | lost (now : Nat) (connected : s.state = .connected) (down : s.radio.isUp = false) :
      Transition s (.poll now) ({ s with rssi := none }.asked 1 now)
  | pollIgnored (now : Nat) (off : s.state = .suspended ∨ s.state = .failed) :
      Transition s (.poll now) s
  | suspended (working : s.state ≠ .failed) :
      Transition s .suspend
        { s with radio := s.radio.powerDown, state := .suspended, rssi := none }
  | suspendIgnored (failed : s.state = .failed) : Transition s .suspend s
  | resumed (asleep : s.state = .suspended) :
      Transition s .resume
        { s with radio := s.radio.powerUp, state := .idle, lastAttemptAt := none }
  | resumeIgnored (awake : s.state ≠ .suspended) : Transition s .resume s
  | reached (on : Bool) : Transition s (.reach on) (s.setReachable on)

theorem request_of_lt {s : Station} {made : Nat} (h : made < s.maxAttempts) (now : Nat) :
    (s.request made now).1 = s.asked (made + 1) now := by
  rw [request, if_neg (Nat.not_le.2 h)]
  rfl

theorem poll_transition {s : Station} (budget : 0 < s.maxAttempts) (now : Nat) :
    Transition s (.poll now) (s.poll now).1 := by
  unfold poll
  split
  case h_1 idle =>
    rw [request_of_lt budget]
    exact .opened now idle
  case h_2 attempt trying =>
    split
    case isTrue up => exact .associated now attempt trying up
    case isFalse down =>
      have down := Bool.eq_false_iff.2 down
      split
      case isTrue due =>
        by_cases allowed : attempt < s.maxAttempts
        · rw [request_of_lt allowed]
          exact .retried now attempt trying down due allowed
        · have spent := Nat.not_lt.1 allowed
          rw [request, if_pos spent]
          exact .gaveUp now attempt trying down due spent
      case isFalse early => exact .waited now attempt trying down (Bool.eq_false_iff.2 early)
  case h_3 connected =>
    split
    case isTrue up => exact .held now connected up
    case isFalse down =>
      have reopened := request_of_lt (s := { s with rssi := none }) budget now
      simp only [reopened]
      exact .lost now connected (Bool.eq_false_iff.2 down)
  case h_4 off => exact .pollIgnored now (.inl off)
  case h_5 off => exact .pollIgnored now (.inr off)

theorem take_transition {s : Station} (budget : 0 < s.maxAttempts) (i : Input) :
    Transition s i (s.take i) := by
  cases i with
  | poll now => exact poll_transition budget now
  | suspend =>
    by_cases failed : s.state = .failed
    · simp only [take, suspend, if_pos failed]
      exact .suspendIgnored failed
    · simp only [take, suspend, if_neg failed]
      exact .suspended failed
  | resume =>
    by_cases asleep : s.state = .suspended
    · simp only [take, resume, if_pos asleep]
      exact .resumed asleep
    · simp only [take, resume, if_neg asleep]
      exact .resumeIgnored asleep
  | reach on => exact .reached on

theorem Transition.maxAttempts_eq {s r : Station} {i : Input} (t : Transition s i r) :
    r.maxAttempts = s.maxAttempts := by
  cases t <;> rfl

/-- What holds at first and is kept by every transition holds of every station with its record. -/
theorem history_induction {P : Station → List Entry → Prop} {s : Station}
    (budget : 0 < s.maxAttempts) (first : P s [])
    (step : ∀ s log i r, 0 < s.maxAttempts → Transition s i r → P s log →
      P r (log ++ [⟨i, s, r⟩]))
    (history : List Input) : P (s.after history) (s.record history) := by
  suffices h : 0 < (s.after history).maxAttempts ∧ P (s.after history) (s.record history) from h.2
  induction history using List.reverseRecOn with
  | nil => exact ⟨budget, first⟩
  | append_singleton history i ih =>
    rw [after_concat, record_concat]
    have t := take_transition ih.1 i
    exact ⟨t.maxAttempts_eq ▸ ih.1, step _ _ i _ ih.1 t ih.2⟩

theorem ofRadio_budget (radio : Radio) (maxAttempts : Nat) :
    0 < (ofRadio radio maxAttempts).maxAttempts :=
  Nat.lt_of_lt_of_le Nat.zero_lt_one (Nat.le_max_right maxAttempts 1)

theorem maxAttempts_after (radio : Radio) (maxAttempts : Nat) (history : List Input) :
    ((ofRadio radio maxAttempts).after history).maxAttempts = max maxAttempts 1 :=
  history_induction (P := fun s _ => s.maxAttempts = max maxAttempts 1)
    (ofRadio_budget radio maxAttempts) rfl (fun _ _ _ _ _ t h => t.maxAttempts_eq.trans h)
    history

theorem transition_after (radio : Radio) (maxAttempts : Nat) (history : List Input) (i : Input) :
    Transition ((ofRadio radio maxAttempts).after history) i
      (((ofRadio radio maxAttempts).after history).take i) :=
  take_transition ((maxAttempts_after radio maxAttempts history).symm ▸
    ofRadio_budget radio maxAttempts) i

end DoughAnalyzer.Link.Station

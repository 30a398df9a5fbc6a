import DoughAnalyzer.Update.Step
import Mathlib.Data.List.Induction

set_option autoImplicit false

namespace DoughAnalyzer.Update.Session

inductive Input where
  | call (c : Call)
  | fault (setting : Store.Setting)
  deriving DecidableEq, Repr

/-- A session before its first call, over a store that nobody has touched. -/
def fresh (capacity : Nat) (timing : Timing) : Session := .ofStore { capacity } timing

def take (s : Session) : Input → Outcome Reply
  | .call c => s.step c
  | .fault f => ⟨{ s with store := s.store.set f }, .nothing, []⟩

def Reply.accepts : Reply → Bool
  | .verdict (.ok ()) => true
  | .verdict (.error _) | .poll _ | .nothing => false

theorem Reply.accepts_iff (r : Reply) : r.accepts = true ↔ r = .verdict (.ok ()) := by
  unfold accepts
  split <;> simp

structure Entry where
  input : Input
  outcome : Outcome Reply

def after (s : Session) : List Input → Session
  | [] => s
  | i :: rest => (s.take i).session.after rest

def record (s : Session) : List Input → List Entry
  | [] => []
  | i :: rest => ⟨i, s.take i⟩ :: (s.take i).session.record rest

theorem after_append (s : Session) (x y : List Input) : s.after (x ++ y) = (s.after x).after y := by
  induction x generalizing s with
  | nil => rfl
  | cons i x ih => exact ih _

theorem after_append_singleton (s : Session) (x : List Input) (i : Input) :
    s.after (x ++ [i]) = ((s.after x).take i).session :=
  after_append s x [i]

theorem record_append (s : Session) (x y : List Input) :
    s.record (x ++ y) = s.record x ++ (s.after x).record y := by
  induction x generalizing s with
  | nil => rfl
  | cons i x ih => exact congrArg _ (ih _)

theorem record_append_singleton (s : Session) (x : List Input) (i : Input) :
    s.record (x ++ [i]) = s.record x ++ [⟨i, (s.after x).take i⟩] :=
  record_append s x [i]

theorem record_induction {P : Session → List Entry → Prop} {s : Session} (log : List Entry)
    (first : P s log)
    (step : ∀ s log i, P s log → P (s.take i).session (log ++ [⟨i, s.take i⟩]))
    (history : List Input) : P (s.after history) (log ++ s.record history) := by
  induction history generalizing s log with
  | nil => simpa [after, record] using first
  | cons i rest ih =>
    have h := ih _ (step s log i first)
    rwa [List.append_assoc] at h

theorem after_induction {P : Session → Prop} {s : Session} (first : P s)
    (step : ∀ s i, P s → P (s.take i).session) (history : List Input) : P (s.after history) :=
  record_induction (P := fun s _ => P s) [] first (fun s _ i h => step s i h) history

/-- For what holds as long as nobody resets the session. -/
@[elab_as_elim]
theorem unreset_induction {P : List Input → Prop} (first : P [])
    (step : ∀ x i, i ≠ .call .reset → P x → P (x ++ [i])) {history : List Input}
    (unreset : .call .reset ∉ history) : P history := by
  induction history using List.reverseRecOn with
  | nil => exact first
  | append_singleton x i ih =>
    simp only [List.mem_append, List.mem_singleton, not_or] at unreset
    exact step x i (fun hi => unreset.2 hi.symm) (ih unreset.1)

/-- The last announcement that was accepted, and the pieces accepted since, joined in the order of
their arrival. -/
structure Delivery where
  announcement : Option Wire.Announcement
  image : Octets

namespace Delivery

def none : Delivery := ⟨.none, []⟩

def add (d : Delivery) (e : Entry) : Delivery :=
  match e.input, e.outcome.result with
  | .call (.start a _ _), .verdict (.ok ()) => ⟨some a, []⟩
  | .call (.chunk c _), .verdict (.ok ()) => ⟨d.announcement, d.image ++ c.payload⟩
  | _, _ => d

def ofRecord (log : List Entry) : Delivery := log.foldl add none

theorem ofRecord_append_singleton (log : List Entry) (e : Entry) :
    ofRecord (log ++ [e]) = (ofRecord log).add e := by
  simp [ofRecord]

end Delivery

end DoughAnalyzer.Update.Session

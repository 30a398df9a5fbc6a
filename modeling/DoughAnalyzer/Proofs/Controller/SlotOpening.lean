import DoughAnalyzer.Proofs.Controller.Sleep
import DoughAnalyzer.Proofs.Update.Download

set_option autoImplicit false

namespace DoughAnalyzer

namespace Update.Session

def opens (s : Session) : Input → Bool
  | .call (.start a safe _) =>
    s.acceptsAnnouncement && safe && a.size ≠ 0 && s.store.hasSlot
      && a.size.toNat ≤ s.store.capacity && !s.store.failOpen
  | _ => false

def Input.announcement? : Input → Option Wire.Announcement
  | .call (.start a _ _) => some a
  | _ => none

variable {s : Session} {i : Input} {o : Outcome Reply}

end Update.Session

open Update (Session)

def Wire.Frame.announcement? (topics : Wire.Topics) (frame : Wire.Frame) :
    Option Wire.Announcement :=
  match Wire.Router.classify topics frame.topic frame.payload with
  | .ok (.announcement a) => some a
  | _ => none

variable {topics : Wire.Topics} {now : Nat}

theorem Wire.Frame.Brings.announcements {frame : Wire.Frame} {inputs : List Session.Input}
    (h : frame.Brings topics now inputs) :
    inputs.filterMap Session.Input.announcement? = (frame.announcement? topics).toList := by
  unfold Wire.Frame.announcement?
  cases h with
  | refused h => rw [h]; rfl
  | read h brings => cases brings <;> rw [h] <;> rfl

theorem announcements_brought {frames : List Wire.Frame} {brought : List (List Session.Input)}
    (h : List.Forall₂ (Wire.Frame.Brings topics now) frames brought) :
    brought.flatten.filterMap Session.Input.announcement? =
      frames.filterMap (·.announcement? topics) := by
  induction h with
  | nil => rfl
  | @cons frame inputs frames brought first _ ih =>
    rw [List.flatten_cons, List.filterMap_append, ih, first.announcements, List.filterMap_cons]
    cases frame.announcement? topics <;> rfl

namespace Controller

open Dialogue (Runs)

variable {c c' : Controller} {exchanges : List Exchange} {log : List (List Exchange)}

theorem Course.session_eq (t : c.Course) :
    ∃ inputs, t.worked.session = c.session.after inputs ∧
      inputs.filterMap Session.Input.announcement? =
        (framesTaken t.exchanges).filterMap (·.announcement? c.topics) ∧
      c.session.powerAnswers inputs = powerAnswers t.exchanges := by
  obtain ⟨resumed, brought, hresumed, hbrought, fed, hpower⟩ := t.feeds
  obtain ⟨-, works⟩ := t.sleepRequests_eq
  refine ⟨_, works.session.trans fed.session, ?_, ?_⟩
  · have none : resumed.filterMap Session.Input.announcement? = [] := by
      rcases hresumed with rfl | rfl <;> rfl
    rw [List.filterMap_append, List.filterMap_append, none, announcements_brought hbrought,
      ← framesTaken_inboxWork t.exchanges, t.inboxWork_eq, framesTaken_inboxWork]
    exact List.append_nil _
  · rw [← hpower, ← powerAnswers_inboxWork t.exchanges, t.inboxWork_eq, powerAnswers_inboxWork]

def oneOctetAnnounced : Wire.Frame where
  topic := "analyzer/a/ota/start"
  payload := "\x7b\"version\":\"2\",\"size\":1,\"crc32\":0\x7d".toUTF8.toList

end Controller

end DoughAnalyzer

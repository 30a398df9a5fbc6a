import DoughAnalyzer.Inbox
import Mathlib.Data.List.Induction
import Mathlib.Order.Lattice

/-!
What goes through the inbox. One thread pushes received messages, each tried again while the queue is
full; between any two of its attempts the control loop may take frames, and the connection may come
and go. A schedule says who moves when. `Delivers` is what every move keeps: the frames taken and
those that still wait are the accepted ones, in order.
-/

set_option autoImplicit false

namespace DoughAnalyzer.Inbox

structure Message where
  topic : String
  payload : Octets
  deriving DecidableEq, Repr

namespace Message

def frame (m : Message) : Wire.Frame := ⟨m.topic, m.payload⟩

def Fits (m : Message) : Prop := m.topic.utf8ByteSize ≤ 96 ∧ m.payload.length ≤ 4104

instance (m : Message) : Decidable m.Fits := inferInstanceAs (Decidable (_ ∧ _))

theorem make?_eq (m : Message) :
    Wire.Frame.make? m.topic m.payload = if m.Fits then some m.frame else none := by
  simp only [Wire.Frame.make?, Text.fits, Bool.and_eq_true, decide_eq_true_eq]
  rfl

end Message

/-- The queue between the two threads, and the messages that are still to be pushed. The first of
them may have been tried before, in vain. -/
structure Exchange where
  inbox : Inbox := {}
  outgoing : List Message
  tried : Nat := 0
  deriving DecidableEq, Repr

inductive Move where
  | push
  | pop
  | connected (up : Bool)
  | fatal
  deriving DecidableEq, Repr

namespace Move

def isTraffic : Move → Bool
  | push | pop => true
  | connected _ | fatal => false

end Move

/-- What a call returns. An attempt that is to be repeated returns nothing yet. -/
inductive Answer where
  | nothing
  | pushed (m : Message) (accepted : Bool)
  | popped (frame : Option Wire.Frame)
  deriving DecidableEq, Repr

namespace Exchange

/-- One attempt at the first outgoing message. It is given up at once if no frame can hold it, and
otherwise when it was repeated often enough. -/
def attempt (retries : Nat) (x : Exchange) : Exchange × Answer :=
  match x.outgoing with
  | [] => (x, .nothing)
  | m :: rest =>
    let (accepted, inbox, _) := x.inbox.push m.topic m.payload
    if !accepted && (Wire.Frame.make? m.topic m.payload).isSome && x.tried < retries then
      ({ x with inbox, tried := x.tried + 1 }, .nothing)
    else (⟨inbox, rest, 0⟩, .pushed m accepted)

def step (retries : Nat) (x : Exchange) : Move → Exchange × Answer
  | .push => x.attempt retries
  | .pop =>
    let (frame, inbox) := x.inbox.pop
    ({ x with inbox }, .popped frame)
  | .connected up => ({ x with inbox := { x.inbox with connected := up } }, .nothing)
  | .fatal => ({ x with inbox := { x.inbox with fatal := true } }, .nothing)

end Exchange

structure Entry where
  before : Exchange
  answer : Answer
  after : Exchange
  deriving DecidableEq, Repr

namespace Entry

def accepted? (e : Entry) : Option Wire.Frame :=
  match e.answer with
  | .pushed m true => some m.frame
  | .pushed _ false | .popped _ | .nothing => none

def returned? (e : Entry) : Option Message :=
  match e.answer with
  | .pushed m _ => some m
  | .popped _ | .nothing => none

def popped? (e : Entry) : Option Wire.Frame :=
  match e.answer with
  | .popped frame => frame
  | .pushed .. | .nothing => none

end Entry

def accepted (log : List Entry) : List Wire.Frame := log.filterMap Entry.accepted?

def popped (log : List Entry) : List Wire.Frame := log.filterMap Entry.popped?

def returned (log : List Entry) : List Message := log.filterMap Entry.returned?

def answers (log : List Entry) : List Answer := (log.map Entry.answer).filter (· ≠ .nothing)

theorem accepted_concat (log : List Entry) (e : Entry) :
    accepted (log ++ [e]) = accepted log ++ e.accepted?.toList := by
  cases found : e.accepted? <;> simp [accepted, found]

theorem popped_concat (log : List Entry) (e : Entry) :
    popped (log ++ [e]) = popped log ++ e.popped?.toList := by
  cases found : e.popped? <;> simp [popped, found]

theorem returned_concat (log : List Entry) (e : Entry) :
    returned (log ++ [e]) = returned log ++ e.returned?.toList := by
  cases found : e.returned? <;> simp [returned, found]

namespace Exchange

variable {retries : Nat}

def after (retries : Nat) (x : Exchange) (schedule : List Move) : Exchange :=
  schedule.foldl (fun x move => (x.step retries move).1) x

def record (retries : Nat) (x : Exchange) : List Move → List Entry
  | [] => []
  | move :: rest =>
    ⟨x, (x.step retries move).2, (x.step retries move).1⟩ ::
      (x.step retries move).1.record retries rest

theorem after_concat (x : Exchange) (schedule : List Move) (move : Move) :
    x.after retries (schedule ++ [move]) = ((x.after retries schedule).step retries move).1 :=
  List.foldl_append

theorem record_concat (x : Exchange) (schedule : List Move) (move : Move) :
    x.record retries (schedule ++ [move]) =
      x.record retries schedule ++
        [⟨x.after retries schedule, ((x.after retries schedule).step retries move).2,
          ((x.after retries schedule).step retries move).1⟩] := by
  induction schedule generalizing x with
  | nil => rfl
  | cons first rest ih => exact congrArg _ (ih _)

/-- Everything that may come of a move. -/
inductive Transition (retries : Nat) (x : Exchange) : Move → Answer → Exchange → Prop where
  | finished (none : x.outgoing = []) : Transition retries x .push .nothing x
  | accepted (m : Message) (rest : List Message) (first : x.outgoing = m :: rest) (fits : m.Fits)
      (room : x.inbox.pending < depth) :
      Transition retries x .push (.pushed m true)
        ⟨{ x.inbox with frames := x.inbox.frames ++ [m.frame] }, rest, 0⟩
  | postponed (m : Message) (rest : List Message) (first : x.outgoing = m :: rest)
      (full : depth ≤ x.inbox.pending) (again : x.tried < retries) :
      Transition retries x .push .nothing { x with tried := x.tried + 1 }
  | refused (m : Message) (rest : List Message) (first : x.outgoing = m :: rest)
      (why : ¬ (m.Fits ∧ x.inbox.pending < depth)) :
      Transition retries x .push (.pushed m false) ⟨x.inbox, rest, 0⟩
  | popped (frame : Wire.Frame) (rest : List Wire.Frame)
      (first : x.inbox.frames = frame :: rest) :
      Transition retries x .pop (.popped (some frame))
        { x with inbox := { x.inbox with frames := rest } }
  | empty (none : x.inbox.frames = []) : Transition retries x .pop (.popped .none) x
  | connected (up : Bool) :
      Transition retries x (.connected up) .nothing
        { x with inbox := { x.inbox with connected := up } }
  | fatal :
      Transition retries x .fatal .nothing { x with inbox := { x.inbox with fatal := true } }

end Exchange

theorem push_eq (i : Inbox) (m : Message) :
    ((i.push m.topic m.payload).1, (i.push m.topic m.payload).2.1) =
      if m.Fits ∧ i.pending < depth then (true, { i with frames := i.frames ++ [m.frame] })
      else (false, i) := by
  unfold push
  rw [m.make?_eq]
  by_cases fits : m.Fits
  · by_cases room : i.pending < depth
    · have room' : i.frames.length < depth := room
      simp [fits, room, room']
    · have full : ¬ i.frames.length < depth := room
      simp [fits, room, full]
  · simp [fits]

namespace Exchange

variable {retries : Nat} {x y : Exchange} {move : Move} {answer : Answer}

theorem attempt_eq (retries : Nat) {m : Message} {rest : List Message}
    (first : x.outgoing = m :: rest) :
    x.attempt retries =
      if m.Fits ∧ x.inbox.pending < depth then
        (⟨{ x.inbox with frames := x.inbox.frames ++ [m.frame] }, rest, 0⟩, .pushed m true)
      else if m.Fits ∧ x.tried < retries then ({ x with tried := x.tried + 1 }, .nothing)
      else (⟨x.inbox, rest, 0⟩, .pushed m false) := by
  have pushed := x.inbox.push_eq m
  have made : (Wire.Frame.make? m.topic m.payload).isSome = decide m.Fits := by
    rw [m.make?_eq]
    split <;> simp [*]
  unfold attempt
  simp only [first, made]
  by_cases taken : m.Fits ∧ x.inbox.pending < depth
  · rw [if_pos taken] at pushed ⊢
    simp only [Prod.mk.injEq] at pushed
    simp [pushed]
  · rw [if_neg taken] at pushed ⊢
    simp only [Prod.mk.injEq] at pushed
    simp [pushed]

theorem attempt_transition (retries : Nat) (x : Exchange) :
    Transition retries x .push (x.attempt retries).2 (x.attempt retries).1 := by
  cases first : x.outgoing with
  | nil =>
    simp only [attempt, first]
    exact .finished first
  | cons m rest =>
    rw [attempt_eq retries first]
    split
    case isTrue taken => exact .accepted m rest first taken.1 taken.2
    case isFalse why =>
      split
      case isTrue again =>
        exact .postponed m rest first (Nat.not_lt.1 fun room => why ⟨again.1, room⟩) again.2
      case isFalse => exact .refused m rest first why

theorem step_transition (retries : Nat) (x : Exchange) (move : Move) :
    Transition retries x move (x.step retries move).2 (x.step retries move).1 := by
  cases move with
  | push => exact attempt_transition retries x
  | pop =>
    cases waiting : x.inbox.frames with
    | nil =>
      simp only [step, pop, waiting]
      exact .empty waiting
    | cons frame rest =>
      simp only [step, pop, waiting]
      exact .popped frame rest waiting
  | connected up => exact .connected up
  | fatal => exact .fatal

/-- What holds of an exchange that began with an empty queue and these messages. -/
structure Delivers (messages : List Message) (x : Exchange) (log : List Entry) : Prop where
  ordered : Inbox.accepted log = Inbox.popped log ++ x.inbox.frames
  returned : Inbox.returned log ++ x.outgoing = messages
  bounded : x.inbox.pending ≤ depth

theorem Transition.delivers {messages : List Message} {log : List Entry}
    (t : Transition retries x move answer y) (d : x.Delivers messages log) :
    y.Delivers messages (log ++ [⟨x, answer, y⟩]) := by
  obtain ⟨ordered, returned, bounded⟩ := d
  refine ⟨?_, ?_, ?_⟩
  · rw [accepted_concat, popped_concat, ordered]
    cases t with
    | accepted => simp [Entry.accepted?, Entry.popped?]
    | popped frame rest first => simp [Entry.accepted?, Entry.popped?, first]
    | finished | postponed | refused | empty | connected | fatal =>
      simp [Entry.accepted?, Entry.popped?]
  · rw [returned_concat, ← returned]
    cases t with
    | accepted m rest first | refused m rest first => simp [Entry.returned?, first]
    | finished | postponed | popped | empty | connected | fatal => simp [Entry.returned?]
  · cases t with
    | accepted m rest first fits room => simpa [pending, Nat.succ_le_iff] using room
    | popped frame rest first =>
      simp only [pending, first, List.length_cons] at bounded
      exact Nat.le_of_succ_le bounded
    | finished | postponed | refused | empty | connected | fatal => exact bounded

theorem delivers_after (retries : Nat) (messages : List Message) (schedule : List Move) :
    (after retries { outgoing := messages } schedule).Delivers messages
      (record retries { outgoing := messages } schedule) := by
  induction schedule using List.reverseRecOn with
  | nil => exact ⟨rfl, rfl, Nat.zero_le _⟩
  | append_singleton schedule move ih =>
    rw [after_concat, record_concat]
    exact (step_transition retries _ move).delivers ih

/-- What holds once the one thread has made so many attempts. -/
structure Attempted (retries attempts : Nat) (x : Exchange) (log : List Entry) : Prop where
  tried_le : x.tried ≤ retries
  spent : x.outgoing ≠ [] → attempts ≤ (Inbox.returned log).length * (retries + 1) + x.tried

theorem Transition.attempted {attempts : Nat} {log : List Entry}
    (t : Transition retries x move answer y) (a : x.Attempted retries attempts log) :
    y.Attempted retries (attempts + [move].count .push) (log ++ [⟨x, answer, y⟩]) := by
  obtain ⟨tried_le, spent⟩ := a
  constructor
  · cases t with
    | accepted | refused => exact Nat.zero_le _
    | postponed m rest first full again => exact again
    | finished | popped | empty | connected | fatal => exact tried_le
  · intro left
    rw [returned_concat]
    cases t with
    | finished none => exact absurd none left
    | accepted m rest first | refused m rest first =>
      have before := spent (by simp [first])
      simp only [List.count_singleton_self, Entry.returned?, Option.toList_some,
        List.length_append, List.length_singleton, Nat.add_mul, Nat.one_mul]
      omega
    | postponed => simpa [Entry.returned?, ← Nat.add_assoc] using spent left
    | popped | empty | connected | fatal => simpa [Entry.returned?] using spent left

theorem attempted_after (retries : Nat) (messages : List Message) (schedule : List Move) :
    (after retries { outgoing := messages } schedule).Attempted retries (schedule.count .push)
      (record retries { outgoing := messages } schedule) := by
  induction schedule using List.reverseRecOn with
  | nil => exact ⟨Nat.zero_le _, fun _ => Nat.zero_le _⟩
  | append_singleton schedule move ih =>
    rw [after_concat, record_concat, List.count_append]
    exact (step_transition retries _ move).attempted ih

theorem returned_length (retries : Nat) (messages : List Message) (schedule : List Move) :
    min messages.length (schedule.count .push / (retries + 1)) ≤
      (Inbox.returned (record retries { outgoing := messages } schedule)).length := by
  have returned := (delivers_after retries messages schedule).returned
  obtain ⟨tried_le, spent⟩ := attempted_after retries messages schedule
  by_cases left : (after retries { outgoing := messages } schedule).outgoing = []
  · rw [left, List.append_nil] at returned
    rw [returned]
    exact min_le_left _ _
  · refine (min_le_right _ _).trans (Nat.le_of_lt_succ ?_)
    rw [Nat.div_lt_iff_lt_mul (Nat.succ_pos _), Nat.succ_mul]
    exact (spent left).trans_lt (Nat.add_lt_add_left (Nat.lt_succ_of_le tried_le) _)

theorem transition_of_mem_record {schedule : List Move} {e : Entry}
    (he : e ∈ x.record retries schedule) :
    ∃ move, Transition retries e.before move e.answer e.after := by
  induction schedule generalizing x with
  | nil => cases he
  | cons move rest ih =>
    rcases List.mem_cons.1 he with rfl | he
    · exact ⟨move, step_transition retries x move⟩
    · exact ih he

theorem Transition.pushed_iff {m : Message} {accepted : Bool}
    (t : Transition retries x move (.pushed m accepted) y) :
    accepted = true ↔ m.Fits ∧ x.inbox.pending < depth := by
  cases t with
  | accepted m rest first fits room => exact ⟨fun _ => ⟨fits, room⟩, fun _ => rfl⟩
  | refused m rest first why => exact ⟨nofun, fun h => absurd h why⟩

theorem Transition.refused_inbox {m : Message} {accepted : Bool}
    (t : Transition retries x move (.pushed m accepted) y) (refused : accepted = false) :
    y.inbox = x.inbox := by
  cases t with
  | accepted => cases refused
  | refused => rfl

theorem Transition.frames_eq (t : Transition retries x move answer y)
    (unaccepted : Entry.accepted? ⟨x, answer, y⟩ = none)
    (untaken : Entry.popped? ⟨x, answer, y⟩ = none) : y.inbox.frames = x.inbox.frames := by
  cases t with
  | accepted => cases unaccepted
  | popped => cases untaken
  | finished | postponed | refused | empty | connected | fatal => rfl

def Alike (x y : Exchange) : Prop :=
  ∃ connected fatal, y = { x with inbox := { x.inbox with connected, fatal } }

theorem Alike.step (h : x.Alike y) (retries : Nat) (move : Move) :
    (x.step retries move).1.Alike (y.step retries move).1 ∧
      (y.step retries move).2 = (x.step retries move).2 := by
  obtain ⟨up, failed, rfl⟩ := h
  obtain ⟨⟨frames, connected, fatal⟩, outgoing, tried⟩ := x
  cases move with
  | connected on => exact ⟨⟨on, failed, rfl⟩, rfl⟩
  | fatal => exact ⟨⟨up, true, rfl⟩, rfl⟩
  | pop => cases frames <;> exact ⟨⟨up, failed, rfl⟩, rfl⟩
  | push =>
    cases outgoing with
    | nil => exact ⟨⟨up, failed, rfl⟩, rfl⟩
    | cons m rest =>
      have here := attempt_eq retries
        (x := ⟨⟨frames, connected, fatal⟩, m :: rest, tried⟩) rfl
      have there := attempt_eq retries (x := ⟨⟨frames, up, failed⟩, m :: rest, tried⟩) rfl
      simp only [Exchange.step, here, there, pending]
      split
      · exact ⟨⟨up, failed, rfl⟩, rfl⟩
      · split <;> exact ⟨⟨up, failed, rfl⟩, rfl⟩

theorem Alike.aside (h : x.Alike y) (retries : Nat) (aside : move.isTraffic = false) :
    (x.step retries move).1.Alike y ∧ (x.step retries move).2 = .nothing := by
  obtain ⟨connected, fatal, rfl⟩ := h
  cases move with
  | push | pop => cases aside
  | connected | fatal => exact ⟨⟨connected, fatal, rfl⟩, rfl⟩

theorem Alike.after (h : x.Alike y) (retries : Nat) (schedule : List Move) :
    (x.after retries schedule).Alike (y.after retries (schedule.filter Move.isTraffic)) ∧
      answers (y.record retries (schedule.filter Move.isTraffic)) =
        answers (x.record retries schedule) := by
  induction schedule generalizing x y with
  | nil => exact ⟨h, rfl⟩
  | cons move rest ih =>
    cases traffic : move.isTraffic with
    | false =>
      obtain ⟨still, silent⟩ := h.aside retries traffic
      obtain ⟨later, same⟩ := ih still
      rw [List.filter_cons_of_neg (by simp [traffic])]
      refine ⟨later, same.trans ?_⟩
      simp [answers, record, silent]
    | true =>
      obtain ⟨still, answered⟩ := h.step retries move
      obtain ⟨later, same⟩ := ih still
      rw [List.filter_cons_of_pos traffic]
      refine ⟨later, ?_⟩
      simp only [answers] at same
      simp only [answers, record, List.map_cons, List.filter_cons, answered, same]

/-- Whatever the schedule, a push is answered after its last attempt at the latest, with true exactly
if the message fits a frame and the queue has room. The frames taken are the first of those accepted,
whole and in order; the others still wait, never more than the queue holds, and nothing but an
accepted push or a pop changes what waits. What happens to the connection makes no difference to any
of this. -/
theorem delivered_in_order (retries : Nat) (messages : List Message) (schedule : List Move) :
    let first : Exchange := { outgoing := messages }
    let log := first.record retries schedule
    let inbox := (first.after retries schedule).inbox
    let traffic := schedule.filter Move.isTraffic
    (∀ e ∈ log, ∀ m accepted, e.answer = .pushed m accepted →
      (accepted = true ↔
        m.topic.utf8ByteSize ≤ 96 ∧ m.payload.length ≤ 4104 ∧ e.before.inbox.pending < depth) ∧
      (accepted = false → e.after.inbox = e.before.inbox)) ∧
    (∀ e ∈ log, e.accepted? = none → e.popped? = none →
      e.after.inbox.frames = e.before.inbox.frames) ∧
    Inbox.returned log <+: messages ∧
    min messages.length (schedule.count .push / (retries + 1)) ≤ (Inbox.returned log).length ∧
    Inbox.popped log <+: Inbox.accepted log ∧
    inbox.pending = (Inbox.accepted log).length - (Inbox.popped log).length ∧
    (Inbox.popped log).length ≤ (Inbox.accepted log).length ∧
    inbox.pending ≤ depth ∧
    (first.after retries traffic).inbox.frames = inbox.frames ∧
    answers (first.record retries traffic) = answers log := by
  intro first log inbox traffic
  obtain ⟨ordered, returned, bounded⟩ := delivers_after retries messages schedule
  have counted := congrArg List.length ordered
  rw [List.length_append] at counted
  obtain ⟨⟨connected, fatal, apart⟩, same⟩ :=
    Alike.after (x := first) (y := first) ⟨false, false, rfl⟩ retries schedule
  refine ⟨?_, ?_, ⟨_, returned⟩, ?_, ⟨_, ordered.symm⟩, ?_, ?_, bounded, ?_, same⟩
  · intro e he m accepted answer
    obtain ⟨move, t⟩ := transition_of_mem_record he
    rw [answer] at t
    rw [← and_assoc]
    exact ⟨t.pushed_iff, t.refused_inbox⟩
  · intro e he unaccepted untaken
    obtain ⟨move, t⟩ := transition_of_mem_record he
    exact t.frames_eq unaccepted untaken
  · exact returned_length retries messages schedule
  · exact (Nat.sub_eq_of_eq_add' counted).symm
  · exact counted ▸ Nat.le_add_right _ _
  · rw [apart]

example :
    let messages : List Message := .replicate 5 ⟨"t", []⟩
    let schedule : List Move := .replicate 5 .push ++ [.pop, .push]
    let answers := answers (record 1 { outgoing := messages } schedule)
    answers.drop 4 = [.popped (some ⟨"t", []⟩), .pushed ⟨"t", []⟩ true] := by
  decide

end Exchange

end DoughAnalyzer.Inbox

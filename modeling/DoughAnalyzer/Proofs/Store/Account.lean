import DoughAnalyzer.Store.Handles
import Mathlib.Data.List.Induction

/-!
What the outside knows of a store. The record of a run keeps every operation with its answer; from
it alone one can tell which faults are switched on, which writers are out, what each of them has
written, and what runs next.
`Mirrors` says that the store keeps the same account: one writer at a time, whose writes are whole,
and an image that only an activation changes.
-/

set_option autoImplicit false

namespace DoughAnalyzer.Store.Handles

def untouched (capacity : Nat) : Handles := ofStore { capacity }

def take (h : Handles) (op : Op) : Handles := (h.step op).1

def answer (h : Handles) (op : Op) : Answer := (h.step op).2.1

structure Entry where
  op : Op
  answer : Answer

def after (h : Handles) (ops : List Op) : Handles := ops.foldl take h

def record (h : Handles) : List Op → List Entry
  | [] => []
  | op :: rest => ⟨op, h.answer op⟩ :: (h.take op).record rest

theorem after_concat (h : Handles) (ops : List Op) (op : Op) :
    h.after (ops ++ [op]) = (h.after ops).take op :=
  List.foldl_append

theorem record_concat (h : Handles) (ops : List Op) (op : Op) :
    h.record (ops ++ [op]) = h.record ops ++ [⟨op, (h.after ops).answer op⟩] := by
  induction ops generalizing h with
  | nil => rfl
  | cons first rest ih => exact congrArg _ (ih _)

/-- What is known of a store from the outside: the faults as they were last switched, and the rest by
what was answered. Writers go by the numbers under which they were given out: those that have not come
back, the octets that each has written, and the fault offset that was in force when it was given out.
Images are those that were activated, in order. -/
structure Account where
  hasSlot : Bool := true
  failOpen : Bool := false
  failWriteAt : Option Nat := none
  failActivate : Bool := false
  out : List Nat := []
  contents : Nat → Octets := fun _ => []
  limit : Nat → Option Nat := fun _ => none
  images : List Octets := []

namespace Account

def set (a : Account) : Setting → Account
  | .failOpen on => { a with failOpen := on }
  | .removeSlot => { a with hasSlot := false }
  | .failWriteAt offset => { a with failWriteAt := offset }
  | .failActivate on => { a with failActivate := on }

/-- Only what was answered with success counts, but a failed activation takes its writer too. -/
def add (a : Account) (e : Entry) : Account :=
  match e.op, e.answer with
  | .set setting, _ => a.set setting
  | .openWriter, .opened (.ok k) =>
    { a with out := a.out ++ [k], limit := Function.update a.limit k a.failWriteAt }
  | .write k data, .written (.ok ()) _ =>
    { a with contents := Function.update a.contents k (a.contents k ++ data) }
  | .drop k, .nothing | .activate k, .activated (.error _) => { a with out := a.out.erase k }
  | .activate k, .activated (.ok ()) =>
    { a with out := a.out.erase k, images := a.images ++ [a.contents k] }
  | _, _ => a

def ofRecord (log : List Entry) : Account := log.foldl add {}

theorem ofRecord_concat (log : List Entry) (e : Entry) :
    ofRecord (log ++ [e]) = (ofRecord log).add e := by
  simp [ofRecord]

end Account

variable {h : Handles} {k : Nat} {w : Writer}

/-- Everything that may come of an operation. -/
inductive Transition (h : Handles) : Op → Handles → Answer → Prop where
  | slot : Transition h .slot h (.slot h.store.slot)
  | opened (free : h.store.live = 0) (slot : h.store.hasSlot = true)
      (sound : h.store.failOpen = false) :
      Transition h .openWriter
        ⟨{ h.store with opened := h.store.opened + 1, live := 1 },
          h.writers ++ [some ⟨[], h.store.capacity, h.store.failWriteAt⟩]⟩
        (.opened (.ok h.writers.length))
  | openRefused (e : StoreError)
      (why : h.store.failOpen = true ∨ h.store.hasSlot = false ∨ 0 < h.store.live) :
      Transition h .openWriter h (.opened (.error e))
  | written (k : Nat) (data : Octets) (w : Writer) (holds : h.writer? k = some w)
      (room : w.position + data.length ≤ w.capacity)
      (sound : w.faulty (w.position + data.length) = false) :
      Transition h (.write k data)
        { h with writers := h.writers.set k (some { w with data := w.data ++ data }) }
        (.written (.ok ()) (w.position + data.length))
  | writeRefused (k : Nat) (data : Octets) (w : Writer) (e : StoreError)
      (holds : h.writer? k = some w)
      (why : w.capacity < w.position + data.length ∨
        w.faulty (w.position + data.length) = true) :
      Transition h (.write k data) h (.written (.error e) w.position)
  | dropped (k : Nat) (w : Writer) (holds : h.writer? k = some w) :
      Transition h (.drop k) ⟨h.store.release, h.writers.set k none⟩ .nothing
  | activated (k : Nat) (w : Writer) (holds : h.writer? k = some w)
      (sound : h.store.failActivate = false) :
      Transition h (.activate k)
        ⟨{ h.store.release with nextBoot := some w.data, switches := h.store.switches + 1 },
          h.writers.set k none⟩
        (.activated (.ok ()))
  | unsealed (k : Nat) (w : Writer) (holds : h.writer? k = some w)
      (fault : h.store.failActivate = true) :
      Transition h (.activate k) ⟨h.store.release, h.writers.set k none⟩
        (.activated (.error .sealFailed))
  | gone (op : Op) (k : Nat) (about : op = .drop k ∨ op = .activate k ∨ ∃ data, op = .write k data)
      (none : h.writer? k = none) : Transition h op h .gone
  | set (f : Setting) : Transition h (.set f) { h with store := h.store.set f } .nothing

theorem take_openWriter (h : Handles) :
    Transition h .openWriter (h.take .openWriter) (h.answer .openWriter) := by
  by_cases why : h.store.failOpen = true ∨ h.store.hasSlot = false ∨ 0 < h.store.live
  · have refused : h.store.openWriter = .error .noPartition :=
      if_pos (by simpa [or_assoc] using why)
    simp only [take, answer, step, refused]
    exact .openRefused .noPartition why
  · simp only [not_or, Bool.not_eq_true, Bool.not_eq_false, Nat.not_lt, Nat.le_zero] at why
    obtain ⟨sound, slot, free⟩ := why
    have opened : h.store.openWriter = .ok (⟨[], h.store.capacity, h.store.failWriteAt⟩,
        { h.store with opened := h.store.opened + 1, live := 1 }) := by
      simp [openWriter, sound, slot, free]
    simp only [take, answer, step, opened]
    exact .opened free slot sound

theorem take_write (k : Nat) (data : Octets) (holds : h.writer? k = some w) :
    Transition h (.write k data) (h.take (.write k data)) (h.answer (.write k data)) := by
  cases result : w.write data with
  | ok v =>
    obtain ⟨room, sound, rfl⟩ := (write_eq_ok_iff w v data).1 result
    have position : ({ w with data := w.data ++ data } : Writer).position =
        w.position + data.length := List.length_append
    simp only [take, answer, step, holds, result, position]
    exact .written k data w holds room sound
  | error e =>
    have why : w.capacity < w.position + data.length ∨
        w.faulty (w.position + data.length) = true := by
      by_contra fine
      simp only [not_or, Nat.not_lt, Bool.not_eq_true] at fine
      have taken := (write_eq_ok_iff w _ data).2 ⟨fine.1, fine.2, rfl⟩
      cases taken.symm.trans result
    simp only [take, answer, step, holds, result]
    exact .writeRefused k data w e holds why

theorem take_activate (k : Nat) (holds : h.writer? k = some w) :
    Transition h (.activate k) (h.take (.activate k)) (h.answer (.activate k)) := by
  cases fault : h.store.failActivate with
  | true =>
    have failed : h.store.activate w = (.error .sealFailed, h.store.release) := if_pos fault
    simp only [take, answer, step, holds, failed]
    exact .unsealed k w holds fault
  | false =>
    have sealed : h.store.activate w = (.ok (),
        { h.store.release with
          nextBoot := some w.data, switches := h.store.switches + 1 }) := by
      simp [activate, fault]
    simp only [take, answer, step, holds, sealed]
    exact .activated k w holds fault

theorem take_transition (h : Handles) (op : Op) : Transition h op (h.take op) (h.answer op) := by
  cases op with
  | slot => exact .slot
  | openWriter => exact take_openWriter h
  | set f => exact .set f
  | write k data =>
    cases holds : h.writer? k with
    | none =>
      simp only [take, answer, step, holds]
      exact .gone _ k (.inr (.inr ⟨data, rfl⟩)) holds
    | some w => exact take_write k data holds
  | drop k =>
    cases holds : h.writer? k with
    | none =>
      simp only [take, answer, step, holds]
      exact .gone _ k (.inl rfl) holds
    | some w =>
      simp only [take, answer, step, holds]
      exact .dropped k w holds
  | activate k =>
    cases holds : h.writer? k with
    | none =>
      simp only [take, answer, step, holds]
      exact .gone _ k (.inr (.inl rfl)) holds
    | some w => exact take_activate k holds

theorem lt_of_holds (holds : h.writer? k = some w) : k < h.writers.length := by
  by_contra beyond
  simp [writer?, List.getElem?_eq_none (Nat.not_lt.1 beyond)] at holds

theorem writer?_append (h : Handles) (store : Store) (w : Writer) (k : Nat) :
    writer? ⟨store, h.writers ++ [some w]⟩ k =
      if k = h.writers.length then some w else h.writer? k := by
  unfold writer?
  rcases Nat.lt_trichotomy k h.writers.length with before | rfl | beyond
  · simp [List.getElem?_append_left before, Nat.ne_of_lt before]
  · simp
  · have all : (h.writers ++ [some w]).length ≤ k := by
      rw [List.length_append]
      exact beyond
    rw [List.getElem?_eq_none all, List.getElem?_eq_none (Nat.le_of_lt beyond),
      if_neg (Nat.ne_of_gt beyond)]

theorem writer?_set (lt : k < h.writers.length) (store : Store) (w : Option Writer) (j : Nat) :
    writer? ⟨store, h.writers.set k w⟩ j = if j = k then w else h.writer? j := by
  unfold writer?
  by_cases same : j = k
  · subst same
    simp [lt]
  · simp [List.getElem?_set_ne (Ne.symm same), same]

/-- A store agrees with an account. -/
structure Mirrors (capacity : Nat) (h : Handles) (a : Account) : Prop where
  capacity_eq : h.store.capacity = capacity
  hasSlot : h.store.hasSlot = a.hasSlot
  failOpen : h.store.failOpen = a.failOpen
  failWriteAt : h.store.failWriteAt = a.failWriteAt
  failActivate : h.store.failActivate = a.failActivate
  alone : a.out.length ≤ 1
  live : h.store.live = a.out.length
  writers : ∀ k, h.writer? k =
    if k ∈ a.out then some ⟨a.contents k, capacity, a.limit k⟩ else none
  room : ∀ k ∈ a.out, (a.contents k).length ≤ capacity
  unused : ∀ k, h.writers.length ≤ k → a.contents k = []
  switches : h.store.switches = a.images.length
  boot : h.store.nextBoot = a.images.getLast?

namespace Mirrors

variable {capacity : Nat} {a : Account}

theorem untouched (capacity : Nat) : Mirrors capacity (untouched capacity) {} where
  capacity_eq := rfl
  hasSlot := rfl
  failOpen := rfl
  failWriteAt := rfl
  failActivate := rfl
  alone := Nat.zero_le 1
  live := rfl
  writers _ := rfl
  room _ out := absurd out List.not_mem_nil
  unused _ _ := rfl
  switches := rfl
  boot := rfl

theorem out_eq (m : Mirrors capacity h a) (holds : h.writer? k = some w) :
    a.out = [k] ∧ w = ⟨a.contents k, capacity, a.limit k⟩ := by
  have writer := m.writers k
  rw [holds] at writer
  split at writer
  case isFalse => cases writer
  case isTrue out =>
    cases writer
    refine ⟨?_, rfl⟩
    obtain ⟨j, only⟩ := List.length_eq_one_iff.1
      (Nat.le_antisymm m.alone (List.length_pos_of_mem out))
    rw [only] at out ⊢
    rw [List.mem_singleton.1 out]

theorem opened (m : Mirrors capacity h a) (free : h.store.live = 0) :
    Mirrors capacity
      ⟨{ h.store with opened := h.store.opened + 1, live := 1 },
        h.writers ++ [some ⟨[], h.store.capacity, h.store.failWriteAt⟩]⟩
      (a.add ⟨.openWriter, .opened (.ok h.writers.length)⟩) := by
  have none : a.out = [] := List.length_eq_zero_iff.1 (m.live.symm.trans free)
  have empty : a.contents h.writers.length = [] := m.unused _ (Nat.le_refl _)
  simp only [Account.add, none, List.nil_append]
  refine { m with
    alone := Nat.le_refl 1, live := rfl, writers := fun k => ?_, room := fun k out => ?_
    unused := fun k beyond => ?_ }
  · rw [writer?_append, m.writers k]
    by_cases new : k = h.writers.length
    · simp [new, empty, m.capacity_eq, m.failWriteAt]
    · simp [new, none]
  · rw [List.mem_singleton.1 out, empty]
    exact Nat.zero_le _
  · refine m.unused k (Nat.le_trans ?_ beyond)
    simp

theorem written (m : Mirrors capacity h a) (holds : h.writer? k = some w) {data : Octets}
    (room : w.position + data.length ≤ w.capacity) :
    Mirrors capacity { h with writers := h.writers.set k (some { w with data := w.data ++ data }) }
      (a.add ⟨.write k data, .written (.ok ()) (w.position + data.length)⟩) := by
  have before := lt_of_holds holds
  obtain ⟨only, rfl⟩ := m.out_eq holds
  simp only [Account.add]
  refine { m with
    writers := fun j => ?_, room := fun j out => ?_, unused := fun j beyond => ?_ }
  · rw [writer?_set before, m.writers j]
    by_cases same : j = k
    · simp [same, only]
    · simp [same]
  · obtain rfl : j = k := by simpa [only] using out
    simpa [Writer.position] using room
  · have other : j ≠ k := by
      rintro rfl
      exact Nat.not_lt_of_le (by simpa using beyond) before
    refine (Function.update_of_ne other ..).trans (m.unused j ?_)
    simpa using beyond

theorem returned (m : Mirrors capacity h a) (holds : h.writer? k = some w) {switches : Nat}
    {nextBoot : Option Octets} {images : List Octets} (switches_eq : switches = images.length)
    (boot : nextBoot = images.getLast?) :
    Mirrors capacity ⟨{ h.store.release with switches, nextBoot }, h.writers.set k none⟩
      { a with out := a.out.erase k, images } := by
  have before := lt_of_holds holds
  obtain ⟨only, rfl⟩ := m.out_eq holds
  have none : a.out.erase k = [] := by simp [only]
  simp only [none]
  refine { m with
    alone := Nat.zero_le 1, live := ?_, writers := fun j => ?_
    room := fun j out => absurd out List.not_mem_nil, unused := fun j beyond => ?_
    switches := switches_eq, boot }
  · rw [release, m.live, only]
    rfl
  · rw [writer?_set before, m.writers j]
    by_cases same : j = k <;> simp [same, only]
  · exact m.unused j (by simpa using beyond)

theorem set (m : Mirrors capacity h a) (f : Setting) :
    Mirrors capacity { h with store := h.store.set f } (a.set f) := by
  cases f with
  | failOpen => exact { m with failOpen := rfl }
  | removeSlot => exact { m with hasSlot := rfl }
  | failWriteAt => exact { m with failWriteAt := rfl }
  | failActivate => exact { m with failActivate := rfl }

end Mirrors

theorem Transition.mirrors {capacity : Nat} {a : Account} {op : Op} {next : Handles}
    {answer : Answer} (t : Transition h op next answer) (m : Mirrors capacity h a) :
    Mirrors capacity next (a.add ⟨op, answer⟩) := by
  cases t with
  | slot | openRefused | writeRefused => exact m
  | opened free => exact m.opened free
  | written k data w holds room => exact m.written holds room
  | dropped k w holds | unsealed k w holds => exact m.returned holds m.switches m.boot
  | activated k w holds =>
    obtain ⟨only, rfl⟩ := m.out_eq holds
    refine m.returned holds ?_ ?_
    · simp [m.switches]
    · simp
  | gone op k about none =>
    rcases about with rfl | rfl | ⟨data, rfl⟩ <;> exact m
  | set f => exact m.set f

theorem mirrors_after (capacity : Nat) (ops : List Op) :
    Mirrors capacity ((untouched capacity).after ops)
      (.ofRecord ((untouched capacity).record ops)) := by
  induction ops using List.reverseRecOn with
  | nil => exact .untouched capacity
  | append_singleton ops op ih =>
    rw [after_concat, record_concat, Account.ofRecord_concat]
    exact (take_transition _ op).mirrors ih

theorem Transition.opens_iff {next : Handles} {answer : Answer}
    (t : Transition h .openWriter next answer) :
    (∃ k, answer = .opened (.ok k)) ↔
      h.store.live = 0 ∧ h.store.hasSlot = true ∧ h.store.failOpen = false := by
  cases t with
  | opened free slot sound => exact ⟨fun _ => ⟨free, slot, sound⟩, fun _ => ⟨_, rfl⟩⟩
  | openRefused e why =>
    constructor
    · rintro ⟨k, opened⟩
      cases opened
    · rintro ⟨free, slot, sound⟩
      simp [free, slot, sound] at why
  | gone op k about none => simp at about

theorem faulty_iff (w : Writer) (offset : Nat) :
    w.faulty offset = true ↔ ∃ l ∈ w.failAt, l < offset := by
  cases fault : w.failAt <;> simp [Writer.faulty, fault]

theorem Transition.write_cases {next : Handles} {answer : Answer} {data : Octets}
    (t : Transition h (.write k data) next answer) (holds : h.writer? k = some w) :
    let exceeds := w.capacity < w.position + data.length ∨
      ∃ l ∈ w.failAt, l < w.position + data.length
    (exceeds → next = h ∧ ∃ e, answer = .written (.error e) w.position) ∧
      (¬ exceeds → answer = .written (.ok ()) (w.position + data.length)) := by
  have faulty_iff := faulty_iff w (w.position + data.length)
  cases t with
  | written k data v held room sound =>
    obtain rfl : v = w := Option.some.inj (held.symm.trans holds)
    refine ⟨fun exceeds => ?_, fun _ => rfl⟩
    rw [← faulty_iff, sound] at exceeds
    rcases exceeds with exceeds | exceeds
    · omega
    · cases exceeds
  | writeRefused k data v e held why =>
    obtain rfl : v = w := Option.some.inj (held.symm.trans holds)
    exact ⟨fun _ => ⟨rfl, e, rfl⟩, fun fits => absurd (why.imp_right faulty_iff.1) fits⟩
  | gone op j about none =>
    obtain rfl : k = j := by simpa using about
    cases none.symm.trans holds

theorem Transition.activate_cases {next : Handles} {answer : Answer}
    (t : Transition h (.activate k) next answer) (holds : h.writer? k = some w) :
    next.writer? k = none ∧ next.store.live = h.store.live - 1 ∧
      (answer = .activated (.ok ()) ↔ h.store.failActivate = false) := by
  have back (store : Store) : writer? ⟨store, h.writers.set k none⟩ k = none := by
    rw [writer?_set (lt_of_holds holds), if_pos rfl]
  cases t with
  | activated k v held sound => exact ⟨back _, rfl, by simp [sound]⟩
  | unsealed k v held fault => exact ⟨back _, rfl, by simp [fault]⟩
  | gone op j about none =>
    obtain rfl : k = j := by simpa using about
    cases none.symm.trans holds

/-- At most one writer is out in any run, and the store counts it. An opening succeeds exactly if
none is out, the slot was not removed and openings are not made to fail. A writer that is out has
exactly what it has written, never more than the capacity; a write is taken whole, or refused whole
exactly if it would go beyond the capacity or beyond the fault offset that was in force when the
writer was given out. An activation takes its writer back whether or not it succeeds. The boot was
switched as often as an image was activated, and the last such image runs next. -/
theorem one_writer_whole_writes (capacity : Nat) (ops : List Op) :
    let h := (untouched capacity).after ops
    let a := Account.ofRecord ((untouched capacity).record ops)
    (h.store.hasSlot = a.hasSlot ∧ h.store.failOpen = a.failOpen ∧
      h.store.failWriteAt = a.failWriteAt ∧ h.store.failActivate = a.failActivate) ∧
    a.out.length ≤ 1 ∧ h.store.live = a.out.length ∧
    ((∃ k, h.answer .openWriter = .opened (.ok k)) ↔
      a.out = [] ∧ a.hasSlot = true ∧ a.failOpen = false) ∧
    (∀ k, (h.writer? k).map Writer.data = if k ∈ a.out then some (a.contents k) else none) ∧
    (∀ k ∈ a.out, (a.contents k).length ≤ capacity ∧
      (∀ data,
        let offset := (a.contents k).length + data.length
        let exceeds := capacity < offset ∨ ∃ l ∈ a.limit k, l < offset
        (exceeds → h.take (.write k data) = h ∧
          ∃ e, h.answer (.write k data) = .written (.error e) (a.contents k).length) ∧
        (¬ exceeds → h.answer (.write k data) = .written (.ok ()) offset)) ∧
      (h.take (.activate k)).writer? k = none ∧ (h.take (.activate k)).store.live = 0 ∧
      (h.answer (.activate k) = .activated (.ok ()) ↔ a.failActivate = false)) ∧
    h.store.switches = a.images.length ∧ h.store.nextBoot = a.images.getLast? := by
  intro h a
  have m : Mirrors capacity h a := mirrors_after capacity ops
  refine ⟨⟨m.hasSlot, m.failOpen, m.failWriteAt, m.failActivate⟩, m.alone, m.live, ?_,
    fun k => ?_, fun k out => ?_, m.switches, m.boot⟩
  · rw [(take_transition h .openWriter).opens_iff, m.live, List.length_eq_zero_iff, m.hasSlot,
      m.failOpen]
  · rw [m.writers k]
    split <;> rfl
  · have holds := (m.writers k).trans (if_pos out)
    obtain ⟨only, -⟩ := m.out_eq holds
    obtain ⟨back, live, sealed⟩ := (take_transition h (.activate k)).activate_cases holds
    rw [m.failActivate] at sealed
    refine ⟨m.room k out, fun data => ?_, back, ?_, sealed⟩
    · exact (take_transition h (.write k data)).write_cases holds
    · rw [live, m.live, only]
      rfl

end DoughAnalyzer.Store.Handles

import DoughAnalyzer.Console
import DoughAnalyzer.Fault
import DoughAnalyzer.Octets

/-!
The store of two images, of which one runs and the other may be replaced, held in memory and with
faults that can be switched on. Only `activate` changes what runs next.

A writer carries the limits that held when it was opened; faults set later do not reach it.
-/

set_option autoImplicit false

namespace DoughAnalyzer

/-- `live` counts the writers that hold the inactive slot, `opened` all that ever did. -/
structure Store where
  capacity : Nat
  hasSlot : Bool := true
  failOpen : Bool := false
  failWriteAt : Option Nat := none
  failActivate : Bool := false
  live : Nat := 0
  opened : Nat := 0
  switches : Nat := 0
  nextBoot : Option Octets := none
  deriving DecidableEq, Repr

namespace Store

structure Writer where
  data : Octets
  capacity : Nat
  failAt : Option Nat
  deriving DecidableEq, Repr

def Writer.position (w : Writer) : Nat := w.data.length

/-- Whether a write up to an offset runs into the writer's injected fault. -/
def Writer.faulty (w : Writer) (offset : Nat) : Bool := w.failAt.any (· < offset)

def Writer.write (w : Writer) (data : Octets) : Except StoreError Writer :=
  let offset := w.data.length + data.length
  if w.capacity < offset then .error .outOfSpace
  else if w.faulty offset then .error .writeFailed
  else .ok { w with data := w.data ++ data }

/-- The faults that can be switched. A slot that is removed does not come back. -/
inductive Setting where
  | failOpen (on : Bool)
  | removeSlot
  | failWriteAt (offset : Option Nat)
  | failActivate (on : Bool)
  deriving DecidableEq, Repr

def set (s : Store) : Setting → Store
  | .failOpen on => { s with failOpen := on }
  | .removeSlot => { s with hasSlot := false }
  | .failWriteAt offset => { s with failWriteAt := offset }
  | .failActivate on => { s with failActivate := on }

def slot (s : Store) : Except StoreError Nat :=
  if s.hasSlot then .ok s.capacity else .error .noPartition

def isBusy (s : Store) : Bool := !s.failOpen && s.hasSlot && 0 < s.live

def openWriter (s : Store) : Except StoreError (Writer × Store) :=
  if s.failOpen || !s.hasSlot || 0 < s.live then .error .noPartition
  else .ok (⟨[], s.capacity, s.failWriteAt⟩, { s with opened := s.opened + 1, live := s.live + 1 })

def busyRecord : Console.Record := .warn "flash(sim): inactive partition already open"

def openLog (s : Store) : Console.Log := if s.isBusy then [busyRecord] else []

def release (s : Store) : Store := { s with live := s.live - 1 }

/-- Makes what a writer wrote the next image to run. The writer is gone in either case. -/
def activate (s : Store) (w : Writer) : Except StoreError Unit × Store :=
  if s.failActivate then (.error .sealFailed, s.release)
  else (.ok (), { s.release with nextBoot := some w.data, switches := s.switches + 1 })

theorem write_eq_ok_iff (w v : Writer) (data : Octets) :
    w.write data = .ok v ↔
      w.data.length + data.length ≤ w.capacity ∧ w.faulty (w.data.length + data.length) = false ∧
        v = { w with data := w.data ++ data } := by
  unfold Writer.write
  simp only
  split
  · rename_i h
    simp only [reduceCtorEq, false_iff]
    omega
  · rename_i h
    split
    · rename_i hf
      simp [hf]
    · rename_i hf
      simp only [Except.ok.injEq, Bool.not_eq_true] at hf ⊢
      have hle : w.data.length + data.length ≤ w.capacity := by omega
      simp only [hf, hle, true_and]
      exact eq_comm

end Store

end DoughAnalyzer

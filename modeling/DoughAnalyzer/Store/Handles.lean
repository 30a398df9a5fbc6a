import DoughAnalyzer.Store.Basic

set_option autoImplicit false

namespace DoughAnalyzer.Store

structure Handles where
  store : Store
  writers : List (Option Writer)
  deriving DecidableEq, Repr

inductive Op where
  | slot
  | openWriter
  | write (writer : Nat) (data : Octets)
  | drop (writer : Nat)
  | activate (writer : Nat)
  | set (setting : Setting)
  deriving DecidableEq, Repr

inductive Answer where
  | nothing
  | gone
  | slot (r : Except StoreError Nat)
  | opened (r : Except StoreError Nat)
  | written (r : Except StoreError Unit) (position : Nat)
  | activated (r : Except StoreError Unit)

namespace Handles

def ofStore (s : Store) : Handles := ⟨s, []⟩

def writer? (h : Handles) (k : Nat) : Option Writer := (h.writers[k]?).join

/-- One operation. A successful open is answered with the writer's number. -/
def step (h : Handles) : Op → Handles × Answer × Console.Log
  | .slot => (h, .slot h.store.slot, [])
  | .openWriter =>
    match h.store.openWriter with
    | .error e => (h, .opened (.error e), h.store.openLog)
    | .ok (w, store) => (⟨store, h.writers ++ [some w]⟩, .opened (.ok h.writers.length), [])
  | .write k data =>
    match h.writer? k with
    | none => (h, .gone, [])
    | some w =>
      match w.write data with
      | .error e => (h, .written (.error e) w.position, [])
      | .ok w => ({ h with writers := h.writers.set k (some w) }, .written (.ok ()) w.position, [])
  | .drop k =>
    match h.writer? k with
    | none => (h, .gone, [])
    | some _ => (⟨h.store.release, h.writers.set k none⟩, .nothing, [])
  | .activate k =>
    match h.writer? k with
    | none => (h, .gone, [])
    | some w =>
      let (r, store) := h.store.activate w
      (⟨store, h.writers.set k none⟩, .activated r, [])
  | .set setting => ({ h with store := h.store.set setting }, .nothing, [])

end Handles

end DoughAnalyzer.Store

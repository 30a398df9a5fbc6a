import DoughAnalyzer.Console

set_option autoImplicit false

namespace DoughAnalyzer

inductive Phase where
  | boot
  | connectingNetwork
  | connectingControlChannel
  | sensing
  | updatingDisplay
  | publishingData
  | sleeping
  | applyingUpdate
  | error
  deriving DecidableEq, Repr

namespace Phase

def all : List Phase :=
  [boot, connectingNetwork, connectingControlChannel, sensing, updatingDisplay, publishingData,
    sleeping, applyingUpdate, error]

def count : Nat := all.length

def index : Phase → Nat
  | boot => 0
  | connectingNetwork => 1
  | connectingControlChannel => 2
  | sensing => 3
  | updatingDisplay => 4
  | publishingData => 5
  | sleeping => 6
  | applyingUpdate => 7
  | error => 8

/-- No phase has an index past the last one; such an index stands for the error phase. -/
def ofIndex (i : Nat) : Phase := all[i]?.getD error

def name : Phase → String
  | boot => "BOOT"
  | connectingNetwork => "CONNECTING_NETWORK"
  | connectingControlChannel => "CONNECTING_CONTROL_CHANNEL"
  | sensing => "SENSING"
  | updatingDisplay => "UPDATING_DISPLAY"
  | publishingData => "PUBLISHING_DATA"
  | sleeping => "SLEEPING"
  | applyingUpdate => "APPLYING_UPDATE"
  | error => "ERROR"

def label : Phase → String
  | boot => "Boot"
  | connectingNetwork => "ConnectingNetwork"
  | connectingControlChannel => "ConnectingControlChannel"
  | sensing => "Sensing"
  | updatingDisplay => "UpdatingDisplay"
  | publishingData => "PublishingData"
  | sleeping => "Sleeping"
  | applyingUpdate => "ApplyingUpdate"
  | error => "Error"

end Phase

/-- Times are in milliseconds since power-on. -/
structure Lifecycle where
  current : Phase
  previous : Phase
  enteredAt : Nat
  deriving DecidableEq, Repr

namespace Lifecycle

def start (now : Nat) : Lifecycle := ⟨.boot, .boot, now⟩

def moveTo (l : Lifecycle) (next : Phase) (now : Nat) : Lifecycle :=
  if next = l.current then l else ⟨next, l.current, now⟩

def moveLog (l : Lifecycle) (next : Phase) : Console.Log :=
  if next = l.current then []
  else [.info ("transition: " ++ l.current.name ++ " -> " ++ next.name)]

/-- How long the current phase has lasted; a clock that reads before the entry gives zero. -/
def elapsed (l : Lifecycle) (now : Nat) : Nat := now - l.enteredAt

def lasted (l : Lifecycle) (threshold now : Nat) : Bool := threshold ≤ l.elapsed now

@[simp] theorem moveTo_current (l : Lifecycle) (next : Phase) (now : Nat) :
    (l.moveTo next now).current = next := by
  unfold moveTo; split <;> simp_all

end Lifecycle

end DoughAnalyzer

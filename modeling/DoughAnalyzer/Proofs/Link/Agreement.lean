import DoughAnalyzer.Proofs.Link.History
import DoughAnalyzer.Report

set_option autoImplicit false

namespace DoughAnalyzer.Link

theorem Radio.isSome_rssi (r : Radio) : r.rssi.isSome = r.isUp := by
  unfold rssi
  split
  case isTrue up => exact up.symm
  case isFalse down => simpa using down

namespace Station

/-- The signal and the power agree with the state. -/
structure Agrees (s : Station) : Prop where
  signal_iff : s.rssi.isSome ↔ s.state = .connected
  unpowered_iff : s.radio.powered = false ↔ s.state = .suspended

namespace Agrees

theorem ofRadio (reachable : Bool) (maxAttempts : Nat) :
    (ofRadio { reachable } maxAttempts).Agrees :=
  ⟨by simp [Station.ofRadio], by simp [Station.ofRadio]⟩

theorem signal_none {s : Station} (h : s.Agrees) (unconnected : s.state ≠ .connected) :
    s.rssi = none :=
  Option.not_isSome_iff_eq_none.1 (mt h.signal_iff.1 unconnected)

theorem powered {s : Station} (h : s.Agrees) (awake : s.state ≠ .suspended) :
    s.radio.powered = true :=
  Bool.not_eq_false _ ▸ mt h.unpowered_iff.1 awake

theorem asked {s : Station} (signal : s.rssi = none) (powered : s.radio.powered = true)
    (attempt now : Nat) : (s.asked attempt now).Agrees :=
  ⟨by simp [Station.asked, signal], by simp [Station.asked, Radio.request, powered]⟩

theorem isSome_rssi_eq {s : Station} (h : s.Agrees) : s.rssi.isSome = s.isConnected := by
  rw [Bool.eq_iff_iff, h.signal_iff]
  simp [isConnected]

end Agrees

theorem Transition.agrees {s r : Station} {i : Input} (t : Transition s i r) (h : s.Agrees) :
    r.Agrees := by
  cases t with
  | opened now idle =>
    exact .asked (h.signal_none (by simp [idle])) (h.powered (by simp [idle])) 1 now
  | lost now connected =>
    exact .asked (s := { s with rssi := none }) rfl (h.powered (by simp [connected])) 1 now
  | retried now attempt trying =>
    exact .asked (h.signal_none (by simp [trying])) (h.powered (by simp [trying])) _ _
  | associated now attempt trying up =>
    exact ⟨by simp [Radio.isSome_rssi, up], by simp [h.powered, trying]⟩
  | gaveUp now attempt trying =>
    exact ⟨by simp [h.signal_none, trying], by simp [h.powered, trying]⟩
  | held now connected up =>
    exact ⟨by simp [Radio.isSome_rssi, up, connected], h.unpowered_iff⟩
  | suspended => exact ⟨by simp, by simp [Radio.powerDown]⟩
  | resumed asleep => exact ⟨by simp [h.signal_none, asleep], by simp [Radio.powerUp]⟩
  | reached on => exact ⟨h.signal_iff, h.unpowered_iff⟩
  | waited | pollIgnored | suspendIgnored | resumeIgnored => exact h

theorem agrees_after (reachable : Bool) (maxAttempts : Nat) (history : List Input) :
    ((ofRadio { reachable } maxAttempts).after history).Agrees :=
  history_induction (P := fun s _ => s.Agrees) (ofRadio_budget _ maxAttempts)
    (.ofRadio reachable maxAttempts) (fun _ _ _ _ _ t h => t.agrees h) history

theorem Transition.up_of_connected {s r : Station} {now : Nat} (t : Transition s (.poll now) r)
    (connected : r.state = .connected) : r.radio.isUp = true := by
  cases t with
  | associated _ _ _ up | held _ _ up => exact up
  | waited _ _ trying => cases trying.symm.trans connected
  | pollIgnored _ off => simp [connected] at off
  | opened | retried | gaveUp | lost => cases connected

theorem Transition.connects {s r : Station} {now : Nat} (t : Transition s (.poll now) r)
    (up : s.radio.isUp = true)
    (sought : s.state = .connected ∨ ∃ attempt, s.state = .connecting attempt) :
    r.state = .connected ∧ r.radio = s.radio := by
  cases t with
  | associated => exact ⟨rfl, rfl⟩
  | held _ connected => exact ⟨connected, rfl⟩
  | retried _ _ _ down | gaveUp _ _ _ down | waited _ _ _ down | lost _ _ down =>
    simp [up] at down
  | opened _ idle => simp [idle] at sought
  | pollIgnored _ off => rcases off with off | off <;> simp [off] at sought

/-- In every state of a station a signal is kept exactly with a connection, so that a report shows a
connection exactly when there is one, and the radio is without power exactly in suspension. A poll
leaves a station connected only if the link is up; and it always does if the link was up before it
and the station was connected or trying, and then it asks for nothing. -/
theorem state_agrees_with_link (reachable : Bool) (maxAttempts : Nat) (history : List Input) :
    let s := (ofRadio { reachable } maxAttempts).after history
    (s.rssi.isSome ↔ s.isConnected = true) ∧
    (∀ id now freeHeap phase reading,
      (Diagnostics.of id now freeHeap phase s.rssi reading).link.connected = s.isConnected) ∧
    (s.radio.powered = false ↔ s.state = .suspended) ∧
    ∀ now, let polled := (s.poll now).1
      (polled.isConnected = true → polled.radio.isUp = true) ∧
      (s.radio.isUp = true →
        s.state = .connected ∨ (∃ attempt, s.state = .connecting attempt) →
        polled.isConnected = true ∧ polled.radio.requests = s.radio.requests) := by
  intro s
  have h : s.Agrees := agrees_after reachable maxAttempts history
  have t (now : Nat) : Transition s (.poll now) (s.poll now).1 :=
    transition_after _ maxAttempts history (.poll now)
  refine ⟨by rw [h.isSome_rssi_eq], fun _ _ _ _ _ => h.isSome_rssi_eq, h.unpowered_iff,
    fun now => ⟨fun connected => ?_, fun up sought => ?_⟩⟩
  · exact (t now).up_of_connected (by simpa [isConnected] using connected)
  · obtain ⟨connected, same⟩ := (t now).connects up sought
    exact ⟨by simp [isConnected, connected], by rw [same]⟩

end Station

end DoughAnalyzer.Link

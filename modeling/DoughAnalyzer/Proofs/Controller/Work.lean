import DoughAnalyzer.Proofs.Controller.Course

set_option autoImplicit false

namespace DoughAnalyzer

namespace Controller

open Dialogue (Runs)

def goes (c : Controller) : Option (Phase × Nat) → Controller
  | some (next, time) => { c with lifecycle := c.lifecycle.moveTo next time }
  | none => c

def afterPublishing (c : Controller) : Phase :=
  if c.session.isActive then .applyingUpdate else .sleeping

inductive Branch (c : Controller) (now : Nat) :
    Phase → List Exchange → Controller → Option (Phase × Nat) → Prop where
  | booted : Branch c now .boot [] c (some (.connectingNetwork, now))
  | networkUp :
      Branch c now .connectingNetwork [⟨.networkConnected, true⟩] c
        (some (.connectingControlChannel, now))
  | networkFailed :
      Branch c now .connectingNetwork [⟨.networkConnected, false⟩, ⟨.networkFailed, true⟩] c
        (some (.error, now))
  | networkLate (late : c.connectTimeoutPassed now = true) :
      Branch c now .connectingNetwork [⟨.networkConnected, false⟩, ⟨.networkFailed, false⟩] c
        (some (.error, now))
  | networkAwaited (early : c.connectTimeoutPassed now = false) :
      Branch c now .connectingNetwork [⟨.networkConnected, false⟩, ⟨.networkFailed, false⟩] c none
  | channelUp (settled : c.boot.pending = false) :
      Branch c now .connectingControlChannel [⟨.channelConnected, true⟩] c (some (.sensing, now))
  | confirmed (due : c.boot.pending = true) :
      Branch c now .connectingControlChannel
        [⟨.channelConnected, true⟩, ⟨.markRunningValid, .ok ()⟩, ⟨.emit .firmwareConfirmed, ()⟩]
        { c with boot := ⟨false⟩ } (some (.sensing, now))
  | unconfirmed (due : c.boot.pending = true) (e : PlatformError) :
      Branch c now .connectingControlChannel
        [⟨.channelConnected, true⟩, ⟨.markRunningValid, .error e⟩] c (some (.sensing, now))
  | channelFailed :
      Branch c now .connectingControlChannel [⟨.channelConnected, false⟩, ⟨.channelFailed, true⟩] c
        (some (.error, now))
  | networkLost :
      Branch c now .connectingControlChannel
        [⟨.channelConnected, false⟩, ⟨.channelFailed, false⟩, ⟨.networkConnected, false⟩] c
        (some (.connectingNetwork, now))
  | channelLate (late : c.connectTimeoutPassed now = true) :
      Branch c now .connectingControlChannel
        [⟨.channelConnected, false⟩, ⟨.channelFailed, false⟩, ⟨.networkConnected, true⟩] c
        (some (.error, now))
  | channelAwaited (early : c.connectTimeoutPassed now = false) :
      Branch c now .connectingControlChannel
        [⟨.channelConnected, false⟩, ⟨.channelFailed, false⟩, ⟨.networkConnected, true⟩] c none
  | notDue : Branch c now .sensing [⟨.sensorsDue now, false⟩] c none
  | collected (reading : Reading) :
      Branch c now .sensing [⟨.sensorsDue now, true⟩, ⟨.collect now, .ok reading⟩]
        { c with lastReading := some reading } (some (.updatingDisplay, now))
  | notCollected (e : SensorError) :
      Branch c now .sensing [⟨.sensorsDue now, true⟩, ⟨.collect now, .error e⟩] c none
  | shown (reading : Reading) (percent : Nat) (held : c.lastReading = some reading) :
      Branch c now .updatingDisplay [⟨.batteryPercent, percent⟩, ⟨.render reading percent, ()⟩] c
        (some (.publishingData, now))
  | nothingToShow (unheld : c.lastReading = none) :
      Branch c now .updatingDisplay [] c (some (.publishingData, now))
  | published (reading : Reading) (r : Except ChannelError Unit)
      (held : c.lastReading = some reading) :
      Branch c now .publishingData
        [⟨.publish c.topics.telemetry (Telemetry.of c.id now reading).document, r⟩,
          ⟨.emit (.telemetryPublished r.isOk), ()⟩] c (some (c.afterPublishing, now))
  | nothingToPublish (unheld : c.lastReading = none) :
      Branch c now .publishingData [] c (some (c.afterPublishing, now))
  | sleepCancelled (active : c.session.isActive = true) :
      Branch c now .sleeping [] c (some (.applyingUpdate, now))
  | slept (inactive : c.session.isActive = false) (low : c.config.lowPower = true)
      (r : Except PlatformError Unit) (woke : Nat) :
      Branch c now .sleeping
        [⟨.suspendNetwork, ()⟩, ⟨.sleep c.config.sleepWindow.toNat, r⟩, ⟨.resumeNetwork, ()⟩,
          ⟨.clock, woke⟩] c (some (.connectingNetwork, woke))
  | waited (inactive : c.session.isActive = false) (high : c.config.lowPower = false)
      (late : c.lifecycle.lasted c.config.sensingInterval.toNat now = true) :
      Branch c now .sleeping [] c (some (.sensing, now))
  | waits (inactive : c.session.isActive = false) (high : c.config.lowPower = false)
      (early : c.lifecycle.lasted c.config.sensingInterval.toNat now = false) :
      Branch c now .sleeping [] c none
  | updates (active : c.session.isActive = true) : Branch c now .applyingUpdate [] c none
  | updated (inactive : c.session.isActive = false) :
      Branch c now .applyingUpdate [] c (some (.sensing, now))
  | restartAwaited (before : c.restartRequested = true) : Branch c now .error [] c none
  | restarted (first : c.restartRequested = false)
      (late : c.lifecycle.lasted c.config.errorRestartDelay.toNat now = true) :
      Branch c now .error [⟨.restart, ()⟩] { c with restartRequested := true } none
  | restartEarly (first : c.restartRequested = false)
      (early : c.lifecycle.lasted c.config.errorRestartDelay.toNat now = false) :
      Branch c now .error [] c none

/-- A branch with the move that follows it. -/
def Ends (c : Controller) (now : Nat) (p : Phase) (exchanges : List Exchange) (c' : Controller) :
    Prop :=
  ∃ between move, c.Branch now p (asked exchanges) between move ∧ c' = between.goes move

variable {c c' between : Controller} {now : Nat} {p : Phase} {exchanges rest done : List Exchange}
  {move : Option (Phase × Nat)}

theorem runs_goTo {next : Phase} {time : Nat} (run : Runs (c.goTo next time) exchanges c') :
    asked exchanges = [] ∧ c' = c.goes (some (next, time)) := by
  obtain ⟨_, _, _, rfl, said, moved⟩ := (Dialogue.runs_bind _ _ _ _).1 run
  obtain ⟨rfl, rfl⟩ := (Dialogue.runs_pure _ _ _).1 moved
  rw [List.append_nil]
  exact ⟨runs_sayAll said, rfl⟩

theorem Branch.moves {next : Phase} {time : Nat}
    (b : c.Branch now p done between (some (next, time)))
    (h : asked exchanges = done ++ asked rest) (run : Runs (between.goTo next time) rest c') :
    c.Ends now p exchanges c' := by
  obtain ⟨hnil, rfl⟩ := runs_goTo run
  rw [hnil, List.append_nil] at h
  exact ⟨between, _, h ▸ b, rfl⟩

theorem Branch.stays (b : c.Branch now p done between none)
    (h : asked exchanges = done ++ asked rest) (run : Runs (pure between) rest c') :
    c.Ends now p exchanges c' := by
  obtain ⟨rfl, rfl⟩ := (Dialogue.runs_pure _ _ _).1 run
  rw [show asked [] = [] from rfl, List.append_nil] at h
  exact ⟨_, none, h ▸ b, rfl⟩

theorem runs_connectNetwork (run : Runs (c.connectNetwork now) exchanges c') :
    c.Ends now .connectingNetwork exchanges c' := by
  obtain ⟨up, _, rfl, run₁⟩ := (Dialogue.runs_request_bind .networkConnected _ _ _).1 run
  cases up with
  | true => exact Branch.networkUp.moves rfl run₁
  | false =>
    obtain ⟨failed, _, rfl, run₂⟩ := (Dialogue.runs_request_bind .networkFailed _ _ _).1 run₁
    cases failed with
    | true =>
      obtain ⟨_, _, rfl, run₃⟩ := (Dialogue.runs_request_bind (.log _) _ _ _).1 run₂
      exact Branch.networkFailed.moves rfl run₃
    | false =>
      cases late : c.connectTimeoutPassed now with
      | true =>
        simp only [late] at run₂
        obtain ⟨_, _, rfl, run₃⟩ := (Dialogue.runs_request_bind (.log _) _ _ _).1 run₂
        exact (Branch.networkLate late).moves rfl run₃
      | false =>
        simp only [late] at run₂
        exact (Branch.networkAwaited late).stays rfl run₂

theorem runs_connectChannel (run : Runs (c.connectChannel now) exchanges c') :
    c.Ends now .connectingControlChannel exchanges c' := by
  obtain ⟨up, _, rfl, run₁⟩ := (Dialogue.runs_request_bind .channelConnected _ _ _).1 run
  cases up with
  | true =>
    obtain ⟨confirming, tried, _, rfl, run₂, run₃⟩ := (Dialogue.runs_bind _ _ _ _).1 run₁
    cases due : c.boot.pending with
    | false =>
      simp only [confirmBoot, due] at run₂
      obtain ⟨rfl, rfl⟩ := (Dialogue.runs_pure _ _ _).1 run₂
      exact (Branch.channelUp due).moves rfl run₃
    | true =>
      simp only [confirmBoot, due] at run₂
      obtain ⟨r, _, rfl, run₄⟩ := (Dialogue.runs_request_bind .markRunningValid _ _ _).1 run₂
      obtain ⟨_, _, rfl, run₅⟩ := (Dialogue.runs_request_bind (.log _) _ _ _).1 run₄
      rcases r with e | ⟨⟩
      · obtain ⟨rfl, rfl⟩ := (Dialogue.runs_pure _ _ _).1 run₅
        exact (Branch.unconfirmed due e).moves rfl run₃
      · obtain ⟨_, _, rfl, run₆⟩ := (Dialogue.runs_request_bind (.emit _) _ _ _).1 run₅
        obtain ⟨rfl, rfl⟩ := (Dialogue.runs_pure _ _ _).1 run₆
        exact (Branch.confirmed due).moves rfl run₃
  | false =>
    obtain ⟨failed, _, rfl, run₂⟩ := (Dialogue.runs_request_bind .channelFailed _ _ _).1 run₁
    cases failed with
    | true =>
      obtain ⟨_, _, rfl, run₃⟩ := (Dialogue.runs_request_bind (.log _) _ _ _).1 run₂
      exact Branch.channelFailed.moves rfl run₃
    | false =>
      obtain ⟨reachable, _, rfl, run₃⟩ :=
        (Dialogue.runs_request_bind .networkConnected _ _ _).1 run₂
      cases reachable with
      | false => exact Branch.networkLost.moves rfl run₃
      | true =>
        cases late : c.connectTimeoutPassed now with
        | true =>
          simp only [late] at run₃
          obtain ⟨_, _, rfl, run₄⟩ := (Dialogue.runs_request_bind (.log _) _ _ _).1 run₃
          exact (Branch.channelLate late).moves rfl run₄
        | false =>
          simp only [late] at run₃
          exact (Branch.channelAwaited late).stays rfl run₃

theorem runs_sense (run : Runs (c.sense now) exchanges c') : c.Ends now .sensing exchanges c' := by
  obtain ⟨due, _, rfl, run₁⟩ := (Dialogue.runs_request_bind (.sensorsDue now) _ _ _).1 run
  cases due with
  | false => exact Branch.notDue.stays rfl run₁
  | true =>
    obtain ⟨r, _, rfl, run₂⟩ := (Dialogue.runs_request_bind (.collect now) _ _ _).1 run₁
    cases r with
    | ok reading => exact (Branch.collected reading).moves rfl run₂
    | error e =>
      obtain ⟨_, _, rfl, run₃⟩ := (Dialogue.runs_request_bind (.log _) _ _ _).1 run₂
      exact (Branch.notCollected e).stays rfl run₃

theorem runs_updateDisplay (run : Runs (c.updateDisplay now) exchanges c') :
    c.Ends now .updatingDisplay exchanges c' := by
  cases held : c.lastReading with
  | none =>
    simp only [updateDisplay, held] at run
    exact (Branch.nothingToShow held).moves rfl run
  | some reading =>
    simp only [updateDisplay, held] at run
    obtain ⟨percent, _, rfl, run₁⟩ := (Dialogue.runs_request_bind .batteryPercent _ _ _).1 run
    obtain ⟨_, _, rfl, run₂⟩ := (Dialogue.runs_request_bind (.render _ _) _ _ _).1 run₁
    exact (Branch.shown reading percent held).moves rfl run₂

theorem runs_publishData (run : Runs (c.publishData now) exchanges c') :
    c.Ends now .publishingData exchanges c' := by
  cases held : c.lastReading with
  | none =>
    simp only [publishData, held] at run
    exact (Branch.nothingToPublish held).moves rfl run
  | some reading =>
    simp only [publishData, held] at run
    obtain ⟨publishing, _, _, rfl, run₁, run₂⟩ := (Dialogue.runs_bind _ _ _ _).1 run
    obtain ⟨r, _, rfl, run₃⟩ := (Dialogue.runs_request_bind (.publish _ _) _ _ _).1 run₁
    rcases r with e | ⟨⟩
    · obtain ⟨_, _, rfl, run₄⟩ := (Dialogue.runs_request_bind (.log _) _ _ _).1 run₃
      obtain rfl := (Dialogue.runs_request _ _ _).1 run₄
      exact (Branch.published reading (.error e) held).moves rfl run₂
    · obtain rfl := (Dialogue.runs_request _ _ _).1 run₃
      exact (Branch.published reading (.ok ()) held).moves rfl run₂

theorem runs_rest (run : Runs (c.rest now) exchanges c') : c.Ends now .sleeping exchanges c' := by
  cases active : c.session.isActive with
  | true =>
    simp only [rest, active] at run
    obtain ⟨_, _, rfl, run₁⟩ := (Dialogue.runs_request_bind (.log _) _ _ _).1 run
    exact (Branch.sleepCancelled active).moves rfl run₁
  | false =>
    cases low : c.config.lowPower with
    | true =>
      simp only [rest, active, low] at run
      obtain ⟨_, _, rfl, run₁⟩ := (Dialogue.runs_request_bind .suspendNetwork _ _ _).1 run
      obtain ⟨r, _, rfl, run₂⟩ := (Dialogue.runs_request_bind (.sleep _) _ _ _).1 run₁
      rcases r with e | ⟨⟩
      · obtain ⟨_, _, rfl, run₃⟩ := (Dialogue.runs_request_bind (.log _) _ _ _).1 run₂
        obtain ⟨_, _, rfl, run₄⟩ := (Dialogue.runs_request_bind .resumeNetwork _ _ _).1 run₃
        obtain ⟨woke, _, rfl, run₅⟩ := (Dialogue.runs_request_bind .clock _ _ _).1 run₄
        exact (Branch.slept active low (.error e) woke).moves rfl run₅
      · obtain ⟨_, _, rfl, run₃⟩ := (Dialogue.runs_request_bind .resumeNetwork _ _ _).1 run₂
        obtain ⟨woke, _, rfl, run₄⟩ := (Dialogue.runs_request_bind .clock _ _ _).1 run₃
        exact (Branch.slept active low (.ok ()) woke).moves rfl run₄
    | false =>
      cases late : c.lifecycle.lasted c.config.sensingInterval.toNat now with
      | true =>
        simp only [rest, active, low, late] at run
        exact (Branch.waited active low late).moves rfl run
      | false =>
        simp only [rest, active, low, late] at run
        exact (Branch.waits active low late).stays rfl run

theorem runs_applyUpdate (run : Runs (c.applyUpdate now) exchanges c') :
    c.Ends now .applyingUpdate exchanges c' := by
  cases active : c.session.isActive with
  | true =>
    simp only [applyUpdate, active] at run
    exact (Branch.updates active).stays rfl run
  | false =>
    simp only [applyUpdate, active] at run
    obtain ⟨_, _, rfl, run₁⟩ := (Dialogue.runs_request_bind (.log _) _ _ _).1 run
    exact (Branch.updated active).moves rfl run₁

theorem runs_recover (run : Runs (c.recover now) exchanges c') :
    c.Ends now .error exchanges c' := by
  cases before : c.restartRequested with
  | true =>
    simp only [recover, before] at run
    exact (Branch.restartAwaited before).stays rfl run
  | false =>
    cases late : c.lifecycle.lasted c.config.errorRestartDelay.toNat now with
    | true =>
      simp only [recover, before, late] at run
      obtain ⟨_, _, rfl, run₁⟩ := (Dialogue.runs_request_bind (.log _) _ _ _).1 run
      obtain ⟨_, _, rfl, run₂⟩ := (Dialogue.runs_request_bind .restart _ _ _).1 run₁
      exact (Branch.restarted before late).stays rfl run₂
    | false =>
      simp only [recover, before, late] at run
      exact (Branch.restartEarly before late).stays rfl run

/-- There is no other way through the work of a phase. -/
theorem ends_of_runs (run : Runs (c.workPhase now) exchanges c') :
    c.Ends now c.lifecycle.current exchanges c' := by
  unfold workPhase at run
  cases h : c.lifecycle.current with
  | boot =>
    simp only [h] at run
    exact Branch.booted.moves rfl run
  | connectingNetwork => exact runs_connectNetwork (by simpa only [h] using run)
  | connectingControlChannel => exact runs_connectChannel (by simpa only [h] using run)
  | sensing => exact runs_sense (by simpa only [h] using run)
  | updatingDisplay => exact runs_updateDisplay (by simpa only [h] using run)
  | publishingData => exact runs_publishData (by simpa only [h] using run)
  | sleeping => exact runs_rest (by simpa only [h] using run)
  | applyingUpdate => exact runs_applyUpdate (by simpa only [h] using run)
  | error => exact runs_recover (by simpa only [h] using run)

theorem Course.filter_exchanges (t : c.Course) {P : Request → Bool}
    (unprepared : ∀ q : Request, q.isPreparation = true → P q = false)
    (unchanged : ∀ event : Event, event.isChange = true → P (.emit event) = false) :
    t.exchanges.filter (P ·.request) = (asked t.working).filter (P ·.request) := by
  have before : t.preparing.filter (P ·.request) = [] :=
    List.filter_eq_nil_iff.2 fun e he => by simp [unprepared _ (t.prepares.1 e he)]
  have after : t.closing.filter (P ·.request) = [] := by
    refine List.filter_eq_nil_iff.2 fun e he => ?_
    obtain ⟨event, hevent, change⟩ := t.closing_emits e he
    simp [hevent, unchanged event change]
  rw [exchanges, List.filter_append, List.filter_append, before, after,
    filter_asked fun record => unprepared (.log record) rfl]
  simp

theorem Branch.leaves_inbox (b : c.Branch now p done between move) : inboxWork done = [] := by
  cases b <;> rfl

theorem Branch.topics_eq (b : c.Branch now p done between move) :
    (between.goes move).topics = c.topics := by
  cases b <;> rfl

theorem Course.inboxWork_eq (t : c.Course) : inboxWork t.exchanges = inboxWork t.draining := by
  obtain ⟨between, move, b, -⟩ := ends_of_runs t.done
  have handled {x : List Exchange} (h : x ⊆ t.opening ++ (t.tracking ++ t.polling)) :
      inboxWork x = [] := by
    refine List.filter_eq_nil_iff.2 fun e he => ?_
    simp [e.request.isInboxWork_of_isHandling (t.handles e (h he))]
  have opening := handled (x := t.opening) (by simp)
  have tracking := handled (x := t.tracking) (by simp)
  have polling := handled (x := t.polling) (by simp)
  have working : inboxWork t.working = [] :=
    (filter_asked (fun _ => rfl) t.working).symm.trans b.leaves_inbox
  have closing : inboxWork t.closing = [] := by
    refine List.filter_eq_nil_iff.2 fun e he => ?_
    obtain ⟨event, hevent, -⟩ := t.closing_emits e he
    simp [hevent, Request.isInboxWork]
  have keeping : inboxWork [⟨.pollNetwork t.now, ()⟩] = [] := rfl
  rw [exchanges, inboxWork_append, inboxWork_append, working, closing, preparing]
  change inboxWork (_ ++ _) ++ _ = _
  simp only [inboxWork_append, opening, tracking, polling, keeping, List.nil_append,
    List.append_nil]

theorem Course.topics_eq (t : c.Course) : t.worked.topics = c.topics := by
  obtain ⟨between, move, b, hworked⟩ := ends_of_runs t.done
  rw [hworked, b.topics_eq, t.prepares.2.topics]

theorem Ticks.topics_eq {first : Controller} {log : List (List Exchange)} (h : Ticks first log c) :
    c.topics = first.topics := by
  induction h with
  | none => rfl
  | tick before run ih =>
    obtain ⟨t, -, rfl⟩ := (runs_tick_iff _ _ _).1 run
    exact t.topics_eq.trans ih
  | fault before f ih => exact ih

end Controller

end DoughAnalyzer

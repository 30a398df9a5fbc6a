import DoughAnalyzer.Controller.Tick

set_option autoImplicit false

namespace DoughAnalyzer

namespace Dialogue

variable {α β γ : Type}

theorem bind_done (d : Dialogue α) : d.bind done = d := by
  induction d with
  | done a => rfl
  | ask q next ih => exact congrArg (ask q) (funext ih)

theorem bind_assoc (d : Dialogue α) (f : α → Dialogue β) (g : β → Dialogue γ) :
    (d.bind f).bind g = d.bind fun a => (f a).bind g := by
  induction d with
  | done a => rfl
  | ask q next ih => exact congrArg (ask q) (funext ih)

instance : LawfulMonad Dialogue := .mk' Dialogue bind_done (fun _ _ => rfl) bind_assoc

theorem runs_map (d : Dialogue α) (f : α → β) (exchanges : List Exchange) (b : β) :
    Runs (f <$> d) exchanges b ↔ ∃ a, Runs d exchanges a ∧ b = f a := by
  rw [← bind_pure_comp, runs_bind]
  constructor
  · rintro ⟨first, a, rest, rfl, run, last⟩
    obtain ⟨rfl, rfl⟩ := (runs_pure _ _ _).1 last
    exact ⟨a, by rwa [List.append_nil], rfl⟩
  · rintro ⟨a, run, rfl⟩
    exact ⟨exchanges, a, [], (List.append_nil _).symm, run, .done _⟩

end Dialogue

namespace Controller

/-- The controller with another count of messages. -/
def recount (c : Controller) (count : UInt32) : Controller :=
  { c with router := { c.router with count } }

variable (c : Controller) (count : UInt32) (now : Nat)

theorem goTo_recount (next : Phase) :
    (c.recount count).goTo next now = (·.recount count) <$> c.goTo next now := by
  simp only [goTo, map_bind, map_pure]
  rfl

theorem publishNotice_recount (n : Update.Notice) :
    (c.recount count).publishNotice n = c.publishNotice n := by
  refine bind_congr fun r => ?_
  rcases r with e | ⟨⟩ <;> rfl

theorem perform_recount (effects : List Update.Effect) :
    (c.recount count).perform effects = c.perform effects := by
  induction effects with
  | nil => rfl
  | cons e rest ih =>
    cases e with
    | remark r => simp only [perform, ih]
    | notice n => simp only [perform, ih, publishNotice_recount]

theorem commit_recount {α : Type} (o : Update.Outcome α) :
    (c.recount count).commit o = (·.recount count) <$> c.commit o := by
  simp only [commit, perform_recount, map_bind, map_pure]
  rfl

theorem announceStart_recount :
    (c.recount count).announceStart = (·.recount count) <$> c.announceStart := by
  simp only [announceStart, apply_ite (Functor.map _), map_bind, map_pure]
  rfl

theorem trackChannel_recount :
    (c.recount count).trackChannel now = (·.recount count) <$> c.trackChannel now := by
  simp only [trackChannel, apply_ite (Functor.map _), map_bind, map_pure, ← commit_recount]
  rfl

theorem publishDiagnostics_recount :
    (c.recount count).publishDiagnostics now = c.publishDiagnostics now := by
  refine bind_congr fun heap => bind_congr fun signal => bind_congr fun r => ?_
  rcases r with e | ⟨⟩ <;> rfl

theorem handle_recount (message : Wire.Message) :
    (c.recount count).handle now message =
      (fun (c, r) => (c.recount count, r)) <$> c.handle now message := by
  cases message with
  | announcement a =>
    simp only [handle, map_bind, map_pure, commit_recount, bind_map_left]
    rfl
  | chunk piece =>
    simp only [handle, map_bind, map_pure, commit_recount, bind_map_left]
    rfl
  | diagnosticsRequest => simp only [handle, map_bind, map_pure, publishDiagnostics_recount]
  | other => rfl

theorem pollUpdate_recount :
    (c.recount count).pollUpdate now = (·.recount count) <$> c.pollUpdate now := by
  simp only [pollUpdate, map_bind, commit_recount, bind_map_left]
  refine bind_congr fun c' => ?_
  have polled : ((c.recount count).session.poll now).result = (c.session.poll now).result := rfl
  rw [polled]
  cases (c.session.poll now).result <;> rfl

theorem connectNetwork_recount :
    (c.recount count).connectNetwork now = (·.recount count) <$> c.connectNetwork now := by
  simp only [connectNetwork, apply_ite (Functor.map _), map_bind, map_pure, ← goTo_recount]
  rfl

theorem confirmBoot_recount :
    (c.recount count).confirmBoot = (·.recount count) <$> c.confirmBoot := by
  simp only [confirmBoot, apply_ite (Functor.map _), map_bind, map_pure]
  rfl

theorem connectChannel_recount :
    (c.recount count).connectChannel now = (·.recount count) <$> c.connectChannel now := by
  simp only [connectChannel, apply_ite (Functor.map _), map_bind, map_pure, ← goTo_recount,
    confirmBoot_recount, bind_map_left]
  rfl

theorem sense_recount : (c.recount count).sense now = (·.recount count) <$> c.sense now := by
  simp only [sense, apply_ite (Functor.map _), map_bind, map_pure]
  refine bind_congr fun due => ite_congr rfl (fun _ => bind_congr fun r => ?_) fun _ => rfl
  cases r with
  | ok reading => exact goTo_recount { c with lastReading := some reading } count now _
  | error e => rfl

theorem updateDisplay_recount :
    (c.recount count).updateDisplay now = (·.recount count) <$> c.updateDisplay now := by
  cases held : c.lastReading with
  | none => simpa only [updateDisplay, recount, held] using c.goTo_recount count now _
  | some reading =>
    simp only [updateDisplay, held, map_bind, ← goTo_recount]
    simp only [recount, held]

theorem publishReading_recount (reading : Reading) :
    (c.recount count).publishReading now reading = c.publishReading now reading := by
  refine bind_congr fun r => ?_
  rcases r with e | ⟨⟩ <;> rfl

theorem publishData_recount :
    (c.recount count).publishData now = (·.recount count) <$> c.publishData now := by
  cases held : c.lastReading with
  | none => simpa only [publishData, recount, held] using c.goTo_recount count now _
  | some reading =>
    simp only [publishData, held, map_bind, ← goTo_recount, ← publishReading_recount c count]
    simp only [recount, held]

theorem sleepOnce_recount :
    (c.recount count).sleepOnce = (·.recount count) <$> c.sleepOnce := by
  simp only [sleepOnce, map_bind]
  refine bind_congr fun _ => bind_congr fun r => ?_
  cases r <;> simp only [map_bind, ← goTo_recount]

theorem rest_recount : (c.recount count).rest now = (·.recount count) <$> c.rest now := by
  simp only [rest, apply_ite (Functor.map _), map_bind, map_pure, ← goTo_recount,
    ← sleepOnce_recount]
  rfl

theorem applyUpdate_recount :
    (c.recount count).applyUpdate now = (·.recount count) <$> c.applyUpdate now := by
  simp only [applyUpdate, apply_ite (Functor.map _), map_bind, map_pure, ← goTo_recount]
  rfl

theorem recover_recount : (c.recount count).recover now = (·.recount count) <$> c.recover now := by
  simp only [recover, apply_ite (Functor.map _), map_bind, map_pure]
  rfl

theorem workPhase_recount :
    (c.recount count).workPhase now = (·.recount count) <$> c.workPhase now := by
  have same : (c.recount count).lifecycle = c.lifecycle := rfl
  unfold workPhase
  rw [same]
  cases c.lifecycle.current with
  | boot => exact c.goTo_recount count now _
  | connectingNetwork => exact c.connectNetwork_recount count now
  | connectingControlChannel => exact c.connectChannel_recount count now
  | sensing => exact c.sense_recount count now
  | updatingDisplay => exact c.updateDisplay_recount count now
  | publishingData => exact c.publishData_recount count now
  | sleeping => exact c.rest_recount count now
  | applyingUpdate => exact c.applyUpdate_recount count now
  | error => exact c.recover_recount count now

end Controller

end DoughAnalyzer

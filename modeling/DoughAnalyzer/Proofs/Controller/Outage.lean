import DoughAnalyzer.Proofs.Controller.Resubscription

/-!
Connections that end and begin between two ticks. A connection that ends takes all subscriptions
with it. A tick reads whether there is a connection, and cannot tell one from another: after an
outage that falls between two readings nothing is subscribed, and the device hears no more of what
is published to it.
-/

set_option autoImplicit false

namespace DoughAnalyzer.Controller

open Dialogue (Runs)

/-- Ticks, and between them a connection that may end and begin again at any time. The ticks since
it last did either come second. A tick reads the connection no more once it has slept, so what
happens while it sleeps happens after it. -/
inductive Schedule (first : Controller) :
    List (List Exchange) → List (List Exchange) → Bool → Controller → Prop where
  | start (up : Bool) : Schedule first [] [] up first
  | drop {before since : List (List Exchange)} {c : Controller}
      (h : Schedule first before since true c) : Schedule first (before ++ since) [] false c
  | connect {before since : List (List Exchange)} {c : Controller}
      (h : Schedule first before since false c) : Schedule first (before ++ since) [] true c
  | tick {before since : List (List Exchange)} {up : Bool} {c c' : Controller}
      {exchanges : List Exchange} (h : Schedule first before since up c)
      (run : Runs c.tick exchanges c')
      (reads : ∀ reading ∈ channelReadings exchanges, reading = up) :
      Schedule first before (since ++ [exchanges]) up c'
  | fault {before since : List (List Exchange)} {up : Bool} {c : Controller}
      (h : Schedule first before since up c) (f : Store.Setting) :
      Schedule first before since up { c with session := (c.session.take (.fault f)).session }

variable {first c c' : Controller} {before since log : List (List Exchange)} {up : Bool}
  {exchanges : List Exchange}

theorem readsConnected_of_runs (run : Runs c.tick exchanges c')
    (reads : ∀ reading ∈ channelReadings exchanges, reading = up) :
    readsConnected exchanges = up := by
  obtain ⟨t, rfl, -⟩ := (runs_tick_iff _ _ _).1 run
  obtain ⟨reading, -, -, read, -⟩ := runs_trackChannel t.followed
  rw [t.readsConnected_eq read]
  refine reads reading ?_
  rw [Course.exchanges, Course.preparing, ← List.singleton_append]
  simp only [channelReadings_append, read, List.mem_append, List.mem_singleton, true_or, or_true]

namespace Schedule

theorem ticks (h : Schedule first before since up c) : Ticks first (before ++ since) c := by
  induction h with
  | start up => exact .none
  | drop h ih | connect h ih => simpa using ih
  | tick h run reads ih => simpa using ih.tick run
  | fault h f ih => exact ih.fault f

theorem readsConnected_eq (h : Schedule first before since up c) :
    ∀ x ∈ since, readsConnected x = up := by
  induction h with
  | start | drop | connect => simp
  | tick h run reads ih => simpa [or_imp, forall_and] using ⟨ih, readsConnected_of_runs run reads⟩
  | fault h f ih => exact ih

end Schedule

theorem restored_append {topics : List String} (seen : ∀ x ∈ since, readsConnected x = true) :
    Restored topics (before ++ since) ↔
      Restored topics before ∨ ∃ x ∈ since, subscriptions x = allMade topics := by
  induction since using List.reverseRecOn with
  | nil => simp
  | append_singleton since x ih =>
    simp only [List.forall_mem_append, List.forall_mem_singleton] at seen
    rw [← List.append_assoc, restored_concat, ih seen.1]
    simp [seen.2, or_and_right, exists_or, or_assoc]

theorem tries_iff_unrestored (h : Ticks first log c) (down : first.channelUp = false)
    (run : Runs c.tick exchanges c') (seen : readsConnected exchanges = true) :
    (Restored first.topics.subscriptions log → subscriptions exchanges = []) ∧
      (¬ Restored first.topics.subscriptions log →
        ∃ made, TriesInOrder first.topics.subscriptions (subscriptions exchanges) made) := by
  have restored := h.restored_iff down
  have named := h.topics_eq
  obtain ⟨t, rfl, rfl⟩ := (runs_tick_iff _ _ _).1 run
  obtain ⟨told, follows, -⟩ := t.follows
  obtain ⟨tried, untried⟩ := follows.tried
  rw [t.started_eq.1, named, t.started_eq.2.1, ← Bool.not_eq_true, restored] at tried
  rw [t.started_eq.2.1, ← Bool.not_eq_true, restored] at untried
  exact ⟨fun stands => untried fun due => due.2 stands, fun due => tried ⟨seen, due⟩⟩

theorem Schedule.unsubscribed (h : Schedule first before since up c)
    (down : first.channelUp = false) (connected : up = true)
    (stands : Restored first.topics.subscriptions before) :
    ∀ x ∈ since, subscriptions x = [] := by
  induction h with
  | start | drop | connect => simp
  | @tick before since up c c' exchanges h run reads ih =>
    subst connected
    have seen := h.readsConnected_eq
    have still : Restored first.topics.subscriptions (before ++ since) :=
      (restored_append seen).2 (.inl stands)
    have last := (tries_iff_unrestored h.ticks down run (readsConnected_of_runs run reads)).1 still
    simpa [or_imp, forall_and] using ⟨ih rfl stands, last⟩
  | fault h f ih => exact ih connected stands

theorem eq_allMade_of_tried {topics : List String} {results : List (String × Bool)} {done : Bool}
    (tried : TriesInOrder topics results done) (made : ∀ x ∈ results, x.2 = true) :
    results = allMade topics := by
  refine tried.done_iff.1 ?_
  induction tried with
  | none => rfl
  | failed topic rest => simp at made
  | made topic later ih => exact ih fun x hx => made x (List.mem_cons_of_mem _ hx)

/-- A tick that finds the channel connected, and whose subscriptions do not fail, has the device
subscribed on this connection if and only if the outage before it was seen: as long as all topics
were subscribed once and every tick since then, up to the last connect, saw the channel up, nothing
is subscribed on the new connection. -/
theorem resubscribed_iff_outage_seen {config : Config} {store : Store} {id : String}
    {boot : BootCheck} {start : Nat}
    (schedule : Schedule (initial config store id boot start) before since true c)
    (run : Runs c.tick exchanges c')
    (connected : ∀ reading ∈ channelReadings exchanges, reading = true)
    (made : ∀ x ∈ subscriptions exchanges, x.2 = true) :
    let topics := (Wire.Topics.ofId id).subscriptions
    let tried := (since ++ [exchanges]).flatMap subscriptions
    ((∀ topic ∈ topics, (topic, true) ∈ tried) ↔ ¬ Restored topics before) ∧
      (Restored topics before → tried = []) := by
  intro topics tried
  have seen := schedule.readsConnected_eq
  have all := schedule.tick run connected
  have unsubscribed (stands : Restored topics before) : tried = [] :=
    List.flatMap_eq_nil_iff.2 (all.unsubscribed rfl rfl stands)
  refine ⟨⟨fun subscribed stands => ?_, fun unseen => ?_⟩, unsubscribed⟩
  · have none := subscribed _ (List.mem_cons_self)
    rw [unsubscribed stands] at none
    cases none
  have last := tries_iff_unrestored schedule.ticks rfl run (readsConnected_of_runs run connected)
  intro topic mem
  have whole : ∃ x ∈ since ++ [exchanges], subscriptions x = allMade topics := by
    by_cases stands : Restored topics (before ++ since)
    · obtain ⟨x, hx, hmade⟩ := ((restored_append seen).1 stands).resolve_left unseen
      exact ⟨x, by simp [hx], hmade⟩
    · obtain ⟨done, tries⟩ := last.2 stands
      exact ⟨exchanges, by simp, eq_allMade_of_tried tries made⟩
  obtain ⟨x, hx, hmade⟩ := whole
  refine List.mem_flatMap.2 ⟨x, hx, ?_⟩
  rw [hmade]
  exact List.mem_map.2 ⟨topic, mem, rfl⟩

theorem seen_outage_resubscribed :
    let c := initial {} { capacity := 8 } "a" (.read false) 0
    let gone : Bench := { channel := { mailbox := .fixed false false [] } }
    let c₁ := (c.tick.run Bench.respond {}).1
    let c₂ := (c₁.tick.run Bench.respond gone).1
    let third := c₂.tick.exchanges Bench.respond {}
    ∀ topic ∈ (Wire.Topics.ofId "a").subscriptions, (topic, true) ∈ subscriptions third := by
  intro c gone c₁ c₂ third
  have first : Schedule c [] [c.tick.exchanges Bench.respond {}] true c₁ :=
    (Schedule.start true).tick (Dialogue.runs_run Bench.respond c.tick {}) (by decide +kernel)
  have second : Schedule c _ [c₁.tick.exchanges Bench.respond gone] false c₂ :=
    first.drop.tick (Dialogue.runs_run Bench.respond c₁.tick gone) (by decide +kernel)
  have run := Dialogue.runs_run Bench.respond c₂.tick {}
  obtain ⟨subscribed, -⟩ :=
    resubscribed_iff_outage_seen second.connect run (by decide +kernel) (by decide +kernel)
  have unseen : readsConnected (c₁.tick.exchanges Bench.respond gone) = false := by decide +kernel
  have lost := subscribed.2 fun stands => by
    simpa [unseen] using ((restored_concat _ _ _).1 stands).1
  simpa using lost

/-- The channel is up in two ticks and was gone and back between them: the second tick subscribes
nothing, though the first one's subscriptions went with the connection. -/
theorem unseen_outage_not_resubscribed :
    let c := initial {} { capacity := 8 } "a" (.read false) 0
    let c' := (c.tick.run Bench.respond {}).1
    let first := c.tick.exchanges Bench.respond {}
    let second := c'.tick.exchanges Bench.respond {}
    Schedule c [first] [] true c' ∧ Runs c'.tick second (c'.tick.run Bench.respond {}).1 ∧
      (∀ reading ∈ channelReadings second, reading = true) ∧
      (∀ x ∈ subscriptions second, x.2 = true) ∧
      ¬ ∀ topic ∈ (Wire.Topics.ofId "a").subscriptions, (topic, true) ∈ subscriptions second := by
  intro c c' first second
  have before : Schedule c [] [first] true c' :=
    (Schedule.start true).tick (Dialogue.runs_run Bench.respond c.tick {}) (by decide +kernel)
  exact ⟨before.drop.connect, Dialogue.runs_run Bench.respond c'.tick {}, by decide +kernel,
    by decide +kernel, by decide +kernel⟩

end DoughAnalyzer.Controller

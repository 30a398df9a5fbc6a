import DoughAnalyzer.Proofs.Controller.JunkFrames

set_option autoImplicit false

namespace DoughAnalyzer

theorem Identity.Accepted.separator_not_mem {id : String} (h : Accepted id) : '/' ∉ id.toList := by
  rw [accepted_iff, parse_eq_ok_iff, refusal?_eq_none_iff] at h
  exact fun separator => absurd (h.1.2.1 _ separator) (by decide)

namespace Wire.Topics

theorem name_of_fullTopic {a b x y : String} (ha : '/' ∉ a.toList) (hb : '/' ∉ b.toList)
    (same : fullTopic a x = fullTopic b y) : a = b := by
  have split (id leaf : String) :
      (fullTopic id leaf).toList = "analyzer/".toList ++ (id.toList ++ '/' :: leaf.toList) := by
    simp [fullTopic]
  have rest : a.toList ++ '/' :: x.toList = b.toList ++ '/' :: y.toList :=
    List.append_cancel_left ((split a x).symm.trans ((congrArg _ same).trans (split b y)))
  have level {id : String} (h : '/' ∉ id.toList) (leaf : List Char) :
      (id.toList ++ '/' :: leaf).takeWhile (· ≠ '/') = id.toList := by
    have kept : ∀ c ∈ id.toList, decide (c ≠ '/') = true := fun c hc =>
      decide_eq_true fun separator => h (separator ▸ hc)
    rw [List.takeWhile_append_of_pos kept]
    exact List.append_nil _
  have name := level ha x.toList
  rw [rest, level hb] at name
  exact String.toList_inj.1 name.symm

theorem leaf_of_mem {id topic : String} (h : id.utf8ByteSize ≤ 40)
    (mem : topic ∈ (ofId id).toList) :
    ∃ leaf, topic = fullTopic id leaf := by
  have cut (leaf : String) : ∃ rest, Topics.topic id leaf = fullTopic id rest := by
    rw [topic_eq h]
    split
    · exact ⟨leaf, rfl⟩
    · exact ⟨"", rfl⟩
  simp only [toList, ofId, List.mem_cons, List.not_mem_nil, or_false] at mem
  rcases mem with rfl | rfl | rfl | rfl | rfl | rfl <;> exact cut _

/-- Two devices share no topic. -/
theorem disjoint_ofId {a b topic : String} (ha : Identity.Accepted a) (hb : Identity.Accepted b)
    (other : a ≠ b) (mine : topic ∈ (ofId a).toList) : topic ∉ (ofId b).toList := by
  intro yours
  obtain ⟨x, hx⟩ := leaf_of_mem ha.size_le mine
  obtain ⟨y, hy⟩ := leaf_of_mem hb.size_le yours
  exact other (name_of_fullTopic ha.separator_not_mem hb.separator_not_mem (hx.symm.trans hy))

theorem unsubscribed_of_mem {a b topic : String} (ha : Identity.Accepted a)
    (hb : Identity.Accepted b) (other : a ≠ b) (yours : topic ∈ (ofId b).toList) :
    topic ∉ (ofId a).subscriptions := by
  have subset : (ofId a).subscriptions ⊆ (ofId a).toList := by simp [subscriptions, toList]
  exact fun subscribed => disjoint_ofId ha hb other (subset subscribed) yours

end Wire.Topics

namespace Controller

open Dialogue (Runs)

variable {c c' : Controller} {frame : Wire.Frame} {now : Nat} {exchanges : List Exchange}

theorem runs_dispatch_other
    (meaningless : Wire.Router.classify c.topics frame.topic frame.payload = .ok .other)
    (run : Runs (c.dispatch frame now) exchanges c') :
    c' = c.recount (c.router.count + 1) ∧ asked exchanges = [] := by
  obtain ⟨before, _, _, rfl, logged, run₁⟩ := (Dialogue.runs_bind _ _ _ _).1 run
  have read : (c.router.route frame.topic frame.payload).2.1 = .ok .other := meaningless
  split at run₁
  case h_1 refused => cases read.symm.trans refused
  case h_2 understood =>
    cases read.symm.trans understood
    obtain ⟨_, result, _, rfl, handled, run₂⟩ := (Dialogue.runs_bind _ _ _ _).1 run₁
    obtain ⟨rfl, rfl⟩ := (Dialogue.runs_pure _ _ _).1 handled
    obtain ⟨_, _, _, rfl, loggedLater, run₃⟩ := (Dialogue.runs_bind _ _ _ _).1 run₂
    obtain ⟨rfl, rfl⟩ := (Dialogue.runs_pure _ _ _).1 run₃
    rw [asked_append, asked_append, asked_append, runs_sayAll logged, runs_sayAll loggedLater]
    exact ⟨rfl, rfl⟩

/-- The name that a device gives itself is one that is accepted as it is. The topics of two accepted
names have none in common, so a device makes nothing of a frame on a topic of another, whatever it
holds: the frame is counted and logged, and that is all. Nor do such frames, as long as a tick takes
all that wait, change the phase, the session with its store, and the notices of any tick. -/
theorem devices_are_isolated :
    (∀ provisioned mac,
      Identity.parse (Identity.resolve provisioned mac) =
        .ok (Identity.resolve provisioned mac)) ∧
    ∀ a b, Identity.parse a = .ok a → Identity.parse b = .ok b → a ≠ b →
      (∀ topic ∈ (Wire.Topics.ofId a).toList, topic ∉ (Wire.Topics.ofId b).toList) ∧
      (∀ topic ∈ (Wire.Topics.ofId b).toList, ∀ payload,
        (∀ count, Wire.Router.reading a count topic payload = .ok .other) ∧
        ∀ (c c' : Controller) (now : Nat) (exchanges : List Exchange),
          c.topics = Wire.Topics.ofId a → Runs (c.dispatch ⟨topic, payload⟩ now) exchanges c' →
          c' = c.recount (c.router.count + 1) ∧ asked exchanges = []) ∧
      ∀ (first c c' : Controller) (log log' : List (List Exchange)) (ports : Surroundings),
        first.topics = Wire.Topics.ofId a →
        Abreast (PadsTick (·.topic ∈ (Wire.Topics.ofId b).toList)) first log c log' c' →
        ports.Answers [] (log.flatMap (heard (Wire.Topics.ofId a))) →
        ports.Answers [] (log'.flatMap (heard (Wire.Topics.ofId a))) →
        c' = c.recount c'.router.count ∧
          log.map (statusPayloads (Wire.Topics.ofId a)) =
            log'.map (statusPayloads (Wire.Topics.ofId a)) := by
  refine ⟨fun provisioned mac =>
    (Identity.accepted_iff _).1 (Identity.accepted_resolve provisioned mac), ?_⟩
  intro a b ha hb other
  have hA := (Identity.accepted_iff a).2 ha
  have hB := (Identity.accepted_iff b).2 hb
  refine ⟨fun topic mine => Wire.Topics.disjoint_ofId hA hB other mine, ?_, ?_⟩
  · intro topic foreign payload
    have meaningless :=
      classify_foreign (Wire.Topics.unsubscribed_of_mem hA hB other foreign) payload
    refine ⟨fun count => meaningless, fun c c' now exchanges named run => ?_⟩
    exact runs_dispatch_other (named ▸ meaningless) run
  · intro first c c' log log' ports named abreast answered answered'
    exact abreast.traceless ports named (apart_ofId hA.size_le)
      (fun _ foreign => Junk.updateMessage?_eq
        (.foreign (Wire.Topics.unsubscribed_of_mem hA hB other foreign))) answered answered'

theorem long_names_are_isolated :
    let a := "3f2504e0-4f89-41d3-9a0c-0305e82c3301-bb0"
    let b := "3f2504e0-4f89-41d3-9a0c-0305e82c3301-bb1"
    let c := initial {} { capacity := 8 } a (.read false) 0
    let ports (q : Request) := (Bench.respond q {}).1
    let queue : List Wire.Frame := [⟨"analyzer/" ++ b ++ "/ota/start", oneOctetAnnounced.payload⟩,
      ⟨"analyzer/" ++ b ++ "/", []⟩]
    (c.tick.run (queued ports) queue).1 = (c.tick.run (queued ports) []).1.recount 2 ∧
      Wire.Router.reading a 0 ("analyzer/" ++ b ++ "/") [] = .ok .other := by
  intro a b c ports queue
  obtain ⟨-, isolated⟩ := devices_are_isolated
  obtain ⟨-, unread, traceless⟩ := isolated a b (by decide +kernel) (by decide +kernel) (by decide)
  have foreign : PadsTick (·.topic ∈ (Wire.Topics.ofId b).toList) [] queue :=
    ⟨.insert (by decide +kernel) (.insert (by decide +kernel) .nil), by decide⟩
  have same := (traceless c _ _ _ _ _ rfl (abreast_queued ports c foreign)
    (answers_tick_queued ports c _ _) (answers_tick_queued ports c _ _)).1
  refine ⟨same.trans ?_, (unread _ (by decide +kernel) []).1 0⟩
  rw [show (c.tick.run (queued ports) queue).1.router.count = 2 by decide +kernel]

end Controller

end DoughAnalyzer

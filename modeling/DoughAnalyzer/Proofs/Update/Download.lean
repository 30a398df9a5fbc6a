import DoughAnalyzer.Proofs.Update.Invariant

set_option autoImplicit false

namespace DoughAnalyzer.Update.Session

namespace Entry

def begunAt? (e : Entry) : Option Nat :=
  match e.input, e.outcome.result with
  | .call (.start _ _ now), .verdict (.ok ()) => some now
  | _, _ => none

/-- A chunk that was accepted, with its time. -/
def taken? (e : Entry) : Option (Wire.Chunk × Nat) :=
  match e.input, e.outcome.result with
  | .call (.chunk c now), .verdict (.ok ()) => some (c, now)
  | _, _ => none

def resumedAt? (e : Entry) : Option Nat :=
  match e.input with
  | .call (.reconnect now) => some now
  | _ => none

def heardAt? (e : Entry) : Option Nat := (e.taken?.map Prod.snd).or e.resumedAt?

end Entry

structure Download where
  begunAt : Nat
  since : List Entry

namespace Download

/-- Every announcement that is accepted begins another one. -/
def add (d : Option Download) (e : Entry) : Option Download :=
  match e.begunAt? with
  | some now => some ⟨now, []⟩
  | none => d.map fun d => { d with since := d.since ++ [e] }

def ofRecord (log : List Entry) : Option Download := log.foldl add none

def taken (d : Download) : List (Wire.Chunk × Nat) := d.since.filterMap Entry.taken?

/-- When octets last came; as long as there are none, when the announcement did. -/
def advancedAt (d : Download) : Nat :=
  ((d.taken.filter fun c => c.1.payload ≠ []).map Prod.snd).getLastD d.begunAt

/-- When the last chunk was accepted or the channel came back, or the announcement came. -/
def heardAt (d : Download) : Nat := (d.since.filterMap Entry.heardAt?).getLastD d.begunAt

theorem ofRecord_append_singleton (log : List Entry) (e : Entry) :
    ofRecord (log ++ [e]) = add (ofRecord log) e := by
  simp [ofRecord]

theorem add_of_not_begun (d : Download) {e : Entry} (h : e.begunAt? = none) :
    add (some d) e = some { d with since := d.since ++ [e] } := by
  simp [add, h]

theorem advancedAt_of_taken_eq_nil {d : Download} (h : d.taken = []) :
    d.advancedAt = d.begunAt := by
  simp [advancedAt, h]

end Download

/-- The clocks of a session are those of a download. -/
structure Clocked (s : Session) (d : Download) : Prop where
  begun : s.startedAt = d.begunAt
  counted : s.chunks = d.taken.length
  advanced : s.lastProgressAt = d.advancedAt
  heard : s.lastChunkAt = d.heardAt

theorem clocked_begin (s : Session) (a : Wire.Announcement) (w : Store.Writer) (store : Store)
    (now : Nat) : (s.begin a w store now).Clocked ⟨now, []⟩ :=
  ⟨rfl, rfl, rfl, rfl⟩

theorem Clocked.congr {s r : Session} {d : Download} (h : s.Clocked d)
    (hstarted : r.startedAt = s.startedAt) (hchunks : r.chunks = s.chunks)
    (hprogress : r.lastProgressAt = s.lastProgressAt) (hchunk : r.lastChunkAt = s.lastChunkAt) :
    r.Clocked d :=
  ⟨hstarted.trans h.begun, hchunks.trans h.counted, hprogress.trans h.advanced,
    hchunk.trans h.heard⟩

theorem Clocked.pass {s : Session} {d : Download} (h : s.Clocked d) {e : Entry}
    (ht : e.taken? = none) (hr : e.resumedAt? = none) :
    s.Clocked { d with since := d.since ++ [e] } := by
  obtain ⟨begun, counted, advanced, heard⟩ := h
  have hh : e.heardAt? = none := by simp [Entry.heardAt?, ht, hr]
  refine ⟨begun, ?_, ?_, ?_⟩
  · simp [counted, Download.taken, ht]
  · simp [advanced, Download.advancedAt, Download.taken, ht]
  · simp [heard, Download.heardAt, hh]

theorem Clocked.grown {s : Session} {d : Download} {w : Store.Writer} {c : Wire.Chunk} {now : Nat}
    (h : s.Clocked d) (sound : s.chunkFault? w c now = none) {e : Entry}
    (ht : e.taken? = some (c, now)) :
    (s.grown w c now).Clocked { d with since := d.since ++ [e] } := by
  obtain ⟨notified, hgrown⟩ := grown_eq sound
  have hh : e.heardAt? = some now := by simp [Entry.heardAt?, ht]
  rw [hgrown]
  refine ⟨h.begun, ?_, ?_, ?_⟩
  · simp [h.counted, Download.taken, ht]
  · by_cases hempty : c.payload = []
    · simp [h.advanced, Download.advancedAt, Download.taken, ht, hempty]
    · simp [Download.advancedAt, Download.taken, ht, hempty, List.length_pos_iff]
  · simp [Download.heardAt, hh]

theorem Clocked.resumed {s : Session} {d : Download} (h : s.Clocked d) {now : Nat} {e : Entry}
    (ht : e.taken? = none) (hr : e.resumedAt? = some now) :
    Clocked { s with lastChunkAt := now } { d with since := d.since ++ [e] } := by
  have hh : e.heardAt? = some now := by simp [Entry.heardAt?, ht, hr]
  refine ⟨h.begun, ?_, ?_, ?_⟩
  · simp [h.counted, Download.taken, ht]
  · simp [h.advanced, Download.advancedAt, Download.taken, ht]
  · simp [Download.heardAt, hh]

def Tracks (s : Session) (d : Option Download) : Prop :=
  s.status = .downloading → ∃ x, d = some x ∧ s.Clocked x

theorem Tracks.of_not_running {s : Session} (h : s.status ≠ .downloading) (d : Option Download) :
    s.Tracks d :=
  fun running => absurd running h

theorem Tracks.add {s r : Session} {d : Option Download} {e : Entry} (h : s.Tracks d)
    (running : s.status = .downloading) (hb : e.begunAt? = none)
    (next : ∀ x, s.Clocked x → r.Clocked { x with since := x.since ++ [e] }) :
    r.Tracks (Download.add d e) := by
  obtain ⟨x, rfl, hx⟩ := h running
  exact fun _ => ⟨_, Download.add_of_not_begun x hb, next x hx⟩

theorem Tracks.pass {s r : Session} {d : Option Download} {e : Entry} (h : s.Tracks d)
    (hs : r.status = s.status) (hb : e.begunAt? = none) (ht : e.taken? = none)
    (hr : e.resumedAt? = none) (same : ∀ x, s.Clocked x → r.Clocked x) :
    r.Tracks (Download.add d e) := by
  intro running
  refine h.add (hs ▸ running) hb (fun x hx => ?_) running
  exact (same x hx).pass ht hr

theorem Transition.tracks {s : Session} {i : Input} {o : Outcome Reply} {d : Option Download}
    (t : Transition s i o) (h : s.Tracks d) : o.session.Tracks (Download.add d ⟨i, o⟩) := by
  cases t with
  | fault | startIgnored | startRejected | chunkUnexpected | abortIgnored | pollIdle | pollQuiet
  | pollWarned => exact h.pass rfl rfl rfl rfl fun x hx => hx.congr rfl rfl rfl rfl
  | started a safe now => exact fun _ => ⟨_, rfl, clocked_begin ..⟩
  | chunkFailed | imageRefused | aborted | timedOut => exact .of_not_running (by simp [ended]) _
  | imageActivated => exact .of_not_running (by simp [activated]) _
  | reset => exact .of_not_running (by simp [Session.reset]) _
  | rebooted => exact .of_not_running (by simp) _
  | reconnectIgnored now other => exact .of_not_running other _
  | chunkTaken c now w running holds sound =>
    exact h.add running rfl fun x hx => hx.grown sound rfl
  | resumed now running => exact h.add running rfl fun x hx => hx.resumed rfl rfl

theorem tracks_after_fresh (capacity : Nat) (timing : Timing) (history : List Input) :
    ((fresh capacity timing).after history).Tracks
      (Download.ofRecord ((fresh capacity timing).record history)) := by
  have first : (fresh capacity timing).Settled ∧ (fresh capacity timing).Tracks none :=
    ⟨.fresh capacity timing, .of_not_running (by simp [fresh, ofStore]) _⟩
  refine (record_induction
    (P := fun s log => s.Settled ∧ s.Tracks (Download.ofRecord log)) [] first
    (fun s log i h => ?_) history).2
  have t := take_transition h.1 i
  rw [Download.ofRecord_append_singleton]
  exact ⟨t.settled h.1, t.tracks h.2⟩

end DoughAnalyzer.Update.Session

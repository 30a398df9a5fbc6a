import DoughAnalyzer.Proofs.Identity
import DoughAnalyzer.Proofs.Wire.Chunk
import DoughAnalyzer.Wire.Router

/-!
The topics of a device are meant to be `analyzer/{id}/{leaf}`, six different ones, of which three
tell what a received message means. `Conforms` states this for one name. A name of up to 34 octets
conforms, and no longer one: the leaf of the diagnostics response then has no room left, from 36
octets on that of the request neither, and both topics end after the name.
-/

set_option autoImplicit false

namespace DoughAnalyzer.Wire

namespace Topics

def fullTopic (id leaf : String) : String := "analyzer/" ++ id ++ "/" ++ leaf

def full (id : String) : Topics where
  telemetry := fullTopic id "telemetry"
  diagnosticsRequest := fullTopic id "diagnostics/request"
  diagnosticsResponse := fullTopic id "diagnostics/response"
  updateStart := fullTopic id "ota/start"
  updateChunk := fullTopic id "ota/chunk"
  updateStatus := fullTopic id "ota/status"

def toList (t : Topics) : List String :=
  [t.telemetry, t.diagnosticsRequest, t.diagnosticsResponse, t.updateStart, t.updateChunk,
    t.updateStatus]

theorem fullTopic_inj (id x y : String) : fullTopic id x = fullTopic id y ↔ x = y :=
  String.append_right_inj _

theorem utf8ByteSize_fullTopic (id leaf : String) :
    (fullTopic id leaf).utf8ByteSize = 10 + id.utf8ByteSize + leaf.utf8ByteSize := by
  have hprefix : "analyzer/".utf8ByteSize = 9 := rfl
  have hslash : "/".utf8ByteSize = 1 := rfl
  simp only [fullTopic, String.utf8ByteSize_append, hprefix, hslash]
  omega

/-- The name always has room; the leaf may have none. -/
theorem topic_eq {id : String} (h : id.utf8ByteSize ≤ 40) (leaf : String) :
    topic id leaf =
      if 10 + id.utf8ByteSize + leaf.utf8ByteSize ≤ 64 then fullTopic id leaf
      else fullTopic id "" := by
  have hfits (s : String) : Text.fits capacity s = true ↔ s.utf8ByteSize ≤ 64 :=
    decide_eq_true_iff
  have hprefix : "analyzer/".utf8ByteSize = 9 := rfl
  have hid : ("analyzer/" ++ id).utf8ByteSize = 9 + id.utf8ByteSize := by
    rw [String.utf8ByteSize_append, hprefix]
  have hslash : ("analyzer/" ++ id ++ "/").utf8ByteSize = 10 + id.utf8ByteSize := by
    rw [String.utf8ByteSize_append, hid, show "/".utf8ByteSize = 1 from rfl]
    omega
  simp only [topic, Text.fill, Text.fillFrom, String.empty_append]
  rw [if_pos ((hfits _).2 (by omega)), if_pos ((hfits _).2 (by omega)),
    if_pos ((hfits _).2 (by omega))]
  simp only [hfits, ← utf8ByteSize_fullTopic]
  exact ite_congr rfl (fun _ => rfl) fun _ => (String.append_empty ..).symm

theorem topic_of_short_leaf {id leaf : String} (h : id.utf8ByteSize ≤ 40)
    (hleaf : leaf.utf8ByteSize ≤ 14) : topic id leaf = fullTopic id leaf := by
  rw [topic_eq h, if_pos (by omega)]

theorem updateChunk_ofId {id : String} (h : id.utf8ByteSize ≤ 40) :
    (ofId id).updateChunk = fullTopic id "ota/chunk" :=
  topic_of_short_leaf h (by decide)

theorem updateStart_ofId {id : String} (h : id.utf8ByteSize ≤ 40) :
    (ofId id).updateStart = fullTopic id "ota/start" :=
  topic_of_short_leaf h (by decide)

theorem diagnosticsRequest_ofId {id : String} (h : id.utf8ByteSize ≤ 40) :
    (ofId id).diagnosticsRequest =
      if id.utf8ByteSize ≤ 35 then fullTopic id "diagnostics/request" else fullTopic id "" := by
  have hsize : "diagnostics/request".utf8ByteSize = 19 := rfl
  refine (topic_eq h _).trans (ite_congr ?_ (fun _ => rfl) fun _ => rfl)
  rw [hsize]
  exact propext (by omega)

theorem diagnosticsResponse_ofId {id : String} (h : id.utf8ByteSize ≤ 40) :
    (ofId id).diagnosticsResponse =
      if id.utf8ByteSize ≤ 34 then fullTopic id "diagnostics/response" else fullTopic id "" := by
  have hsize : "diagnostics/response".utf8ByteSize = 20 := rfl
  refine (topic_eq h _).trans (ite_congr ?_ (fun _ => rfl) fun _ => rfl)
  rw [hsize]
  exact propext (by omega)

theorem ofId_eq {id : String} (h : id.utf8ByteSize ≤ 40) :
    ofId id =
      { full id with
        diagnosticsRequest :=
          if id.utf8ByteSize ≤ 35 then fullTopic id "diagnostics/request" else fullTopic id ""
        diagnosticsResponse :=
          if id.utf8ByteSize ≤ 34 then fullTopic id "diagnostics/response"
          else fullTopic id "" } := by
  have htelemetry : (ofId id).telemetry = fullTopic id "telemetry" :=
    topic_of_short_leaf h (by decide)
  have hstatus : (ofId id).updateStatus = fullTopic id "ota/status" :=
    topic_of_short_leaf h (by decide)
  rw [← diagnosticsRequest_ofId h, ← diagnosticsResponse_ofId h]
  simp only [full, ← htelemetry, ← hstatus, ← updateStart_ofId h, ← updateChunk_ofId h]

end Topics

theorem Announcement.decode_error {raw : Octets} {e : DecodeError}
    (h : Announcement.decode raw = .error e) : e ≠ .truncated := by
  unfold Announcement.decode at h
  split at h
  · cases h; simp
  · split at h
    · cases h
    · cases h; simp

namespace Router

/-- What the reading of a payload ends in tells which of the two readings it was. -/
theorem chunk_ne_announcement (payload : Octets) :
    (Chunk.decode payload).map .chunk ≠ (Announcement.decode payload).map Message.announcement := by
  cases hc : Chunk.decode payload with
  | error e =>
    cases ha : Announcement.decode payload with
    | error e' =>
      have he := Chunk.decode_error hc
      have he' := Announcement.decode_error ha
      simp only [Except.map, ne_eq, Except.error.injEq]
      exact fun heq => he' (heq ▸ he)
    | ok a => simp [Except.map]
  | ok c => cases Announcement.decode payload <;> simp [Except.map]

theorem classify_eq_chunk_iff (t : Topics) (topic : String) (payload : Octets) :
    classify t topic payload = (Chunk.decode payload).map .chunk ↔ topic = t.updateChunk := by
  unfold classify
  split
  case isTrue htopic => simp [htopic]
  rename_i htopic
  simp only [htopic, iff_false]
  split
  · exact (chunk_ne_announcement payload).symm
  · cases Chunk.decode payload <;> split <;> simp [Except.map]

theorem classify_eq_announcement_iff {t : Topics} (ht : t.updateStart ≠ t.updateChunk)
    (topic : String) (payload : Octets) :
    classify t topic payload = (Announcement.decode payload).map .announcement ↔
      topic = t.updateStart := by
  unfold classify
  split
  case isTrue htopic =>
    rw [htopic]
    exact ⟨fun h => absurd h (chunk_ne_announcement payload), fun h => absurd h.symm ht⟩
  rename_i hchunk
  split
  case isTrue htopic => simp [htopic]
  rename_i htopic
  simp only [htopic, iff_false]
  cases Announcement.decode payload <;> split <;> simp [Except.map]

theorem classify_eq_request_iff {t : Topics} (hc : t.diagnosticsRequest ≠ t.updateChunk)
    (hs : t.diagnosticsRequest ≠ t.updateStart) (topic : String) (payload : Octets) :
    classify t topic payload = .ok .diagnosticsRequest ↔ topic = t.diagnosticsRequest := by
  unfold classify
  split
  case isTrue htopic =>
    have hne : topic ≠ t.diagnosticsRequest := htopic ▸ hc.symm
    simp only [hne, iff_false]
    cases Chunk.decode payload <;> simp [Except.map]
  rename_i hchunk
  split
  case isTrue htopic =>
    have hne : topic ≠ t.diagnosticsRequest := htopic ▸ hs.symm
    simp only [hne, iff_false]
    cases Announcement.decode payload <;> simp [Except.map]
  rename_i hstart
  split
  case isTrue htopic => simp [htopic]
  case isFalse htopic => simp [htopic]

def reading (id : String) (count : UInt32) (topic : String) (payload : Octets) :
    Except DecodeError Message :=
  (Router.route ⟨Topics.ofId id, count⟩ topic payload).2.1

end Router

namespace Topics

/-- The topics are the full ones, they differ, and a message is read as its full topic says. -/
structure Conforms (id : String) : Prop where
  layout : ofId id = full id
  distinct : (ofId id).toList.Nodup
  chunk : ∀ count topic payload,
    Router.reading id count topic payload = (Chunk.decode payload).map .chunk ↔
      topic = fullTopic id "ota/chunk"
  announcement : ∀ count topic payload,
    Router.reading id count topic payload = (Announcement.decode payload).map .announcement ↔
      topic = fullTopic id "ota/start"
  request : ∀ count topic payload,
    Router.reading id count topic payload = .ok .diagnosticsRequest ↔
      topic = fullTopic id "diagnostics/request"

theorem nodup_map_fullTopic (id : String) (leaves : List String) (h : leaves.Nodup) :
    (leaves.map (fullTopic id)).Nodup :=
  List.Pairwise.map _ (fun _ _ hne heq => hne ((fullTopic_inj id _ _).1 heq)) h

theorem publications_nodup {id : String} (h : id.utf8ByteSize ≤ 40) :
    [(ofId id).telemetry, (ofId id).diagnosticsResponse, (ofId id).updateStatus].Nodup := by
  rw [ofId_eq h]
  by_cases roomy : id.utf8ByteSize ≤ 34
  · rw [if_pos roomy]
    exact nodup_map_fullTopic id ["telemetry", "diagnostics/response", "ota/status"] (by decide)
  · rw [if_neg roomy]
    exact nodup_map_fullTopic id ["telemetry", "", "ota/status"] (by decide)

theorem nodup_ofId_iff {id : String} (h : id.utf8ByteSize ≤ 40) :
    (ofId id).toList.Nodup ↔ id.utf8ByteSize ≤ 35 := by
  rw [ofId_eq h]
  by_cases hrequest : id.utf8ByteSize ≤ 35
  · simp only [hrequest, if_true, iff_true]
    split
    · exact nodup_map_fullTopic id ["telemetry", "diagnostics/request", "diagnostics/response",
        "ota/start", "ota/chunk", "ota/status"] (by decide)
    · exact nodup_map_fullTopic id ["telemetry", "diagnostics/request", "", "ota/start",
        "ota/chunk", "ota/status"] (by decide)
  · have hresponse : ¬ id.utf8ByteSize ≤ 34 := by omega
    simp [toList, full, hrequest, hresponse]

theorem reading_eq_chunk_iff {id : String} (h : id.utf8ByteSize ≤ 40) (count : UInt32)
    (topic : String) (payload : Octets) :
    Router.reading id count topic payload = (Chunk.decode payload).map .chunk ↔
      topic = fullTopic id "ota/chunk" := by
  rw [← updateChunk_ofId h]
  exact Router.classify_eq_chunk_iff (ofId id) topic payload

theorem reading_eq_announcement_iff {id : String} (h : id.utf8ByteSize ≤ 40) (count : UInt32)
    (topic : String) (payload : Octets) :
    Router.reading id count topic payload = (Announcement.decode payload).map .announcement ↔
      topic = fullTopic id "ota/start" := by
  have hne : (ofId id).updateStart ≠ (ofId id).updateChunk := by
    rw [updateStart_ofId h, updateChunk_ofId h, ne_eq, fullTopic_inj]
    decide
  rw [← updateStart_ofId h]
  exact Router.classify_eq_announcement_iff hne topic payload

theorem reading_eq_request_iff {id : String} (h : id.utf8ByteSize ≤ 40) (count : UInt32)
    (topic : String) (payload : Octets) :
    Router.reading id count topic payload = .ok .diagnosticsRequest ↔
      topic = (ofId id).diagnosticsRequest := by
  have hne {leaf : String} (hleaf : leaf ≠ "diagnostics/request" ∧ leaf ≠ "") :
      (ofId id).diagnosticsRequest ≠ fullTopic id leaf := by
    rw [diagnosticsRequest_ofId h]
    split
    · rw [ne_eq, fullTopic_inj]
      exact hleaf.1.symm
    · rw [ne_eq, fullTopic_inj]
      exact hleaf.2.symm
  have hchunk : (ofId id).diagnosticsRequest ≠ (ofId id).updateChunk := by
    rw [updateChunk_ofId h]
    exact hne (by decide)
  have hstart : (ofId id).diagnosticsRequest ≠ (ofId id).updateStart := by
    rw [updateStart_ofId h]
    exact hne (by decide)
  exact Router.classify_eq_request_iff hchunk hstart topic payload

theorem ofId_eq_full_iff {id : String} (h : id.utf8ByteSize ≤ 40) :
    ofId id = full id ↔ id.utf8ByteSize ≤ 34 := by
  constructor
  · intro heq
    have hresponse := diagnosticsResponse_ofId h
    rw [heq] at hresponse
    refine Decidable.byContradiction fun hsize => ?_
    rw [if_neg hsize] at hresponse
    exact absurd ((fullTopic_inj id _ _).1 hresponse) (by decide)
  · intro hsize
    have hrequest : id.utf8ByteSize ≤ 35 := by omega
    rw [ofId_eq h, if_pos hsize, if_pos hrequest]
    rfl

/-- A name that is accepted, or that a device gives itself, conforms if it has at most 34 octets and
only then. The topics that carry the update are the full ones for all names, and are read as such;
those of the diagnostics end after a name without room for their leaf, and from 36 octets on they
are one and the same. -/
theorem conforms_iff_size_le (id : String)
    (named : Identity.Accepted id ∨ ∃ provisioned mac, Identity.resolve provisioned mac = id) :
    (Conforms id ↔ id.utf8ByteSize ≤ 34) ∧
    ofId id =
      { full id with
        diagnosticsRequest :=
          if id.utf8ByteSize ≤ 35 then fullTopic id "diagnostics/request" else fullTopic id ""
        diagnosticsResponse :=
          if id.utf8ByteSize ≤ 34 then fullTopic id "diagnostics/response"
          else fullTopic id "" } ∧
    ((ofId id).toList.Nodup ↔ id.utf8ByteSize ≤ 35) ∧
    ∀ count topic payload,
      (Router.reading id count topic payload = (Chunk.decode payload).map .chunk ↔
        topic = fullTopic id "ota/chunk") ∧
      (Router.reading id count topic payload = (Announcement.decode payload).map .announcement ↔
        topic = fullTopic id "ota/start") ∧
      (Router.reading id count topic payload = .ok .diagnosticsRequest ↔
        topic = (ofId id).diagnosticsRequest) := by
  have hid : Identity.Accepted id := by
    rcases named with hid | ⟨provisioned, mac, rfl⟩
    · exact hid
    · exact Identity.accepted_resolve provisioned mac
  have h := hid.size_le
  refine ⟨⟨fun hc => (ofId_eq_full_iff h).1 hc.layout, fun hsize => ?_⟩, ofId_eq h,
    nodup_ofId_iff h, fun count topic payload => ⟨reading_eq_chunk_iff h count topic payload,
      reading_eq_announcement_iff h count topic payload,
      reading_eq_request_iff h count topic payload⟩⟩
  have hlayout := (ofId_eq_full_iff h).2 hsize
  refine ⟨hlayout, (nodup_ofId_iff h).2 (by omega), reading_eq_chunk_iff h,
    reading_eq_announcement_iff h, ?_⟩
  have hrequest := reading_eq_request_iff h
  rwa [hlayout] at hrequest

theorem guid_topics_collide :
    Identity.Accepted "3f2504e0-4f89-41d3-9a0c-0305e82c3301" ∧
      ¬ (ofId "3f2504e0-4f89-41d3-9a0c-0305e82c3301").toList.Nodup := by
  have haccepted : Identity.Accepted "3f2504e0-4f89-41d3-9a0c-0305e82c3301" :=
    ⟨_, (Identity.parse_eq_ok_iff _ _).2 ⟨by decide +kernel, rfl⟩⟩
  obtain ⟨-, -, hnodup, -⟩ := conforms_iff_size_le _ (.inl haccepted)
  exact ⟨haccepted, fun h => absurd (hnodup.1 h) (by decide)⟩

theorem guid_does_not_conform :
    Identity.Accepted "3f2504e0-4f89-41d3-9a0c-0305e82c3301" ∧
      ¬ Conforms "3f2504e0-4f89-41d3-9a0c-0305e82c3301" := by
  refine ⟨⟨_, (Identity.parse_eq_ok_iff _ _).2 ⟨by decide +kernel, rfl⟩⟩, fun h => ?_⟩
  have hlayout := congrArg diagnosticsRequest h.layout
  revert hlayout
  decide +kernel

end Topics

end DoughAnalyzer.Wire

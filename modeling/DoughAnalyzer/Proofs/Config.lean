import DoughAnalyzer.Config
import DoughAnalyzer.Proofs.Document.Object

set_option autoImplicit false

namespace DoughAnalyzer.Config

open Document (octets)

theorem derives_values (c : Config) : ∀ raw ∈ c.values, Document.Derives .value (octets raw) := by
  simp [values, Document.derives_natural, Document.derives_flag]

theorem length_values (c : Config) : c.values.length = keys.length := by simp [values, keys]

theorem ofFields?_values (c : Config) : ofFields? (c.values.map octets) = some c := by
  simp only [values, List.map_cons, List.map_nil, ofFields?, Document.wordOf_octets,
    Document.octetOf_octets, Document.flagOf_octets]
  rfl

theorem read?_document (c : Config) : read? (octets c.document) = some c := by
  have fields := Document.outline?_fields (by decide : keys.Nodup) c.length_values.symm
    c.derives_values
  rw [read?, document]
  simp [fields, ofFields?_values]

theorem decode_document (c : Config) :
    decode (octets c.document) =
      match c.validate with
      | .ok () => .ok c
      | .error e => .error e := by
  rw [decode, read?_document]
  simp only
  cases c.validate <;> rfl

theorem validate_of_decode {raw : Octets} {c : Config} (h : decode raw = .ok c) :
    c.validate = .ok () := by
  unfold decode at h
  split at h
  case h_1 => cases h
  case h_2 =>
    split at h
    case h_1 => cases h
    case h_2 valid =>
      cases h
      exact valid

/-- The document of settings that keep the rules is read as these settings, and the document of
others is refused for the first rule that they break. Whatever document settings have been read
from, they keep the rules and their own document is read as the same settings. -/
theorem documents_round_trip :
    (∀ c : Config, decode c.document.toUTF8.toList =
      match c.validate with
      | .ok () => .ok c
      | .error e => .error e) ∧
    ∀ (raw : Octets) (c : Config), decode raw = .ok c →
      c.validate = .ok () ∧ decode c.document.toUTF8.toList = .ok c := by
  refine ⟨decode_document, fun raw c read => ?_⟩
  have valid := validate_of_decode read
  refine ⟨valid, (decode_document c).trans ?_⟩
  rw [valid]

theorem array_of_settings_round_trips :
    let raw := "[1, 0, 0, 0, 0, false, 1, 1, 0, 1, 0, 100, 100]".toUTF8.toList
    ∃ c : Config, decode raw = .ok c ∧ c.validate = .ok () ∧
      decode c.document.toUTF8.toList = .ok c := by
  intro raw
  have accepted : (decode raw).isOk = true := by decide +kernel
  cases read : decode raw with
  | error e =>
    rw [read] at accepted
    cases accepted
  | ok c => exact ⟨c, rfl, documents_round_trip.2 raw c read⟩

end DoughAnalyzer.Config

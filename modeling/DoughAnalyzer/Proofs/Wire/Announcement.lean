import DoughAnalyzer.Proofs.Document.Object
import DoughAnalyzer.Wire.Announcement

set_option autoImplicit false

namespace DoughAnalyzer

namespace Document

theorem textOf_gap (gap : Gap) {s : String} {raw : Octets} (h : Quotes s raw) :
    textOf (gap.wire ++ raw) = some s := by
  have stripped : dropBlanks (gap.wire ++ raw) = raw ++ [] := by
    rw [gap.dropBlanks_append, List.append_nil, ← List.append_nil raw, h.dropBlanks_append]
  rw [textOf, stripped, h.reads]

theorem wordOf_gap (gap : Gap) (raw : Octets) : wordOf (gap.wire ++ raw) = wordOf raw := by
  rw [wordOf, boundedOf, naturalOf, gap.dropBlanks_append, ← naturalOf, ← boundedOf, ← wordOf]

theorem member?_eq_none {members : List Member} {key : String}
    (h : members.countP (·.1 = key) ≠ 1) : member? members key = none := by
  rw [List.countP_eq_length_filter] at h
  unfold member?
  split
  case h_1 alone => exact absurd (congrArg List.length alone) h
  case h_2 => rfl

theorem member?_found {o : Layout} {key : String} {value : Octets}
    (alone : o.members.filter (·.1 = key) = [(key, value)]) :
    ∃ gap : Gap, member? (o.entries.map Entry.found) key = some (gap.wire ++ value) := by
  rw [Layout.members, List.filter_map] at alone
  obtain ⟨e, only, same⟩ := List.map_eq_singleton_iff.1 alone
  obtain ⟨rfl, rfl⟩ := Prod.mk.inj same
  have found : (o.entries.map Entry.found).filter (·.1 = e.key) = [e.found] := by
    rw [List.filter_map]
    exact congrArg (List.map Entry.found) only
  exact ⟨e.ahead, by rw [member?, found]; rfl⟩

theorem countP_found (o : Layout) (key : String) :
    (o.entries.map Entry.found).countP (·.1 = key) = o.members.countP (·.1 = key) := by
  rw [Layout.members, List.countP_map, List.countP_map]
  rfl

end Document

namespace Wire.Announcement

open Document

theorem read?_of_object {raw : Octets} {members : List Member}
    (h : outline? raw = some (.object members)) :
    read? raw =
      ((member? members "version").bind textOf).bind fun version =>
        ((member? members "size").bind wordOf).bind fun size =>
          ((member? members "crc32").bind wordOf).map fun checksum =>
            ⟨version, size, checksum⟩ := by
  rw [read?, h, Option.bind_some, Outline.fields]
  simp only [keys, List.mapM_cons, List.mapM_nil]
  cases member? members "version" with
  | none => rfl
  | some version =>
    cases member? members "size" with
    | none => simp
    | some size =>
      cases member? members "crc32" with
      | none => simp
      | some checksum =>
        simp only [Option.bind_eq_bind, Option.bind_some, Option.pure_def]
        cases textOf version with
        | none => rfl
        | some version =>
          cases wordOf size with
          | none => rfl
          | some size => cases wordOf checksum <;> rfl

theorem decode_of_unread {raw : Octets} {members : List Member}
    (h : outline? raw = some (.object members))
    (unread : (member? members "version").bind textOf = none ∨
      ∃ key ∈ ["size", "crc32"], (member? members key).bind wordOf = none) :
    decode raw = .error .invalidDocument := by
  have nothing : read? raw = none := by
    rw [read?_of_object h]
    obtain version | ⟨key, known, number⟩ := unread
    · rw [version]
      rfl
    · simp only [List.mem_cons, List.not_mem_nil, or_false] at known
      rcases known with rfl | rfl
      · simp [number]
      · simp [number]
  rw [decode, nothing]

theorem alone_of_perm {members three : List Member} {key : String} {value : Octets}
    (h : (members.filter (·.1 ∈ keys)).Perm three) (known : key ∈ keys)
    (only : three.filter (·.1 = key) = [(key, value)]) :
    members.filter (·.1 = key) = [(key, value)] := by
  have sifted : (members.filter (·.1 ∈ keys)).filter (·.1 = key) = members.filter (·.1 = key) := by
    rw [List.filter_filter]
    refine List.filter_congr fun n _ => ?_
    by_cases same : n.1 = key
    · simp [same, known]
    · simp [same]
  rw [← sifted]
  exact List.perm_singleton.1 (only ▸ h.filter _)

/-- An object in any layout is read as the announcement that its three members make, whatever other
members it has and in whatever order they stand; only the size of the version is then looked at. It
is refused if one of the three is missing or stands there twice, or if a number has a sign, a
fraction or an exponent, or does not fit a word. -/
theorem decode_any_layout (o : Layout) :
    (∀ (a : Announcement) (version : Octets), Quotes a.version version →
      (o.members.filter (·.1 ∈ keys)).Perm
        [("version", version), ("size", (Numeral.ofNat a.size.toNat).wire),
          ("crc32", (Numeral.ofNat a.checksum.toNat).wire)] →
      decode o.wire = if a.version.utf8ByteSize ≤ 32 then .ok a else .error .versionTooLong) ∧
    (∀ key ∈ keys, o.members.countP (·.1 = key) ≠ 1 →
      decode o.wire = .error .invalidDocument) ∧
    (∀ key ∈ ["size", "crc32"], ∀ n : Numeral, (key, n.wire) ∈ o.members → ¬ n.IsWord →
      decode o.wire = .error .invalidDocument) := by
  have outline := outline?_wire o
  have count (key : String) (known : key ∈ keys) (count : o.members.countP (·.1 = key) ≠ 1) :
      decode o.wire = .error .invalidDocument := by
    have absent := member?_eq_none (countP_found o key ▸ count)
    refine decode_of_unread outline ?_
    simp only [keys, List.mem_cons, List.not_mem_nil, or_false] at known
    rcases known with rfl | number
    · exact .inl (by rw [absent]; rfl)
    · exact .inr ⟨key, by simpa using number, by rw [absent]; rfl⟩
  refine ⟨?read, count, ?misfit⟩
  case read =>
    intro a version spelled three
    obtain ⟨gap, versionAt⟩ := member?_found
      (alone_of_perm three (by decide : "version" ∈ keys) rfl)
    obtain ⟨gap', sizeAt⟩ := member?_found (alone_of_perm three (by decide : "size" ∈ keys) rfl)
    obtain ⟨gap'', checksumAt⟩ := member?_found
      (alone_of_perm three (by decide : "crc32" ∈ keys) rfl)
    have read : read? o.wire = some a := by
      rw [read?_of_object outline, versionAt, sizeAt, checksumAt]
      simp [textOf_gap gap spelled, wordOf_gap, Numeral.wire_ofNat, wordOf_octets]
    rw [decode, read]
    by_cases fits : a.version.utf8ByteSize ≤ 32
    · simp [Text.fits, versionCapacity, fits]
    · simp [Text.fits, versionCapacity, fits]
  case misfit =>
    intro key known n given misfit
    by_cases once : o.members.countP (·.1 = key) = 1
    · rw [List.countP_eq_length_filter, List.length_eq_one_iff] at once
      obtain ⟨m, alone⟩ := once
      have same : (key, n.wire) ∈ o.members.filter (·.1 = key) :=
        List.mem_filter.2 ⟨given, by simp⟩
      rw [alone, List.mem_singleton] at same
      obtain ⟨gap, found⟩ := member?_found (same ▸ alone)
      refine decode_of_unread outline (.inr ⟨key, known, ?_⟩)
      rw [found, Option.bind_some, wordOf_gap, wordOf_wire misfit]
    · exact count key (List.mem_cons_of_mem _ known) once

theorem quotes_codes : Quotes "é😀" (octets "\"\\u00e9\\uD83d\\ude00\"") := by
  have characters : "é😀".toList = ['é', '😀'] := by decide +kernel
  refine ⟨["\\u00e9".toList.map ascii, "\\uD83d\\ude00".toList.map ascii], ?_, by decide +kernel⟩
  rw [characters]
  refine .cons (.code (.digits ?_ ?_ ?_ ?_)) (.cons (.surrogates ?_ (.digits ?_ ?_ ?_ ?_)
    (.digits ?_ ?_ ?_ ?_)) .nil)
  all_goals decide

/-- Half a pair of codes, and a number without a size, in an array of arrays. -/
theorem derives_oddities : Derives .value (octets "[[\"\\udC00\"],-0e+99]") := by
  have code : HexCode 0xDC00 ("dC00".toList.map ascii) :=
    .digits (by decide) (by decide) (by decide) (by decide)
  have half : Derives .items _ := .lastItem (.item [] [] (.text (.code code .nil)))
  have power : Derives .value _ := .number
    { negative := true, whole := 0
      exponent := some { mark := 'e', sign := ['+'], digits := ⟨9, [9]⟩ } }
  refine Eq.subst (motive := Derives .value) ?_
    (.array (.moreItems (.item [] [] (.array half)) (.lastItem (.item [] [] power))))
  decide +kernel

def coded (other : Entry) (size : Numeral) : Layout where
  entries :=
    [.ofPrinted ("crc32", natural 9) (derives_natural 9), other,
      { key := "version", value := octets "\"\\u00e9\\uD83d\\ude00\"", after := [.tab]
        name := octets (text "version"), ahead := [.newline]
        spelled := quotes_text "version", derived := quotes_codes.derives },
      { key := "size", value := size.wire, ahead := [.space], name := octets (text "size")
        spelled := quotes_text "size", derived := .number size }]
  behind := [.newline]

theorem coded_version_among_others :
    let oddities := Entry.ofPrinted ("notes", "[[\"\\udC00\"],-0e+99]") derives_oddities
    let twice := Entry.ofPrinted ("size", natural 8) (derives_natural 8)
    let power : Numeral := { whole := 7, exponent := some { mark := 'e', digits := ⟨0, []⟩ } }
    (coded oddities (.ofNat 7)).wire =
      octets ("\x7b\"crc32\":9,\"notes\":[[\"\\udC00\"],-0e+99]," ++
        "\"version\"\t:\n\"\\u00e9\\uD83d\\ude00\",\"size\": 7\x7d\n") ∧
    decode (coded oddities (.ofNat 7)).wire = .ok ⟨"é😀", 7, 9⟩ ∧
    decode (coded twice (.ofNat 7)).wire = .error .invalidDocument ∧
    decode (coded oddities power).wire = .error .invalidDocument := by
  intro oddities twice power
  refine ⟨by decide +kernel, ?_, ?_, ?_⟩
  · exact (decode_any_layout _).1 ⟨"é😀", 7, 9⟩ _ quotes_codes (by decide +kernel)
  · exact (decode_any_layout _).2.1 "size" (by decide) (by decide +kernel)
  · exact (decode_any_layout _).2.2 "size" (by decide) power
      (List.mem_of_mem_getLast? rfl) fun h => by cases h.no_exponent

end Wire.Announcement

end DoughAnalyzer

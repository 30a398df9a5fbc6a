import DoughAnalyzer.Proofs.Document.Grammar

/-!
A value is skipped whole. Whatever the grammar derives, the machine goes over without looking
further than to the octet behind it, where a number shows that it has ended.
-/

set_option autoImplicit false

namespace DoughAnalyzer.Document

/-- What may follow a value. -/
def isDelimiter (b : UInt8) : Bool :=
  isBlank b || b == ascii ',' || b == ascii ']' || b == ascii '\x7d'

def Delimited (s : Octets) : Prop := ∃ b rest, s = b :: rest ∧ isDelimiter b = true

theorem Gap.delimited (gap : Gap) {b : UInt8} (h : isDelimiter b = true) (rest : Octets) :
    Delimited (gap.wire ++ b :: rest) := by
  cases gap with
  | nil => exact ⟨b, rest, rfl, h⟩
  | cons d gap =>
    exact ⟨d.wire, Gap.wire gap ++ b :: rest, rfl, by simp [isDelimiter, isBlank_wire]⟩

theorem IsHex.isHexDigit_eq {d : Nat} {b : UInt8} (h : IsHex d b) : isHexDigit b = true := by
  have all : ∀ d < 16, isHexDigit (ascii (Nat.digitChar d)) = true ∧
      isHexDigit (ascii (Nat.digitChar d).toUpper) = true := by decide
  obtain ⟨hd, rfl | rfl⟩ := h
  · exact (all d hd).1
  · exact (all d hd).2

theorem isDigit_digit (d : Fin 10) : isDigit (digit d) = true := by
  revert d
  decide

namespace Scan

variable {stack stack' : Stack} {mode mode' : Mode} {b : UInt8}

theorem run_cons (inside : mode ≠ .after ∨ stack ≠ []) (goesOn : endsNumber mode b = false)
    (h : step stack mode b = some (stack', mode')) (rest : Octets) :
    run stack mode (b :: rest) = run stack' mode' rest := by
  have unfinished : (stack.isEmpty && mode == .after) = false := by
    rcases inside with other | nonempty
    · simp [other]
    · simp [nonempty]
  simp [run, goesOn, h, unfinished]

def waiting : List Mode := [.value, .firstItem, .firstKey, .key, .colon, .after]

theorem run_gap (inside : mode ≠ .after ∨ stack ≠ []) (waits : mode ∈ waiting) (gap : Gap)
    (rest : Octets) : run stack mode (gap.wire ++ rest) = run stack mode rest := by
  have stays (b : Blank) : endsNumber mode b.wire = false ∧
      step stack mode b.wire = some (stack, mode) := by
    simp only [waiting, List.mem_cons, List.not_mem_nil, or_false] at waits
    rcases waits with rfl | rfl | rfl | rfl | rfl | rfl <;>
      exact ⟨rfl, by simp [step, isBlank_wire]⟩
  induction gap with
  | nil => rfl
  | cons b gap ih => exact (run_cons inside (stays b).1 (stays b).2 _).trans ih

def opening : List Mode := [.value, .firstItem]

theorem waiting_of_opening (opens : mode ∈ opening) : mode ≠ .after ∧ mode ∈ waiting := by
  revert mode
  decide

theorem visible_of_open? (h : open? stack b = some (stack', mode')) :
    isBlank b = false ∧ (b == ascii ']') = false := by
  constructor
  · by_contra blank
    simp only [Bool.not_eq_false, isBlank, Bool.or_eq_true, beq_iff_eq] at blank
    rcases blank with ((rfl | rfl) | rfl) | rfl <;> cases h
  · by_contra bracket
    simp only [Bool.not_eq_false, beq_iff_eq] at bracket
    subst bracket
    cases h

theorem run_open (opens : mode ∈ opening) (h : open? stack b = some (stack', mode'))
    (rest : Octets) : run stack mode (b :: rest) = run stack' mode' rest := by
  obtain ⟨visible, other⟩ := visible_of_open? h
  simp only [opening, List.mem_cons, List.not_mem_nil, or_false] at opens
  rcases opens with rfl | rfl
  · exact run_cons (.inl (by decide)) rfl (by simp [step, visible, h]) rest
  · exact run_cons (.inl (by decide)) rfl (by simp [step, visible, other, h]) rest

theorem run_close (c : Container) (visible : isBlank b = false)
    (h : close? (c :: stack) b = some (stack', mode')) (rest : Octets) :
    run (c :: stack) .after (b :: rest) = run stack' mode' rest :=
  run_cons (.inr (List.cons_ne_nil c stack)) rfl (by simp [step, visible, h]) rest

theorem run_letters {word : Octets} (unread : word ≠ []) (rest : Octets) :
    run stack (.word word) (word ++ rest) = run stack .after rest := by
  induction word with
  | nil => exact absurd rfl unread
  | cons c word ih =>
    have goes : step stack (.word (c :: word)) c =
        some (stack, if word.isEmpty then .after else .word word) := by simp [step]
    rw [List.cons_append, run_cons (.inl (by simp)) rfl goes]
    cases word with
    | nil => rfl
    | cons d word => exact ih (List.cons_ne_nil d word)

theorem run_word {w : String} (known : w ∈ ["null", "true", "false"]) (opens : mode ∈ opening)
    (rest : Octets) : run stack mode (octets w ++ rest) = run stack .after rest := by
  have null : octets "null" = ascii 'n' :: [ascii 'u', ascii 'l', ascii 'l'] := by decide +kernel
  have yes : octets "true" = ascii 't' :: [ascii 'r', ascii 'u', ascii 'e'] := by decide +kernel
  have no : octets "false" = ascii 'f' :: [ascii 'a', ascii 'l', ascii 's', ascii 'e'] := by
    decide +kernel
  simp only [List.mem_cons, List.not_mem_nil, or_false] at known
  rcases known with rfl | rfl | rfl
  · rw [null, List.cons_append, run_open opens rfl, run_letters (by simp)]
  · rw [yes, List.cons_append, run_open opens rfl, run_letters (by simp)]
  · rw [no, List.cons_append, run_open opens rfl, run_letters (by simp)]

theorem run_backslash (isKey : Bool) (rest : Octets) :
    run stack (.text isKey) (ascii '\\' :: rest) = run stack (.escape isKey) rest :=
  run_cons (.inl (by simp)) rfl rfl rest

theorem run_hexDigit {isKey : Bool} {d left : Nat} (h : IsHex d b) (rest : Octets) :
    run stack (.hex isKey left) (b :: rest) =
      run stack (if left ≤ 1 then .text isKey else .hex isKey (left - 1)) rest :=
  run_cons (.inl (by simp)) rfl (by simp [step, h.isHexDigit_eq]) rest

theorem run_hexCode {isKey : Bool} {n : Nat} {raw : Octets} (h : HexCode n raw) (rest : Octets) :
    run stack (.escape isKey) (ascii 'u' :: (raw ++ rest)) = run stack (.text isKey) rest := by
  obtain ⟨first, second, third, last⟩ := h
  have opened (tail : Octets) : run stack (.escape isKey) (ascii 'u' :: tail) =
      run stack (.hex isKey 4) tail := run_cons (.inl (by simp)) rfl rfl tail
  simp [opened, run_hexDigit first, run_hexDigit second, run_hexDigit third, run_hexDigit last]

theorem run_loose {isKey : Bool} {s : Octets} (h : Loose s) (rest : Octets) :
    run stack (.text isKey) (s ++ ascii '"' :: rest) =
      run stack (if isKey then .colon else .after) rest := by
  induction h with
  | nil => exact run_cons (.inl (by simp)) rfl (by simp [step, textStep]) rest
  | plain visible _ ih =>
    obtain ⟨quote, backslash, control⟩ := visible
    rw [List.cons_append, run_cons (.inl (by simp)) rfl
      (show _ = some (stack, .text isKey) by simp [step, textStep, quote, backslash, control]), ih]
  | @letter l _ means _ ih =>
    have all : (escapes.map Prod.fst).all
        (fun l => isEscapeLetter (ascii l) && !(ascii l == ascii 'u')) = true := by decide
    have known := List.all_eq_true.1 all l means
    simp only [Bool.and_eq_true, Bool.not_eq_true'] at known
    rw [List.cons_append, run_backslash, List.cons_append, run_cons (.inl (by simp)) rfl
      (show _ = some (stack, .text isKey) by simp [step, escapeStep, known]), ih]
  | code digits _ ih =>
    rw [List.cons_append, run_backslash, List.cons_append, List.append_assoc, run_hexCode digits,
      ih]

theorem run_key (keys : mode ∈ [Mode.key, .firstKey]) (gap : Gap) (rest : Octets) :
    run stack mode (gap.wire ++ ascii '"' :: rest) = run stack (.text true) rest := by
  simp only [List.mem_cons, List.not_mem_nil, or_false] at keys
  rcases keys with rfl | rfl <;>
    rw [run_gap (.inl (by decide)) (by decide), run_cons (.inl (by decide)) rfl rfl]

theorem step_of_numberStep (h : numberStep mode b = some mode') :
    step stack mode b = some (stack, mode') := by
  cases mode with
  | minus | zero | digits | point | fraction | exponent | exponentSign | power => simp [step, h]
  | _ => cases h

theorem run_number (h : numberStep mode b = some mode') (rest : Octets) :
    run stack mode (b :: rest) = run stack mode' rest := by
  refine run_cons (.inl ?_) ?_ (step_of_numberStep h) rest
  · rintro rfl
    cases h
  · cases mode <;> simp [endsNumber, h]

theorem run_laterDigits (goesOn : ∀ d, isDigit d = true → numberStep mode d = some mode)
    {ds : Octets} (digits : ∀ d ∈ ds, isDigit d = true) (rest : Octets) :
    run stack mode (ds ++ rest) = run stack mode rest := by
  induction ds with
  | nil => rfl
  | cons d ds ih =>
    obtain ⟨first, later⟩ := List.forall_mem_cons.1 digits
    rw [List.cons_append, run_number (goesOn d first), ih later]

theorem run_digits (first : ∀ d : Fin 10, numberStep mode (digit d) = some mode')
    (goesOn : ∀ d, isDigit d = true → numberStep mode' d = some mode') (ds : Digits)
    (rest : Octets) : run stack mode (ds.wire ++ rest) = run stack mode' rest := by
  have later : ∀ d ∈ ds.later.map digit, isDigit d = true := by simp [isDigit_digit]
  rw [Digits.wire, List.cons_append, run_number (first ds.first), run_laterDigits goesOn later]

theorem run_whole (stack : Stack) (opens : mode ∈ opening) (negative : Bool) (n : Nat)
    (rest : Octets) :
    ∃ mode' ∈ [Mode.zero, .digits],
      run stack mode ((if negative then [ascii '-'] else []) ++ (octets (natural n) ++ rest)) =
        run stack mode' rest := by
  obtain ⟨d, digits, printed, isNatural, -⟩ := octets_natural n
  have opened : run stack mode ((if negative then [ascii '-'] else []) ++ (d :: digits ++ rest)) =
      run stack (if d = ascii '0' then .zero else .digits) (digits ++ rest) := by
    have first : numberStep .minus d = some (if d = ascii '0' then .zero else .digits) ∧
        open? stack d = some (stack, if d = ascii '0' then .zero else .digits) := by
      obtain ⟨k, hk, rfl⟩ := exists_of_isDigit isNatural.first
      match k, hk with
      | 0, _ | 1, _ | 2, _ | 3, _ | 4, _ | 5, _ | 6, _ | 7, _ | 8, _ | 9, _ => exact ⟨rfl, rfl⟩
    cases negative with
    | true => exact (run_open opens rfl _).trans (run_number first.1 _)
    | false => exact run_open opens first.2 _
  rw [printed, opened]
  by_cases zero : d = ascii '0'
  · obtain rfl := isNatural.leading.resolve_left (not_not_intro zero)
    exact ⟨.zero, by decide, by rw [if_pos zero]; rfl⟩
  · refine ⟨.digits, by decide, ?_⟩
    rw [if_neg zero]
    exact run_laterDigits (fun d digit => by simp [numberStep, digit]) isNatural.later rest

theorem run_fraction (stack : Stack) (number : mode ∈ [Mode.zero, .digits])
    (fraction : Option Digits) (rest : Octets) :
    ∃ mode' ∈ [Mode.zero, .digits, .fraction],
      run stack mode (fraction.elim [] (fun ds => ascii '.' :: ds.wire) ++ rest) =
        run stack mode' rest := by
  cases fraction with
  | none => exact ⟨mode, List.mem_append_left [Mode.fraction] number, rfl⟩
  | some ds =>
    have point : numberStep mode (ascii '.') = some .point := by
      simp only [List.mem_cons, List.not_mem_nil, or_false] at number
      rcases number with rfl | rfl <;> rfl
    refine ⟨.fraction, by decide, (run_number point _).trans ?_⟩
    exact run_digits (by decide) (fun d digit => by simp [numberStep, digit]) ds rest

theorem run_exponent (stack : Stack) (number : mode ∈ [Mode.zero, .digits, .fraction])
    (exponent : Option Exponent) (rest : Octets) :
    ∃ mode' ∈ [Mode.zero, .digits, .fraction, .power],
      run stack mode (exponent.elim [] Exponent.wire ++ rest) = run stack mode' rest := by
  cases exponent with
  | none => exact ⟨mode, List.mem_append_left [Mode.power] number, rfl⟩
  | some e =>
    obtain ⟨mark, sign, ds, hmark, hsign⟩ := e
    have marked : numberStep mode (ascii mark) = some .exponent := by
      simp only [List.mem_cons, List.not_mem_nil, or_false] at number hmark
      rcases number with rfl | rfl | rfl <;> rcases hmark with rfl | rfl <;> rfl
    have power : ∀ d, isDigit d = true → numberStep .power d = some .power := fun d digit => by
      simp [numberStep, digit]
    refine ⟨.power, by decide, ?_⟩
    simp only [Option.elim_some, Exponent.wire, List.cons_append, List.append_assoc]
    rw [run_number marked]
    simp only [List.mem_cons, List.not_mem_nil, or_false] at hsign
    rcases hsign with rfl | rfl | rfl
    · exact run_digits (by decide) power ds rest
    · exact (run_number rfl _).trans (run_digits (by decide) power ds rest)
    · exact (run_number rfl _).trans (run_digits (by decide) power ds rest)

theorem run_delimited (number : mode ∈ [Mode.zero, .digits, .fraction, .power]) {rest : Octets}
    (ends : Delimited rest) : run stack mode rest = run stack .after rest := by
  obtain ⟨b, rest, rfl, h⟩ := ends
  have stops : endsNumber mode b = true := by
    simp only [isDelimiter, isBlank, Bool.or_eq_true, beq_iff_eq] at h
    simp only [List.mem_cons, List.not_mem_nil, or_false] at number
    rcases h with (((((rfl | rfl) | rfl) | rfl) | rfl) | rfl) | rfl <;>
      rcases number with rfl | rfl | rfl | rfl <;> decide
  simp [run, stops]

theorem run_numeral (opens : mode ∈ opening) (n : Numeral) {rest : Octets}
    (ends : Delimited rest) : run stack mode (n.wire ++ rest) = run stack .after rest := by
  rw [Numeral.wire, List.append_assoc, List.append_assoc, List.append_assoc]
  obtain ⟨mode₁, number₁, whole⟩ := run_whole stack opens n.negative n.whole
    (n.fraction.elim [] (fun ds => ascii '.' :: ds.wire) ++
      (n.exponent.elim [] Exponent.wire ++ rest))
  obtain ⟨mode₂, number₂, fraction⟩ := run_fraction stack number₁ n.fraction
    (n.exponent.elim [] Exponent.wire ++ rest)
  obtain ⟨mode₃, number₃, exponent⟩ := run_exponent stack number₂ n.exponent rest
  rw [whole, fraction, exponent, run_delimited number₃ ends]

/-- What the machine does with a part of a value, whatever stands around it. -/
def Skips : Part → Octets → Prop
  | .value, s => ∀ (stack : Stack) (mode : Mode) (rest : Octets), mode ∈ opening → Delimited rest →
      run stack mode (s ++ rest) = run stack .after rest
  | .item, s => ∀ (c : Container) (stack : Stack) (mode : Mode) (b : UInt8) (rest : Octets),
      mode ∈ opening → isDelimiter b = true →
      run (c :: stack) mode (s ++ b :: rest) = run (c :: stack) .after (b :: rest)
  | .items, s => ∀ (stack : Stack) (mode : Mode) (rest : Octets), mode ∈ opening →
      run (.array :: stack) mode (s ++ ascii ']' :: rest) = run stack .after rest
  | .member, s => ∀ (stack : Stack) (mode : Mode) (b : UInt8) (rest : Octets),
      mode ∈ [.key, .firstKey] → isDelimiter b = true →
      run (.object :: stack) mode (s ++ b :: rest) = run (.object :: stack) .after (b :: rest)
  | .members, s => ∀ (stack : Stack) (mode : Mode) (rest : Octets), mode ∈ [.key, .firstKey] →
      run (.object :: stack) mode (s ++ ascii '\x7d' :: rest) = run stack .after rest

theorem skips_of_derives {part : Part} {s : Octets} (h : Derives part s) : Skips part s := by
  -- Stack and mode are left open by each part, so that a part can stand at any depth.
  induction h with
  | word known => exact fun stack mode rest opens ends => run_word known opens rest
  | number n => exact fun stack mode rest opens ends => run_numeral opens n ends
  | text loose =>
    intro stack mode rest opens ends
    rw [List.cons_append, List.append_assoc, List.singleton_append, run_open opens rfl,
      run_loose loose]
    rfl
  | emptyArray gap | emptyObject gap =>
    intro stack mode rest opens ends
    rw [List.cons_append, List.append_assoc, List.singleton_append, run_open opens rfl,
      run_gap (.inl (by decide)) (by decide), run_cons (.inl (by decide)) rfl rfl]
  | array items ih =>
    intro stack mode rest opens ends
    rw [List.cons_append, List.append_assoc, List.singleton_append, run_open opens rfl,
      ih stack .firstItem rest (by decide)]
  | object members ih =>
    intro stack mode rest opens ends
    rw [List.cons_append, List.append_assoc, List.singleton_append, run_open opens rfl,
      ih stack .firstKey rest (by decide)]
  | item before after value ih =>
    intro c stack mode b rest opens delimiter
    obtain ⟨inside, waits⟩ := waiting_of_opening opens
    rw [List.append_assoc, List.append_assoc, run_gap (.inl inside) waits,
      ih _ mode _ opens (after.delimited delimiter rest),
      run_gap (.inr (List.cons_ne_nil c stack)) (by decide)]
  | lastItem item ih =>
    intro stack mode rest opens
    rw [ih .array stack mode _ rest opens (by decide), run_close .array rfl rfl]
  | moreItems item items first later =>
    intro stack mode rest opens
    rw [List.append_assoc, List.cons_append, first .array stack mode _ _ opens (by decide),
      run_close .array rfl rfl, later stack .value rest (by decide)]
  | member before after loose item ih =>
    intro stack mode b rest keys delimiter
    simp only [List.append_assoc, List.cons_append]
    rw [run_key keys, run_loose loose, if_pos rfl, run_gap (.inl (by decide)) (by decide),
      run_cons (.inl (by decide)) rfl rfl, ih .object stack .value b rest (by decide) delimiter]
  | lastMember member ih =>
    intro stack mode rest keys
    rw [ih stack mode _ rest keys (by decide), run_close .object rfl rfl]
  | moreMembers member members first later =>
    intro stack mode rest keys
    rw [List.append_assoc, List.cons_append, first stack mode _ _ keys (by decide),
      run_close .object rfl rfl, later stack .key rest (by decide)]

end Scan

theorem takeValue_of_run {raw rest : Octets}
    (h : Scan.run [] .value (raw ++ rest) = some rest) :
    takeValue (raw ++ rest) = some (raw, rest) := by
  rw [takeValue, h]
  simp

/-- Octets that are found as one value. -/
def Stands (raw : Octets) : Prop :=
  ∀ b rest, isDelimiter b = true → takeValue (raw ++ b :: rest) = some (raw, b :: rest)

/-- A value of any kind and depth is found, with the blanks before it. -/
theorem Derives.stands {raw : Octets} (h : Derives .value raw) (gap : Gap) :
    Stands (gap.wire ++ raw) := by
  intro b rest delimiter
  have skipped : Scan.run [] .value (gap.wire ++ raw ++ b :: rest) = some (b :: rest) := by
    rw [List.append_assoc, Scan.run_gap (.inl (by decide)) (by decide),
      Scan.skips_of_derives h [] .value _ (by decide) ⟨b, rest, rfl, delimiter⟩]
    rfl
  exact takeValue_of_run skipped

end DoughAnalyzer.Document

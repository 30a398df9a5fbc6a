import DoughAnalyzer.Document.Literal
import DoughAnalyzer.Document.Print
import Mathlib.Data.List.Forall2

set_option autoImplicit false

namespace DoughAnalyzer.Document

def octets (s : String) : Octets := s.toUTF8.toList

def encode (cs : List Char) : Octets := cs.flatMap String.utf8EncodeChar

theorem loop_toList (bytes : ByteArray) (i : Nat) (acc : Octets) :
    ByteArray.toList.loop bytes i acc = acc.reverse ++ bytes.data.toList.drop i := by
  fun_induction ByteArray.toList.loop bytes i acc with
  | case1 i acc inside ih =>
    have hi : i < bytes.data.toList.length := inside
    have octet : bytes.get! i = bytes.data.toList[i] := by
      simp [ByteArray.get!, getElem!_pos bytes.data i inside]
    rw [ih, List.drop_eq_getElem_cons hi, octet, List.reverse_cons, List.append_assoc]
    rfl
  | case2 i acc outside =>
    have hi : bytes.data.toList.length ≤ i := Nat.le_of_not_lt outside
    rw [List.drop_eq_nil_of_le hi, List.append_nil]

theorem octets_eq (s : String) : octets s = encode s.toList := by
  have encoded : s.toUTF8 = (encode s.toList).toByteArray := String.utf8Encode_toList.symm
  rw [octets, encoded, ByteArray.toList, loop_toList, List.toList_data_toByteArray]
  rfl

theorem encode_append (x y : List Char) : encode (x ++ y) = encode x ++ encode y :=
  List.flatMap_append

theorem octets_append (s t : String) : octets (s ++ t) = octets s ++ octets t := by
  rw [octets_eq, String.toList_append, encode_append, ← octets_eq, ← octets_eq]

theorem fromUTF8?_octets (s : String) : String.fromUTF8? (octets s).toByteArray = some s := by
  have encoded : (octets s).toByteArray = s.toByteArray := by
    rw [octets_eq]
    exact String.utf8Encode_toList
  rw [encoded, String.fromUTF8?, dif_pos s.isValidUTF8]
  rfl

/-- An octet that a reader takes as it stands. -/
def IsPlain (b : UInt8) : Prop := b ≠ ascii '"' ∧ b ≠ ascii '\\' ∧ ¬ b < 0x20

theorem readText_plain {bs : Octets} (plain : ∀ b ∈ bs, IsPlain b) (acc rest : Octets) :
    readText .plain acc (bs ++ rest) = readText .plain (bs.reverse ++ acc) rest := by
  induction bs generalizing acc with
  | nil => rfl
  | cons b bs ih =>
    obtain ⟨⟨quote, backslash, control⟩, later⟩ := List.forall_mem_cons.1 plain
    rw [List.cons_append, readText, if_neg (by simpa using quote),
      if_neg (by simpa using backslash), if_neg control, ih later, List.reverse_cons,
      List.append_assoc]
    rfl

theorem isPlain_ofNat {n : Nat} (octet : n < 256) (quote : n ≠ 34) (backslash : n ≠ 92)
    (control : 32 ≤ n) : IsPlain (UInt8.ofNat n) := by
  have value : (UInt8.ofNat n).toNat = n := UInt8.toNat_ofNat_of_lt' octet
  refine ⟨fun same => quote ?_, fun same => backslash ?_, fun small => ?_⟩
  · rw [← value, same]
    rfl
  · rw [← value, same]
    rfl
  · rw [UInt8.lt_iff_toNat_lt, value] at small
    exact absurd control (Nat.not_le_of_lt small)

theorem isPlain_of_mem {c : Char} (quote : c ≠ '"') (backslash : c ≠ '\\')
    (control : ¬ c.toNat < 32) : ∀ b ∈ String.utf8EncodeChar c, IsPlain b := by
  have code {n : Nat} (same : c.val.toNat = n) : c = Char.ofNat n := by
    rw [← same]
    exact (Char.ofNat_toNat c).symm
  have high (n k : Nat) (hn : n < 128) (hk : 128 ≤ n + k) (octet : n + k < 256) :
      IsPlain (UInt8.ofNat (n + k)) :=
    isPlain_ofNat octet (by omega) (by omega) (by omega)
  unfold String.utf8EncodeChar
  simp only
  split
  case isTrue ascii =>
    intro b hb
    rw [List.mem_singleton.1 hb]
    exact isPlain_ofNat (by omega) (fun h => quote (code h)) (fun h => backslash (code h))
      (Nat.le_of_not_lt control)
  split
  · simp only [List.forall_mem_cons]
    exact ⟨high _ _ (by omega) (by omega) (by omega), high _ _ (by omega) (by omega) (by omega),
      by simp⟩
  split
  · simp only [List.forall_mem_cons]
    exact ⟨high _ _ (by omega) (by omega) (by omega), high _ _ (by omega) (by omega) (by omega),
      high _ _ (by omega) (by omega) (by omega), by simp⟩
  · simp only [List.forall_mem_cons]
    exact ⟨high _ _ (by omega) (by omega) (by omega), high _ _ (by omega) (by omega) (by omega),
      high _ _ (by omega) (by omega) (by omega), high _ _ (by omega) (by omega) (by omega),
      by simp⟩

def escapes : List (Char × Char) :=
  [('"', '"'), ('\\', '\\'), ('/', '/'), ('b', '\x08'), ('f', '\x0c'), ('n', '\n'), ('r', '\r'),
    ('t', '\t')]

def IsHex (d : Nat) (b : UInt8) : Prop :=
  d < 16 ∧ (b = ascii (Nat.digitChar d) ∨ b = ascii (Nat.digitChar d).toUpper)

instance (d : Nat) (b : UInt8) : Decidable (IsHex d b) := inferInstanceAs (Decidable (_ ∧ _))

inductive HexCode (code : Nat) : Octets → Prop where
  | digits {a b c d : UInt8} (first : IsHex (code / 0x1000) a)
      (second : IsHex (code / 0x100 % 0x10) b) (third : IsHex (code / 0x10 % 0x10) c)
      (last : IsHex (code % 0x10) d) : HexCode code [a, b, c, d]

/-- The ways to write a character in a text. Every character has a code or a pair of them. -/
inductive Spells (c : Char) : Octets → Prop where
  | plain (quote : c ≠ '"') (backslash : c ≠ '\\') (visible : 0x20 ≤ c.toNat) :
      Spells c (String.utf8EncodeChar c)
  | letter {l : Char} (means : (l, c) ∈ escapes) : Spells c [ascii '\\', ascii l]
  | code {raw : Octets} (digits : HexCode c.toNat raw) : Spells c (ascii '\\' :: ascii 'u' :: raw)
  | surrogates {high low : Octets} (beyond : 0x10000 ≤ c.toNat)
      (first : HexCode (0xD800 + (c.toNat - 0x10000) / 0x400) high)
      (second : HexCode (0xDC00 + (c.toNat - 0x10000) % 0x400) low) :
      Spells c (ascii '\\' :: ascii 'u' :: high ++ ascii '\\' :: ascii 'u' :: low)

theorem IsHex.hexDigit?_eq {d : Nat} {b : UInt8} (h : IsHex d b) : hexDigit? b = some d := by
  have all : ∀ d < 16, hexDigit? (ascii (Nat.digitChar d)) = some d ∧
      hexDigit? (ascii (Nat.digitChar d).toUpper) = some d := by decide
  obtain ⟨hd, rfl | rfl⟩ := h
  · exact (all d hd).1
  · exact (all d hd).2

theorem isHex_digitChar {d : Nat} (h : d < 16) : IsHex d (ascii (Nat.digitChar d)) :=
  ⟨h, .inl rfl⟩

theorem ofDigits_code (code : Nat) :
    ((code / 0x1000 * 16 + code / 0x100 % 0x10) * 16 + code / 0x10 % 0x10) * 16 + code % 0x10 =
      code := by
  omega

namespace HexCode

variable {code : Nat} {raw : Octets}

theorem readText_hex (h : HexCode code raw) (acc rest : Octets) :
    readText (.hex 4 0) acc (raw ++ rest) =
      if isHighSurrogate code then readText (.partner code) acc rest
      else if isLowSurrogate code then none
      else readText .plain ((encodePoint code).reverse ++ acc) rest := by
  obtain ⟨first, second, third, last⟩ := h
  simp only [List.cons_append, List.nil_append, readText, first.hexDigit?_eq, second.hexDigit?_eq,
    third.hexDigit?_eq, last.hexDigit?_eq, Nat.zero_mul, Nat.zero_add, ofDigits_code]
  rfl

theorem readText_partnerHex (h : HexCode code raw) (high : Nat) (acc rest : Octets) :
    readText (.partnerHex high 4 0) acc (raw ++ rest) =
      if isLowSurrogate code then
        readText .plain ((encodePoint (joinSurrogates high code)).reverse ++ acc) rest
      else none := by
  obtain ⟨first, second, third, last⟩ := h
  simp only [List.cons_append, List.nil_append, readText, first.hexDigit?_eq, second.hexDigit?_eq,
    third.hexDigit?_eq, last.hexDigit?_eq, Nat.zero_mul, Nat.zero_add, ofDigits_code]
  rfl

end HexCode

theorem encodePoint_toNat (c : Char) : encodePoint c.toNat = String.utf8EncodeChar c := by
  rw [encodePoint, Char.ofNat_toNat]

theorem toNat_lt (c : Char) : c.toNat < 0x110000 := by
  rcases c.valid with small | ⟨-, large⟩
  · exact Nat.lt_trans small (by decide)
  · exact large

theorem unpaired_toNat (c : Char) :
    isHighSurrogate c.toNat = false ∧ isLowSurrogate c.toNat = false := by
  have valid : c.toNat < 0xD800 ∨ 0xDFFF < c.toNat := c.valid.imp id And.left
  constructor
  · simp [isHighSurrogate]; omega
  · simp [isLowSurrogate]; omega

theorem Spells.readText_eq {c : Char} {raw : Octets} (h : Spells c raw) (acc rest : Octets) :
    readText .plain acc (raw ++ rest) =
      readText .plain ((String.utf8EncodeChar c).reverse ++ acc) rest := by
  cases h with
  | plain quote backslash visible =>
    exact readText_plain (isPlain_of_mem quote backslash (Nat.not_lt_of_le visible)) acc rest
  | letter means =>
    simp only [escapes, List.mem_cons, Prod.mk.injEq, List.not_mem_nil, or_false] at means
    rcases means with ⟨rfl, rfl⟩ | ⟨rfl, rfl⟩ | ⟨rfl, rfl⟩ | ⟨rfl, rfl⟩ | ⟨rfl, rfl⟩ | ⟨rfl, rfl⟩ |
      ⟨rfl, rfl⟩ | ⟨rfl, rfl⟩ <;> rfl
  | @code raw digits =>
    obtain ⟨notHigh, notLow⟩ := unpaired_toNat c
    have opened : readText .plain acc (ascii '\\' :: ascii 'u' :: raw ++ rest) =
        readText (.hex 4 0) acc (raw ++ rest) := rfl
    rw [opened, digits.readText_hex, if_neg (by simp [notHigh]), if_neg (by simp [notLow]),
      encodePoint_toNat]
  | @surrogates high low beyond first second =>
    have limit := toNat_lt c
    have isHigh : isHighSurrogate (0xD800 + (c.toNat - 0x10000) / 0x400) = true := by
      simp [isHighSurrogate]; omega
    have isLow : isLowSurrogate (0xDC00 + (c.toNat - 0x10000) % 0x400) = true := by
      simp [isLowSurrogate]; omega
    have joined : joinSurrogates (0xD800 + (c.toNat - 0x10000) / 0x400)
        (0xDC00 + (c.toNat - 0x10000) % 0x400) = c.toNat := by
      unfold joinSurrogates; omega
    have opened : readText .plain acc
        (ascii '\\' :: ascii 'u' :: high ++ ascii '\\' :: ascii 'u' :: low ++ rest) =
        readText (.hex 4 0) acc (high ++ (ascii '\\' :: ascii 'u' :: low ++ rest)) := by
      rw [List.append_assoc]; rfl
    have between (code : Nat) :
        readText (.partner code) acc (ascii '\\' :: ascii 'u' :: low ++ rest) =
          readText (.partnerHex code 4 0) acc (low ++ rest) := rfl
    rw [opened, first.readText_hex, if_pos isHigh, between, second.readText_partnerHex,
      if_pos isLow, joined, encodePoint_toNat]

/-- The ways to write a text between its quotes: each character in its own way. -/
def Quotes (s : String) (raw : Octets) : Prop :=
  ∃ parts : List Octets, List.Forall₂ Spells s.toList parts ∧
    raw = ascii '"' :: (parts.flatten ++ [ascii '"'])

theorem readText_spelled {cs : List Char} {parts : List Octets} (h : List.Forall₂ Spells cs parts)
    (acc rest : Octets) :
    readText .plain acc (parts.flatten ++ ascii '"' :: rest) =
      some (acc.reverse ++ encode cs, rest) := by
  induction h generalizing acc with
  | nil => simp [encode, readText]
  | cons first later ih =>
    rw [List.flatten_cons, List.append_assoc, first.readText_eq, ih]
    simp [encode]

/-- Octets in which a text stands, whatever follows them. -/
def Reads (raw : Octets) (s : String) : Prop := ∀ rest, takeText (raw ++ rest) = some (s, rest)

theorem Quotes.reads {s : String} {raw : Octets} (h : Quotes s raw) : Reads raw s := by
  obtain ⟨parts, spelled, rfl⟩ := h
  intro rest
  rw [List.cons_append, List.append_assoc, takeText, if_pos (by decide), List.singleton_append,
    readText_spelled spelled]
  simp [← octets_eq, fromUTF8?_octets]

theorem encode_controlEscape (c : Char) (h : c.toNat < 32) :
    encode (controlEscape c) = [ascii '\\', ascii 'u', ascii '0', ascii '0',
      ascii (Nat.digitChar (c.toNat / 16)), ascii (Nat.digitChar (c.toNat % 16))] := by
  have all : ∀ d < 16, String.utf8EncodeChar (Nat.digitChar d) = [ascii (Nat.digitChar d)] := by
    decide
  simp only [encode, controlEscape, List.flatMap_cons, all _ (show c.toNat / 16 < 16 by omega),
    all _ (show c.toNat % 16 < 16 by omega)]
  rfl

theorem spells_escape (c : Char) : Spells c (encode (escape c)) := by
  have code {n : Nat} (same : c.toNat = n) : c = Char.ofNat n := by
    rw [← same, Char.ofNat_toNat]
  unfold escape
  split
  case isTrue quote => exact .letter (l := '"') (by simp [quote, escapes])
  split
  case isTrue backslash => exact .letter (l := '\\') (by simp [backslash, escapes])
  split
  case isTrue backspace => exact .letter (l := 'b') (by rw [code backspace]; decide)
  split
  case isTrue tab => exact .letter (l := 't') (by rw [code tab]; decide)
  split
  case isTrue newline => exact .letter (l := 'n') (by rw [code newline]; decide)
  split
  case isTrue formfeed => exact .letter (l := 'f') (by rw [code formfeed]; decide)
  split
  case isTrue carriage => exact .letter (l := 'r') (by rw [code carriage]; decide)
  split
  case isTrue control =>
    have zero : c.toNat / 0x1000 = 0 ∧ c.toNat / 0x100 % 0x10 = 0 := by omega
    rw [encode_controlEscape c control]
    refine .code (.digits ?_ ?_ ?_ ?_)
    · exact zero.1 ▸ isHex_digitChar (by decide)
    · exact zero.2 ▸ isHex_digitChar (by decide)
    · rw [Nat.mod_eq_of_lt (by omega : c.toNat / 0x10 < 0x10)]
      exact isHex_digitChar (by omega)
    · exact isHex_digitChar (by omega)
  case isFalse quote backslash _ _ _ _ _ control =>
    rw [encode, List.flatMap_singleton]
    exact .plain quote backslash (Nat.le_of_not_lt control)

theorem octets_text (s : String) :
    octets (text s) = ascii '"' :: (encode (s.toList.flatMap escape) ++ [ascii '"']) := by
  rw [octets_eq, text, String.toList_ofList, List.cons_append, encode, List.flatMap_cons]
  exact congrArg _ (encode_append _ _)

theorem quotes_text (s : String) : Quotes s (octets (text s)) := by
  refine ⟨s.toList.map fun c => encode (escape c), ?_, ?_⟩
  · exact List.forall₂_map_right_iff.2 (List.forall₂_same.2 fun c _ => spells_escape c)
  · rw [octets_text, encode, List.flatMap_assoc, List.flatMap_def]
    rfl

end DoughAnalyzer.Document

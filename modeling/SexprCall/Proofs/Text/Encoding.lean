import SexprCall.Text.Utf8

/-! Decoding what was encoded. Each character is one lead byte with its bits and the continuation bytes
that are expected after it. -/
namespace SexprCall.Text.Utf8

variable {n : Nat} {byte lead : UInt8}

theorem toNat_ofNat {n : Nat} (small : n < 256) : (UInt8.ofNat n).toNat = n :=
  UInt8.toNat_ofNat_of_lt' small

theorem lead?_one (value : byte.toNat = n) (small : n < 0x80) : lead? byte = some (n, []) := by
  simp only [lead?, UInt8.lt_iff_toNat_lt, UInt8.reduceToNat, value]
  rw [if_pos small]

theorem lead?_two (value : byte.toNat = n + 0xC0) (large : 2 ≤ n) (small : n < 0x20) :
    lead? byte = some (n, [second byte]) := by
  simp only [lead?, UInt8.lt_iff_toNat_lt, UInt8.reduceToNat, value]
  rw [if_neg (by omega), if_neg (by omega), if_pos (by omega), Nat.add_sub_cancel]

theorem lead?_three (value : byte.toNat = n + 0xE0) (small : n < 0x10) :
    lead? byte = some (n, [second byte, continuation]) := by
  simp only [lead?, UInt8.lt_iff_toNat_lt, UInt8.reduceToNat, value]
  rw [if_neg (by omega), if_neg (by omega), if_neg (by omega), if_pos (by omega),
    Nat.add_sub_cancel]

theorem lead?_four (value : byte.toNat = n + 0xF0) (small : n < 5) :
    lead? byte = some (n, [second byte, continuation, continuation]) := by
  simp only [lead?, UInt8.lt_iff_toNat_lt, UInt8.reduceToNat, value]
  rw [if_neg (by omega), if_neg (by omega), if_neg (by omega), if_neg (by omega),
    if_pos (by omega), Nat.add_sub_cancel]

theorem contains_iff {range : ByteRange} :
    range.contains byte = true ↔ range.low.toNat ≤ byte.toNat ∧ byte.toNat ≤ range.high.toNat := by
  simp [ByteRange.contains, UInt8.le_iff_toNat_le]

theorem contains_continuation (value : byte.toNat = n + 0x80) (small : n < 0x40) :
    continuation.contains byte = true := by
  rw [contains_iff, value]
  simp [continuation]
  omega

/-- The bytes after the first that are ruled out are those of longer forms than needed, of surrogates
and of codes above the last one. -/
theorem contains_second {first : Nat} (value : byte.toNat = n + 0x80) (small : n < 0x40)
    (leads : lead.toNat = first)
    (shortest : (first = 0xE0 → 0x20 ≤ n) ∧ (first = 0xF0 → 0x10 ≤ n))
    (scalar : (first = 0xED → n < 0x20) ∧ (first = 0xF4 → n < 0x10)) :
    (second lead).contains byte = true := by
  rw [contains_iff, value]
  simp only [second, ← UInt8.toNat_inj, leads]
  repeat' split
  all_goals simp [continuation] at *
  all_goals omega

/-- The bits that a continuation byte adds. -/
theorem decodeFrom_last (value : byte.toNat = n + 0x80) {range : ByteRange}
    (fits : range.contains byte = true) (offset first bits : Nat) (rest : Bytes) :
    decodeFrom offset (some ⟨first, lead, bits, range, []⟩) (byte :: rest) =
      (Char.ofNat (bits * 0x40 + n) :: ·) <$> decodeFrom (offset + 1) none rest := by
  rw [decodeFrom, if_pos fits, value, Nat.add_sub_cancel]

theorem decodeFrom_later (value : byte.toNat = n + 0x80) {range next : ByteRange}
    (fits : range.contains byte = true) (offset first bits : Nat) (later : List ByteRange)
    (rest : Bytes) :
    decodeFrom offset (some ⟨first, lead, bits, range, next :: later⟩) (byte :: rest) =
      decodeFrom (offset + 1) (some ⟨first, lead, bits * 0x40 + n, next, later⟩) rest := by
  rw [decodeFrom, if_pos fits, value, Nat.add_sub_cancel]

/-- The bytes of a character are read as this character. -/
theorem decodeFrom_encodeChar (c : Char) (offset : Nat) (rest : Bytes) :
    decodeFrom offset none (String.utf8EncodeChar c ++ rest) =
      (c :: ·) <$> decodeFrom (offset + (String.utf8EncodeChar c).length) none rest := by
  have valid := c.valid
  have same : Char.ofNat c.val.toNat = c := Char.ofNat_toNat c
  rw [String.utf8EncodeChar]
  simp only [UInt32.isValidChar, Nat.isValidChar] at valid
  generalize c.val.toNat = code at *
  -- One byte to four: the bits are put together again, and the lead allows what follows it.
  split
  · rw [List.singleton_append, decodeFrom, lead?_one (n := code) (toNat_ofNat (by omega)) (by omega)]
    simp only [same, List.length_singleton]
  split
  · have leads : (UInt8.ofNat (code / 64 % 32 + 192)).toNat = code / 64 % 32 + 0xC0 :=
      toNat_ofNat (by omega)
    have last : (UInt8.ofNat (code % 64 + 128)).toNat = code % 64 + 0x80 := toNat_ofNat (by omega)
    have bits : code / 64 % 32 * 0x40 + code % 64 = code := by omega
    rw [List.cons_append, List.singleton_append, decodeFrom,
      lead?_two leads (by omega) (by omega)]
    dsimp only
    rw [decodeFrom_last last (contains_second last (by omega) leads (by omega) (by omega)), bits, same]
    rfl
  split
  · have leads : (UInt8.ofNat (code / 4096 % 16 + 224)).toNat = code / 4096 % 16 + 0xE0 :=
      toNat_ofNat (by omega)
    have middle : (UInt8.ofNat (code / 64 % 64 + 128)).toNat = code / 64 % 64 + 0x80 :=
      toNat_ofNat (by omega)
    have last : (UInt8.ofNat (code % 64 + 128)).toNat = code % 64 + 0x80 := toNat_ofNat (by omega)
    have bits : (code / 4096 % 16 * 0x40 + code / 64 % 64) * 0x40 + code % 64 = code := by omega
    rw [List.cons_append, List.cons_append, List.singleton_append, decodeFrom,
      lead?_three leads (by omega)]
    dsimp only
    rw [decodeFrom_later middle (contains_second middle (by omega) leads (by omega) (by omega)),
      decodeFrom_last last (contains_continuation last (by omega)), bits, same]
    rfl
  · have leads : (UInt8.ofNat (code / 262144 % 8 + 240)).toNat = code / 262144 % 8 + 0xF0 :=
      toNat_ofNat (by omega)
    have middle : (UInt8.ofNat (code / 4096 % 64 + 128)).toNat = code / 4096 % 64 + 0x80 :=
      toNat_ofNat (by omega)
    have middle' : (UInt8.ofNat (code / 64 % 64 + 128)).toNat = code / 64 % 64 + 0x80 :=
      toNat_ofNat (by omega)
    have last : (UInt8.ofNat (code % 64 + 128)).toNat = code % 64 + 0x80 := toNat_ofNat (by omega)
    have bits : ((code / 262144 % 8 * 0x40 + code / 4096 % 64) * 0x40 + code / 64 % 64) * 0x40 +
        code % 64 = code := by omega
    rw [List.cons_append, List.cons_append, List.cons_append, List.singleton_append, decodeFrom,
      lead?_four leads (by omega)]
    dsimp only
    rw [decodeFrom_later middle (contains_second middle (by omega) leads (by omega) (by omega)),
      decodeFrom_later middle' (contains_continuation middle' (by omega)),
      decodeFrom_last last (contains_continuation last (by omega)), bits, same]
    rfl

theorem decodeFrom_encode (text : Text) (offset : Nat) :
    decodeFrom offset none (encode text) = .ok text := by
  induction text generalizing offset with
  | nil => rfl
  | cons c text ih =>
    rw [encode, List.flatMap_cons, decodeFrom_encodeChar]
    change (c :: ·) <$> decodeFrom _ none (encode text) = _
    rw [ih]
    rfl

@[simp] theorem decode_encode (text : Text) : decode (encode text) = .ok text :=
  decodeFrom_encode text 0

end SexprCall.Text.Utf8

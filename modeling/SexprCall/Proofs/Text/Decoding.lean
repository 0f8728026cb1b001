import SexprCall.Proofs.Text.Encoding
import Mathlib.Data.List.Forall2

/-! What decoding finds out. Texts come from exactly the bytes that encode them, and a fault names the
bytes after which no more bytes can make the encoding of a text. -/
namespace SexprCall.Text.Utf8

def Valid (bytes : Bytes) : Prop := ∃ text, encode text = bytes

/-- The bytes are the first ones of those that encode some text. -/
def Extends (bytes : Bytes) : Prop := ∃ more, Valid (bytes ++ more)

theorem encode_append (first second : Text) :
    encode (first ++ second) = encode first ++ encode second := List.flatMap_append

theorem encode_concat (text : Text) (c : Char) :
    encode (text ++ [c]) = encode text ++ String.utf8EncodeChar c := by
  rw [encode_append, encode, encode, List.flatMap_singleton]

theorem encode_injective {text other : Text} (same : encode text = encode other) : text = other := by
  have decoded := decode_encode text
  rw [same, decode_encode] at decoded
  exact (Except.ok.inj decoded).symm

theorem bounds_of_continuation {byte : UInt8} (fits : continuation.contains byte = true) :
    0x80 ≤ byte.toNat ∧ byte.toNat ≤ 0xBF := contains_iff.1 fits

theorem bounds_of_second {lead byte : UInt8} (fits : (second lead).contains byte = true) :
    0x80 ≤ byte.toNat ∧ byte.toNat ≤ 0xBF ∧
      (lead.toNat = 0xE0 → 0xA0 ≤ byte.toNat) ∧ (lead.toNat = 0xED → byte.toNat ≤ 0x9F) ∧
      (lead.toNat = 0xF0 → 0x90 ≤ byte.toNat) ∧ (lead.toNat = 0xF4 → byte.toNat ≤ 0x8F) := by
  rw [contains_iff] at fits
  simp only [second, ← UInt8.toNat_inj] at fits
  repeat' split at fits
  all_goals simp [continuation] at *
  all_goals omega

/-- The bits with those of a continuation byte. -/
@[irreducible] def addByte (bits : Nat) (byte : UInt8) : Nat := bits * 0x40 + (byte.toNat - 0x80)

def addBytes (bits : Nat) (bytes : Bytes) : Nat := bytes.foldl addByte bits

/-- There is one byte for each range, and it is in there. -/
def Fits (ranges : List ByteRange) (bytes : Bytes) : Prop :=
  List.Forall₂ (fun range byte => range.contains byte = true) ranges bytes

theorem val_ofNat {code : Nat} (valid : code.isValidChar) : (Char.ofNat code).val.toNat = code := by
  rw [Char.ofNat, dif_pos valid]
  rfl

theorem eq_ofNat (byte : UInt8) {n : Nat} (value : byte.toNat = n) : UInt8.ofNat n = byte := by
  rw [← value, UInt8.ofNat_toNat]

/-- All that a byte can begin: its bits of the character, and the ranges of the bytes after it. -/
inductive Leads (lead : UInt8) : Nat → List ByteRange → Prop where
  | one : lead.toNat < 0x80 → Leads lead lead.toNat []
  | two : 0xC2 ≤ lead.toNat → lead.toNat < 0xE0 → Leads lead (lead.toNat - 0xC0) [second lead]
  | three : 0xE0 ≤ lead.toNat → lead.toNat < 0xF0 →
      Leads lead (lead.toNat - 0xE0) [second lead, continuation]
  | four : 0xF0 ≤ lead.toNat → lead.toNat < 0xF5 →
      Leads lead (lead.toNat - 0xF0) [second lead, continuation, continuation]

section

variable {lead : UInt8} {bits : Nat} {ranges : List ByteRange}

theorem leads_of_lead? (begins : lead? lead = some (bits, ranges)) : Leads lead bits ranges := by
  simp only [lead?, UInt8.lt_iff_toNat_lt, UInt8.reduceToNat] at begins
  repeat' split at begins
  all_goals simp only [reduceCtorEq, Option.some.injEq, Prod.mk.injEq] at begins
  all_goals obtain ⟨rfl, rfl⟩ := begins
  · exact .one ‹_›
  · exact .two (by omega) ‹_›
  · exact .three (by omega) ‹_›
  · exact .four (by omega) ‹_›

/-- Whatever continuation bytes fit a lead byte, they encode a character with it: the second byte is not
one that would make the code too small for its length, a surrogate or too large. -/
theorem Leads.encodeChar {bytes : Bytes} (leads : Leads lead bits ranges) (fits : Fits ranges bytes) :
    String.utf8EncodeChar (Char.ofNat (addBytes bits bytes)) = lead :: bytes := by
  unfold addBytes
  cases leads with
  | one small =>
    cases fits
    rw [List.foldl_nil, String.utf8EncodeChar, val_ofNat (.inl (by omega)), if_pos (by omega),
      eq_ofNat lead rfl]
  | two low high =>
    rcases fits with _ | ⟨fits, ⟨⟩⟩
    rename_i byte
    have bounds := bounds_of_second fits
    simp only [List.foldl_cons, List.foldl_nil]
    unfold addByte
    rw [String.utf8EncodeChar, val_ofNat (.inl (by omega)), if_neg (by omega), if_pos (by omega),
      eq_ofNat lead (by omega), eq_ofNat byte (by omega)]
  | three low high =>
    rcases fits with _ | ⟨fits, _ | ⟨fits', ⟨⟩⟩⟩
    rename_i byte byte'
    have bounds := bounds_of_second fits
    have bounds' := bounds_of_continuation fits'
    simp only [List.foldl_cons, List.foldl_nil]
    unfold addByte
    rw [String.utf8EncodeChar, val_ofNat (by unfold Nat.isValidChar; omega), if_neg (by omega),
      if_neg (by omega), if_pos (by omega), eq_ofNat lead (by omega), eq_ofNat byte (by omega),
      eq_ofNat byte' (by omega)]
  | four low high =>
    rcases fits with _ | ⟨fits, _ | ⟨fits', _ | ⟨fits'', ⟨⟩⟩⟩⟩
    rename_i byte byte' byte''
    have bounds := bounds_of_second fits
    have bounds' := bounds_of_continuation fits'
    have bounds'' := bounds_of_continuation fits''
    simp only [List.foldl_cons, List.foldl_nil]
    unfold addByte
    rw [String.utf8EncodeChar, val_ofNat (by unfold Nat.isValidChar; omega), if_neg (by omega),
      if_neg (by omega), if_neg (by omega), eq_ofNat lead (by omega), eq_ofNat byte (by omega),
      eq_ofNat byte' (by omega), eq_ofNat byte'' (by omega)]

theorem Leads.exists_fits (leads : Leads lead bits ranges) : ∃ bytes, Fits ranges bytes := by
  have usual : continuation.contains continuation.low = true := by decide
  have first : (second lead).contains (second lead).low = true := by
    unfold second
    repeat' split
    all_goals decide
  refine ⟨ranges.map ByteRange.low, ?_⟩
  cases leads <;> simp [Fits, usual, first]

end

/-- The bytes read of a character, its lead byte first: they can be completed, and however they are, it is
the encoding of the character with all the bits. -/
structure Begun.Stands (begun : Begun) (read : Bytes) : Prop where
  completes : ∃ bytes, Fits (begun.next :: begun.later) bytes
  encodes : ∀ bytes, Fits (begun.next :: begun.later) bytes →
    String.utf8EncodeChar (Char.ofNat (addBytes begun.bits bytes)) = read ++ bytes

/-- What decoding has read so far, where it stands between two characters or inside one. -/
inductive Read : Bytes → Text → Option Begun → Prop where
  | between (text : Text) : Read (encode text) text none
  | inside {text begun read} : begun.first = (encode text).length →
      read.head? = some begun.lead → begun.Stands read →
      Read (encode text ++ read) text (some begun)

structure Reached (before : Bytes) (text : Text) (state : Option Begun) : Prop where
  read : Read before text state
  decode_append : ∀ rest,
    decode (before ++ rest) = (text ++ ·) <$> decodeFrom before.length state rest

theorem reached_nil : Reached [] [] none := by
  refine ⟨.between [], fun rest => ?_⟩
  change decodeFrom 0 none rest = _ <$> decodeFrom 0 none rest
  cases decodeFrom 0 none rest <;> rfl

/-- Decoding goes on one byte further. -/
theorem Reached.next {before : Bytes} {text later : Text} {state state' : Option Begun} {byte : UInt8}
    (reached : Reached before text state) (read : Read (before ++ [byte]) (text ++ later) state')
    (step : ∀ rest, decodeFrom before.length state (byte :: rest) =
      (later ++ ·) <$> decodeFrom (before.length + 1) state' rest) :
    Reached (before ++ [byte]) (text ++ later) state' := by
  refine ⟨read, fun rest => ?_⟩
  rw [List.append_assoc, List.singleton_append, reached.decode_append, step, List.length_append,
    List.length_singleton]
  cases decodeFrom (before.length + 1) state' rest with
  | error fault => rfl
  | ok last => exact congrArg Except.ok (List.append_assoc text later last).symm

/-- No characters in front change nothing. -/
theorem map_nil_append (result : Except Fault Text) : (([] : Text) ++ ·) <$> result = result :=
  id_map result

/-- A byte that is a character, or begins one. -/
theorem Reached.of_lead {before : Bytes} {text : Text} {lead : UInt8} {bits : Nat}
    {ranges : List ByteRange} (reached : Reached before text none)
    (begins : lead? lead = some (bits, ranges)) :
    ∃ text state, Reached (before ++ [lead]) text state := by
  have leads := leads_of_lead? begins
  obtain ⟨read, -⟩ := id reached
  cases read
  cases ranges with
  | nil =>
    refine ⟨text ++ [Char.ofNat bits], none, reached.next ?_ fun rest => ?_⟩
    · have encoded := leads.encodeChar List.Forall₂.nil
      rw [addBytes, List.foldl_nil] at encoded
      rw [← encoded, ← encode_concat]
      exact .between _
    · rw [decodeFrom, begins]
      rfl
  | cons next later =>
    let begun : Begun := ⟨(encode text).length, lead, bits, next, later⟩
    have stands : begun.Stands [lead] := ⟨leads.exists_fits, fun bytes fits => leads.encodeChar fits⟩
    refine ⟨text ++ [], some begun, reached.next ?_ fun rest => ?_⟩
    · rw [List.append_nil]
      exact .inside rfl rfl stands
    · rw [map_nil_append, decodeFrom, begins]

section

variable {begun : Begun} {byte : UInt8} (fits : begun.next.contains byte = true)

include fits

theorem decodeFrom_ends (last : begun.later = []) (offset : Nat) (rest : Bytes) :
    decodeFrom offset (some begun) (byte :: rest) =
      (Char.ofNat (addByte begun.bits byte) :: ·) <$> decodeFrom (offset + 1) none rest := by
  unfold addByte
  rw [decodeFrom, if_pos fits, last]

theorem decodeFrom_grows {next : ByteRange} {later : List ByteRange}
    (more : begun.later = next :: later) (offset : Nat) (rest : Bytes) :
    decodeFrom offset (some begun) (byte :: rest) =
      decodeFrom (offset + 1)
        (some { begun with bits := addByte begun.bits byte, next := next, later := later }) rest := by
  unfold addByte
  rw [decodeFrom, if_pos fits, more]

theorem Begun.Stands.ends {read : Bytes} (stands : begun.Stands read) (last : begun.later = []) :
    String.utf8EncodeChar (Char.ofNat (addByte begun.bits byte)) = read ++ [byte] := by
  have encodes := stands.encodes [byte]
  rw [last] at encodes
  exact encodes (.cons fits .nil)

theorem Begun.Stands.grows {read : Bytes} {next : ByteRange} {later : List ByteRange}
    (stands : begun.Stands read) (more : begun.later = next :: later) :
    Begun.Stands { begun with bits := addByte begun.bits byte, next := next, later := later }
      (read ++ [byte]) := by
  obtain ⟨completes, encodes⟩ := stands
  rw [more] at completes encodes
  refine ⟨?_, fun bytes fit => ?_⟩
  · obtain ⟨bytes, fit⟩ := completes
    rcases fit with _ | ⟨-, fit⟩
    exact ⟨_, fit⟩
  · rw [List.append_assoc]
    exact encodes (byte :: bytes) (.cons fits fit)

/-- A byte that ends the character begun, or belongs to it. -/
theorem Reached.of_fits {before : Bytes} {text : Text}
    (reached : Reached before text (some begun)) :
    ∃ text state, Reached (before ++ [byte]) text state := by
  obtain ⟨read, -⟩ := id reached
  cases read with
  | inside begins head stands =>
    cases left : begun.later with
    | nil =>
      refine ⟨text ++ [Char.ofNat (addByte begun.bits byte)], none,
        reached.next ?_ (decodeFrom_ends fits left _)⟩
      rw [List.append_assoc, ← stands.ends fits left, ← encode_concat]
      exact .between _
    | cons next later =>
      refine ⟨text ++ [], some { begun with bits := addByte begun.bits byte, next, later },
        reached.next ?_ fun rest => ?_⟩
      · rw [List.append_nil, List.append_assoc]
        refine .inside begins ?_ (stands.grows fits left)
        rw [List.head?_append, head, Option.some_or]
      · rw [map_nil_append, decodeFrom_grows fits left]

end

/-- What has been read can always be made the encoding of a text. -/
theorem Read.extends {before : Bytes} {text : Text} {state : Option Begun}
    (read : Read before text state) : Extends before := by
  cases read with
  | between => exact ⟨[], text, (List.append_nil _).symm⟩
  | @inside _ begun _ _ _ stands =>
    obtain ⟨more, fits⟩ := stands.completes
    refine ⟨more, text ++ [Char.ofNat (addBytes begun.bits more)], ?_⟩
    rw [encode_concat, stands.encodes more fits, List.append_assoc]

/-- Where decoding fails whatever the later bytes are, no text goes on. -/
theorem not_extends_of_fails {before : Bytes} {fault : Fault}
    (fails : ∀ rest, decode (before ++ rest) = .error fault) : ¬ Extends before := by
  rintro ⟨more, text, encoded⟩
  have decoded := decode_encode text
  rw [encoded, fails more] at decoded
  cases decoded

structure Fault.Tells (fault : Fault) (bytes : Bytes) : Prop where
  lead : bytes[fault.first]? = some fault.lead
  before : Valid (bytes.take fault.first)
  ordered : fault.first ≤ fault.last
  within : fault.last < bytes.length
  unexpectedEnd : fault.reason = .unexpectedEnd → fault.last + 1 = bytes.length ∧ Extends bytes
  invalidStart : fault.reason = .invalidStart →
    fault.first = fault.last ∧ ¬ Extends (bytes.take (fault.first + 1))
  invalidContinuation : fault.reason = .invalidContinuation → fault.last + 1 < bytes.length ∧
    Extends (bytes.take (fault.last + 1)) ∧ ¬ Extends (bytes.take (fault.last + 2))

inductive Decodes (bytes : Bytes) : Except Fault Text → Prop where
  | text {text} : encode text = bytes → Decodes bytes (.ok text)
  | fault {fault} : fault.Tells bytes → Decodes bytes (.error fault)

/-- Inside a character, a fault that is found now or at a later byte names the bytes read of it. -/
theorem Read.inside_span {before : Bytes} {text : Text} {begun : Begun}
    (read : Read before text (some begun)) (more : Bytes) :
    (before ++ more)[begun.first]? = some begun.lead ∧
      Valid ((before ++ more).take begun.first) ∧ begun.first ≤ before.length - 1 ∧
      before.length - 1 + 1 = before.length := by
  cases read with
  | @inside _ _ read begins head =>
    obtain ⟨later, rfl⟩ := List.head?_eq_some_iff.1 head
    rw [List.append_assoc, begins]
    refine ⟨?_, ⟨text, ?_⟩, ?_, ?_⟩
    · simp
    · exact List.take_left.symm
    · simp
    · simp [Nat.add_assoc]

theorem Read.tells_end {before : Bytes} {text : Text} {begun : Begun}
    (read : Read before text (some begun)) :
    Fault.Tells ⟨begun.first, before.length - 1, begun.lead, .unexpectedEnd⟩ before := by
  obtain ⟨lead, valid, ordered, last⟩ := read.inside_span []
  rw [List.append_nil] at lead valid
  refine ⟨lead, valid, ordered, ?_, fun _ => ⟨last, read.extends⟩, nofun, nofun⟩
  show before.length - 1 < before.length
  omega

section

variable {before : Bytes} {text : Text} {byte : UInt8} (dead : ¬ Extends (before ++ [byte]))
  (rest : Bytes)

include dead

theorem Read.tells_start (read : Read before text none) :
    Fault.Tells ⟨before.length, before.length, byte, .invalidStart⟩ (before ++ byte :: rest) := by
  cases read
  refine ⟨by simp, ⟨text, ?_⟩, Nat.le_refl _, ?_, nofun, fun _ => ⟨rfl, ?_⟩, nofun⟩
  · exact List.take_left.symm
  · simp
  · rwa [List.take_length_add_append]

theorem Read.tells_continuation {begun : Begun} (read : Read before text (some begun)) :
    Fault.Tells ⟨begun.first, before.length - 1, begun.lead, .invalidContinuation⟩
      (before ++ byte :: rest) := by
  obtain ⟨lead, valid, ordered, last⟩ := read.inside_span (byte :: rest)
  refine ⟨lead, valid, ordered, ?_, nofun, nofun, fun _ => ⟨?_, ?_, ?_⟩⟩
  · simp
    omega
  · simp
    omega
  · show Extends ((before ++ byte :: rest).take (before.length - 1 + 1))
    rw [last, List.take_left]
    exact read.extends
  · show ¬ Extends ((before ++ byte :: rest).take (before.length - 1 + 1 + 1))
    rwa [last, List.take_length_add_append]

end

/-- Decoding takes a byte, or it fails there with a fault that can be relied on. -/
theorem Reached.step {before : Bytes} {text : Text} {state : Option Begun}
    (reached : Reached before text state) (byte : UInt8) :
    (∃ text state, Reached (before ++ [byte]) text state) ∨
      ∃ fault, ∀ rest, decode (before ++ byte :: rest) = .error fault ∧
        fault.Tells (before ++ byte :: rest) := by
  -- A byte is refused before anything after it is looked at, so all continuations fail alike.
  have refused {fault : Fault}
      (fails : ∀ rest, decodeFrom before.length state (byte :: rest) = .error fault) :
      (∀ rest, decode (before ++ byte :: rest) = .error fault) ∧ ¬ Extends (before ++ [byte]) := by
    have failed (rest : Bytes) : decode (before ++ byte :: rest) = .error fault := by
      rw [reached.decode_append, fails rest]
      rfl
    refine ⟨failed, @not_extends_of_fails _ fault fun rest => ?_⟩
    rw [List.append_assoc, List.singleton_append, failed]
  cases state with
  | none =>
    cases begins : lead? byte with
    | none =>
      obtain ⟨failed, dead⟩ := refused fun rest => by rw [decodeFrom, begins]
      exact .inr ⟨_, fun rest => ⟨failed rest, reached.read.tells_start dead rest⟩⟩
    | some lead => exact .inl (reached.of_lead begins)
  | some begun =>
    by_cases fits : begun.next.contains byte = true
    · exact .inl (reached.of_fits fits)
    · obtain ⟨failed, dead⟩ := refused fun rest => by rw [decodeFrom, if_neg fits]
      exact .inr ⟨_, fun rest => ⟨failed rest, reached.read.tells_continuation dead rest⟩⟩

theorem Reached.decodes {before : Bytes} {text : Text} {state : Option Begun}
    (reached : Reached before text state) (rest : Bytes) :
    Decodes (before ++ rest) (decode (before ++ rest)) := by
  induction rest generalizing before text state with
  | nil =>
    rw [reached.decode_append, List.append_nil]
    cases reached.read with
    | between => exact .text (congrArg encode (List.append_nil text))
    | inside => exact .fault reached.read.tells_end
  | cons byte rest ih =>
    rcases reached.step byte with ⟨text, state, further⟩ | ⟨fault, refused⟩
    · have decoded := ih further
      rwa [List.append_assoc] at decoded
    · obtain ⟨failed, tells⟩ := refused rest
      rw [failed]
      exact .fault tells

/-- Decoding gives the one text that the bytes encode, or a fault that can be relied on. -/
theorem decodes (bytes : Bytes) : Decodes bytes (decode bytes) :=
  reached_nil.decodes bytes

theorem decode_eq_ok_iff {bytes : Bytes} {text : Text} :
    decode bytes = .ok text ↔ encode text = bytes := by
  constructor
  · intro decoded
    have result := decodes bytes
    rw [decoded] at result
    cases result with
    | text encoded => exact encoded
  · rintro rfl
    exact decode_encode text

end SexprCall.Text.Utf8

import Esp3Host.Proofs.Packet.Codec

/-!
# The length of a frame

The first four bytes of a frame tell its length.  `frameLength?` reads it from any part of the frame
that holds them, `decode` asks for that many bytes and takes no more, and the packet that is read is
written in that many.  A packet that `build` makes is written with its lengths narrowed to a word of
sixteen bits and a byte, and both keep their values.
-/

namespace Esp3Host.Packet

/-! ## The two fields -/

/-- What the two length fields hold, in words as wide as the fields. -/
def lengthFields? : Bytes → Option (UInt16 × UInt8)
  | _ :: high :: low :: extra :: _ => some (high.toUInt16 <<< 8 ||| low.toUInt16, extra)
  | _ => none

theorem toNat_dataField (high low : UInt8) :
    (high.toUInt16 <<< 8 ||| low.toUInt16).toNat = 256 * high.toNat + low.toNat := by
  have hhigh := high.toNat_lt
  have hlow : low.toNat < 2 ^ 8 := low.toNat_lt
  have hroom : high.toNat <<< 8 % 2 ^ 16 = high.toNat <<< 8 := by
    rw [Nat.shiftLeft_eq]
    omega
  rw [UInt16.toNat_or, UInt16.toNat_shiftLeft, UInt8.toNat_toUInt16, UInt8.toNat_toUInt16]
  change high.toNat <<< 8 % 2 ^ 16 ||| low.toNat = _
  rw [hroom, ← Nat.shiftLeft_add_eq_or_of_lt hlow, Nat.shiftLeft_eq]
  omega

theorem frameLength?_eq_fields (bytes : Bytes) :
    frameLength? bytes =
      (lengthFields? bytes).map fun fields => overhead + fields.1.toNat + fields.2.toNat := by
  match bytes with
  | _ :: high :: low :: extra :: _ =>
      simp only [frameLength?, lengthFields?, Option.map_some, toNat_dataField]
  | [] | [_] | [_, _] | [_, _, _] => rfl

theorem lengthFields?_encode (p : Packet) :
    lengthFields? p.encode =
      some (UInt16.ofNat p.data.length, UInt8.ofNat p.optional.length) := by
  have hdata : (UInt8.ofNat (p.data.length / 256)).toUInt16 <<< 8 |||
      (UInt8.ofNat p.data.length).toUInt16 = UInt16.ofNat p.data.length := by
    apply UInt16.toNat_inj.mp
    rw [toNat_dataField, UInt8.toNat_ofNat', UInt8.toNat_ofNat', UInt16.toNat_ofNat']
    omega
  rw [← List.append_nil p.encode, encode_append, lengthFields?, hdata]

theorem fits_iff_narrowed {p : Packet} :
    p.Fits ↔ (UInt16.ofNat p.data.length).toNat = p.data.length ∧
      (UInt8.ofNat p.optional.length).toNat = p.optional.length := by
  rw [UInt16.toNat_ofNat', UInt8.toNat_ofNat']
  constructor
  · intro h
    have hdata := h.data
    have hoptional := h.optional
    simp only [maxDataLength, maxOptionalLength] at hdata hoptional
    omega
  · rintro ⟨hdata, hoptional⟩
    constructor
    · rw [maxDataLength]
      omega
    · rw [maxOptionalLength]
      omega

/-! ## Parts of a frame -/

theorem frameLength?_append {bytes : Bytes} {length : Nat} (h : frameLength? bytes = some length)
    (rest : Bytes) : frameLength? (bytes ++ rest) = some length := by
  obtain ⟨sync, high, low, extra, behind, rfl, rfl⟩ := frameLength?_eq_some_iff.mp h
  rfl

theorem frameLength?_of_prefix {front bytes : Bytes} {length : Nat} (hfront : front <+: bytes)
    (henough : 4 ≤ front.length) (h : frameLength? bytes = some length) :
    frameLength? front = some length := by
  obtain ⟨rest, rfl⟩ := hfront
  cases hlength : frameLength? front with
  | none => exact absurd (frameLength?_eq_none_iff.mp hlength) (Nat.not_lt_of_le henough)
  | some other => rw [← h, frameLength?_append hlength rest]

theorem frameLength?_bounds {bytes : Bytes} {length : Nat} (h : frameLength? bytes = some length) :
    overhead ≤ length ∧ length ≤ overhead + maxDataLength + maxOptionalLength := by
  obtain ⟨_, high, low, extra, _, -, rfl⟩ := frameLength?_eq_some_iff.mp h
  have hdata := dataLength_le high low
  have hoptional := optionalLength_le extra
  rw [overhead]
  omega

/-! ## Reading -/

section

variable {bytes : Bytes} {length : Nat} (hsync : bytes.head? = some syncByte)
  (hlength : frameLength? bytes = some length)

include hsync hlength

theorem decode_of_short (hshort : bytes.length < length) :
    decode bytes =
      .error (.tooShort (if bytes.length < overhead then overhead else length) bytes.length) := by
  obtain ⟨sync, high, low, extra, rest, rfl, rfl⟩ := frameLength?_eq_some_iff.mp hlength
  obtain rfl : sync = syncByte := Option.some.inj hsync
  match rest with
  | [] | [_] | [_, _] => rfl
  | code :: headerCheck :: last :: rest =>
      have hnone : ((last :: rest).drop (256 * high.toNat + low.toNat)).drop extra.toNat = [] := by
        rw [List.drop_drop, List.drop_eq_nil_iff]
        simp only [List.length_cons] at hshort ⊢
        omega
      rw [if_neg (by simp only [List.length_cons, overhead]; omega)]
      simp only [decode, ne_eq, not_true_eq_false, if_false, hnone, overhead]

theorem decode_of_enough (henough : length ≤ bytes.length) :
    (∃ p, decode bytes = .ok p) ∨
      ∃ code, bytes[4]? = some code ∧ PacketKind.ofCode? code = none ∧
        decode bytes = .error (.unknownKind code) := by
  obtain ⟨sync, high, low, extra, rest, rfl, rfl⟩ := frameLength?_eq_some_iff.mp hlength
  obtain rfl : sync = syncByte := Option.some.inj hsync
  match rest with
  | [] | [_] | [_, _] =>
      simp only [List.length_cons, List.length_nil] at henough
      omega
  | code :: headerCheck :: last :: rest =>
      simp only [decode, ne_eq, not_true_eq_false, if_false]
      split
      case h_1 hbody =>
        -- the payload checksum is there, since the length counts it
        have hnone := congrArg List.length hbody
        simp only [List.length_drop, List.length_cons, List.length_nil] at hnone henough
        omega
      case h_2 =>
        split
        case h_1 hcode => exact .inr ⟨code, rfl, hcode, rfl⟩
        case h_2 => exact .inl ⟨_, rfl⟩

theorem decode_eq_tooShort_iff {expected actual : Nat} :
    decode bytes = .error (.tooShort expected actual) ↔
      bytes.length < length ∧ actual = bytes.length ∧
        expected = if bytes.length < overhead then overhead else length := by
  rcases Nat.lt_or_ge bytes.length length with hshort | henough
  · rw [decode_of_short hsync hlength hshort]
    simp only [Except.error.injEq, FramingError.tooShort.injEq, hshort, true_and]
    constructor
    · rintro ⟨rfl, rfl⟩
      exact ⟨rfl, rfl⟩
    · rintro ⟨rfl, rfl⟩
      exact ⟨rfl, rfl⟩
  · constructor
    · intro hdecode
      rcases decode_of_enough hsync hlength henough with ⟨p, hread⟩ | ⟨code, -, -, hkind⟩
      · cases hread.symm.trans hdecode
      · cases hkind.symm.trans hdecode
    · rintro ⟨hshort, -⟩
      exact absurd hshort (Nat.not_lt_of_le henough)

end

theorem wireLength_of_decode {bytes : Bytes} {p : Packet} {length : Nat}
    (hdecode : decode bytes = .ok p) (hlength : frameLength? bytes = some length) :
    p.wireLength = length := by
  obtain ⟨hfits, rest, rfl⟩ := encode_of_decode hdecode
  exact Option.some.inj ((frameLength?_encode_append hfits rest).symm.trans hlength)

/-! ## One length -/

/--
Behind a sync byte, all beginnings that hold the length fields tell one length.  The bytes are
refused as too short exactly if there are fewer, and what is read from them is written in as many.
The frame of a packet that was built tells its own length, and no field cuts a section's length off.
-/
theorem lengths_agree :
    (∀ bytes, bytes.head? = some syncByte → 4 ≤ bytes.length →
      ∃ length, 7 ≤ length ∧ length ≤ 65797 ∧
        (∀ front, front <+: bytes → 4 ≤ front.length → frameLength? front = some length) ∧
        ((∃ expected actual, decode bytes = .error (.tooShort expected actual)) ↔
          bytes.length < length) ∧
        ∀ p, decode bytes = .ok p → p.wireLength = length ∧ p.encode.length = length) ∧
      ∀ p : Packet, p.Built →
        frameLength? p.encode = some p.wireLength ∧
          p.wireLength = 7 + p.data.length + p.optional.length ∧
          lengthFields? p.encode =
            some (UInt16.ofNat p.data.length, UInt8.ofNat p.optional.length) ∧
          (UInt16.ofNat p.data.length).toNat = p.data.length ∧
          (UInt8.ofNat p.optional.length).toNat = p.optional.length := by
  constructor
  case left =>
    intro bytes hsync hheader
    obtain ⟨length, hlength⟩ : ∃ length, frameLength? bytes = some length :=
      Option.ne_none_iff_exists'.mp fun hnone =>
        absurd (frameLength?_eq_none_iff.mp hnone) (Nat.not_lt_of_le hheader)
    obtain ⟨hleast, hmost⟩ := frameLength?_bounds hlength
    refine ⟨length, hleast, hmost, ?front, ?short, ?read⟩
    case front =>
      intro front hfront henough
      exact frameLength?_of_prefix hfront henough hlength
    case short =>
      constructor
      · rintro ⟨expected, actual, hdecode⟩
        exact ((decode_eq_tooShort_iff hsync hlength).mp hdecode).1
      · intro hshort
        exact ⟨_, _, decode_of_short hsync hlength hshort⟩
    case read =>
      intro p hdecode
      have hwire := wireLength_of_decode hdecode hlength
      exact ⟨hwire, (length_encode p).trans hwire⟩
  case right =>
    intro p hbuilt
    obtain ⟨hdata, hoptional⟩ := fits_iff_narrowed.mp hbuilt.fits
    refine ⟨?_, rfl, lengthFields?_encode p, hdata, hoptional⟩
    rw [frameLength?_eq_fields, lengthFields?_encode, Option.map_some, hdata, hoptional, wireLength]

theorem lengths_agree_longest :
    let p := sealed .event (List.replicate 65535 0x00) (List.replicate 255 0x55)
    let front : Bytes := [0x55, 0xFF, 0xFF, 0xFF]
    p.Built ∧ front <+: p.encode ∧ decode p.encode = .ok p ∧ frameLength? front = some 65797 ∧
      p.encode.length = 65797 ∧ (UInt16.ofNat p.data.length).toNat = 65535 ∧
      ¬∃ expected actual, decode p.encode = .error (.tooShort expected actual) := by
  intro p front
  have hdata : p.data.length = 65535 := List.length_replicate
  have hoptional : p.optional.length = 255 := List.length_replicate
  have hbuilt : p.Built := built_sealed (Nat.le_of_eq hdata) (Nat.le_of_eq hoptional)
  have hencode := encode_append p []
  rw [List.append_nil, hdata, hoptional] at hencode
  have hfront : front <+: p.encode := by
    rw [hencode]
    exact ⟨_, rfl⟩
  have hdecode : decode p.encode = .ok p := by
    simpa using decode_encode_append hbuilt.fits []
  obtain ⟨length, -, -, hparts, hshort, hread⟩ :=
    lengths_agree.1 p.encode (by rw [hencode]; rfl) hfront.length_le
  have hlength : length = 65797 := Option.some.inj (hparts front hfront (by decide)).symm
  have hwritten := (hread p hdecode).2
  refine ⟨hbuilt, hfront, hdecode, rfl, hwritten.trans hlength, ?_, fun hrefused => ?_⟩
  · exact (lengths_agree.2 p hbuilt).2.2.2.1.trans hdata
  · exact absurd (hshort.mp hrefused) (by omega)

end Esp3Host.Packet

import Esp3Host.Packet.Wire

/-!
# Frames are read back

A packet fits when its sections are no longer than the length fields can tell.  Encoding a fitting
packet loses nothing: the length and the whole packet are read back from the front of any stream
that begins with its frame.  The packets that `build` makes fit, and both their checksums do.
Conversely nothing else is read: what `decode` accepts begins with the frame of a fitting packet,
and what `decodeValid` accepts with the frame of a packet that `build` makes.  So no frame is the
beginning of another one, and a stream has at most one reading.
-/

namespace Esp3Host.Packet

/-- The lengths of both sections can be told by their fields. -/
structure Fits (p : Packet) : Prop where
  data : p.data.length ≤ maxDataLength
  optional : p.optional.length ≤ maxOptionalLength

def Built (p : Packet) : Prop :=
  ∃ kind data optional, build kind data optional = .ok p

theorem build_eq_ok_iff {kind : PacketKind} {data optional : Bytes} {p : Packet} :
    build kind data optional = .ok p ↔
      data.length ≤ maxDataLength ∧ optional.length ≤ maxOptionalLength ∧
        p = sealed kind data optional := by
  unfold build
  split
  case isTrue hdata => simp; omega
  case isFalse hdata =>
    split
    case isTrue hoptional => simp; omega
    case isFalse hoptional =>
      simp only [Except.ok.injEq]
      constructor
      · rintro rfl
        exact ⟨by omega, by omega, rfl⟩
      · rintro ⟨-, -, rfl⟩
        rfl

theorem built_sealed {kind : PacketKind} {data optional : Bytes}
    (hdata : data.length ≤ maxDataLength) (hoptional : optional.length ≤ maxOptionalLength) :
    (sealed kind data optional).Built :=
  ⟨kind, data, optional, build_eq_ok_iff.mpr ⟨hdata, hoptional, rfl⟩⟩

theorem Built.fits {p : Packet} (h : p.Built) : p.Fits := by
  obtain ⟨kind, data, optional, hbuild⟩ := h
  obtain ⟨hdata, hoptional, rfl⟩ := build_eq_ok_iff.mp hbuild
  exact ⟨hdata, hoptional⟩

@[simp] theorem validate_sealed (kind : PacketKind) (data optional : Bytes) :
    (sealed kind data optional).validate = .ok () := by
  simp [validate, headerChecksum, payloadChecksum, sealed]

theorem Built.validate {p : Packet} (h : p.Built) : p.validate = .ok () := by
  obtain ⟨kind, data, optional, hbuild⟩ := h
  obtain ⟨-, -, rfl⟩ := build_eq_ok_iff.mp hbuild
  exact validate_sealed kind data optional

theorem Built.headerChecksum {p : Packet} (h : p.Built) : p.headerChecksum = p.headerCheck := by
  obtain ⟨kind, data, optional, hbuild⟩ := h
  obtain ⟨-, -, rfl⟩ := build_eq_ok_iff.mp hbuild
  rfl

/-! ## Reading back -/

theorem dataLength_bytes {n : Nat} (h : n ≤ maxDataLength) :
    256 * (UInt8.ofNat (n / 256)).toNat + (UInt8.ofNat n).toNat = n := by
  simp only [maxDataLength] at h
  simp only [UInt8.toNat_ofNat']
  omega

theorem optionalLength_byte {n : Nat} (h : n ≤ maxOptionalLength) :
    (UInt8.ofNat n).toNat = n := by
  simp only [maxOptionalLength] at h
  simp only [UInt8.toNat_ofNat']
  omega

theorem encode_append (p : Packet) (rest : Bytes) :
    p.encode ++ rest =
      syncByte :: UInt8.ofNat (p.data.length / 256) :: UInt8.ofNat p.data.length ::
        UInt8.ofNat p.optional.length :: p.kind.code :: p.headerCheck ::
          (p.data ++ (p.optional ++ p.payloadCheck :: rest)) := by
  simp [encode, header]

@[simp] theorem length_encode (p : Packet) : p.encode.length = p.wireLength := by
  simp [encode, header, wireLength, overhead]
  omega

theorem wireLength_pos (p : Packet) : 0 < p.wireLength := by
  rw [wireLength, overhead]
  omega

theorem frameLength?_eq_some_iff {bytes : Bytes} {length : Nat} :
    frameLength? bytes = some length ↔
      ∃ sync high low extra rest, bytes = sync :: high :: low :: extra :: rest ∧
        length = 7 + (256 * high.toNat + low.toNat) + extra.toNat := by
  unfold frameLength?
  split
  case h_1 sync high low extra rest =>
    simp only [Option.some.injEq, overhead]
    constructor
    · rintro rfl
      exact ⟨sync, high, low, extra, rest, rfl, rfl⟩
    · rintro ⟨_, _, _, _, _, hbytes, rfl⟩
      cases hbytes
      rfl
  case h_2 hshort =>
    constructor
    · simp
    · rintro ⟨sync, high, low, extra, rest, rfl, -⟩
      exact (hshort sync high low extra rest rfl).elim

theorem frameLength?_eq_none_iff {bytes : Bytes} :
    frameLength? bytes = none ↔ bytes.length < 4 := by
  match bytes with
  | _ :: _ :: _ :: _ :: _ | [] | [_] | [_, _] | [_, _, _] => simp [frameLength?]

theorem frameLength?_encode_append {p : Packet} (h : p.Fits) (rest : Bytes) :
    frameLength? (p.encode ++ rest) = some p.wireLength := by
  rw [encode_append]
  simp only [frameLength?, wireLength, dataLength_bytes h.data, optionalLength_byte h.optional]

theorem decode_encode_append {p : Packet} (h : p.Fits) (rest : Bytes) :
    decode (p.encode ++ rest) = .ok p := by
  obtain ⟨last, behind, htail⟩ :
      ∃ last behind, p.data ++ (p.optional ++ p.payloadCheck :: rest) = last :: behind :=
    List.ne_nil_iff_exists_cons.mp (by simp)
  rw [encode_append, htail]
  simp only [decode, dataLength_bytes h.data, optionalLength_byte h.optional]
  simp [← htail]

theorem decodeValid_encode_append {p : Packet} (h : p.Built) (rest : Bytes) :
    decodeValid (p.encode ++ rest) = .ok p := by
  simp [decodeValid, decode_encode_append h.fits, h.validate, bind, Except.bind, pure, Except.pure]

/-! ## Only frames are read -/

theorem dataLength_high (high low : UInt8) :
    UInt8.ofNat ((256 * high.toNat + low.toNat) / 256) = high := by
  have hlow := low.toNat_lt
  have hdiv : (256 * high.toNat + low.toNat) / 256 = high.toNat := by omega
  rw [hdiv, UInt8.ofNat_toNat]

theorem dataLength_low (high low : UInt8) :
    UInt8.ofNat (256 * high.toNat + low.toNat) = low := by
  have hlow := low.toNat_lt
  apply UInt8.toNat_inj.mp
  rw [UInt8.toNat_ofNat']
  omega

theorem dataLength_le (high low : UInt8) : 256 * high.toNat + low.toNat ≤ maxDataLength := by
  have hhigh := high.toNat_lt
  have hlow := low.toNat_lt
  simp only [maxDataLength]
  omega

theorem optionalLength_le (extra : UInt8) : extra.toNat ≤ maxOptionalLength := by
  have hextra := extra.toNat_lt
  simp only [maxOptionalLength]
  omega

theorem encode_of_decode {bytes : Bytes} {p : Packet} (h : decode bytes = .ok p) :
    p.Fits ∧ ∃ rest, bytes = p.encode ++ rest := by
  unfold decode at h
  split at h
  case h_2 => cases h
  case h_1 sync high low extra code headerCheck last behind =>
    split at h
    case isTrue => cases h
    case isFalse hsync =>
      simp only at h
      split at h
      case h_1 => cases h
      case h_2 payloadCheck rest hbody =>
        split at h
        case h_1 => cases h
        case h_2 kind hkind =>
          cases h
          have hcode := PacketKind.code_of_ofCode? hkind
          have hlength := congrArg List.length hbody
          simp only [List.length_drop, List.length_cons] at hlength
          have hdata : ((last :: behind).take (256 * high.toNat + low.toNat)).length =
              256 * high.toNat + low.toNat := by
            simp only [List.length_take, List.length_cons]
            omega
          have hoptional : (((last :: behind).drop (256 * high.toNat + low.toNat)).take
              extra.toNat).length = extra.toNat := by
            simp only [List.length_take, List.length_drop, List.length_cons]
            omega
          refine ⟨⟨Nat.le_trans (Nat.le_of_eq hdata) (dataLength_le high low),
            Nat.le_trans (Nat.le_of_eq hoptional) (optionalLength_le extra)⟩, rest, ?_⟩
          rw [encode_append]
          simp only [hdata, hoptional, dataLength_high, dataLength_low, UInt8.ofNat_toNat, hcode,
            ← hbody, List.take_append_drop, ← Decidable.not_not.mp hsync]

theorem decode_eq_ok_iff {bytes : Bytes} {p : Packet} :
    decode bytes = .ok p ↔ p.Fits ∧ p.encode <+: bytes := by
  constructor
  · intro h
    obtain ⟨hfits, rest, rfl⟩ := encode_of_decode h
    exact ⟨hfits, List.prefix_append _ _⟩
  · rintro ⟨hfits, rest, rfl⟩
    exact decode_encode_append hfits rest

theorem eq_of_encode_prefix {p q : Packet} (hp : p.Fits) (hq : q.Fits)
    (h : p.encode <+: q.encode) : p = q := by
  have hread : decode q.encode = .ok p := decode_eq_ok_iff.mpr ⟨hp, h⟩
  have hother : decode q.encode = .ok q := decode_eq_ok_iff.mpr ⟨hq, List.prefix_refl _⟩
  exact Except.ok.inj (hread.symm.trans hother)

/--
A packet is read from exactly those byte strings that begin with its frame.  Every packet that fits
can be read from in front of any tail, writing what was read gives the bytes it was read from, and
no frame is the beginning of another one.
-/
theorem decode_iff_encode_prefix (bytes : Bytes) (p : Packet) :
    (decode bytes = .ok p ↔ p.Fits ∧ p.encode <+: bytes) ∧
      (p.Fits → ∀ tail, decode (p.encode ++ tail) = .ok p) ∧
      (decode bytes = .ok p → p.encode = bytes.take p.wireLength) ∧
      ∀ q, p.Fits → q.Fits → p.encode <+: q.encode → p = q := by
  refine ⟨decode_eq_ok_iff, decode_encode_append, ?_, fun q => eq_of_encode_prefix⟩
  intro h
  have hprefix := (decode_eq_ok_iff.mp h).2
  rw [List.prefix_iff_eq_take, length_encode] at hprefix
  exact hprefix

theorem validate_eq_ok_iff {p : Packet} :
    p.validate = .ok () ↔
      p.headerChecksum = p.headerCheck ∧ p.payloadChecksum = p.payloadCheck := by
  unfold validate
  split
  case isTrue hheader => simp [hheader]
  case isFalse hheader =>
    split
    case isTrue hpayload => simp [hpayload]
    case isFalse hpayload => simp [Decidable.not_not.mp hheader, Decidable.not_not.mp hpayload]

theorem build_parts_iff {p : Packet} :
    build p.kind p.data p.optional = .ok p ↔ p.Fits ∧ p.validate = .ok () := by
  constructor
  · intro h
    have hbuilt : p.Built := ⟨p.kind, p.data, p.optional, h⟩
    exact ⟨hbuilt.fits, hbuilt.validate⟩
  · rintro ⟨hfits, hvalid⟩
    obtain ⟨hheader, hpayload⟩ := validate_eq_ok_iff.mp hvalid
    refine build_eq_ok_iff.mpr ⟨hfits.data, hfits.optional, ?_⟩
    simp only [headerChecksum] at hheader
    simp only [payloadChecksum] at hpayload
    rw [sealed, hheader, hpayload]

theorem built_of_validate {p : Packet} (hfits : p.Fits) (h : p.validate = .ok ()) : p.Built :=
  ⟨p.kind, p.data, p.optional, build_parts_iff.mpr ⟨hfits, h⟩⟩

theorem Built.build_parts {p : Packet} (h : p.Built) : build p.kind p.data p.optional = .ok p :=
  build_parts_iff.mpr ⟨h.fits, h.validate⟩

theorem built_of_decodeValid {bytes : Bytes} {p : Packet} (h : decodeValid bytes = .ok p) :
    p.Built ∧ ∃ rest, bytes = p.encode ++ rest := by
  unfold decodeValid at h
  cases hdecode : decode bytes with
  | error cause => simp [hdecode, bind, Except.bind] at h
  | ok q =>
      cases hvalid : q.validate with
      | error cause => simp [hdecode, hvalid, bind, Except.bind] at h
      | ok =>
          simp only [hdecode, hvalid, bind, Except.bind, pure, Except.pure, Except.ok.injEq] at h
          subst h
          obtain ⟨hfits, hprefix⟩ := encode_of_decode hdecode
          exact ⟨built_of_validate hfits hvalid, hprefix⟩

theorem decodeValid_eq_error_iff {bytes : Bytes} {cause : FramingError} :
    decodeValid bytes = .error cause ↔
      decode bytes = .error cause ∨ ∃ p, decode bytes = .ok p ∧ p.validate = .error cause := by
  unfold decodeValid
  cases hdecode : decode bytes with
  | error other => simp [bind, Except.bind]
  | ok p => cases hvalid : p.validate <;> simp [hvalid, bind, Except.bind, pure, Except.pure]

end Esp3Host.Packet

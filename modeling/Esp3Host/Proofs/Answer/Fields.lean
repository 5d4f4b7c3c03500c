import Esp3Host.Answer
import Mathlib.Data.List.TakeWhile

/-!
# The fields of answers

The answers to the version and to the base address command have fields at fixed places behind the
return code.  They are also read place by place, where a place behind the end is a fault: no such
fault occurs, and what is found is the same.  Written fields are read back, whatever follows them.
-/

namespace Esp3Host

/-! ## Reading at places -/

structure OutOfRange where
  place : Nat
  length : Nat
  deriving DecidableEq, Repr

def byteAt (data : Bytes) (place : Nat) : Except OutOfRange UInt8 :=
  match data[place]? with
  | some byte => .ok byte
  | none => .error ⟨place, data.length⟩

def bytesAt (data : Bytes) (place : Nat) : Nat → Except OutOfRange Bytes
  | 0 => .ok []
  | count + 1 => do
      let byte ← byteAt data place
      let rest ← bytesAt data (place + 1) count
      return byte :: rest

variable {data tail : Bytes} {p : Packet} {v : Version}

theorem bytesAt_eq {place count : Nat} (h : place + count ≤ data.length) :
    bytesAt data place count = .ok ((data.drop place).take count) := by
  induction count generalizing place with
  | zero => rfl
  | succ count ih =>
      have hplace : place < data.length := by omega
      have hbyte : byteAt data place = .ok data[place] := by
        rw [byteAt, List.getElem?_eq_getElem hplace]
      rw [bytesAt, hbyte, ih (by omega), List.drop_eq_getElem_cons hplace, List.take_succ_cons]
      rfl

theorem Address.ofBytes?_take (bytes : Bytes) : ofBytes? (bytes.take 4) = ofBytes? bytes := by
  match bytes with
  | _ :: _ :: _ :: _ :: _ | [] | [_] | [_, _] | [_, _, _] => rfl

theorem Address.isSome_ofBytes?_iff (bytes : Bytes) :
    (ofBytes? bytes).isSome ↔ 4 ≤ bytes.length := by
  match bytes with
  | _ :: _ :: _ :: _ :: _ | [] | [_] | [_, _] | [_, _, _] => simp [ofBytes?]

/-! ## When there is an answer -/

theorem ReturnCode.ofCode_eq_ok_iff {code : UInt8} : ofCode code = .ok ↔ code = 0 := by
  constructor
  · intro h
    unfold ofCode at h
    split at h
    case h_1 hzero => exact UInt8.toNat_inj.mp hzero
    all_goals cases h
  · rintro rfl
    rfl

theorem ReturnCode.ofPacket?_eq_ok_iff :
    ofPacket? p = some .ok ↔ p.kind = .response ∧ p.data.head? = some 0 := by
  unfold ofPacket?
  split
  case h_1 code rest hkind hdata => simp [hkind, hdata, ofCode_eq_ok_iff]
  case h_2 hother =>
    simp only [reduceCtorEq, false_iff, not_and]
    intro hkind hhead
    obtain ⟨rest, hdata⟩ := List.head?_eq_some_iff.mp hhead
    exact hother 0 rest hkind hdata

namespace Version

theorem isSome_ofPacket?_iff :
    (ofPacket? p).isSome ↔ p.kind = .response ∧ p.data.head? = some 0 ∧ 17 ≤ p.data.length := by
  rw [← and_assoc, ← ReturnCode.ofPacket?_eq_ok_iff]
  unfold ofPacket?
  split
  case isTrue hcond =>
    have hlong : 17 ≤ p.data.length := hcond.2
    have hchip : (Address.ofBytes? (p.data.drop 9)).isSome := by
      rw [Address.isSome_ofBytes?_iff, List.length_drop]
      omega
    rw [Option.isSome_map]
    exact iff_of_true hchip hcond
  case isFalse hcond => exact iff_of_false (by simp) hcond

theorem describe_of_short (h : data.length < 16) : describe data = "" := if_pos h

theorem describe_take (data : Bytes) : describe (data.take 16) = describe data := by
  simp only [describe, List.length_take, List.take_take, Nat.min_self]
  split <;> split <;> first | rfl | omega

def descriptionAt (data : Bytes) : Except OutOfRange String :=
  if 33 ≤ data.length then (bytesAt data 17 16).map describe else .ok ""

theorem descriptionAt_eq (data : Bytes) :
    descriptionAt data = .ok (describe (data.drop 17)) := by
  unfold descriptionAt
  split
  case isTrue hwhole => rw [bytesAt_eq hwhole, Except.map, describe_take]
  case isFalse hcut =>
    rw [describe_of_short]
    rw [List.length_drop]
    omega

theorem description_of_short (h : ofPacket? p = some v) (hshort : p.data.length < 33) :
    v.description = "" := by
  unfold ofPacket? at h
  split at h
  case isTrue =>
    obtain ⟨chipId, -, rfl⟩ := Option.map_eq_some_iff.mp h
    refine describe_of_short ?_
    rw [List.length_drop, minLength]
    omega
  case isFalse => cases h

def readAt (p : Packet) : Except OutOfRange (Option Version) :=
  if ReturnCode.ofPacket? p = some .ok ∧ minLength ≤ p.data.length then do
    let app ← bytesAt p.data 1 4
    let api ← bytesAt p.data 5 4
    let chip ← bytesAt p.data 9 4
    let chipVersion ← bytesAt p.data 13 4
    let description ← descriptionAt p.data
    return (Address.ofBytes? chip).map fun chipId =>
      { app, api, chipId, chipVersion := Bytes.toNat chipVersion, description }
  else .ok none

theorem readAt_eq (p : Packet) : readAt p = .ok (ofPacket? p) := by
  unfold readAt ofPacket?
  split
  case isTrue hcond =>
    have hlong : 17 ≤ p.data.length := hcond.2
    rw [bytesAt_eq (by omega), bytesAt_eq (by omega), bytesAt_eq (by omega), bytesAt_eq (by omega),
      descriptionAt_eq]
    simp only [bind, Except.bind, pure, Except.pure, Address.ofBytes?_take, minLength]
  case isFalse => rfl

end Version

namespace Packet

theorem isSome_idBase?_iff :
    p.idBase?.isSome ↔ p.kind = .response ∧ p.data.head? = some 0 ∧ 5 ≤ p.data.length := by
  rw [← and_assoc, ← ReturnCode.ofPacket?_eq_ok_iff]
  unfold idBase?
  split
  case isTrue hcode =>
    rw [Address.isSome_ofBytes?_iff, List.length_drop, and_iff_right hcode]
    omega
  case isFalse hcode => exact iff_of_false (by simp) fun h => hcode h.1

def idBaseAt (p : Packet) : Except OutOfRange (Option Address) :=
  if ReturnCode.ofPacket? p = some .ok ∧ 5 ≤ p.data.length then do
    let base ← bytesAt p.data 1 4
    return Address.ofBytes? base
  else .ok none

theorem idBaseAt_eq (p : Packet) : p.idBaseAt = .ok p.idBase? := by
  unfold idBaseAt
  split
  case isTrue hcond =>
    rw [bytesAt_eq hcond.2, idBase?, if_pos hcond.1]
    simp only [bind, Except.bind, pure, Except.pure, Address.ofBytes?_take]
  case isFalse hcond =>
    have hnone : p.idBase? = none := by
      rw [← Option.not_isSome_iff_eq_none, isSome_idBase?_iff, ← and_assoc,
        ← ReturnCode.ofPacket?_eq_ok_iff]
      exact hcond
    rw [hnone]

end Packet

/-! ## Written answers -/

namespace Version

def wordBytes (n : Nat) : Bytes :=
  [UInt8.ofNat (n / 0x1000000), UInt8.ofNat (n / 0x10000), UInt8.ofNat (n / 0x100), UInt8.ofNat n]

theorem toNat_wordBytes {n : Nat} (h : n ≤ 0xFFFFFFFF) : Bytes.toNat (wordBytes n) = n :=
  Address.toNat_ofNat h

def padded (described : Bytes) : Bytes :=
  described ++ List.replicate (16 - described.length) 0

def answerData (app api : Vector UInt8 4) (chipId : Address) (chipVersion : Nat)
    (described : Bytes) : Bytes :=
  0x00 :: (app.toList ++ (api.toList ++
    (chipId.toBytes ++ (wordBytes chipVersion ++ padded described))))

theorem length_padded {described : Bytes} (h : described.length ≤ 16) :
    (padded described).length = 16 := by
  rw [padded, List.length_append, List.length_replicate]
  omega

theorem takeWhile_padded {described : Bytes} (h : 0 ∉ described) :
    (padded described).takeWhile (· ≠ 0) = described := by
  have hnonzero : ∀ byte ∈ described, decide (byte ≠ 0) = true := by
    intro byte hbyte
    simpa using fun hzero : byte = 0 => h (hzero ▸ hbyte)
  rw [padded, List.takeWhile_append_of_pos hnonzero]
  cases 16 - described.length <;> simp [List.replicate_succ]

theorem describe_padded_append {described : Bytes} (hshort : described.length ≤ 16)
    (hnonzero : 0 ∉ described) (tail : Bytes) :
    (describe (padded described ++ tail)).toList.map Char.toNat = described.map UInt8.toNat := by
  have hlength := length_padded hshort
  have htake : (padded described ++ tail).take 16 = padded described := List.take_left' hlength
  rw [describe, if_neg (by rw [List.length_append]; omega), htake, takeWhile_padded hnonzero,
    String.toList_ofList, List.map_map]
  refine List.map_congr_left fun byte _ => ?_
  have hbyte := byte.toNat_lt
  have hvalid : byte.toNat.isValidChar := .inl (by omega)
  rw [Function.comp_apply, Char.ofNat, dif_pos hvalid]
  rfl

theorem exists_bytes (four : Vector UInt8 4) : ∃ a b c d, four.toList = [a, b, c, d] := by
  have hlength : four.toList.length = 4 := Vector.length_toList
  match hfour : four.toList with
  | [a, b, c, d] => exact ⟨a, b, c, d, rfl⟩
  | [] | [_] | [_, _] | [_, _, _] | _ :: _ :: _ :: _ :: _ :: _ => simp [hfour] at hlength

theorem ofPacket?_answerData {app api : Vector UInt8 4} {chipId : Address} {chipVersion : Nat}
    {described : Bytes} (hkind : p.kind = .response)
    (hdata : p.data = answerData app api chipId chipVersion described ++ tail) :
    ofPacket? p = some
      { app := app.toList
        api := api.toList
        chipId
        chipVersion := Bytes.toNat (wordBytes chipVersion)
        description := describe (padded described ++ tail) } := by
  obtain ⟨a₁, b₁, c₁, d₁, happ⟩ := exists_bytes app
  obtain ⟨a₂, b₂, c₂, d₂, hapi⟩ := exists_bytes api
  have hcode : ReturnCode.ofPacket? p = some .ok := by
    rw [ReturnCode.ofPacket?_eq_ok_iff, hdata]
    exact ⟨hkind, rfl⟩
  have hlong : minLength ≤ p.data.length := by
    rw [hdata, answerData, happ, hapi]
    simp [minLength, Address.toBytes, wordBytes]
  rw [ofPacket?, if_pos ⟨hcode, hlong⟩, hdata, answerData, happ, hapi]
  rfl

end Version

theorem Packet.idBase?_of_data {base : Address} (hkind : p.kind = .response)
    (hdata : p.data = 0x00 :: (base.toBytes ++ tail)) : p.idBase? = some base := by
  have hcode : ReturnCode.ofPacket? p = some .ok := by
    rw [ReturnCode.ofPacket?_eq_ok_iff, hdata]
    exact ⟨hkind, rfl⟩
  rw [idBase?, if_pos hcode, hdata]
  rfl

/--
A version is told by exactly the responses with return code zero and at least 17 data bytes, a base
address by those with at least 5, and reading either never looks behind the end of the data.  What a
transceiver writes is read back whatever follows it, the description as the characters with the
numbers of its bytes; a response that is too short for a description has none.
-/
theorem Version.answers_read_exactly :
    (∀ p, (ofPacket? p).isSome ↔
      p.kind = .response ∧ p.data.head? = some 0x00 ∧ 17 ≤ p.data.length) ∧
    (∀ p : Packet, p.idBase?.isSome ↔
      p.kind = .response ∧ p.data.head? = some 0x00 ∧ 5 ≤ p.data.length) ∧
    (∀ p, readAt p = .ok (ofPacket? p) ∧ p.idBaseAt = .ok p.idBase?) ∧
    (∀ (p : Packet) (app api : Vector UInt8 4) (chipId : Address) (chipVersion : Nat)
      (described tail : Bytes), chipVersion ≤ 0xFFFFFFFF → described.length ≤ 16 →
      0 ∉ described → p.kind = .response →
      p.data = answerData app api chipId chipVersion described ++ tail →
      ∃ description, description.toList.map Char.toNat = described.map UInt8.toNat ∧
        ofPacket? p = some ⟨app.toList, api.toList, chipId, chipVersion, description⟩) ∧
    (∀ (p : Packet) (base : Address) (tail : Bytes), p.kind = .response →
      p.data = 0x00 :: (base.toBytes ++ tail) → p.idBase? = some base) ∧
    ∀ p v, ofPacket? p = some v → p.data.length < 33 → v.description = "" := by
  refine ⟨fun p => isSome_ofPacket?_iff, fun p => Packet.isSome_idBase?_iff,
    fun p => ⟨readAt_eq p, p.idBaseAt_eq⟩, ?_, fun p base tail => Packet.idBase?_of_data, ?_⟩
  · intro p app api chipId chipVersion described tail hword hshort hnonzero hkind hdata
    refine ⟨_, describe_padded_append hshort hnonzero tail, ?_⟩
    rw [ofPacket?_answerData hkind hdata, toNat_wordBytes hword]
  · exact fun p v => description_of_short

theorem Version.answers_read_exactly_gateway :
    let described : Bytes := [0x47, 0x41, 0x54, 0x45, 0x57, 0x41, 0x59, 0x43, 0x54, 0x52, 0x4C]
    let data := answerData #v[2, 11, 1, 0] #v[2, 6, 3, 0] ⟨0x01, 0x80, 0x2A, 0x3B⟩ 0x454F0300 described
    ofPacket? (Packet.sealed .response (data ++ [0x01]) []) =
      some ⟨[2, 11, 1, 0], [2, 6, 3, 0], ⟨0x01, 0x80, 0x2A, 0x3B⟩, 0x454F0300, "GATEWAYCTRL"⟩ ∧
    (∃ v, ofPacket? (Packet.sealed .response (data.take 17) []) = some v ∧ v.description = "") ∧
    (Packet.sealed .response [0x00, 0xFF, 0x80, 0x00, 0x00, 0x0A] []).idBase? =
      some ⟨0xFF, 0x80, 0x00, 0x00⟩ := by
  intro described data
  obtain ⟨hversion, -, -, hwritten, hbase, hshort⟩ := answers_read_exactly
  refine ⟨?_, ?_, hbase _ ⟨0xFF, 0x80, 0x00, 0x00⟩ [0x0A] rfl rfl⟩
  · obtain ⟨description, hnumbers, hread⟩ :=
      hwritten (Packet.sealed .response (data ++ [0x01]) []) #v[2, 11, 1, 0] #v[2, 6, 3, 0]
        ⟨0x01, 0x80, 0x2A, 0x3B⟩ 0x454F0300 described [0x01] (by decide) (by decide) (by decide)
        rfl rfl
    have hshown : "GATEWAYCTRL".toList.map Char.toNat = described.map UInt8.toNat := by decide
    have hdescription : description = "GATEWAYCTRL" :=
      String.toList_inj.mp
        ((List.map_inj_right fun _ _ => Char.toNat_inj.mp).mp (hnumbers.trans hshown.symm))
    rw [hread, hdescription]
    rfl
  · obtain ⟨v, hv⟩ := Option.isSome_iff_exists.mp
      ((hversion (Packet.sealed .response (data.take 17) [])).mpr ⟨rfl, rfl, by decide⟩)
    exact ⟨v, hv, hshort _ v hv (by decide)⟩

end Esp3Host

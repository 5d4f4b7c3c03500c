import Esp3Host.Proofs.TeachIn.Answers

/-!
# What an answer keeps of a query

An answer has the form of a query.  Behind its own code it repeats the bytes of the query that it
answers, except that of the byte with the upper bits of the manufacturer only these three bits come
back.  Read as a query, it shows the channels, the manufacturer and the profile of the query, and a
command that no query has.
-/

namespace Esp3Host.TeachIn.Query

variable {payload : Bytes}

/-- The query that seven bytes form. -/
def form (flags channels low high variant func family : UInt8) : Query where
  bidirectional := hasBit flags 7
  responseRequired := hasBit flags 6
  request := .ofByte flags
  command := flags.toNat % 16
  channels
  manufacturer := high.toNat % 8 * 256 + low.toNat
  profile := ⟨family, func, variant⟩

theorem exists_form_of_length (h : 7 ≤ payload.length) :
    ∃ flags channels low high variant func family rest,
      payload = flags :: channels :: low :: high :: variant :: func :: family :: rest ∧
        ofPayload payload = .ok (form flags channels low high variant func family) := by
  match payload, h with
  | flags :: channels :: low :: high :: variant :: func :: family :: rest, _ =>
      exact ⟨flags, channels, low, high, variant, func, family, rest, rfl, rfl⟩

/-! ## The bytes of an answer -/

theorem ofNat_manufacturer (high low : UInt8) :
    UInt8.ofNat (high.toNat % 8 * 256 + low.toNat) = low := by
  have hlow := low.toNat_lt
  apply UInt8.toNat_inj.mp
  rw [UInt8.toNat_ofNat']
  omega

theorem ofNat_manufacturer_div (high low : UInt8) :
    UInt8.ofNat ((high.toNat % 8 * 256 + low.toNat) / 256 % 8) = high % 8 := by
  have hlow := low.toNat_lt
  apply UInt8.toNat_inj.mp
  rw [UInt8.toNat_ofNat', UInt8.toNat_mod]
  change _ = high.toNat % 8
  omega

theorem answerPayload_form (flags channels low high variant func family : UInt8)
    (code : AnswerCode) :
    (form flags channels low high variant func family).answerPayload code =
      [code.code, channels, low, high % 8, variant, func, family] := by
  simp only [answerPayload, form, ofNat_manufacturer, ofNat_manufacturer_div]

theorem mod_eight_eq_self_iff (byte : UInt8) : byte % 8 = byte ↔ byte < 8 := by
  rw [UInt8.lt_iff_toNat_lt, ← UInt8.toNat_inj, UInt8.toNat_mod]
  exact Nat.mod_eq_iff_lt (by decide)

/--
The answer to a query of a device carries its own code and the placeholder of the sender.  In
between it repeats the bytes behind the first one of the query, but clears the upper five bits of
the fourth, which belong to no field.  It repeats them all exactly if these bits are clear in the
query.
-/
theorem echo_clears_reserved_bits (h : 7 ≤ payload.length) (code : AnswerCode)
    (destination : Address) :
    ∃ flags channels low high variant func family rest q answer,
      payload = flags :: channels :: low :: high :: variant :: func :: family :: rest ∧
      ofPayload payload = .ok q ∧
      Packet.radio 0xD4 (q.answerPayload code) destination = .ok answer ∧
      answer.data = [0xD4, code.code, channels, low, high % 8, variant, func, family] ++
        [0x00, 0xFF, 0xFF, 0xFF] ++ [0x00] ∧
      ((answer.data.drop 2).take 6 = (payload.drop 1).take 6 ↔ high < 8) := by
  obtain ⟨flags, channels, low, high, variant, func, family, rest, hpayload, hquery⟩ :=
    exists_form_of_length h
  have hbytes := answerPayload_form flags channels low high variant func family code
  refine ⟨flags, channels, low, high, variant, func, family, rest, _,
    (form flags channels low high variant func family).answer code destination, hpayload, hquery,
    radio_eq_answer .., ?_, ?_⟩
  · simp [answer, hbytes, Packet.sealed, Rorg.code, Packet.senderPlaceholder, Address.toBytes]
  · rw [← mod_eight_eq_self_iff, hpayload]
    simp [answer, hbytes, Packet.sealed]

theorem echo_clears_reserved_bits_all_set :
    let payload : Bytes := [0x40, 0x01, 0x46, 0xF8, 0x12, 0x01, 0xD2]
    let destination : Address := ⟨0x05, 0x11, 0x22, 0x33⟩
    7 ≤ payload.length ∧ ∃ q answer, ofPayload payload = .ok q ∧
      Packet.radio 0xD4 (q.answerPayload .success) destination = .ok answer ∧
      (answer.data.drop 2).take 6 = [0x01, 0x46, 0x00, 0x12, 0x01, 0xD2] ∧
      (answer.data.drop 2).take 6 ≠ (payload.drop 1).take 6 := by
  intro payload destination
  have hlength : 7 ≤ payload.length := by decide
  obtain ⟨_, _, _, _, _, _, _, _, q, answer, hpayload, hquery, hbuild, hdata, hecho⟩ :=
    echo_clears_reserved_bits hlength .success destination
  cases show ([0x40, 0x01, 0x46, 0xF8, 0x12, 0x01, 0xD2] : Bytes) = _ from hpayload
  refine ⟨hlength, q, answer, hquery, hbuild, ?_, mt hecho.mp (by decide)⟩
  rw [hdata]
  decide

/-! ## An answer read as a query -/

def echo (q : Query) (code : AnswerCode) : Query where
  bidirectional := true
  responseRequired := false
  request := .ofByte code.code
  command := 1
  channels := q.channels
  manufacturer := q.manufacturer % 2048
  profile := q.profile

theorem ofPayload_answerPayload (q : Query) (code : AnswerCode) :
    ofPayload (q.answerPayload code) = .ok (q.echo code) := by
  have hmanufacturer : (UInt8.ofNat (q.manufacturer / 256 % 8)).toNat % 8 * 256 +
      (UInt8.ofNat q.manufacturer).toNat = q.manufacturer % 2048 := by
    simp only [UInt8.toNat_ofNat']
    omega
  have hread : ofPayload (q.answerPayload code) = .ok (form code.code q.channels
      (UInt8.ofNat q.manufacturer) (UInt8.ofNat (q.manufacturer / 256 % 8)) q.profile.variant
      q.profile.func q.profile.rorg) := rfl
  rw [hread, form, hmanufacturer, echo]
  cases code <;> rfl

theorem echo_keeps_manufacturer {q : Query} (h : ofPayload payload = .ok q) (code : AnswerCode) :
    (q.echo code).manufacturer = q.manufacturer :=
  Nat.mod_eq_of_lt (manufacturer_lt_of_ofPayload h)

end Esp3Host.TeachIn.Query

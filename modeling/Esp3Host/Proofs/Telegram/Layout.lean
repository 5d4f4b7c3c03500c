import Esp3Host.Summary

/-!
# The layout of telegrams

A packet is laid out as a telegram, or one of four reasons stands against it; which of several is
told is a matter of order.  `Telegram.ofPacket` reads exactly the former and cuts them into parts that
make up the data section again.  All that is read of a telegram later lies within these parts:
reading with a check of every position gives the same (`Telegram.WithinData`, `summary?`).
-/

namespace Esp3Host

/-! ## Families -/

def Rorg.shapes : List (Rorg × UInt8 × Nat) :=
  [(.rps, 0xF6, 1), (.oneByte, 0xD5, 1), (.variableLength, 0xD2, 1), (.manufacturer, 0xD1, 1),
    (.fourByte, 0xA5, 4), (.universalTeachIn, 0xD4, 7)]

theorem Rorg.mem_shapes_iff {rorg : Rorg} {first : UInt8} {least : Nat} :
    (rorg, first, least) ∈ shapes ↔ rorg.code = first ∧ rorg.minPayload = least := by
  cases rorg <;> simp [shapes, code, minPayload, eq_comm]

theorem Rorg.mem_shapes (rorg : Rorg) : (rorg, rorg.code, rorg.minPayload) ∈ shapes :=
  mem_shapes_iff.mpr ⟨rfl, rfl⟩

theorem Rorg.code_of_ofCode? {first : UInt8} {rorg : Rorg} (h : ofCode? first = some rorg) :
    rorg.code = first := by
  simpa using List.find?_some h

namespace Telegram

/-- The packet is laid out as this telegram. -/
structure Layout (p : Packet) (t : Telegram) : Prop where
  radio : p.kind = .radio
  data : p.data = t.rorg.code :: (t.payload ++ (t.sender.toBytes ++ [t.status]))
  payload : t.rorg.minPayload ≤ t.payload.length
  kind : t.kind = kindOf t.rorg t.payload
  optional : t.optional = p.optional

/-- What stands against a packet, and nothing that would be told before it. -/
inductive Refused (p : Packet) : TelegramError → Prop
  | notRadio (hkind : p.kind ≠ .radio) : Refused p (.notRadio p.kind)
  | empty (hkind : p.kind = .radio) (hdata : p.data = []) : Refused p .empty
  | unsupported {first : UInt8} {rest : Bytes} (hkind : p.kind = .radio)
      (hdata : p.data = first :: rest) (hfirst : ∀ shape ∈ Rorg.shapes, shape.2.1 ≠ first) :
      Refused p (.unsupportedRorg first)
  | tooShort {first : UInt8} {rest : Bytes} {rorg : Rorg} {least : Nat} (hkind : p.kind = .radio)
      (hdata : p.data = first :: rest) (hshape : (rorg, first, least) ∈ Rorg.shapes)
      (hlength : p.data.length < 6 + least) :
      Refused p (.tooShort first (6 + least) p.data.length)

variable {p : Packet} {t : Telegram}

theorem ofPacket_of_layout (h : Layout p t) : ofPacket p = .ok t := by
  have hlength := congrArg List.length h.data
  have hpayload := h.payload
  simp only [Address.toBytes, List.length_cons, List.length_append, List.length_nil] at hlength
  have hlong : ¬ p.data.length < 1 + t.rorg.minPayload + trailerLength := by
    rw [trailerLength]
    omega
  have hcut : (t.payload ++ (t.sender.toBytes ++ [t.status])).length - trailerLength =
      t.payload.length := by
    simp [Address.toBytes, trailerLength]
  simp only [ofPacket, h.radio, ne_eq, not_true_eq_false, if_false]
  rw [h.data] at hlong ⊢
  simp only [Rorg.ofCode?_code, if_neg hlong, hcut, List.take_left, List.drop_left]
  simp only [Address.toBytes, List.cons_append, List.nil_append]
  rw [← h.kind, ← h.optional]

theorem ofCode?_of_no_shape {first : UInt8} (h : ∀ shape ∈ Rorg.shapes, shape.2.1 ≠ first) :
    Rorg.ofCode? first = none := by
  cases hfirst : Rorg.ofCode? first with
  | none => rfl
  | some rorg => exact absurd (Rorg.code_of_ofCode? hfirst) (h _ rorg.mem_shapes)

theorem ofPacket_of_refused {e : TelegramError} (h : Refused p e) : ofPacket p = .error e := by
  cases h with
  | notRadio hkind => rw [ofPacket, if_pos hkind]
  | empty hkind hdata => rw [ofPacket, if_neg (not_not_intro hkind), hdata]
  | unsupported hkind hdata hfirst =>
      rw [ofPacket, if_neg (not_not_intro hkind), hdata]
      simp only [ofCode?_of_no_shape hfirst]
  | @tooShort first rest rorg least hkind hdata hshape hlength =>
      obtain ⟨rfl, rfl⟩ := Rorg.mem_shapes_iff.mp hshape
      have hneeded : 1 + rorg.minPayload + trailerLength = 6 + rorg.minPayload := by
        rw [trailerLength]
        omega
      rw [ofPacket, if_neg (not_not_intro hkind)]
      rw [hdata] at hlength ⊢
      simp only [Rorg.ofCode?_code, hneeded, if_pos hlength]

theorem exists_trailer (rest : Bytes) (h : 5 ≤ rest.length) :
    ∃ payload sender status, rest = payload ++ (Address.toBytes sender ++ [status]) := by
  have htrailer : (rest.drop (rest.length - 5)).length = 5 := by
    rw [List.length_drop]
    omega
  match hbytes : rest.drop (rest.length - 5), htrailer with
  | [byte3, byte2, byte1, byte0, status], _ =>
      refine ⟨rest.take (rest.length - 5), ⟨byte3, byte2, byte1, byte0⟩, status, ?_⟩
      have hwhole := List.take_append_drop (rest.length - 5) rest
      rw [hbytes] at hwhole
      exact hwhole.symm

theorem exists_layout {rorg : Rorg} {rest : Bytes} (hkind : p.kind = .radio)
    (hdata : p.data = rorg.code :: rest) (hlength : 6 + rorg.minPayload ≤ p.data.length) :
    ∃ t, Layout p t := by
  rw [hdata, List.length_cons] at hlength
  obtain ⟨payload, sender, status, rfl⟩ := exists_trailer rest (by omega)
  refine ⟨⟨kindOf rorg payload, rorg, payload, sender, status, p.optional⟩, hkind, hdata, ?_, rfl,
    rfl⟩
  simp only [Address.toBytes, List.length_append, List.length_cons, List.length_nil] at hlength
  change rorg.minPayload ≤ payload.length
  omega

theorem layout_or_refused (p : Packet) : (∃ t, Layout p t) ∨ ∃ e, Refused p e := by
  by_cases hkind : p.kind = .radio
  case neg => exact .inr ⟨_, .notRadio hkind⟩
  case pos =>
    cases hdata : p.data with
    | nil => exact .inr ⟨_, .empty hkind hdata⟩
    | cons first rest =>
        cases hfirst : Rorg.ofCode? first with
        | none =>
            refine .inr ⟨_, .unsupported hkind hdata ?_⟩
            rintro ⟨rorg, code, least⟩ hshape rfl
            rw [← (Rorg.mem_shapes_iff.mp hshape).1, Rorg.ofCode?_code] at hfirst
            cases hfirst
        | some rorg =>
            have hcode := Rorg.code_of_ofCode? hfirst
            subst hcode
            rcases Nat.lt_or_ge p.data.length (6 + rorg.minPayload) with hshort | hlong
            · exact .inr ⟨_, .tooShort hkind hdata rorg.mem_shapes hshort⟩
            · exact .inl (exists_layout hkind hdata hlong)

theorem ofPacket_eq_ok_iff : ofPacket p = .ok t ↔ Layout p t := by
  refine ⟨fun h => ?_, ofPacket_of_layout⟩
  rcases layout_or_refused p with ⟨other, hother⟩ | ⟨e, hrefused⟩
  · cases h.symm.trans (ofPacket_of_layout hother)
    exact hother
  · cases h.symm.trans (ofPacket_of_refused hrefused)

theorem ofPacket_eq_error_iff {e : TelegramError} : ofPacket p = .error e ↔ Refused p e := by
  refine ⟨fun h => ?_, ofPacket_of_refused⟩
  rcases layout_or_refused p with ⟨t, hlayout⟩ | ⟨other, hother⟩
  · cases h.symm.trans (ofPacket_of_layout hlayout)
  · cases h.symm.trans (ofPacket_of_refused hother)
    exact hother

/-! ## Positions -/

def slice? (bytes : Bytes) (start stop : Nat) : Option Bytes :=
  if start ≤ stop ∧ stop ≤ bytes.length then some ((bytes.take stop).drop start) else none

def distance? (n m : Nat) : Option Nat := if m ≤ n then some (n - m) else none

def payloadIn? (data : Bytes) : Option Bytes := do
  slice? data 1 (← distance? data.length trailerLength)

def senderIn? (data : Bytes) : Option Address := do
  let place ← distance? data.length trailerLength
  return ⟨← data[place]?, ← data[place + 1]?, ← data[place + 2]?, ← data[place + 3]?⟩

def statusIn? (data : Bytes) : Option UInt8 := do
  data[← distance? data.length 1]?

def kindIn? (rorg : Rorg) (payload : Bytes) : Option TelegramKind :=
  match rorg with
  | .fourByte => do
      return if hasBit (← payload[3]?) learnBit then .fourByte else .fourByteTeachIn
  | rorg => some (kindOf rorg payload)

def isTeachInIn? (kind : TelegramKind) (payload : Bytes) : Option Bool :=
  match kind with
  | .rps | .universalTeachIn | .fourByteTeachIn => some true
  | .oneByte => do return !hasBit (← payload[0]?) learnBit
  | .fourByte | .variableLength => some false

/-- Reading the parts of a telegram position by position never leaves the packet's data. -/
structure WithinData (p : Packet) (t : Telegram) : Prop where
  payload : payloadIn? p.data = some t.payload
  sender : senderIn? p.data = some t.sender
  status : statusIn? p.data = some t.status
  kind : kindIn? t.rorg t.payload = some t.kind
  isTeachIn : isTeachInIn? t.kind t.payload = some t.isTeachIn

theorem Layout.length_data (h : Layout p t) : p.data.length = t.payload.length + 6 := by
  simp [h.data, Address.toBytes]

theorem Layout.trailer_place (h : Layout p t) :
    distance? p.data.length trailerLength = some (t.payload.length + 1) := by
  have hlength := h.length_data
  rw [distance?, trailerLength, if_pos (by omega)]
  congr 1
  omega

theorem Layout.getElem?_trailer (h : Layout p t) (i : Nat) :
    p.data[t.payload.length + 1 + i]? = (t.sender.toBytes ++ [t.status])[i]? := by
  rw [h.data, Nat.add_right_comm, List.getElem?_cons_succ,
    List.getElem?_append_right (Nat.le_add_right _ _), Nat.add_sub_cancel_left]

theorem Layout.payloadIn? (h : Layout p t) : payloadIn? p.data = some t.payload := by
  have hlength := h.length_data
  simp only [Telegram.payloadIn?, h.trailer_place, Option.bind_eq_bind, Option.bind_some]
  rw [slice?, if_pos (by omega), h.data, List.take_succ_cons, List.drop_succ_cons, List.take_left]
  rfl

theorem Layout.senderIn? (h : Layout p t) : senderIn? p.data = some t.sender := by
  have hfirst := h.getElem?_trailer 0
  have hsecond := h.getElem?_trailer 1
  have hthird := h.getElem?_trailer 2
  have hfourth := h.getElem?_trailer 3
  rw [Nat.add_zero] at hfirst
  simp only [Telegram.senderIn?, h.trailer_place, Option.bind_eq_bind, Option.bind_some, hfirst,
    hsecond, hthird, hfourth]
  rfl

theorem Layout.statusIn? (h : Layout p t) : statusIn? p.data = some t.status := by
  have hlast : distance? p.data.length 1 = some (t.payload.length + 1 + 4) := by
    rw [distance?, h.length_data, if_pos (by omega)]
    rfl
  simp only [Telegram.statusIn?, hlast, Option.bind_eq_bind, Option.bind_some, h.getElem?_trailer 4]
  rfl

theorem Layout.exists_byte (h : Layout p t) {i : Nat} (hi : i < t.rorg.minPayload) :
    ∃ byte, t.payload[i]? = some byte :=
  ⟨_, List.getElem?_eq_getElem (Nat.lt_of_lt_of_le hi h.payload)⟩

theorem Layout.kindIn? (h : Layout p t) : kindIn? t.rorg t.payload = some t.kind := by
  rw [h.kind]
  cases hrorg : t.rorg with
  | fourByte =>
      obtain ⟨byte, hbyte⟩ := h.exists_byte (show 3 < t.rorg.minPayload by rw [hrorg]; decide)
      simp [Telegram.kindIn?, kindOf, hbyte]
  | _ => rfl

theorem Layout.isTeachInIn? (h : Layout p t) :
    isTeachInIn? t.kind t.payload = some t.isTeachIn := by
  obtain ⟨byte, hbyte⟩ := h.exists_byte (show 0 < t.rorg.minPayload by cases t.rorg <;> decide)
  rw [isTeachIn]
  cases t.kind with
  | oneByte => simp [Telegram.isTeachInIn?, hbyte]
  | _ => rfl

theorem Layout.withinData (h : Layout p t) : WithinData p t :=
  ⟨h.payloadIn?, h.senderIn?, h.statusIn?, h.kindIn?, h.isTeachInIn?⟩

end Telegram

/-- The summary of a packet from parts that are read with a check of every position. -/
def Packet.summary? (p : Packet) : Option String :=
  match p.kind with
  | .radio =>
      match Telegram.ofPacket p with
      | .ok t => do
          let payload ← Telegram.payloadIn? p.data
          let sender ← Telegram.senderIn? p.data
          let status ← Telegram.statusIn? p.data
          return { t with payload, sender, status }.summary
      | .error e => some s!"radio ({e.message})"
  | _ => some p.summary

theorem Packet.summary?_eq (p : Packet) : p.summary? = some p.summary := by
  cases hkind : p.kind with
  | radio =>
      cases hread : Telegram.ofPacket p with
      | error e => simp only [summary?, summary, hkind, hread]
      | ok t =>
          have hlayout := Telegram.ofPacket_eq_ok_iff.mp hread
          simp [summary?, summary, hkind, hread, hlayout.payloadIn?, hlayout.senderIn?,
            hlayout.statusIn?]
  | _ => simp only [summary?, hkind]

namespace Telegram

variable {p : Packet} {t : Telegram}

/-! ## The optional section -/

/-- Which parts of the optional section a telegram shows, by the length of the section. -/
structure ShowsOptional (optional : Bytes) (t : Telegram) : Prop where
  subTelegrams : t.subTelegrams? =
    if h : 1 ≤ optional.length then some optional[0] else none
  destination : t.destination? =
    if h : 5 ≤ optional.length then
      some ⟨optional[1], optional[2], optional[3], optional[4]⟩
    else none
  strength : t.strength? = if h : 6 ≤ optional.length then some optional[5] else none
  securityLevel : t.securityLevel? = if h : 7 ≤ optional.length then some optional[6] else none

theorem showsOptional (t : Telegram) : ShowsOptional t.optional t where
  subTelegrams := getElem?_def t.optional 0
  destination := by
    unfold destination?
    match t.optional with
    | [] | [_] | [_, _] | [_, _, _] | [_, _, _, _] => rfl
    | _ :: _ :: _ :: _ :: _ :: rest => simp [Address.ofBytes?]
  strength := getElem?_def t.optional 5
  securityLevel := getElem?_def t.optional 6

theorem Layout.kind_eq_fourByteTeachIn_iff (h : Layout p t) :
    t.kind = .fourByteTeachIn ↔
      t.rorg = .fourByte ∧ ∃ byte, t.payload[3]? = some byte ∧ hasBit byte 3 = false := by
  rw [h.kind]
  cases hrorg : t.rorg with
  | fourByte =>
      obtain ⟨byte, hbyte⟩ := h.exists_byte (show 3 < t.rorg.minPayload by rw [hrorg]; decide)
      simp [kindOf, learnBit, hbyte]
  | _ => simp [kindOf]

theorem exists_ofPacket_iff :
    (∃ t, ofPacket p = .ok t) ↔ p.kind = .radio ∧ ∃ rorg first least rest,
      p.data = first :: rest ∧ (rorg, first, least) ∈ Rorg.shapes ∧
        6 + least ≤ p.data.length := by
  constructor
  · rintro ⟨t, hread⟩
    have h := ofPacket_eq_ok_iff.mp hread
    have hlength := h.length_data
    have hpayload := h.payload
    exact ⟨h.radio, t.rorg, _, _, _, h.data, t.rorg.mem_shapes, by omega⟩
  · rintro ⟨hkind, rorg, first, least, rest, hdata, hshape, hlong⟩
    obtain ⟨rfl, rfl⟩ := Rorg.mem_shapes_iff.mp hshape
    obtain ⟨t, hlayout⟩ := exists_layout hkind hdata hlong
    exact ⟨t, ofPacket_of_layout hlayout⟩

/--
A packet is read exactly if it is a radio packet whose data begin with one of the six families and
are long enough for it; otherwise the first reason against it is told.  What is read is the data,
cut into family, payload, sender and status, and the optional section as far as it goes.  Reading any
of it, or putting it into a summary, never leaves the data.
-/
theorem ofPacket_layout (p : Packet) :
    ((∃ t, ofPacket p = .ok t) ↔ p.kind = .radio ∧ ∃ rorg first least rest,
      p.data = first :: rest ∧ (rorg, first, least) ∈ Rorg.shapes ∧
        6 + least ≤ p.data.length) ∧
      (∀ e, ofPacket p = .error e ↔ Refused p e) ∧
      (∀ t, ofPacket p = .ok t →
        (∃ first least, (t.rorg, first, least) ∈ Rorg.shapes ∧ least ≤ t.payload.length ∧
          p.data = [first] ++ t.payload ++ t.sender.toBytes ++ [t.status]) ∧
        (t.kind = .fourByteTeachIn ↔
          t.rorg = .fourByte ∧ ∃ byte, t.payload[3]? = some byte ∧ hasBit byte 3 = false) ∧
        ShowsOptional p.optional t ∧ WithinData p t) ∧
      p.summary? = some p.summary := by
  refine ⟨exists_ofPacket_iff, fun e => ofPacket_eq_error_iff, fun t hread => ?_, p.summary?_eq⟩
  have h := ofPacket_eq_ok_iff.mp hread
  refine ⟨⟨t.rorg.code, t.rorg.minPayload, t.rorg.mem_shapes, h.payload, ?_⟩,
    h.kind_eq_fourByteTeachIn_iff, h.optional ▸ t.showsOptional, h.withinData⟩
  simp [h.data]

theorem ofPacket_layout_broadcast :
    let p := Packet.sealed .radio [0xA5, 0x08, 0x28, 0x46, 0x80, 0x01, 0x80, 0x2A, 0x3B, 0x00]
      [0x01, 0xFF, 0xFF, 0xFF, 0xFF]
    let t : Telegram := ⟨.fourByteTeachIn, .fourByte, [0x08, 0x28, 0x46, 0x80],
      ⟨0x01, 0x80, 0x2A, 0x3B⟩, 0x00, [0x01, 0xFF, 0xFF, 0xFF, 0xFF]⟩
    ofPacket p = .ok t ∧ ShowsOptional p.optional t ∧ WithinData p t ∧
      t.destination? = some .broadcast ∧ t.strength? = none := by
  intro p t
  have hread : ofPacket p = .ok t := rfl
  obtain ⟨-, -, hparts, -⟩ := ofPacket_layout p
  obtain ⟨-, -, hoptional, hwithin⟩ := hparts t hread
  exact ⟨hread, hoptional, hwithin, rfl, rfl⟩

end Telegram

end Esp3Host

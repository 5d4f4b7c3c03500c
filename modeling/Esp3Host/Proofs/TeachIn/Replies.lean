import Esp3Host.Proofs.TeachIn.Echo
import Esp3Host.Proofs.TeachIn.Encounter

/-!
# One answer to every query

Every universal teach-in telegram that can be read is the form of a query, and an answer to it can
always be built.  If its sender is unknown and the window admits it, a query gets one answer, whose
code depends on what it asks for and on the table alone; the answers of other hosts get none.
-/

namespace Esp3Host.TeachIn

variable {p : Packet} {t : Telegram} {q : Query}

/-! ## Reading queries -/

theorem Query.exists_form (hparse : Telegram.ofPacket p = .ok t)
    (hrorg : t.rorg = .universalTeachIn) :
    ∃ flags channels low high variant func family rest,
      t.payload = flags :: channels :: low :: high :: variant :: func :: family :: rest := by
  have hlength := (Telegram.ofPacket_eq_ok_iff.mp hparse).payload
  rw [hrorg] at hlength
  obtain ⟨flags, channels, low, high, variant, func, family, rest, hpayload, -⟩ :=
    exists_form_of_length hlength
  exact ⟨flags, channels, low, high, variant, func, family, rest, hpayload⟩

theorem Query.ofTelegram_form {flags channels low high variant func family : UInt8} {rest : Bytes}
    (hrorg : t.rorg = .universalTeachIn)
    (hpayload : t.payload =
      flags :: channels :: low :: high :: variant :: func :: family :: rest) :
    ofTelegram t = .ok
      { bidirectional := hasBit flags 7
        responseRequired := hasBit flags 6
        request := Request.ofByte flags
        command := flags.toNat % 16
        channels
        manufacturer := high.toNat % 8 * 256 + low.toNat
        profile := ⟨family, func, variant⟩ } := by
  rw [ofTelegram, if_neg (not_not_intro hrorg), hpayload]
  rfl

theorem Request.ofByte_eq_teachIn_iff {flags : UInt8} :
    ofByte flags = .teachIn ↔ hasBit flags 5 = false ∧ hasBit flags 4 = false := by
  unfold ofByte
  cases hasBit flags 5 <;> cases hasBit flags 4 <;> decide

theorem Request.ofByte_eq_deletion_iff {flags : UInt8} :
    ofByte flags = .deletion ↔ hasBit flags 5 = false ∧ hasBit flags 4 = true := by
  unfold ofByte
  cases hasBit flags 5 <;> cases hasBit flags 4 <;> decide

/-! ## Replying -/

theorem AnswerCode.code_eq_success_iff {c : AnswerCode} : c.code = 0x91 ↔ c = .success := by
  cases c <;> decide

theorem AnswerCode.code_eq_deletionAccepted_iff {c : AnswerCode} :
    c.code = 0xA1 ↔ c = .deletionAccepted := by
  cases c <;> decide

namespace Query

def reply (q : Query) (table : DeviceTable) : AnswerCode :=
  match q.request with
  | .teachIn => if table.supports q.profile then .success else .refused
  | .deletion => .deletionAccepted
  | .unspecified | .notUsed => .refused

def paired? (q : Query) (sender : Address) : AnswerCode → Option Device
  | .success => some ⟨sender, q.manufacturer, q.profile⟩
  | .refused | .deletionAccepted => none

theorem eq_of_paired? {sender : Address} {code : AnswerCode} {device : Device}
    (h : q.paired? sender code = some device) : device = ⟨sender, q.manufacturer, q.profile⟩ := by
  cases code <;> cases h
  rfl

variable {table : DeviceTable}

theorem reply_eq_success_iff :
    q.reply table = .success ↔ q.request = .teachIn ∧ q.profile ∈ table.profiles := by
  unfold reply
  cases q.request <;> simp [DeviceTable.supports]

theorem reply_eq_deletionAccepted_iff :
    q.reply table = .deletionAccepted ↔ q.request = .deletion := by
  unfold reply
  cases q.request <;> simp
  split <;> simp

end Query

/-- One packet joins the queue of its class, with the attempts of that class. -/
structure Queued (before after : Link) (isUrgent : Bool) (p : Packet) : Prop where
  high : after.sendHigh = before.sendHigh ++ if isUrgent then [⟨p, 1⟩] else []
  low : after.sendLow = before.sendLow ++
    if isUrgent then [] else [⟨p, before.tuning.attempts⟩]

/-- The packet is a universal teach-in telegram for a destination, with a code in front. -/
def Answers (p : Packet) (code : UInt8) (destination : Address) : Prop :=
  ∃ t, Telegram.ofPacket p = .ok t ∧ t.rorg = .universalTeachIn ∧
    t.destination? = some destination ∧ t.payload.head? = some code

theorem answers_answer (q : Query) (code : AnswerCode) (destination : Address) :
    Answers (q.answer code destination) code.code destination :=
  ⟨q.answerTelegram code destination, Query.ofPacket_answer q code destination, rfl,
    Address.ofBytes?_append destination [0xFF, 0x00], rfl⟩

namespace Engine

variable {e last : Engine DeviceTable} {w : Window}

/-- What comes of a query: the reply to it is the outcome, and is queued. -/
structure Replied (e : Engine DeviceTable) (t : Telegram) (q : Query)
    (result : Outcome × Engine DeviceTable) : Prop where
  outcome : result.1 = .answered (q.reply e.registry) (q.paired? t.sender (q.reply e.registry))
  queued : Queued e.link result.2.link q.responseRequired
    (q.answer (q.reply e.registry) t.sender)

theorem replied_sendAnswer {code : AnswerCode}
    (hlink : last.link = { e.link with journal := last.link.journal })
    (hreply : q.reply e.registry = code) :
    Replied e t q (last.sendAnswer t q code (q.paired? t.sender code)) := by
  have hsent : (last.sendAnswer t q code (q.paired? t.sender code)).2.link =
      last.link.send (if q.responseRequired then .high else .low) (q.answer code t.sender) := rfl
  subst hreply
  refine ⟨rfl, ?_⟩
  rw [hsent, Link.send, Link.sendWith_eq, hlink]
  constructor <;> cases q.responseRequired <;> rfl

namespace Encounter

theorem replied_teachIn (h : Encounter p t w e) (hrequest : q.request = .teachIn) :
    Replied e t q (e.handleTeachInQuery tableRegistry t q) := by
  rw [handleTeachInQuery, supports_tableRegistry]
  cases hlisted : e.registry.supports q.profile with
  | false =>
      have hnoted : Aside e (e.note (.queryRefused t.sender q.profile)) := .note .refl _
      exact replied_sendAnswer hnoted.link_eq (by simp [Query.reply, hrequest, hlisted])
  | true =>
      obtain ⟨last, hregister, hlink⟩ := h.register_eq q.manufacturer q.profile
      rw [hlisted, if_pos rfl] at hregister
      dsimp only
      rw [hregister]
      exact replied_sendAnswer hlink (by simp [Query.reply, hrequest, hlisted])

theorem replied (h : Encounter p t w e) (hquery : Query.ofTelegram t = .ok q)
    (hisQuery : q.isQuery = true) : Replied e t q (e.handleQuery tableRegistry t) := by
  rw [handleQuery, hquery]
  simp only [hisQuery, Bool.not_true, Bool.false_eq_true, if_false]
  cases hrequest : q.request with
  | teachIn => exact h.replied_teachIn hrequest
  | deletion =>
      have hclosed : Aside e e.closeWindow.2 := asides_performTo _ .closeWindow e
      exact replied_sendAnswer hclosed.link_eq (by simp [Query.reply, hrequest])
  | unspecified | notUsed =>
      exact replied_sendAnswer rfl (by simp [Query.reply, hrequest])

theorem handle_universal (h : Encounter p t w e) (hrorg : t.rorg = .universalTeachIn) :
    e.handle tableRegistry p = e.handleQuery tableRegistry t := by
  have hkind : t.kind = .universalTeachIn := by
    rw [(Telegram.ofPacket_eq_ok_iff.mp h.parse).kind, hrorg]
    rfl
  rw [h.handle_eq]
  unfold handleAdmitted
  rw [hkind]

theorem handle_foreign (h : Encounter p t w e) (hrorg : t.rorg = .universalTeachIn)
    (hquery : Query.ofTelegram t = .ok q) (hforeign : q.isQuery = false) :
    e.handle tableRegistry p = (.ignored, e.note (.answerIgnored t.sender)) := by
  simp [h.handle_universal hrorg, handleQuery, hquery, hforeign]

end Encounter

/--
A universal teach-in telegram of an unknown sender before an open window is always the form of a
query.  If it is an answer of another host, nothing comes of it.  Otherwise one packet is queued,
with the urgent ones for one attempt if the query requires an answer, else with the ordinary ones
for as many as the sender allows.  It goes to the device, and its code tells success exactly if the
query is for teach-in and the table lists the profile, deletion exactly if it asks for that, and
refusal otherwise.  Building an answer never fails.
-/
theorem queries_answered_once (h : Encounter p t w e) (hrorg : t.rorg = .universalTeachIn) :
    let outcome := (e.handle tableRegistry p).1
    let after := (e.handle tableRegistry p).2
    ∃ flags channels low high variant func family rest q,
      t.payload = flags :: channels :: low :: high :: variant :: func :: family :: rest ∧
      Query.ofTelegram t = .ok q ∧
      (∀ code destination, Packet.radio 0xD4 (q.answerPayload code) destination =
        .ok (q.answer code destination)) ∧
      (flags.toNat % 16 ≠ 0 → outcome = .ignored ∧
        after.link.sendHigh = e.link.sendHigh ∧ after.link.sendLow = e.link.sendLow) ∧
      (flags.toNat % 16 = 0 → ∃ answer code device,
        outcome = .answered code device ∧
        Queued e.link after.link (hasBit flags 6) answer ∧
        Answers answer code.code t.sender ∧
        (code.code = 0x91 ↔ hasBit flags 5 = false ∧ hasBit flags 4 = false ∧
          ⟨family, func, variant⟩ ∈ e.registry.profiles) ∧
        (code.code = 0xA1 ↔ hasBit flags 5 = false ∧ hasBit flags 4 = true) ∧
        (code.code = 0xB1 ↔ code.code ≠ 0x91 ∧ code.code ≠ 0xA1)) := by
  intro outcome after
  obtain ⟨flags, channels, low, high, variant, func, family, rest, hpayload⟩ :=
    Query.exists_form h.parse hrorg
  have hquery := Query.ofTelegram_form hrorg hpayload
  refine ⟨flags, channels, low, high, variant, func, family, rest, _, hpayload, hquery,
    fun code destination => Query.radio_eq_answer _ code destination, fun hforeign => ?_,
    fun hzero => ?_⟩
  · have hhandle := h.handle_foreign hrorg hquery (by simpa [Query.isQuery] using hforeign)
    have hafter : after = e.note (.answerIgnored t.sender) := congrArg Prod.snd hhandle
    rw [hafter]
    exact ⟨congrArg Prod.fst hhandle, rfl, rfl⟩
  · have hreplied := h.replied hquery (by simpa [Query.isQuery] using hzero)
    rw [← h.handle_universal hrorg] at hreplied
    refine ⟨_, _, _, hreplied.outcome, hreplied.queued, answers_answer _ _ _, ?_, ?_, ?_⟩
    · rw [AnswerCode.code_eq_success_iff, Query.reply_eq_success_iff,
        Request.ofByte_eq_teachIn_iff, and_assoc]
    · rw [AnswerCode.code_eq_deletionAccepted_iff, Query.reply_eq_deletionAccepted_iff,
        Request.ofByte_eq_deletion_iff]
    · generalize Query.reply _ e.registry = code
      cases code <;> decide

theorem queries_answered_once_no_hurry :
    let sender : Address := ⟨0x05, 0x11, 0x22, 0x33⟩
    let payload : Bytes := [0x00, 0x02, 0x46, 0x00, 0x12, 0x01, 0xD2, 0x7F]
    let query := Packet.sealed .radio (0xD4 :: payload ++ sender.toBytes ++ [0x00]) []
    let t : Telegram := ⟨.universalTeachIn, .universalTeachIn, payload, sender, 0x00, []⟩
    let w : Window := ⟨Instant.after 0 (Span.ofSeconds 60), some ⟨sender, Profile.contact⟩⟩
    let reopen : Decision := fun _ => some (.openWindow (Span.ofSeconds 60) none)
    let e : Engine DeviceTable :=
      { registry := {}, state := ⟨some w.deadline, w.target⟩,
        observers := [⟨"panel", true, fun _ => [reopen]⟩] }
    Encounter query t w e ∧ t.rorg = .universalTeachIn ∧
      ∃ answer, Queued e.link (e.handle tableRegistry query).2.link false answer ∧
        Answers answer 0x91 sender := by
  intro sender payload query t w reopen e
  have h : Encounter query t w e := ⟨rfl, rfl, rfl, rfl, rfl⟩
  obtain ⟨flags, _, _, _, _, _, _, _, _, hpayload, -, -, -, hzero⟩ := queries_answered_once h rfl
  cases hpayload
  obtain ⟨answer, code, -, -, hqueued, hanswers, hsuccess, -⟩ := hzero rfl
  have hcode : code.code = 0x91 := hsuccess.mpr ⟨rfl, rfl, by decide⟩
  exact ⟨h, rfl, answer, hqueued, hcode ▸ hanswers⟩

end Engine

end Esp3Host.TeachIn

import Esp3Host.Proofs.TeachIn.Deadline
import Esp3Host.Proofs.TeachIn.Echo
import Esp3Host.Proofs.TeachIn.Withdrawal

/-!
# Answers that other hosts hear

The transceiver of a host puts its address into the answers that the host sends, and another host
may hear them.  It takes them for universal teach-in telegrams, but not for queries: it queues no
packet, asks for no device to be created and leaves its window as it is.  Since hosts queue nothing
but such answers, they never answer each other.
-/

namespace Esp3Host

/--
A receiver hears the packet from this sender, which stands where the placeholder stood.  Status,
optional section and checksums are those of the reception.
-/
structure Packet.HeardFrom (p : Packet) (sender : Address) (received : Packet) : Prop where
  kind : received.kind = p.kind
  data : ∃ front sent status, p.data = front ++ (senderPlaceholder.toBytes ++ [sent]) ∧
    received.data = front ++ (sender.toBytes ++ [status])

namespace TeachIn

theorem Query.ofPacket_heard {q : Query} {code : AnswerCode} {destination sender : Address}
    {received : Packet} (h : (q.answer code destination).HeardFrom sender received) :
    ∃ t, Telegram.ofPacket received = .ok t ∧ ofTelegram t = .ok (q.echo code) := by
  obtain ⟨front, sent, status, hanswer, hreceived⟩ := h.data
  have hsame : (Rorg.universalTeachIn.code :: q.answerPayload code) ++
      (Packet.senderPlaceholder.toBytes ++ [0x00]) =
        front ++ (Packet.senderPlaceholder.toBytes ++ [sent]) := by
    rw [← hanswer, answer, Packet.sealed, List.append_assoc]
  obtain ⟨rfl, -⟩ := List.append_inj' hsame rfl
  let t : Telegram := ⟨.universalTeachIn, .universalTeachIn, q.answerPayload code, sender, status,
    received.optional⟩
  have hlayout : Telegram.Layout received t :=
    ⟨h.kind, by rw [hreceived]; rfl, Nat.le_refl 7, rfl, rfl⟩
  exact ⟨t, Telegram.ofPacket_of_layout hlayout, ofPayload_answerPayload q code⟩

namespace Engine

variable {σ : Type} {reg : Registry σ} {p : Packet} {t : Telegram} {q : Query} {e : Engine σ}

/-! ## What comes of an answer -/

inductive Overheard (p : Packet) (asked : Engine σ) : Outcome → Engine σ → Prop
  | passed (outcome n) (hidle : outcome.isIdle = true) : Overheard p asked outcome (asked.note n)
  | heard (device) : Overheard p asked (.registered device) (asked.notify (.registered device p))

theorem overheard_handleUnknown (hkind : t.kind = .universalTeachIn)
    (hquery : Query.ofTelegram t = .ok q) (hforeign : q.isQuery = false) :
    Overheard p e (e.handleUnknown reg t).1 (e.handleUnknown reg t).2 := by
  have hadmitted (fallback : Option Profile) :
      e.handleAdmitted reg t fallback = (.ignored, e.note (.answerIgnored t.sender)) := by
    simp [handleAdmitted, hkind, handleQuery, hquery, hforeign]
  unfold handleUnknown
  split
  case h_1 => exact .passed _ _ rfl
  case h_2 =>
    split
    case h_1 =>
      rw [hadmitted]
      exact .passed _ _ rfl
    case h_2 =>
      split
      case isTrue => exact .passed _ _ rfl
      case isFalse =>
        rw [hadmitted]
        exact .passed _ _ rfl

theorem overheard_handle (reg : Registry σ) (e : Engine σ) (hparse : Telegram.ofPacket p = .ok t)
    (hquery : Query.ofTelegram t = .ok q) (hforeign : q.isQuery = false) :
    Overheard p (e.afterLookup reg t) (e.handle reg p).1 (e.handle reg p).2 := by
  have hkind := Query.kind_of_ofTelegram hparse hquery
  rw [handle, hparse]
  dsimp only
  unfold handleTelegram
  rcases hlookup : (e.expire e.clock).2.lookup reg t.sender with ⟨_ | device, asked⟩
  · have hasked : e.afterLookup reg t = asked := by rw [afterLookup, hlookup]
    rw [hasked]
    exact overheard_handleUnknown hkind hquery hforeign
  · have hasked : e.afterLookup reg t = asked := by rw [afterLookup, hlookup]
    rw [hasked]
    exact .heard device

namespace Overheard

variable {asked last : Engine σ} {outcome : Outcome}

theorem yields (h : Overheard p asked outcome last) : Yields asked last [] := by
  cases h with
  | passed n => exact .note .refl _
  | heard device => exact yields_notify asked rfl

theorem registry_eq (h : Overheard p asked outcome last) : last.registry = asked.registry := by
  cases h with
  | passed => rfl
  | heard device => exact (aside_notify asked _).registry_eq

theorem not_endedBy (h : Overheard p asked outcome last) (w : Window) :
    ¬w.EndedBy outcome := by
  cases h with
  | passed _ _ hidle =>
      obtain ⟨hcreated, hanswer⟩ := Outcome.idle_facts hidle
      rintro (rfl | ⟨-, hsome⟩)
      · cases hanswer
      · simp [hcreated] at hsome
  | heard device => simp [Window.EndedBy, Outcome.created?]

end Overheard

/--
No packet is queued and no device asked for.  A window that is open and not overdue stays as it is,
unless the registry or an observer closes it.
-/
structure LeavesAlone (reg : Registry σ) (p : Packet) (e : Engine σ) : Prop where
  high : (e.handle reg p).2.link.sendHigh = e.link.sendHigh
  low : (e.handle reg p).2.link.sendLow = e.link.sendLow
  creations : e.creations reg p = []
  window : Passive reg true e → ∀ w, e.window = some w → w.expired e.clock = false →
    (e.handle reg p).2.window = some w

theorem yields_of_foreign (reg : Registry σ) (e : Engine σ) (hparse : Telegram.ofPacket p = .ok t)
    (hquery : Query.ofTelegram t = .ok q) (hforeign : q.isQuery = false) :
    Yields e (e.handle reg p).2 [] :=
  ((yields_expire e e.clock).trans (yields_lookup t.sender _)).trans
    (overheard_handle reg e hparse hquery hforeign).yields

theorem leavesAlone_of_foreign (hparse : Telegram.ofPacket p = .ok t)
    (hquery : Query.ofTelegram t = .ok q) (hforeign : q.isQuery = false) :
    LeavesAlone reg p e := by
  have hlink := (yields_of_foreign reg e hparse hquery hforeign).link
  refine ⟨by rw [hlink], by rw [hlink], ?_, fun hpassive w hwindow hearly => ?_⟩
  · -- The recording registry is asked about the sender, and for nothing else.
    have hasked : Consulted reg.recorded (e.recorded.expire e.clock).2
        (e.recorded.afterLookup reg.recorded t) := .lookup .refl t.sender
    have hregistry :=
      (overheard_handle reg.recorded e.recorded hparse hquery hforeign).registry_eq
    rw [creations, hregistry, creations_consulted hasked]
    exact congrArg Recorded.creations (aside_expire e.recorded e.clock).registry_eq
  · have hgoes := (overheard_handle reg e hparse hquery hforeign).not_endedBy w
    exact window_handle hwindow hpassive (by simpa [Window.expired] using hearly) hgoes

theorem passive_of_quiet {e : Engine DeviceTable} (hquiet : e.Quiet) (isOpen : Bool) :
    Passive tableRegistry isOpen e where
  registry := ⟨nofun, nofun⟩
  observers observer hmem notice _ := by
    intro decide hdecide
    simp [hquiet observer hmem notice] at hdecide

/-! ## Exchanges between hosts -/

def Elicits (p reply : Packet) : Prop :=
  ∃ (σ : Type) (reg : Registry σ) (e : Engine σ),
    reply ∈ (Step.mk e (.handle p) (e.handle reg p).2).queued

/--
Packets that hosts send one after the other, the last one first: a host is brought to send by some
packet, and whenever another host hears what was sent last, it may send the next one.
-/
inductive Exchange : List Packet → Prop
  | opened (p reply) (h : Elicits p reply) : Exchange [reply]
  | continued (last sender received reply earlier) (h : Exchange (last :: earlier))
      (hheard : last.HeardFrom sender received) (hreply : Elicits received reply) :
      Exchange (reply :: last :: earlier)

theorem Settled.queued_eq {begun after : Engine σ} {creations : List Creation} {outcome : Outcome}
    (h : Settled reg p begun creations outcome after) (hbegun : Yields e begun []) :
    (Step.mk e (.handle p) after).queued = [] ∨ ∃ (q : Query) (code : AnswerCode)
      (destination : Address),
        (Step.mk e (.handle p) after).queued = [q.answer code destination] := by
  cases h with
  | silent h => exact .inl ((hbegun.trans h.yields).queued_eq _)
  | answered t q code device hparse h =>
      exact .inr ⟨q, code, t.sender, (hbegun.trans h.yields).queued_sendAnswer _ t q code device⟩

theorem exists_answer_of_elicits {reply : Packet} (h : Elicits p reply) :
    ∃ (q : Query) (code : AnswerCode) (destination : Address),
      reply = q.answer code destination := by
  obtain ⟨σ, reg, e, hreply⟩ := h
  rcases (settled_handle reg p e).queued_eq (yields_expire e e.clock) with
    hnone | ⟨q, code, destination, hqueued⟩
  · rw [hnone] at hreply
    cases hreply
  · rw [hqueued] at hreply
    exact ⟨q, code, destination, List.mem_singleton.mp hreply⟩

theorem Exchange.exists_answer {last : Packet} {earlier : List Packet}
    (h : Exchange (last :: earlier)) :
    ∃ (q : Query) (code : AnswerCode) (destination : Address),
      last = q.answer code destination := by
  cases h with
  | opened p _ h => exact exists_answer_of_elicits h
  | continued _ _ _ _ _ _ _ hreply => exact exists_answer_of_elicits hreply

theorem not_elicits_of_heard {code : AnswerCode} {destination sender : Address}
    {received reply : Packet} (h : (q.answer code destination).HeardFrom sender received) :
    ¬Elicits received reply := by
  rintro ⟨σ, reg, e, hreply⟩
  obtain ⟨t, hparse, hquery⟩ := Query.ofPacket_heard h
  rw [(yields_of_foreign reg e hparse hquery rfl).queued_eq] at hreply
  cases hreply

theorem Exchange.length_eq_one {sent : List Packet} (h : Exchange sent) : sent.length = 1 := by
  cases h with
  | opened => rfl
  | continued last _ _ _ _ h hheard hreply =>
      obtain ⟨q, code, destination, rfl⟩ := h.exists_answer
      exact absurd hreply (not_elicits_of_heard hheard)

/--
The query in seven bytes or more can always be answered.  The answer is read as a universal teach-in
telegram for its destination, whose payload shows the channels, the manufacturer and the profile of
the query again and is no query itself.  Whoever sent it, a host that hears it queues no packet,
has no device created and keeps its window.  So an exchange between hosts is over with the first
packet that one of them sends.
-/
theorem answers_unanswered {payload : Bytes} (h : 7 ≤ payload.length) (code : AnswerCode)
    (destination : Address) :
    (∃ q answer t echo, Query.ofPayload payload = .ok q ∧
      Packet.radio 0xD4 (q.answerPayload code) destination = .ok answer ∧
      Telegram.ofPacket answer = .ok t ∧ t.rorg = .universalTeachIn ∧
      t.destination? = some destination ∧
      Query.ofPayload t.payload = .ok echo ∧ echo.channels = q.channels ∧
      echo.manufacturer = q.manufacturer ∧ q.manufacturer < 2048 ∧ echo.profile = q.profile ∧
      echo.isQuery = false ∧
      ∀ (σ : Type) (reg : Registry σ) (e : Engine σ) (sender : Address) (received : Packet),
        answer.HeardFrom sender received → LeavesAlone reg received e) ∧
      ∀ sent, Exchange sent → sent.length = 1 := by
  obtain ⟨flags, channels, low, high, variant, func, family, rest, -, hquery⟩ :=
    Query.exists_form_of_length h
  refine ⟨⟨_, _, _, _, hquery, Query.radio_eq_answer _ code destination,
    Query.ofPacket_answer _ code destination, rfl,
    Address.ofBytes?_append destination [0xFF, 0x00], Query.ofPayload_answerPayload _ code, rfl,
    Query.echo_keeps_manufacturer hquery code, Query.manufacturer_lt_of_ofPayload hquery, rfl, rfl,
    fun σ reg e sender received hheard => ?_⟩, fun _ => Exchange.length_eq_one⟩
  obtain ⟨t, hparse, hecho⟩ := Query.ofPacket_heard hheard
  exact leavesAlone_of_foreign hparse hecho rfl

theorem answers_unanswered_by_waiting_host :
    let payload : Bytes := [0x40, 0x02, 0x46, 0xFB, 0x12, 0x01, 0xD2]
    let actuator : Address := ⟨0x05, 0x11, 0x22, 0x33⟩
    let host : Address := ⟨0x01, 0x80, 0x2A, 0x3B⟩
    let received := Packet.sealed .radio
      ([0xD4, 0x91, 0x02, 0x46, 0x03, 0x12, 0x01, 0xD2] ++ host.toBytes ++ [0x01])
      (0x01 :: actuator.toBytes ++ [0x37, 0x00])
    let w : Window := ⟨Instant.after 0 (Span.ofSeconds 60), some ⟨host, Profile.contact⟩⟩
    let e : Engine DeviceTable :=
      { registry := {}, state := ⟨some w.deadline, w.target⟩, observers := [.recorder "panel"] }
    7 ≤ payload.length ∧ ∃ q answer, Query.ofPayload payload = .ok q ∧
      Packet.radio 0xD4 (q.answerPayload .success) actuator = .ok answer ∧
      answer.HeardFrom host received ∧ LeavesAlone tableRegistry received e ∧
      Passive tableRegistry true e ∧ (e.handle tableRegistry received).1 = .ignored ∧
      (e.handle tableRegistry received).2.window = some w := by
  intro payload actuator host received w e
  have hlength : 7 ≤ payload.length := by decide
  obtain ⟨⟨q, answer, _, _, hquery, hbuild, -, -, -, -, -, -, -, -, -, halone⟩, -⟩ :=
    answers_unanswered hlength .success actuator
  have hheard : answer.HeardFrom host received := by
    cases hquery
    cases hbuild
    exact ⟨rfl, [0xD4, 0x91, 0x02, 0x46, 0x03, 0x12, 0x01, 0xD2], 0x00, 0x01, rfl, rfl⟩
  have hquiet : e.Quiet := by
    intro observer hmem notice
    cases List.mem_singleton.mp hmem
    rfl
  have hpassive := passive_of_quiet hquiet true
  have hleft := halone DeviceTable tableRegistry e host received hheard
  exact ⟨hlength, q, answer, hquery, hbuild, hheard, hleft, hpassive, rfl,
    hleft.window hpassive w rfl rfl⟩

end Engine

end TeachIn

end Esp3Host

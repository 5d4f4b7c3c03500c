import Esp3Host.Proofs.Link.Intake
import Esp3Host.Proofs.Station.Delivery
import Esp3Host.Proofs.Stream.Assembly
import Esp3Host.Proofs.Stream.Chunks
import Esp3Host.Proofs.TeachIn.Pairing

/-!
# From the bytes of a query to the bytes of its answer

The bytes of an application for pairing come in at a source, in chunks of any sizes.  One delivery
cycle hands the packet to the teach-in engine, and one transmit cycle writes the answer.
-/

namespace Esp3Host

def Listener.IsRecorder (listener : Listener) : Prop :=
  (∀ id now, listener.onTick id now = []) ∧ ∀ id p, listener.onFrame id p = []

namespace Station

/-! ## Reading -/

section

variable {σ : Type}

def receiveAll (s : Station σ) (source : Nat) (chunks : List Bytes) : Station σ :=
  chunks.foldl (fun s chunk => (s.receive source chunk).2) s

theorem receiveAll_eq {s : Station σ} {source : Nat} {assembler : Assembler}
    (h : s.sources[source]? = some assembler) (chunks : List Bytes) :
    ∃ sources counters journal, s.receiveAll source chunks =
      { s with
        sources
        engine.link := { s.link with
          receivedHigh := s.link.receivedHigh ++
            (accepted (assembler.pushAll chunks).2).filter (·.priority = .high)
          receivedLow := s.link.receivedLow ++
            (accepted (assembler.pushAll chunks).2).filter (·.priority = .low)
          permitHeld := s.link.permitHeld && !(assembler.pushAll chunks).2.any Report.isResponse
          counters
          journal } } := by
  induction chunks generalizing s assembler with
  | nil =>
      refine ⟨s.sources, s.link.counters, s.link.journal, ?_⟩
      simp [receiveAll, Assembler.pushAll, link]
  | cons chunk rest ih =>
      have hreceive : (s.receive source chunk).2 =
          { s with
            sources := s.sources.set source (assembler.push chunk).1
            engine.link := (s.link.receive assembler chunk).2.2 } := by
        rw [receive, h]
        rfl
      have hnext : (s.receive source chunk).2.sources[source]? = some (assembler.push chunk).1 := by
        rw [hreceive]
        exact List.getElem?_set_self (List.getElem?_eq_some_iff.mp h).1
      obtain ⟨sources, counters, journal, hrest⟩ := ih hnext
      refine ⟨sources, counters, journal, hrest.trans ?_⟩
      rw [hreceive, Link.receive_eq]
      simp [Assembler.pushAll, accepted, link, Bool.and_assoc]

theorem receiveAll_frame {s : Station σ} {source : Nat} (h : s.sources[source]? = some {})
    {p : Packet} (hbuilt : p.Built) (hclass : p.priority = .low) (hkind : p.kind ≠ .response)
    {chunks : List Bytes} (hchunks : chunks.flatten = p.encode) :
    ∃ sources counters journal, s.receiveAll source chunks =
      { s with
        sources
        engine.link := { s.link with
          receivedLow := s.link.receivedLow ++ [p]
          counters
          journal } } := by
  obtain ⟨sources, counters, journal, hall⟩ := receiveAll_eq h chunks
  have hreports : (Assembler.pushAll {} chunks).2 = [.ok p] := by
    have hscan := Scan.scan_encode_append hbuilt []
    rw [Scan.scan_nil, List.append_nil] at hscan
    rw [Assembler.pushAll_eq_push, hchunks, (Assembler.push_eq_scan Assembler.waiting_empty _).2.2]
    exact congrArg Prod.fst hscan
  refine ⟨sources, counters, journal, hall.trans ?_⟩
  simp [hreports, hclass, hkind, Report.isResponse]

/-! ## Bystanders -/

/-- The second station is the first one after entries in the journal. -/
def Noted (s next : Station σ) : Prop := ∃ journal, next = s.setLink { s.link with journal }

variable {a b c s : Station σ}

theorem Noted.trans (hfirst : Noted a b) (hsecond : Noted b c) : Noted a c := by
  obtain ⟨_, rfl⟩ := hfirst
  obtain ⟨journal, rfl⟩ := hsecond
  exact ⟨journal, rfl⟩

theorem noted_foldl {α : Type} {f : Station σ → α → Station σ} {items : List α}
    (h : ∀ s, ∀ item ∈ items, Noted s (f s item)) (s : Station σ) : Noted s (items.foldl f s) :=
  List.foldlRecOn (motive := Noted s) items f ⟨s.link.journal, rfl⟩
    fun next hnext item hmem => hnext.trans (h next item hmem)

variable (reg : TeachIn.Registry σ) {others : List (Nat × Listener)}

theorem noted_ticks (h : ∀ entry ∈ others, entry.2.IsRecorder) (now : Instant) (s : Station σ) :
    Noted s (others.foldl (tick reg now) s) := by
  apply noted_foldl
  intro s entry hmem
  simp only [tick, (h entry hmem).1, List.foldl_nil]
  split
  · exact ⟨_, rfl⟩
  · exact ⟨s.link.journal, rfl⟩

theorem noted_hears (h : ∀ entry ∈ others, entry.2.IsRecorder) (p : Packet) (s : Station σ) :
    Noted s (others.foldl (hear reg p) s) := by
  apply noted_foldl
  intro s entry hmem
  simp only [hear, (h entry hmem).2, List.foldl_nil]
  split
  · exact ⟨_, rfl⟩
  · exact ⟨s.link.journal, rfl⟩

theorem tick_teachIn (now : Instant) (id : Nat) (name : String) (s : Station σ) :
    tick reg now s (id, .teachIn name) = { s with engine := (s.engine.expire now).2 } := rfl

theorem hear_teachIn (p : Packet) (id : Nat) (name : String) (s : Station σ) :
    hear reg p s (id, .teachIn name) = { s with engine := (s.engine.handle reg p).2 } := rfl

end

/-! ## The handshake -/

section

variable {s : Station DeviceTable} {front back : List (Nat × Listener)} {id : Nat} {name : String}
  {w : TeachIn.Window} {a : TeachIn.Application}

theorem noted_tickAll (hentries : s.listeners.entries = front ++ (id, .teachIn name) :: back)
    (hfront : ∀ entry ∈ front, entry.2.IsRecorder) (hback : ∀ entry ∈ back, entry.2.IsRecorder)
    (hwindow : s.engine.window = some w) {now : Instant} (hdeadline : w.expired now = false) :
    Noted s (s.tickAll TeachIn.tableRegistry now) := by
  rw [tickAll, hentries, List.foldl_append, List.foldl_cons, tick_teachIn]
  obtain ⟨journal, hfirst⟩ := noted_ticks TeachIn.tableRegistry hfront now s
  have hkept : (s.setLink { s.link with journal }).engine.window = some w := hwindow
  have hexpire : ((s.setLink { s.link with journal }).engine.expire now).2 =
      (s.setLink { s.link with journal }).engine := by
    simp [TeachIn.Engine.expire, hkept, hdeadline]
  rw [hfirst, hexpire]
  exact Noted.trans ⟨journal, rfl⟩ (noted_ticks TeachIn.tableRegistry hback now _)

theorem hand_application (id : Nat) (name : String) (hfront : ∀ entry ∈ front, entry.2.IsRecorder)
    (hback : ∀ entry ∈ back, entry.2.IsRecorder) (hwindow : s.engine.window = some w)
    (hdeadline : w.expired s.engine.clock = false) (h : s.engine.Welcomes a.device) :
    let after := s.hand TeachIn.tableRegistry (front ++ (id, .teachIn name) :: back) a.packet
    after.engine.registry =
        { s.engine.registry with devices := s.engine.registry.devices ++ [a.device] } ∧
      ∃ counters journal, after.link =
        { s.link with sendHigh := s.link.sendHigh ++ [⟨a.answer, 1⟩], counters, journal } := by
  intro after
  obtain ⟨journal, hfirst⟩ := noted_hears TeachIn.tableRegistry hfront a.packet s
  obtain ⟨hregistry, hlink⟩ := TeachIn.Engine.handle_application
    (e := (s.setLink { s.link with journal }).engine) (w := w) hwindow hdeadline
    ⟨h.admits, h.unknown, h.supported⟩
  generalize hhandled : ((s.setLink { s.link with journal }).engine.handle TeachIn.tableRegistry
    a.packet).2 = handled at hregistry hlink
  obtain ⟨journal', hlast⟩ := noted_hears TeachIn.tableRegistry hback a.packet
    { s.setLink { s.link with journal } with engine := handled }
  have hheard : (front ++ (id, .teachIn name) :: back).foldl
      (hear TeachIn.tableRegistry a.packet) s =
        { s with
          engine := { handled with link := { handled.link with journal := journal' } } } := by
    rw [List.foldl_append, List.foldl_cons, hfirst, hear_teachIn, hhandled, hlast]
    rfl
  have hafter : after = { s with engine := { handled with
      link := countDelivered { handled.link with journal := journal' } } } := by
    simp only [after, hand, hheard]
    rfl
  rw [hafter]
  refine ⟨hregistry, (countDelivered handled.link).counters, journal', ?_⟩
  change countDelivered { handled.link with journal := journal' } = _
  rw [hlink]
  rfl

theorem deliver_application
    (hentries : s.listeners.entries = front ++ (id, .teachIn name) :: back)
    (hfront : ∀ entry ∈ front, entry.2.IsRecorder) (hback : ∀ entry ∈ back, entry.2.IsRecorder)
    (hwindow : s.engine.window = some w) {now : Instant} (hnow : w.expired now = false)
    (hclock : w.expired s.engine.clock = false) (h : s.engine.Welcomes a.device)
    (hurgent : s.link.receivedHigh = []) (hordinary : s.link.receivedLow = [a.packet]) :
    let answer := s.deliver TeachIn.tableRegistry now
    answer.1 = true ∧
      answer.2.engine.registry =
        { s.engine.registry with devices := s.engine.registry.devices ++ [a.device] } ∧
      ∃ counters journal, answer.2.link =
        { s.link with
          receivedLow := []
          sendHigh := s.link.sendHigh ++ [⟨a.answer, 1⟩]
          counters
          journal } := by
  intro answer
  have hpresent : s.listeners.entries ≠ [] := by simp [hentries]
  obtain ⟨journal, hticked⟩ := noted_tickAll hentries hfront hback hwindow hnow
  let ready := s.setLink { s.link with receivedLow := [], journal }
  have hanswer :
      answer = (true, ready.hand TeachIn.tableRegistry s.listeners.entries a.packet) := by
    have htaken : takeReceived (s.setLink { s.link with journal }).link =
        some (a.packet, { (s.setLink { s.link with journal }).link with receivedLow := [] }) :=
      takeReceived_of_ordinary hurgent hordinary
    simp only [answer]
    rw [deliver_of_present _ now s hpresent, hticked, htaken]
    rfl
  have hhanded := hand_application (s := ready) id name hfront hback hwindow hclock
    ⟨h.admits, h.unknown, h.supported⟩
  rw [hanswer, hentries]
  exact ⟨rfl, hhanded⟩

theorem cycle_of_urgent {l : Link} {item : Item} (hhigh : l.sendHigh = [item])
    (hline : l.line.failing = false) (now : Instant) :
    ∃ counters journal, l.cycle now = (.sentHigh,
      { l with
        sendHigh := []
        line.frames := l.line.frames ++ [item.packet.encode]
        counters
        journal }) := by
  have hcycle : l.cycle now = (.sentHigh, { l with sendHigh := [] }.writeHigh item) := by
    rw [Link.cycle, hhigh]
  rw [hcycle, Link.writeHigh_eq]
  simp only [hline, Bool.false_eq_true, if_false]
  exact ⟨_, _, rfl⟩

/--
A device that the table does not know applies for pairing while a window that admits it is open.
Whatever is in flight or waits to be sent, one delivery cycle and one transmit cycle after the last
byte the device is in the table, and one frame more is on the line: the answer of success to the
device, which repeats what it told.
-/
theorem application_answered (a : TeachIn.Application) (s : Station DeviceTable)
    (hentries : s.listeners.entries = front ++ (id, .teachIn name) :: back)
    (hfront : ∀ entry ∈ front, entry.2.IsRecorder) (hback : ∀ entry ∈ back, entry.2.IsRecorder)
    (hwindow : s.engine.window = some w) (hadmits : w.admits a.sender = true)
    (hunknown : s.engine.registry.find? a.sender = none)
    (hsupported : s.engine.registry.supports a.profile = true)
    (hurgent : s.link.receivedHigh = []) (hordinary : s.link.receivedLow = [])
    (hsend : s.link.sendHigh = []) (hline : s.link.line.failing = false)
    {source : Nat} (hsource : s.sources[source]? = some {})
    {chunks : List Bytes} (hchunks : chunks.flatten = a.packet.encode)
    {delivered : Instant} (hdelivered : w.expired delivered = false)
    (hclock : w.expired s.engine.clock = false) (sent : Instant) :
    let delivery := (s.receiveAll source chunks).deliver TeachIn.tableRegistry delivered
    let transmission := delivery.2.transmit sent
    let after := transmission.2
    delivery.1 = true ∧ transmission.1 = .sentHigh ∧
      after.engine.registry.find? a.sender = some ⟨a.sender, a.manufacturer, a.profile⟩ ∧
      ∃ frame p t,
        (∃ counters journal, after.link = { s.link with
          line.frames := s.link.line.frames ++ [frame], counters, journal }) ∧
        Packet.decodeValid frame = .ok p ∧ p.kind = .radio ∧
        Telegram.ofPacket p = .ok t ∧ t.kind = .universalTeachIn ∧
        t.payload = [0x91, a.channels, UInt8.ofNat a.manufacturer,
          UInt8.ofNat (a.manufacturer / 256), a.profile.variant, a.profile.func,
          a.profile.rorg] ∧
        t.status = 0x00 ∧ t.optional = 0x03 :: a.sender.toBytes ++ [0xFF, 0x00] ∧
        t.destination? = some a.sender := by
  intro delivery transmission after
  have hwelcomes : s.engine.Welcomes a.device :=
    ⟨by rw [TeachIn.Engine.admits, hwindow]; exact hadmits, hunknown, hsupported⟩
  have hradio : a.packet.kind ≠ .response := by simp [TeachIn.Application.packet, Packet.sealed]
  obtain ⟨sources, counters, journal, hreceived⟩ :=
    receiveAll_frame hsource a.built_packet rfl hradio hchunks
  rw [hordinary, List.nil_append] at hreceived
  let ready : Station DeviceTable :=
    { s with sources, engine.link := { s.link with receivedLow := [a.packet], counters, journal } }
  obtain ⟨hdone, hregistry, counters', journal', hlink⟩ :=
    deliver_application (s := ready) hentries hfront hback hwindow hdelivered hclock
      ⟨hwelcomes.admits, hwelcomes.unknown, hwelcomes.supported⟩ hurgent rfl
  have hdelivery : delivery = ready.deliver TeachIn.tableRegistry delivered :=
    congrArg (deliver TeachIn.tableRegistry delivered) hreceived
  rw [← hdelivery] at hdone hregistry hlink
  have hhigh : delivery.2.link.sendHigh = [⟨a.answer, 1⟩] := by
    rw [hlink]
    exact congrArg (· ++ [⟨a.answer, 1⟩]) hsend
  have hfree : delivery.2.link.line.failing = false := by
    rw [hlink]
    exact hline
  obtain ⟨counters'', journal'', hcycle⟩ := cycle_of_urgent hhigh hfree sent
  have hentered : after.engine.registry =
      { s.engine.registry with devices := s.engine.registry.devices ++ [a.device] } := hregistry
  have hunsent : ({ s.link with receivedLow := [], sendHigh := [] } : Link) = s.link := by
    rw [← hordinary, ← hsend]
  have hafter : after.link = { s.link with
      line.frames := s.link.line.frames ++ [a.answer.encode]
      counters := counters''
      journal := journal'' } := by
    rw [← hunsent]
    refine (congrArg Prod.snd hcycle).trans ?_
    rw [hlink]
    rfl
  have hdecoded := Packet.decodeValid_encode_append a.built_answer []
  rw [List.append_nil] at hdecoded
  refine ⟨hdone, congrArg Prod.fst hcycle, ?_, a.answer.encode, a.answer,
    a.query.answerTelegram .success a.sender, ⟨counters'', journal'', hafter⟩, hdecoded, rfl, rfl,
    rfl, TeachIn.Query.answerPayload_of_lt a.manufacturer_lt .success, rfl, rfl, rfl⟩
  have hnone : s.engine.registry.devices.find? (fun d => d.address = a.sender) = none := hunknown
  rw [hentered, DeviceTable.find?, List.find?_append, hnone]
  simp [TeachIn.Application.device]

end

theorem application_answered_actuator :
    let a : TeachIn.Application :=
      { sender := ⟨0x05, 0x11, 0x22, 0x33⟩, profile := ⟨0xD2, 0x01, 0x12⟩, channels := 2
        manufacturer := 0x346, manufacturer_lt := by decide, bidirectional := true
        status := 0x00, optional := [0x01], optional_le := by decide }
    let w : TeachIn.Window :=
      ⟨Instant.after 0 (Span.ofSeconds 60), some ⟨a.sender, Profile.contact⟩⟩
    let pending : Item := ⟨.sealed .commonCommand [0x08] [], 3⟩
    let s : Station DeviceTable :=
      { engine := { registry := {}, state := ⟨some w.deadline, w.target⟩,
                    link := { permitHeld := true, outstanding := some ⟨pending, 0⟩,
                              sendLow := [pending] } }
        listeners :=
          { next := 2, entries := [(0, .recorder "log" true), (1, .teachIn "pairing")] } }
    let received := s.receiveAll 0 [a.packet.encode.take 9, a.packet.encode.drop 9]
    let delivery := received.deliver TeachIn.tableRegistry 0
    let after := (delivery.2.transmit 0).2
    s.engine.registry.find? a.sender = none ∧ w.admits a.sender = true ∧
      after.engine.registry.find? a.sender = some a.device ∧
      ∃ frame p t, after.link.line.frames = [frame] ∧ after.link.sendLow = [pending] ∧
        Packet.decodeValid frame = .ok p ∧ Telegram.ofPacket p = .ok t ∧
        t.payload = [0x91, 0x02, 0x46, 0x03, 0x12, 0x01, 0xD2] ∧
        t.destination? = some a.sender := by
  intro a w pending s received delivery after
  have hrecorder : ∀ entry ∈ [(0, Listener.recorder "log" true)], entry.2.IsRecorder := by
    intro entry hmem
    cases List.mem_singleton.mp hmem
    exact ⟨fun _ _ => rfl, fun _ _ => rfl⟩
  have hentries : s.listeners.entries =
      [(0, .recorder "log" true)] ++ (1, .teachIn "pairing") :: [] := rfl
  have hsource : s.sources[0]? = some ({} : Assembler) := rfl
  have hchunks : [a.packet.encode.take 9, a.packet.encode.drop 9].flatten = a.packet.encode := by
    simp
  have hwindow : s.engine.window = some w := rfl
  have hopen : w.expired 0 = false := rfl
  obtain ⟨-, -, hfound, frame, p, t, ⟨_, _, hlink⟩, hdecoded, -, hparsed, -, hpayload, -, -,
    hdestination⟩ := application_answered a s hentries hrecorder nofun hwindow rfl rfl (by decide)
      rfl rfl rfl rfl hsource hchunks hopen hopen 0
  exact ⟨rfl, rfl, hfound, frame, p, t, by rw [hlink]; rfl, by rw [hlink]; rfl, hdecoded, hparsed,
    hpayload.trans (by decide), hdestination⟩

end Station

end Esp3Host

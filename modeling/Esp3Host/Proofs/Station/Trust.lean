import Esp3Host.Proofs.Station.Conservation
import Esp3Host.Proofs.Stream.Pieces

/-!
# Trusted packets

A byte string is read and trusted exactly if it begins with a frame that a sender can build, and it
begins with one such frame at most.  The sources of a station report nothing else, so in every run
its queues of received packets hold packets that can be built from their own parts.
-/

namespace Esp3Host

namespace Packet

/-- The bytes begin with the frame of the packet that is built from these parts. -/
def Opens (bytes : Bytes) (kind : PacketKind) (data optional : Bytes) : Prop :=
  data.length ≤ maxDataLength ∧ optional.length ≤ maxOptionalLength ∧
    ∃ p, build kind data optional = .ok p ∧ p.encode <+: bytes

variable {bytes : Bytes} {kind : PacketKind} {data optional : Bytes} {p : Packet}

theorem Opens.exists_decode (h : Opens bytes kind data optional) :
    ∃ p, build kind data optional = .ok p ∧ decode bytes = .ok p ∧ p.validate = .ok () ∧
      p.kind = kind ∧ p.data = data ∧ p.optional = optional := by
  obtain ⟨-, -, p, hbuild, hprefix⟩ := h
  have hbuilt : p.Built := ⟨kind, data, optional, hbuild⟩
  obtain ⟨-, -, rfl⟩ := build_eq_ok_iff.mp hbuild
  exact ⟨_, hbuild, decode_eq_ok_iff.mpr ⟨hbuilt.fits, hprefix⟩, hbuilt.validate, rfl, rfl, rfl⟩

theorem opens_of_decode (h : decode bytes = .ok p) (hvalid : p.validate = .ok ()) :
    Opens bytes p.kind p.data p.optional := by
  obtain ⟨hfits, hprefix⟩ := decode_eq_ok_iff.mp h
  exact ⟨hfits.data, hfits.optional, p, (built_of_validate hfits hvalid).build_parts, hprefix⟩

theorem Opens.unique {other : PacketKind} {data' optional' : Bytes}
    (h : Opens bytes kind data optional) (hother : Opens bytes other data' optional') :
    other = kind ∧ data' = data ∧ optional' = optional := by
  obtain ⟨p, -, hread, -, rfl, rfl, rfl⟩ := h.exists_decode
  obtain ⟨q, -, hagain, -, rfl, rfl, rfl⟩ := hother.exists_decode
  cases hread.symm.trans hagain
  exact ⟨rfl, rfl, rfl⟩

/-- Where packets come from: there is no other way to make one. -/
inductive Made : Packet → Prop
  | built {kind : PacketKind} {data optional : Bytes} {p : Packet}
      (h : build kind data optional = .ok p) : Made p
  | read {bytes : Bytes} {p : Packet} (h : decode bytes = .ok p) : Made p

theorem made_iff_fits : p.Made ↔ p.Fits := by
  constructor
  · intro h
    cases h with
    | built hbuild => exact Built.fits ⟨_, _, _, hbuild⟩
    | read hdecode => exact (decode_eq_ok_iff.mp hdecode).1
  · intro h
    exact .read (decode_eq_ok_iff.mpr ⟨h, List.prefix_refl _⟩)

theorem Made.validate_iff (h : p.Made) :
    p.validate = .ok () ↔ build p.kind p.data p.optional = .ok p := by
  rw [build_parts_iff]
  exact ⟨fun hvalid => ⟨made_iff_fits.mp h, hvalid⟩, fun hboth => hboth.2⟩

end Packet

namespace Station

variable {σ : Type} (reg : TeachIn.Registry σ)

/-! ## Sources -/

theorem sources_foldl {α : Type} {f : Station σ → α → Station σ}
    (h : ∀ s x, (f s x).sources = s.sources) (s : Station σ) (items : List α) :
    (items.foldl f s).sources = s.sources := by
  induction items generalizing s with
  | nil => rfl
  | cons x rest ih => exact (ih (f s x)).trans (h s x)

theorem sources_fulfil (name : String) (s : Station σ) (request : Request) :
    (fulfil reg name s request).sources = s.sources := by
  cases request <;> rfl

theorem sources_tick (now : Instant) (s : Station σ) (entry : Nat × Listener) :
    (tick reg now s entry).sources = s.sources := by
  refine (sources_foldl (sources_fulfil reg entry.2.name) _ _).trans ?_
  split <;> rfl

theorem sources_hear (p : Packet) (s : Station σ) (entry : Nat × Listener) :
    (hear reg p s entry).sources = s.sources := by
  refine (sources_foldl (sources_fulfil reg entry.2.name) _ _).trans ?_
  split <;> rfl

theorem sources_tickAll (now : Instant) (s : Station σ) :
    (s.tickAll reg now).sources = s.sources :=
  sources_foldl (sources_tick reg now) s _

theorem sources_hand (present : List (Nat × Listener)) (p : Packet) (s : Station σ) :
    (s.hand reg present p).sources = s.sources :=
  sources_foldl (sources_hear reg p) s present

theorem sources_deliver (now : Instant) (s : Station σ) :
    (s.deliver reg now).2.sources = s.sources := by
  have hexit := exit_deliver reg now s
  generalize s.deliver reg now = result at hexit
  generalize s.departures = leaving at hexit
  cases hexit with
  | dropped | retained => rfl
  | silent => exact sources_tickAll reg now s
  | urgent | ordinary => exact (sources_hand reg _ _ _).trans (sources_tickAll reg now s)

/-! ## What the sources report -/

structure Account.Trusted (k : Account) (s : Station σ) : Prop where
  waiting : ∀ a ∈ s.sources, a.Waiting
  built : ∀ p ∈ k.accepted, p.Built

theorem Account.Trusted.of_sources {k : Account} {s next : Station σ} (h : k.Trusted s)
    (hsources : next.sources = s.sources) : k.Trusted next :=
  ⟨hsources ▸ h.waiting, h.built⟩

theorem Account.Trusted.of_receive {k : Account} {s : Station σ} (h : k.Trusted s) (source : Nat)
    (bytes : Bytes) : (k.after s (.receive source bytes)).Trusted (s.receive source bytes).2 := by
  have hsource : (s.sources[source]?.getD {}).Waiting := by
    cases hfound : s.sources[source]? with
    | none => exact Assembler.waiting_empty
    | some a => exact h.waiting a (List.mem_of_getElem? hfound)
  constructor
  case waiting =>
    intro a ha
    rcases List.mem_or_eq_of_mem_set ha with hkept | rfl
    · exact h.waiting a hkept
    · exact (Assembler.push_eq_scan hsource bytes).1
  case built =>
    intro p hp
    rcases List.mem_append.mp hp with hearlier | hnew
    · exact h.built p hearlier
    · obtain ⟨report, hreport, hpacket⟩ := List.mem_filterMap.mp hnew
      cases report with
      | error cause => cases hpacket
      | ok q =>
          cases hpacket
          exact hsource.built_of_push hreport

theorem Account.Trusted.of_after {k : Account} {s : Station σ} (h : k.Trusted s) (a : Act) :
    (k.after s a).Trusted (s.act reg a) := by
  cases a with
  | receive source bytes => exact h.of_receive source bytes
  | deliver now => exact ⟨sources_deliver reg now s ▸ h.waiting, h.built⟩
  | listen | unlisten | revise | adopt | send | transmit => exact h.of_sources rfl

theorem trusted_account {s : Station σ} {k : Account} (h : k.Trusted s) (acts : List Act) :
    (s.account reg k acts).Trusted (s.run reg acts) := by
  induction acts generalizing s k with
  | nil => exact h
  | cons a rest ih => exact ih (h.of_after reg a)

theorem built_of_mem_waiting (engine : TeachIn.Engine σ) (tuning : Tuning) (listeners : ListenerSet)
    (receivers : Nat) (acts : List Act) {c : Priority} {p : Packet}
    (h : p ∈ ((fresh engine tuning listeners receivers).run reg acts).link.inbox.waiting c) :
    p.Built := by
  have hbalances : ({} : Account).Balances
      (fresh engine tuning listeners receivers).link.inbox :=
    ⟨by rintro (_ | _) <;> rfl, rfl, rfl, rfl⟩
  have htrusted : ({} : Account).Trusted (fresh engine tuning listeners receivers) := by
    constructor
    case waiting =>
      intro a ha
      exact List.eq_of_mem_replicate ha ▸ Assembler.waiting_empty
    case built => exact fun q hq => absurd hq List.not_mem_nil
  have hmem := (balances_account reg hbalances acts).mem_accepted h
  exact (trusted_account reg htrusted acts).built p (List.mem_filter.mp hmem).1

/--
Bytes are read and trusted exactly if they begin with the frame of a packet that can be built; they
then begin with one such frame only, and what is read is the packet built from its parts.  So a
packet is valid exactly if it is what its own parts are built to, and all the packets that wait in
the queues of a station are.
-/
theorem trusted_iff_opens (engine : TeachIn.Engine σ) (tuning : Tuning) (listeners : ListenerSet)
    (receivers : Nat) (acts : List Act) :
    (∀ bytes, (∃ p, Packet.decode bytes = .ok p ∧ p.validate = .ok ()) ↔
      ∃ kind data optional, Packet.Opens bytes kind data optional) ∧
    (∀ bytes kind data optional, Packet.Opens bytes kind data optional →
      (∃ p, Packet.build kind data optional = .ok p ∧ Packet.decode bytes = .ok p) ∧
      ∀ other data' optional', Packet.Opens bytes other data' optional' →
        other = kind ∧ data' = data ∧ optional' = optional) ∧
    (∀ p : Packet, p.Made →
      (p.validate = .ok () ↔ Packet.build p.kind p.data p.optional = .ok p)) ∧
    ∀ c, ∀ p ∈ ((fresh engine tuning listeners receivers).run reg acts).link.inbox.waiting c,
      Packet.build p.kind p.data p.optional = .ok p := by
  refine ⟨?images, ?unique, fun p hmade => hmade.validate_iff, ?queued⟩
  case images =>
    intro bytes
    constructor
    · rintro ⟨p, hread, hvalid⟩
      exact ⟨p.kind, p.data, p.optional, Packet.opens_of_decode hread hvalid⟩
    · rintro ⟨kind, data, optional, hopens⟩
      obtain ⟨p, -, hread, hvalid, -⟩ := hopens.exists_decode
      exact ⟨p, hread, hvalid⟩
  case unique =>
    intro bytes kind data optional hopens
    obtain ⟨p, hbuild, hread, -⟩ := hopens.exists_decode
    exact ⟨⟨p, hbuild, hread⟩, fun _ _ _ hother => hopens.unique hother⟩
  case queued =>
    exact fun c p hmem =>
      (built_of_mem_waiting reg engine tuning listeners receivers acts hmem).build_parts

end Station

end Esp3Host

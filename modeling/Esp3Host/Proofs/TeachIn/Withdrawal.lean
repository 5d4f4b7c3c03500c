import Esp3Host.Bench
import Esp3Host.Proofs.TeachIn.Admission
import Esp3Host.Proofs.TeachIn.Encounter

/-!
# Windows withdrawn from a query

A registry may close the window, or give it to another device, while it is asked about the profile
in a universal teach-in query.  If it lists the profile, the engine looks at the window again and
gives up.  If it does not, the query is refused without another look, and the sender gets an answer
from a window that has ended.
-/

namespace Esp3Host.TeachIn

variable {σ : Type} {reg : Registry σ} {p : Packet} {t : Telegram} {q : Query}

namespace Engine

def afterLookup (e : Engine σ) (reg : Registry σ) (t : Telegram) : Engine σ :=
  ((e.expire e.clock).2.lookup reg t.sender).2

/--
A teach-in query comes from a sender that the registry does not know and the window admits.  When
the registry has said whether it lists the profile, the window no longer admits the sender.
-/
structure Withdrawn (reg : Registry σ) (p : Packet) (e : Engine σ) (t : Telegram) (q : Query) :
    Prop where
  parse : Telegram.ofPacket p = .ok t
  query : Query.ofTelegram t = .ok q
  isQuery : q.isQuery = true
  request : q.request = .teachIn
  unknown : ((e.expire e.clock).2.lookup reg t.sender).1 = none
  admitted : (e.afterLookup reg t).admits t.sender = true
  withdrawn : ((e.afterLookup reg t).supports reg q.profile).2.admits t.sender = false

variable {e : Engine σ}

/-! ## The way of the query -/

theorem handleUnknown_of_admits (reg : Registry σ) (h : e.admits t.sender = true) :
    ∃ fallback, e.handleUnknown reg t = e.handleAdmitted reg t fallback := by
  cases hwindow : e.window with
  | none => simp [admits, hwindow] at h
  | some w =>
      have hsender : w.admits t.sender = true := by simpa [admits, hwindow] using h
      exact ⟨_, handleUnknown_of_window reg hwindow hsender⟩

theorem Withdrawn.handle_eq (h : Withdrawn reg p e t q) :
    e.handle reg p = (e.afterLookup reg t).handleTeachInQuery reg t q := by
  have hlookup : (e.expire e.clock).2.lookup reg t.sender = (none, e.afterLookup reg t) :=
    Prod.ext h.unknown rfl
  obtain ⟨fallback, hunknown⟩ := handleUnknown_of_admits reg h.admitted
  -- Only universal teach-in telegrams can be read as queries.
  have hkind := Query.kind_of_ofTelegram h.parse h.query
  have hadmitted : (e.afterLookup reg t).handleAdmitted reg t fallback =
      (e.afterLookup reg t).handleQuery reg t := by
    unfold handleAdmitted
    rw [hkind]
  rw [handle, h.parse]
  dsimp only
  rw [handleTelegram, hlookup]
  dsimp only
  rw [hunknown, hadmitted, handleQuery, h.query]
  simp [h.isQuery, h.request]

theorem handleTeachInQuery_of_withdrawn
    (h : (e.supports reg q.profile).2.admits t.sender = false) :
    e.handleTeachInQuery reg t q =
      if (e.supports reg q.profile).1 then
        (.notLearning, (e.supports reg q.profile).2.note (.closedMeanwhile t.sender))
      else
        ((e.supports reg q.profile).2.note (.queryRefused t.sender q.profile)).sendAnswer t q
          .refused none := by
  unfold handleTeachInQuery
  generalize e.supports reg q.profile = answer at h ⊢
  obtain ⟨_ | _, next⟩ := answer
  · rfl
  · have hclosed : Enrolment reg t q.manufacturer q.profile next _ _ := .closed h
    simp [register_of_enrolment reg hclosed]

theorem Withdrawn.recorded (h : Withdrawn reg p e t q) :
    Withdrawn reg.recorded p e.recorded t q := by
  have hexpire : (e.expire e.clock).2 = (e.recorded.expire e.clock).2.forget := by
    rw [← forgetIn_snd, ← forget_expire]
    rfl
  obtain ⟨hparse, hquery, hisQuery, hrequest, hunknown, hadmitted, hwithdrawn⟩ := h
  rw [afterLookup, hexpire, forget_lookup reg] at hadmitted hwithdrawn
  rw [hexpire, forget_lookup reg] at hunknown
  rw [forgetIn_snd, forget_supports reg] at hwithdrawn
  exact ⟨hparse, hquery, hisQuery, hrequest, hunknown, hadmitted, hwithdrawn⟩

/-! ## What is left undone -/

theorem Withdrawn.creations_eq_nil (h : Withdrawn reg p e t q) : e.creations reg p = [] := by
  have hasked : Consulted reg.recorded (e.recorded.expire e.clock).2
      ((e.recorded.afterLookup reg.recorded t).supports reg.recorded q.profile).2 :=
    .supports (.lookup .refl t.sender) q.profile
  have hbegun : (e.recorded.expire e.clock).2.registry.creations = [] :=
    congrArg Recorded.creations (aside_expire e.recorded e.clock).registry_eq
  rw [creations, h.recorded.handle_eq, handleTeachInQuery_of_withdrawn h.recorded.withdrawn]
  split <;> exact (creations_consulted hasked).trans hbegun

theorem yields_afterLookup (reg : Registry σ) (e : Engine σ) (t : Telegram) (profile : Profile) :
    Yields e ((e.afterLookup reg t).supports reg profile).2 [] :=
  (yields_expire e e.clock).trans ((yields_lookup t.sender _).trans (yields_supports profile _))

/--
A window is withdrawn from a query while the registry is asked about the profile.  No device is
created and observers are told of none.  If the registry lists the profile, the packet is reported
as coming from an unknown sender to a closed window, and nothing is queued.  If it does not, the
query is refused and the refusal queued, though no window admits the sender.
-/
theorem withdrawn_query (h : Withdrawn reg p e t q) :
    let listed := ((e.afterLookup reg t).supports reg q.profile).1
    let outcome := (e.handle reg p).1
    let after := (e.handle reg p).2
    e.creations reg p = [] ∧ after.finds = e.finds ∧
      (outcome = .notLearning ∧ after.link.sendHigh = e.link.sendHigh ∧
        after.link.sendLow = e.link.sendLow ↔ listed = true) ∧
      (listed = false → outcome = .answered .refused none ∧
        (Step.mk e (.handle p) after).queued = [q.answer .refused t.sender]) := by
  intro listed outcome after
  have hyields := yields_afterLookup reg e t q.profile
  have hhandle := h.handle_eq.trans (handleTeachInQuery_of_withdrawn h.withdrawn)
  refine ⟨h.creations_eq_nil, ?_⟩
  cases hlisted : listed with
  | true =>
      rw [if_pos hlisted] at hhandle
      have houtcome : outcome = _ := congrArg Prod.fst hhandle
      have hafter : after = _ := congrArg Prod.snd hhandle
      obtain ⟨-, hfinds, hlink⟩ := hyields.note (.closedMeanwhile t.sender)
      rw [houtcome, hafter, hlink]
      exact ⟨by simpa using hfinds, by simp, nofun⟩
  | false =>
      rw [if_neg (by simpa using hlisted)] at hhandle
      have houtcome : outcome = .answered .refused none := congrArg Prod.fst hhandle
      have hafter : after = _ := congrArg Prod.snd hhandle
      have hnoted := hyields.note (.queryRefused t.sender q.profile)
      rw [houtcome, hafter, finds_sendAnswer]
      refine ⟨by simpa using hnoted.finds, by simp, fun _ => ⟨rfl, ?_⟩⟩
      exact hnoted.queued_sendAnswer (.handle p) t q .refused none

theorem withdrawn_query_unlisted_profile :
    let sender : Address := ⟨0x05, 0x11, 0x22, 0x33⟩
    let query := Packet.sealed .radio
      [0xD4, 0x40, 0x02, 0x46, 0x03, 0x7F, 0x7F, 0xD2, 0x05, 0x11, 0x22, 0x33, 0x00] []
    let e : Engine DeviceTable :=
      { registry := {}, state := ⟨some (Instant.after 0 (Span.ofSeconds 60)), none⟩ }
    let reg := RegistryKind.closing.registry
    ∃ t q, Withdrawn reg query e t q ∧ t.sender = sender ∧
      (e.handle reg query).1 = .answered .refused none ∧
      (Step.mk e (.handle query) (e.handle reg query).2).queued = [q.answer .refused sender] := by
  intro sender query e reg
  have h : Withdrawn reg query e
      ⟨.universalTeachIn, .universalTeachIn, [0x40, 0x02, 0x46, 0x03, 0x7F, 0x7F, 0xD2], sender,
        0x00, []⟩
      ⟨false, true, .teachIn, 0, 0x02, 0x346, ⟨0xD2, 0x7F, 0x7F⟩⟩ :=
    ⟨rfl, rfl, rfl, rfl, rfl, rfl, rfl⟩
  obtain ⟨-, -, -, hrefused⟩ := withdrawn_query h
  exact ⟨_, _, h, rfl, hrefused rfl⟩

end Engine

end Esp3Host.TeachIn

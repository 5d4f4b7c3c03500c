import Esp3Host.TeachIn.Engine
import Esp3Host.TeachIn.FourByte
import Esp3Host.TeachIn.Query

/-!
# Handling packets

Every received packet passes through the engine.  A telegram of a known device is passed on to the
observers.  A telegram of an unknown device teaches it in if the window is open, admits the sender
and the telegram asks for it; a universal teach-in query gets an answer.
-/

namespace Esp3Host.TeachIn

inductive Outcome where
  | ignored
  | registered (device : Device)
  | notLearning
  | notTarget
  | notTeachIn
  | learned (device : Device)
  | rejected
  | noProfile
  | answered (code : AnswerCode) (device : Option Device)
  deriving DecidableEq, Repr

def Outcome.name : Outcome → String
  | ignored => "Ignored"
  | registered _ => "Registered"
  | notLearning => "NotLearning"
  | notTarget => "NotTarget"
  | notTeachIn => "NotTeachIn"
  | learned _ => "Learned"
  | rejected => "Rejected"
  | noProfile => "NoProfile"
  | answered _ _ => "UteAnswered"

inductive Registration where
  | created (device : Device)
  | closed
  | failed
  deriving DecidableEq, Repr

namespace Engine

variable {σ : Type}

/--
Create the sender of a telegram as a device, unless the window has been closed or given another
target meanwhile.  A window with a target ends with the creation of it, before anyone is told.
-/
def register (reg : Registry σ) (t : Telegram) (manufacturer : Nat) (profile : Profile)
    (e : Engine σ) : Registration × Engine σ :=
  match e.window with
  | none => (.closed, e.note (.closedMeanwhile t.sender))
  | some w =>
      if !w.admits t.sender then (.closed, e.note (.closedMeanwhile t.sender))
      else
        match e.create reg ⟨t.sender, manufacturer, profile⟩ with
        | (.error cause, e) => (.failed, e.note (.learningFailed t.sender profile cause))
        | (.ok device, e) =>
            if w.target.isSome then
              let e := { e with state := {} }.note (.learned t.sender profile t.kind)
              (.created device, ((e.notify (.found device)).note .windowClosed).notify .ended)
            else
              let e := e.note (.learned t.sender profile t.kind)
              (.created device, e.notify (.found device))

def learn (reg : Registry σ) (t : Telegram) (manufacturer : Nat) (profile : Profile)
    (e : Engine σ) : Outcome × Engine σ :=
  match e.register reg t manufacturer profile with
  | (.created device, e) => (.learned device, e)
  | (.closed, e) => (.notLearning, e)
  | (.failed, e) => (.rejected, e)

def sendAnswer (t : Telegram) (q : Query) (code : AnswerCode) (device : Option Device)
    (e : Engine σ) : Outcome × Engine σ :=
  let priority := if q.responseRequired then .high else .low
  (.answered code device, { e with link := e.link.send priority (q.answer code t.sender) })

def handleTeachInQuery (reg : Registry σ) (t : Telegram) (q : Query) (e : Engine σ) :
    Outcome × Engine σ :=
  match e.supports reg q.profile with
  | (false, e) =>
      (e.note (.queryRefused t.sender q.profile)).sendAnswer t q .refused none
  | (true, e) =>
      match e.register reg t q.manufacturer q.profile with
      | (.created device, e) => e.sendAnswer t q .success (some device)
      | (.closed, e) => (.notLearning, e)
      | (.failed, e) => e.sendAnswer t q .refused none

def handleQuery (reg : Registry σ) (t : Telegram) (e : Engine σ) : Outcome × Engine σ :=
  match Query.ofTelegram t with
  | .error cause => (.ignored, e.note (.queryMalformed t.sender cause))
  | .ok q =>
      if !q.isQuery then (.ignored, e.note (.answerIgnored t.sender))
      else
        match q.request with
        | .teachIn => e.handleTeachInQuery reg t q
        | .deletion => e.closeWindow.2.sendAnswer t q .deletionAccepted none
        | .unspecified | .notUsed => e.sendAnswer t q .refused none

def handleAdmitted (reg : Registry σ) (t : Telegram) (fallback : Option Profile)
    (e : Engine σ) : Outcome × Engine σ :=
  match t.kind with
  | .universalTeachIn => e.handleQuery reg t
  | .rps => e.learn reg t unknownManufacturer (fallback.getD Profile.rockerSwitch)
  | .fourByteTeachIn =>
      match carriedProfile? t.payload, fallback with
      | some (profile, manufacturer), _ => e.learn reg t manufacturer profile
      | none, some profile => e.learn reg t unknownManufacturer profile
      | none, none => (.noProfile, e.note (.noProfile t.sender))
  | .oneByte =>
      if t.isTeachIn then
        e.learn reg t unknownManufacturer (fallback.getD Profile.contact)
      else (.notTeachIn, e.note (.dataTelegram t.sender))
  | .fourByte | .variableLength => (.notTeachIn, e.note (.dataTelegram t.sender))

def handleUnknown (reg : Registry σ) (t : Telegram) (e : Engine σ) : Outcome × Engine σ :=
  match e.window with
  | none => (.notLearning, e.note (.notLearning t.kind t.sender))
  | some w =>
      match w.target with
      | none => e.handleAdmitted reg t none
      | some target =>
          if target.address ≠ t.sender then
            (.notTarget, e.note (.notTarget t.sender target.address))
          else e.handleAdmitted reg t (some target.profile)

def handleTelegram (reg : Registry σ) (p : Packet) (t : Telegram) (e : Engine σ) :
    Outcome × Engine σ :=
  match e.lookup reg t.sender with
  | (some device, e) => (.registered device, e.notify (.registered device p))
  | (none, e) => e.handleUnknown reg t

/-- Handle a packet; a window whose deadline is reached closes first. -/
def handle (reg : Registry σ) (p : Packet) (e : Engine σ) : Outcome × Engine σ :=
  let e := (e.expire e.clock).2
  match Telegram.ofPacket p with
  | .error (.notRadio _) => (.ignored, e)
  | .error cause => (.ignored, e.note (.telegramUnusable cause))
  | .ok t => e.handleTelegram reg p t

end Engine

end Esp3Host.TeachIn

import Esp3Host.Proofs.TeachIn.Answers
import Esp3Host.Proofs.TeachIn.Operations

/-!
# Three records of the devices taught in

A device that is taught in is entered into the table, observers are told of it, and if it asked with
a universal teach-in query it gets an answer.  The table, the notices and the queued answers agree
after every run.
-/

namespace Esp3Host.TeachIn

def Notice.found? : Notice → Option Device
  | found device => some device
  | started | ended | registered _ _ => none

def devicesFound (notices : List Notice) : List Device := notices.filterMap Notice.found?

@[simp] theorem devicesFound_append (first second : List Notice) :
    devicesFound (first ++ second) = devicesFound first ++ devicesFound second :=
  List.filterMap_append ..

def Operation.isUniversal : Operation → Bool
  | .handle p =>
      match Telegram.ofPacket p with
      | .ok t => t.kind = .universalTeachIn
      | .error _ => false
  | .openWindow _ _ | .closeWindow | .expire _ => false

namespace Engine

/-! ## The steps of a run -/

structure Step (σ : Type) where
  before : Engine σ
  operation : Operation
  after : Engine σ

def steps {σ : Type} (reg : Registry σ) : Engine σ → List (Instant × Operation) → List (Step σ)
  | _, [] => []
  | e, (now, operation) :: rest =>
      let after := e.operate reg now operation
      ⟨e, operation, after⟩ :: steps reg after rest

namespace Step

variable {σ : Type}

def told (s : Step σ) (name : String) : List Notice :=
  (s.after.told name).drop (s.before.told name).length

def queued (s : Step σ) : List Packet :=
  (s.after.link.sendHigh.drop s.before.link.sendHigh.length ++
    s.after.link.sendLow.drop s.before.link.sendLow.length).map Item.packet

def paired (s : Step σ) (name : String) : List Device :=
  if s.operation.isUniversal then devicesFound (s.told name) else []

end Step

/-! ## Books -/

/-- Between two states of a table these devices were found and these paired by these packets. -/
structure Books (before after : DeviceTable) (found paired : List Device) (queued : List Packet) :
    Prop where
  table : after = { before with devices := before.devices ++ found }
  unknown : ∀ device ∈ found, before.find? device.address = none
  distinct : (found.map Device.address).Nodup
  supported : ∀ device ∈ found, before.supports device.profile = true
  confirmed : List.Forall₂ Confirms (queued.filter isConfirmation) paired

namespace Books

variable {a b c : DeviceTable} {found paired found' paired' : List Device}
  {queued queued' : List Packet}

theorem nothing (h : b = a) (hqueued : queued.filter isConfirmation = []) :
    Books a b [] [] queued where
  table := by simp [h]
  unknown := by simp
  distinct := by simp
  supported := by simp
  confirmed := by simp [hqueued]

theorem trans (hfirst : Books a b found paired queued)
    (hsecond : Books b c found' paired' queued') :
    Books a c (found ++ found') (paired ++ paired') (queued ++ queued') := by
  obtain ⟨rfl, hunknown, hdistinct, hsupported, hconfirmed⟩ := hfirst
  obtain ⟨rfl, hunknown', hdistinct', hsupported', hconfirmed'⟩ := hsecond
  -- The later devices have addresses that the earlier ones have not taken.
  have hlater : ∀ device ∈ found', a.find? device.address = none ∧
      ∀ other ∈ found, other.address ≠ device.address := by
    intro device hmem
    have hnone := hunknown' device hmem
    simp only [DeviceTable.find?, List.find?_append, Option.or_eq_none_iff,
      List.find?_eq_none] at hnone ⊢
    exact ⟨hnone.1, fun other hother => by simpa using hnone.2 other hother⟩
  constructor
  · simp
  · intro device hmem
    rcases List.mem_append.mp hmem with hmem | hmem
    · exact hunknown device hmem
    · exact (hlater device hmem).1
  · rw [List.map_append, List.nodup_append]
    refine ⟨hdistinct, hdistinct', ?_⟩
    rintro _ hfirst _ hsecond
    obtain ⟨other, hother, rfl⟩ := List.mem_map.mp hfirst
    obtain ⟨device, hdevice, rfl⟩ := List.mem_map.mp hsecond
    exact (hlater device hdevice).2 other hother
  · intro device hmem
    rcases List.mem_append.mp hmem with hmem | hmem
    · exact hsupported device hmem
    · exact hsupported' device hmem
  · rw [List.filter_append]
    exact List.rel_append hconfirmed hconfirmed'

theorem single {device : Device} (hunknown : a.find? device.address = none)
    (hsupported : a.supports device.profile = true)
    (hconfirmed : List.Forall₂ Confirms (queued.filter isConfirmation) paired) :
    Books a { a with devices := a.devices ++ [device] } [device] paired queued where
  table := rfl
  unknown := by simpa
  distinct := by simp
  supported := by simpa
  confirmed := hconfirmed

end Books

variable {e after : Engine DeviceTable} {earlier later : List Observer} {o : Observer}
  {operation : Operation} {effect : Effect}

structure Booked (table : DeviceTable) (operation : Operation) (effect : Effect) : Prop where
  books : Books table { table with devices := table.devices ++ effect.devices } effect.devices
    (if operation.isUniversal then effect.devices else []) (effect.urgent ++ effect.ordinary)
  found : devicesFound effect.notices = effect.devices

theorem Booked.of_no_device {table : DeviceTable} (hdevices : effect.devices = [])
    (hfound : devicesFound effect.notices = [])
    (hqueued : (effect.urgent ++ effect.ordinary).filter isConfirmation = []) :
    Booked table operation effect := by
  refine ⟨?_, hfound.trans hdevices.symm⟩
  rw [hdevices, List.append_nil, ite_self]
  exact .nothing rfl hqueued

theorem queued_answer (t : Telegram) (q : Query) (code : AnswerCode) :
    (Effect.answer t q code).urgent ++ (Effect.answer t q code).ordinary =
      [q.answer code t.sender] := by
  cases hrequired : q.responseRequired <;> simp [Effect.answer, hrequired]

theorem devicesFound_learned (device : Device) (targeted : Bool) :
    devicesFound (Effect.learned device targeted).notices = [device] := by
  cases targeted <;> rfl

theorem booked_treated {p : Packet} {outcome : Outcome} (h : Treated p e outcome effect) :
    Booked e.registry (.handle p) effect := by
  have hrefused : ∀ t q (code : AnswerCode), code ≠ .success →
      ((Effect.answer t q code).urgent ++ (Effect.answer t q code).ordinary).filter
        isConfirmation = [] := by
    intro t q code hcode
    simp [queued_answer, isConfirmation_answer, hcode]
  cases h with
  | passed | rejected => exact .of_no_device rfl rfl rfl
  | heard t device => exact .of_no_device rfl rfl rfl
  | refused t q => exact .of_no_device rfl rfl (hrefused t q .refused nofun)
  | deleted t q => exact .of_no_device rfl rfl (hrefused t q .deletionAccepted nofun)
  | @learned device t hparse hkind _ hwelcomes =>
      have hordinary : (Operation.handle p).isUniversal = false := by
        simp [Operation.isUniversal, hparse, hkind]
      refine ⟨?_, devicesFound_learned device _⟩
      rw [hordinary]
      exact .single hwelcomes.unknown hwelcomes.supported .nil
  | paired t q hparse hquery hwelcomes =>
      have huniversal : (Operation.handle p).isUniversal = true := by
        simp [Operation.isUniversal, hparse, Query.kind_of_ofTelegram hparse hquery]
      refine ⟨?_, (congrArg devicesFound (List.append_nil _)).trans (devicesFound_learned _ _)⟩
      rw [huniversal]
      refine .single hwelcomes.unknown hwelcomes.supported ?_
      change List.Forall₂ Confirms (((Effect.answer t q .success).urgent ++
        (Effect.answer t q .success).ordinary).filter isConfirmation) [_]
      rw [queued_answer, List.filter_cons_of_pos (by simp [isConfirmation_answer])]
      exact .cons (confirms_answer hquery) .nil

theorem Operated.booked (h : Operated e operation after) :
    ∃ state effect,
      Changes { e with state } after effect ∧ Booked e.registry operation effect := by
  have hceased : ∀ {result}, Ceased e result →
      ∃ effect, Changes e result.2 effect ∧ Booked e.registry operation effect := by
    rintro _ (hstays | ⟨hopen, hended⟩)
    · exact ⟨{}, hstays, .of_no_device rfl rfl rfl⟩
    · exact ⟨_, hended, .of_no_device rfl rfl rfl⟩
  cases h with
  | opened length target h =>
      cases h with
      | stays _ hstays => exact ⟨e.state, {}, hstays, .of_no_device rfl rfl rfl⟩
      | started deadline _ hstarted => exact ⟨_, _, hstarted, .of_no_device rfl rfl rfl⟩
  | closed h | expired _ h => exact ⟨e.state, hceased h⟩
  | handled p h htreated hchanges =>
      obtain ⟨hbooks, hfound⟩ := booked_treated htreated
      cases h with
      | stays hstays =>
          rw [hstays.registry_eq] at hbooks
          exact ⟨e.state, _, hstays.trans hchanges, hbooks, hfound⟩
      | ended _ hended =>
          have hregistry := hended.registry
          rw [List.append_nil] at hregistry
          rw [hregistry] at hbooks
          exact ⟨e.state, _, hended.trans hchanges, hbooks, hfound⟩

/-! ## Whole runs -/

theorem Changes.queued_eq (h : Changes e after effect) :
    (after.link.sendHigh.drop e.link.sendHigh.length ++
      after.link.sendLow.drop e.link.sendLow.length).map Item.packet =
        effect.urgent ++ effect.ordinary := by
  rw [h.link]
  simp [Function.comp_def]

theorem books_step (hquiet : e.Quiet) (hseat : e.Seated earlier o later) (now : Instant)
    (operation : Operation) :
    let s : Step DeviceTable := ⟨e, operation, e.operate tableRegistry now operation⟩
    s.after.Quiet ∧ s.after.Seated earlier o later ∧
      s.after.told o.name = e.told o.name ++ s.told o.name ∧
      Books e.registry s.after.registry (devicesFound (s.told o.name)) (s.paired o.name)
        s.queued := by
  intro s
  obtain ⟨state, effect, hchanges, hbooks, hfound⟩ :=
    (operated_operate hquiet now operation).booked
  have htold : s.after.told o.name = e.told o.name ++ effect.notices :=
    hchanges.told_eq (hseat.of_observers rfl)
  have hnews : s.told o.name = effect.notices := by
    rw [Step.told, htold]
    exact List.drop_left
  have hqueued : s.queued = effect.urgent ++ effect.ordinary := hchanges.queued_eq
  refine ⟨hchanges.quiet hquiet, hseat.of_observers hchanges.observers, ?_, ?_⟩
  · rw [htold, hnews]
  · rw [Step.paired, hnews, hqueued, hfound, hchanges.registry]
    exact hbooks

theorem books_run (hquiet : e.Quiet) (hseat : e.Seated earlier o later)
    (operations : List (Instant × Operation)) :
    let steps := e.steps tableRegistry operations
    let news := steps.flatMap fun s => s.told o.name
    (e.run tableRegistry operations).told o.name = e.told o.name ++ news ∧
      Books e.registry (e.run tableRegistry operations).registry (devicesFound news)
        (steps.flatMap fun s => s.paired o.name) (steps.flatMap Step.queued) := by
  induction operations generalizing e with
  | nil => exact ⟨(List.append_nil _).symm, .nothing rfl rfl⟩
  | cons step rest ih =>
      obtain ⟨now, operation⟩ := step
      intro steps news
      let first : Step DeviceTable := ⟨e, operation, e.operate tableRegistry now operation⟩
      obtain ⟨hquiet', hseat', htold, hbooks⟩ := books_step hquiet hseat now operation
      obtain ⟨hlater, hrest⟩ := ih hquiet' hseat'
      have hnews : news = first.told o.name ++
          (first.after.steps tableRegistry rest).flatMap fun s => s.told o.name := rfl
      rw [hnews]
      refine ⟨?_, ?_⟩
      · rw [← List.append_assoc, ← htold]
        exact hlater
      · rw [devicesFound_append]
        exact hbooks.trans hrest

/--
In every run over a device table with observers that do not call back, the table is the initial one
and the devices that a seated observer was told were found.  Their addresses are new and distinct,
their profiles are listed, and the confirmations that were queued are, one by one and in order,
those of the devices found in universal teach-in telegrams.
-/
theorem records_agree (e : Engine DeviceTable) (hquiet : e.Quiet) (hseat : e.Seated earlier o later)
    (operations : List (Instant × Operation)) :
    let after := e.run tableRegistry operations
    let steps := e.steps tableRegistry operations
    let found := devicesFound ((after.told o.name).drop (e.told o.name).length)
    after.registry = { e.registry with devices := e.registry.devices ++ found } ∧
      found = (steps.flatMap fun s => devicesFound (s.told o.name)) ∧
      (found.map Device.address).Nodup ∧
      (∀ device ∈ found, e.registry.find? device.address = none ∧
        e.registry.supports device.profile = true) ∧
      List.Forall₂ Confirms ((steps.flatMap Step.queued).filter isConfirmation)
        (steps.flatMap fun s => s.paired o.name) := by
  intro after steps found
  obtain ⟨htold, hbooks⟩ := books_run hquiet hseat operations
  have hnews : found = devicesFound (steps.flatMap fun s => s.told o.name) := by
    simp only [found, after, htold, List.drop_left]
    rfl
  rw [hnews]
  exact ⟨hbooks.table, List.filterMap_flatMap .., hbooks.distinct,
    fun device hmem => ⟨hbooks.unknown device hmem, hbooks.supported device hmem⟩,
    hbooks.confirmed⟩

theorem records_agree_actuator_and_switch :
    let actuator : Device := ⟨⟨0x05, 0x11, 0x22, 0x33⟩, 0x346, ⟨0xD2, 0x01, 0x12⟩⟩
    let switch : Device := ⟨⟨0x01, 0x80, 0x2A, 0x3B⟩, unknownManufacturer, Profile.rockerSwitch⟩
    let query := Packet.sealed .radio
      [0xD4, 0x40, 0x02, 0x46, 0x03, 0x12, 0x01, 0xD2, 0x05, 0x11, 0x22, 0x33, 0x00] []
    let panel := Observer.recorder "panel"
    let e : Engine DeviceTable := { registry := {}, observers := [panel] }
    let operations := [
      (0, .openWindow (Span.ofSeconds 60) none), (0, .handle query), (0, .handle query),
      (0, .handle (.sealed .radio [0xF6, 0x30, 0x01, 0x80, 0x2A, 0x3B, 0x30] []))]
    let after := e.run tableRegistry operations
    e.Quiet ∧ e.Seated [] panel [] ∧ devicesFound (after.told panel.name) = [actuator, switch] ∧
      after.registry = { devices := [actuator, switch] } ∧
      List.Forall₂ Confirms
        (((e.steps tableRegistry operations).flatMap Step.queued).filter isConfirmation)
        [actuator] := by
  intro actuator switch query panel e operations after
  have hquiet : e.Quiet := by
    intro observer hmem notice
    cases List.mem_singleton.mp hmem
    rfl
  have hseat : e.Seated [] panel [] := ⟨rfl, rfl, nofun⟩
  have hfound : devicesFound (after.told panel.name) = [actuator, switch] := by decide +kernel
  have hpaired : ((e.steps tableRegistry operations).flatMap fun s => s.paired panel.name) =
      [actuator] := by decide +kernel
  have hnothing : (e.told panel.name).length = 0 := rfl
  obtain ⟨htable, -, -, -, hconfirmed⟩ := records_agree e hquiet hseat operations
  rw [hnothing, List.drop_zero, hfound] at htable
  rw [hpaired] at hconfirmed
  exact ⟨hquiet, hseat, hfound, htable, hconfirmed⟩

end Engine

end Esp3Host.TeachIn

import Esp3Host.Device
import Esp3Host.TeachIn.Registry
import Mathlib.Data.Set.Card
import Mathlib.Logic.Function.Basic

/-!
# Device tables are finite maps

A device table is changed by insertions, creations and removals.  Each change is described by what
it does to lookups, in any table; from that follow the lookups after any sequence of changes, once
as those of a map from the numbers of addresses, and once by the history: what is found is what was
entered last and not removed since.
-/

namespace Esp3Host

theorem Address.toNat_injective : Function.Injective toNat :=
  Function.LeftInverse.injective ofNat_toNat

namespace DeviceTable

variable {table : DeviceTable} {device : Device} {address : Address}

/-! ## Lookups -/

theorem address_of_find? (h : table.find? address = some device) : device.address = address := by
  simpa using List.find?_some h

theorem mem_of_find? (h : table.find? address = some device) : device ∈ table.devices :=
  List.mem_of_find?_eq_some h

theorem find?_append (h : table.find? device.address = none) (address : Address) :
    ({ table with devices := table.devices ++ [device] } : DeviceTable).find? address =
      if address = device.address then some device else table.find? address := by
  simp only [find?] at h ⊢
  rw [List.find?_append]
  split
  case isTrue hsame => simp [hsame, h]
  case isFalse hother => simp [Ne.symm hother]

theorem address_replace (device d : Device) :
    (if d.address = device.address then device else d).address = d.address := by
  split
  case isTrue hsame => exact hsame.symm
  case isFalse => rfl

theorem find?_replace (table : DeviceTable) (device : Device) (address : Address) :
    ({ table with
        devices := table.devices.map fun d =>
          if d.address = device.address then device else d } : DeviceTable).find? address =
      (table.find? address).map fun d => if d.address = device.address then device else d := by
  simp only [find?, List.find?_map]
  congr 2
  funext d
  simp [address_replace]

theorem profiles_insert (table : DeviceTable) (device : Device) :
    (table.insert device).profiles = table.profiles := by
  unfold insert
  split <;> rfl

theorem find?_insert (table : DeviceTable) (device : Device) (address : Address) :
    (table.insert device).find? address =
      if address = device.address then some device else table.find? address := by
  unfold insert
  split
  case isTrue hknown =>
    rw [find?_replace]
    cases hfound : table.find? address with
    | none =>
        rw [if_neg]
        · rfl
        · rintro rfl
          simp [hfound] at hknown
    | some d =>
        rw [Option.map_some, address_of_find? hfound]
        split <;> rfl
  case isFalse hunknown =>
    exact find?_append (Option.not_isSome_iff_eq_none.mp hunknown) address

theorem find?_erase (table : DeviceTable) (removed address : Address) :
    (table.erase removed).find? address =
      if address = removed then none else table.find? address := by
  simp only [erase, find?, List.find?_filter]
  split
  case isTrue hsame => simp [hsame]
  case isFalse hother =>
    congr 1
    funext d
    by_cases hfound : d.address = address
    · simp [hfound, hother]
    · simp [hfound]

/-! ## Creations -/

def Accepts (table : DeviceTable) (device : Device) : Prop :=
  device.profile ∈ table.profiles ∧ table.find? device.address = none

theorem createInTable_of_accepts (h : table.Accepts device) :
    (TeachIn.createInTable table device).1 = .ok device ∧
      (TeachIn.createInTable table device).2.2 =
        { table with devices := table.devices ++ [device] } := by
  simp [TeachIn.createInTable, create, supports, h.1, h.2]

theorem createInTable_of_not_accepts (h : ¬ table.Accepts device) :
    (TeachIn.createInTable table device).1 =
        .error (if device.profile ∈ table.profiles then .alreadyRegistered device.address
          else .unsupportedProfile device.profile) ∧
      (TeachIn.createInTable table device).2.2 = table := by
  by_cases hlisted : device.profile ∈ table.profiles
  · have hknown : (table.find? device.address).isSome :=
      Option.isSome_iff_ne_none.mpr fun habsent => h ⟨hlisted, habsent⟩
    simp [TeachIn.createInTable, create, supports, hlisted, hknown]
  · simp [TeachIn.createInTable, create, supports, hlisted]

theorem createInTable_eq_ok_iff {created : Device} :
    (TeachIn.createInTable table device).1 = .ok created ↔
      created = device ∧ table.Accepts device := by
  by_cases h : table.Accepts device
  · simp [createInTable_of_accepts h, h, eq_comm]
  · simp [createInTable_of_not_accepts h, h]

/-! ## Changes -/

inductive Change where
  | insert (device : Device)
  | create (device : Device)
  | erase (address : Address)
  deriving DecidableEq, Repr

def apply (table : DeviceTable) : Change → DeviceTable
  | .insert device => table.insert device
  | .create device => (TeachIn.createInTable table device).2.2
  | .erase address => table.erase address

def run (table : DeviceTable) (changes : List Change) : DeviceTable := changes.foldl apply table

theorem apply_of_accepts (h : table.Accepts device) :
    table.apply (.create device) = { table with devices := table.devices ++ [device] } :=
  (createInTable_of_accepts h).2

theorem apply_of_not_accepts (h : ¬ table.Accepts device) :
    table.apply (.create device) = table :=
  (createInTable_of_not_accepts h).2

theorem find?_create (h : table.Accepts device) (address : Address) :
    (table.apply (.create device)).find? address =
      if address = device.address then some device else table.find? address := by
  rw [apply_of_accepts h]
  exact find?_append h.2 address

/-- What a creation answers and what it leaves behind, in a table that lists these profiles. -/
structure Creates (table : DeviceTable) (profiles : List Profile) (device : Device) : Prop where
  succeeds : (∃ created, (TeachIn.createInTable table device).1 = .ok created) ↔
    device.profile ∈ profiles ∧ table.find? device.address = none
  adds : ∀ created, (TeachIn.createInTable table device).1 = .ok created → created = device ∧
    (table.apply (.create device)).devices = table.devices ++ [device] ∧
    ∀ address, (table.apply (.create device)).find? address =
      if address = device.address then some device else table.find? address
  fails : ∀ cause, (TeachIn.createInTable table device).1 = .error cause →
    table.apply (.create device) = table ∧
    cause = if device.profile ∈ profiles then .alreadyRegistered device.address
      else .unsupportedProfile device.profile
  keeps : ∀ address known, table.find? address = some known →
    (table.apply (.create device)).find? address = some known

theorem creates (table : DeviceTable) (device : Device) : table.Creates table.profiles device := by
  by_cases h : table.Accepts device
  case pos =>
    have hanswer := (createInTable_of_accepts h).1
    constructor
    case succeeds => exact ⟨fun _ => h, fun _ => ⟨device, hanswer⟩⟩
    case adds =>
      intro created hcreated
      exact ⟨(createInTable_eq_ok_iff.mp hcreated).1, congrArg devices (apply_of_accepts h),
        find?_create h⟩
    case fails => simp [hanswer]
    case keeps =>
      intro address known hfound
      rw [find?_create h, if_neg, hfound]
      rintro rfl
      simp [h.2] at hfound
  case neg =>
    have hanswer := (createInTable_of_not_accepts h).1
    constructor
    case succeeds =>
      exact ⟨fun ⟨_, hcreated⟩ => absurd (hanswer.symm.trans hcreated) nofun,
        fun haccepts => absurd haccepts h⟩
    case adds => simp [hanswer]
    case fails =>
      intro cause hcause
      exact ⟨apply_of_not_accepts h, by simpa [hanswer, eq_comm] using hcause⟩
    case keeps =>
      intro address known hfound
      rwa [apply_of_not_accepts h]

/-! ## The map -/

def Change.update (profiles : List Profile) (entries : Nat → Option Device) :
    Change → Nat → Option Device
  | .insert device => Function.update entries device.address.toNat (some device)
  | .create device =>
      if device.profile ∈ profiles ∧ entries device.address.toNat = none then
        Function.update entries device.address.toNat (some device)
      else entries
  | .erase address => Function.update entries address.toNat none

/-- The table lists these profiles and finds what is in the map. -/
structure Represents (table : DeviceTable) (profiles : List Profile)
    (entries : Nat → Option Device) : Prop where
  profiles : table.profiles = profiles
  find? : ∀ address, table.find? address = entries address.toNat

theorem update_number (entries : Nat → Option Device) (changed : Address) (entry : Option Device)
    (address : Address) :
    Function.update entries changed.toNat entry address.toNat =
      if address = changed then entry else entries address.toNat := by
  simp [Function.update_apply, Address.toNat_injective.eq_iff]

variable {profiles : List Profile} {entries : Nat → Option Device}

theorem Represents.apply (h : table.Represents profiles entries) (change : Change) :
    (table.apply change).Represents profiles (change.update profiles entries) := by
  obtain ⟨rfl, hfind⟩ := h
  cases change with
  | insert device =>
      constructor
      case profiles => exact profiles_insert table device
      case find? =>
        intro address
        rw [Change.update, update_number, ← hfind]
        exact find?_insert table device address
  | create device =>
      simp only [Change.update, ← hfind]
      split
      case isTrue haccepts =>
        constructor
        case profiles => rw [apply_of_accepts haccepts]
        case find? =>
          intro address
          rw [update_number, ← hfind]
          exact find?_create haccepts address
      case isFalse hrefused =>
        rw [apply_of_not_accepts hrefused]
        exact ⟨rfl, hfind⟩
  | erase removed =>
      constructor
      case profiles => rfl
      case find? =>
        intro address
        rw [Change.update, update_number, ← hfind]
        exact find?_erase table removed address

theorem Represents.run (h : table.Represents profiles entries) (changes : List Change) :
    (table.run changes).Represents profiles (changes.foldl (Change.update profiles) entries) := by
  induction changes generalizing table entries with
  | nil => exact h
  | cons change rest ih => exact ih (h.apply change)

/-! ## The list -/

def Distinct (table : DeviceTable) : Prop := (table.devices.map Device.address).Nodup

theorem Distinct.append (h : table.Distinct) (hunknown : table.find? device.address = none) :
    ({ table with devices := table.devices ++ [device] } : DeviceTable).Distinct := by
  have hfree : ∀ known ∈ table.devices, known.address ≠ device.address := by
    simpa [DeviceTable.find?] using hunknown
  simp only [Distinct, List.map_append, List.nodup_append]
  refine ⟨h, by simp, ?_⟩
  simpa [List.mem_map] using hfree

theorem Distinct.insert (h : table.Distinct) (device : Device) :
    (table.insert device).Distinct := by
  unfold DeviceTable.insert
  split
  case isTrue =>
    -- Every address stays at its place.
    have hplaces : (table.devices.map fun d =>
        if d.address = device.address then device else d).map Device.address =
          table.devices.map Device.address := by
      rw [List.map_map]
      exact List.map_congr_left fun d _ => address_replace device d
    rw [Distinct, hplaces]
    exact h
  case isFalse hunknown => exact h.append (Option.not_isSome_iff_eq_none.mp hunknown)

theorem Distinct.apply (h : table.Distinct) (change : Change) : (table.apply change).Distinct := by
  cases change with
  | insert device => exact h.insert device
  | create device =>
      by_cases haccepts : table.Accepts device
      · rw [apply_of_accepts haccepts]
        exact h.append haccepts.2
      · rw [apply_of_not_accepts haccepts]
        exact h
  | erase removed => exact h.sublist (List.filter_sublist.map _)

theorem Distinct.run (h : table.Distinct) (changes : List Change) :
    (table.run changes).Distinct := by
  induction changes generalizing table with
  | nil => exact h
  | cons change rest ih => exact ih (h.apply change)

theorem Distinct.mem_iff (h : table.Distinct) :
    device ∈ table.devices ↔ table.find? device.address = some device := by
  constructor
  · intro hmem
    cases hfound : table.find? device.address with
    | none => simpa using List.find?_eq_none.mp hfound device hmem
    | some known =>
        rw [List.inj_on_of_nodup_map h (mem_of_find? hfound) hmem (address_of_find? hfound)]
  · exact mem_of_find?

theorem Distinct.length_eq (h : table.Distinct) :
    table.devices.length = {address | (table.find? address).isSome}.ncard := by
  have hfound : {address | (table.find? address).isSome} =
      ((table.devices.map Device.address).toFinset : Set Address) := by
    ext address
    simp [DeviceTable.find?]
  rw [hfound, Set.ncard_coe_finset, List.toFinset_card_of_nodup h, List.length_map]

/-! ## The history -/

structure Step where
  table : DeviceTable
  change : Change

def steps : DeviceTable → List Change → List Step
  | _, [] => []
  | table, change :: rest => ⟨table, change⟩ :: steps (table.apply change) rest

def Step.Enters (s : Step) (device : Device) : Prop :=
  s.change = .insert device ∨
    s.change = .create device ∧ (TeachIn.createInTable s.table device).1 = .ok device

def Step.Touches (s : Step) (address : Address) : Prop :=
  (∃ device, s.Enters device ∧ device.address = address) ∨ s.change = .erase address

theorem enters_insert {entered : Device} :
    (Step.mk table (.insert entered)).Enters device ↔ device = entered := by
  simp [Step.Enters, eq_comm]

theorem enters_create {entered : Device} :
    (Step.mk table (.create entered)).Enters device ↔
      device = entered ∧ table.Accepts entered := by
  simp only [Step.Enters, createInTable_eq_ok_iff, reduceCtorEq, false_or, Change.create.injEq,
    true_and]
  constructor
  · rintro ⟨rfl, haccepts⟩
    exact ⟨rfl, haccepts⟩
  · rintro ⟨rfl, haccepts⟩
    exact ⟨rfl, haccepts⟩

theorem not_enters_erase {removed : Address} :
    ¬ (Step.mk table (.erase removed)).Enters device := by
  simp [Step.Enters]

/-- What a lookup finds is what the change entered, or was there and the change did not touch it. -/
def Follows (s : Step) (after : DeviceTable) : Prop :=
  ∀ address device, after.find? address = some device ↔
    s.Enters device ∧ device.address = address ∨
      s.table.find? address = some device ∧ ¬ s.Touches address

theorem Follows.of_entered {s : Step} {after : DeviceTable} (entered : Device)
    (henters : ∀ d, s.Enters d ↔ d = entered) (herase : ∀ a, s.change ≠ .erase a)
    (hfind : ∀ a, after.find? a = if a = entered.address then some entered else s.table.find? a) :
    Follows s after := by
  intro address device
  simp only [hfind, Step.Touches, henters, herase, or_false, exists_eq_left]
  by_cases hsame : address = entered.address
  · rw [if_pos hsame, Option.some.injEq]
    constructor
    · rintro rfl
      exact .inl ⟨rfl, hsame.symm⟩
    · rintro (⟨rfl, -⟩ | ⟨-, hother⟩)
      · rfl
      · exact absurd hsame.symm hother
  · rw [if_neg hsame]
    constructor
    · exact fun hknown => .inr ⟨hknown, Ne.symm hsame⟩
    · rintro (⟨rfl, hentered⟩ | ⟨hknown, -⟩)
      · exact absurd hentered.symm hsame
      · exact hknown

theorem follows_apply (table : DeviceTable) (change : Change) :
    Follows ⟨table, change⟩ (table.apply change) := by
  cases change with
  | insert entered =>
      exact .of_entered entered (fun _ => enters_insert) (by simp) (find?_insert table entered)
  | create entered =>
      by_cases haccepts : table.Accepts entered
      case pos =>
        apply Follows.of_entered entered
        case henters => simp [enters_create, haccepts]
        case herase => simp
        case hfind => exact find?_create haccepts
      case neg =>
        intro address device
        rw [apply_of_not_accepts haccepts]
        simp [Step.Touches, enters_create, haccepts]
  | erase removed =>
      intro address device
      rw [apply, find?_erase]
      simp [Step.Touches, not_enters_erase, eq_comm, and_comm]

/-- The device was entered under the address, which no later step touched. -/
def LastEntered (steps : List Step) (address : Address) (device : Device) : Prop :=
  ∃ before s after, steps = before ++ s :: after ∧ s.Enters device ∧ device.address = address ∧
    ∀ later ∈ after, ¬ later.Touches address

theorem lastEntered_cons {s : Step} {rest : List Step} :
    LastEntered (s :: rest) address device ↔
      LastEntered rest address device ∨
        s.Enters device ∧ device.address = address ∧ ∀ later ∈ rest, ¬ later.Touches address := by
  constructor
  · rintro ⟨before, entry, after, hsteps, hentered⟩
    cases before with
    | nil =>
        cases hsteps
        exact .inr hentered
    | cons _ before =>
        cases hsteps
        exact .inl ⟨before, entry, after, rfl, hentered⟩
  · rintro (⟨before, entry, after, rfl, hentered⟩ | hentered)
    · exact ⟨s :: before, entry, after, rfl, hentered⟩
    · exact ⟨[], s, rest, rfl, hentered⟩

theorem find?_run_eq_some_iff (changes : List Change) :
    (table.run changes).find? address = some device ↔
      LastEntered (table.steps changes) address device ∨
        table.find? address = some device ∧ ∀ s ∈ table.steps changes, ¬ s.Touches address := by
  induction changes generalizing table with
  | nil => simp [run, steps, LastEntered]
  | cons change rest ih =>
      -- what the rest did not touch was there after the first change
      have hlater : (table.run (change :: rest)).find? address = some device ↔
          ((table.apply change).run rest).find? address = some device := Iff.rfl
      rw [hlater, ih, follows_apply table change address device, steps, lastEntered_cons,
        List.forall_mem_cons]
      tauto

/--
After any sequence of insertions, creations and removals a table is a map from addresses: lookups
are those of a map from the numbers of addresses with the same changes, and find what was entered
last and has not been removed; the listing has each address once and agrees with the lookups, and
there are as many devices as addresses under which one is found.  A device is created exactly if its
profile is listed and its address free.
-/
theorem run_represents (profiles : List Profile) (changes : List Change) :
    let empty : DeviceTable := { devices := [], profiles }
    let table := empty.run changes
    (∀ address, table.find? address =
        changes.foldl (Change.update profiles) (fun _ => none) address.toNat) ∧
      (∀ address device, table.find? address = some device ↔
        LastEntered (empty.steps changes) address device) ∧
      (table.byAddress.map Device.address).Nodup ∧
      (∀ device, device ∈ table.byAddress ↔ table.find? device.address = some device) ∧
      table.byAddress.length = table.devices.length ∧
      table.devices.length = {address | (table.find? address).isSome}.ncard ∧
      ∀ device, table.Creates profiles device := by
  intro empty table
  have hmap : table.Represents profiles (changes.foldl (Change.update profiles) fun _ => none) :=
    Represents.run ⟨rfl, fun _ => rfl⟩ changes
  have hempty : empty.Distinct := List.nodup_nil
  have hdistinct : table.Distinct := hempty.run changes
  have hlisting : table.byAddress.Perm table.devices := List.mergeSort_perm _ _
  refine ⟨hmap.find?, ?history, ?nodup, ?listing, hlisting.length_eq, hdistinct.length_eq, ?create⟩
  case history =>
    intro address device
    rw [find?_run_eq_some_iff]
    simp [empty, DeviceTable.find?]
  case nodup => exact (hlisting.map Device.address).nodup_iff.mpr hdistinct
  case listing =>
    intro device
    rw [hlisting.mem_iff]
    exact hdistinct.mem_iff
  case create =>
    intro device
    rw [← hmap.profiles]
    exact creates table device

end DeviceTable

end Esp3Host

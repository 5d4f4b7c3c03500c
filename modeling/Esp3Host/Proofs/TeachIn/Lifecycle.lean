import Esp3Host.Proofs.TeachIn.Openings
import Esp3Host.Proofs.TeachIn.Operations

/-!
# The life of a window

Observers that do not call back hear of every window that is opened, of the devices found while it
is open, and of its end.  A window with a target ends with the device that it waits for.
-/

namespace Esp3Host.TeachIn

/--
The targets of the windows opened so far, what was told meanwhile, and the target of the window that
is open, if one is.
-/
inductive Course : List (Option Target) → List Notice → Option (Option Target) → Prop
  | fresh : Course [] [] none
  | started {openings told} (target) (h : Course openings told none) :
      Course (openings ++ [target]) (told ++ [.started]) (some target)
  | ended {openings told target} (h : Course openings told (some target)) :
      Course openings (told ++ [.ended]) none
  | found {openings told} (device) (h : Course openings told (some none)) :
      Course openings (told ++ [Notice.found device]) (some none)
  | paired {openings told target} {device : Device} (haddress : device.address = target.address)
      (h : Course openings told (some (some target))) :
      Course openings (told ++ [Notice.found device] ++ [.ended]) none
  | heard {openings told current} (device p) (h : Course openings told current) :
      Course openings (told ++ [.registered device p]) current

/-- What is known of a device that was found, from what was told before and after. -/
structure Within (openings : List (Option Target)) (told before : List Notice) (device : Device) :
    Prop where
  window : (boundaries before).getLast? = some .started
  paired : ∀ target, openings[before.count .started - 1]? = some (some target) →
    device.address = target.address ∧ before ++ [Notice.found device] ++ [.ended] <+: told

namespace Within

variable {openings openings' : List (Option Target)} {told told' before : List Notice}
  {device : Device}

theorem count_pos (h : Within openings told before device) : 0 < before.count .started := by
  have hmem : Notice.started ∈ boundaries before := List.mem_of_getLast? h.window
  exact List.count_pos_iff.mpr (List.mem_filter.mp hmem).1

theorem mono (h : Within openings told before device)
    (hfront : before ++ [Notice.found device] <+: told)
    (hcount : told.count .started = openings.length)
    (hopenings : openings <+: openings') (htold : told <+: told') :
    Within openings' told' before device := by
  refine ⟨h.window, fun target htarget => ?_⟩
  have hpos := h.count_pos
  have hle := ((List.prefix_append before _).trans hfront).sublist.count_le Notice.started
  obtain ⟨later, rfl⟩ := hopenings
  rw [List.getElem?_append_left (by omega)] at htarget
  obtain ⟨haddress, hended⟩ := h.paired target htarget
  exact ⟨haddress, hended.trans htold⟩

end Within

namespace Course

variable {openings : List (Option Target)} {told before more : List Notice}
  {current : Option (Option Target)} {device : Device}

theorem boundaries_of_not {notice : Notice} (h : notice.isBoundary = false) :
    boundaries (told ++ [notice]) = boundaries told := by
  simp [boundaries, h]

theorem count_started (h : Course openings told current) :
    told.count .started = openings.length := by
  induction h with
  | fresh => rfl
  | started target _ ih => simp [ih]
  | _ => simpa

theorem reflects (h : Course openings told current) : Reflects told current.isSome := by
  induction h with
  | fresh => exact .nil
  | started target _ ih => exact ih.started
  | ended _ ih => exact ih.ended
  | found device _ ih | heard device p _ ih => exact ih.congr (boundaries_of_not rfl)
  | paired _ _ ih => exact (ih.congr (boundaries_of_not rfl)).ended

theorem getLast?_openings {target : Option Target} (h : Course openings told current)
    (hcurrent : current = some target) : openings.getLast? = some target := by
  induction h with
  | fresh | ended | paired => cases hcurrent
  | started _ _ _ =>
      cases hcurrent
      exact List.getLast?_concat
  | found _ _ ih | heard _ _ _ ih => exact ih hcurrent

theorem getElem?_openings {target : Option Target} (h : Course openings told (some target)) :
    openings[told.count .started - 1]? = some target := by
  rw [h.count_started, ← List.getLast?_eq_getElem?]
  exact h.getLast?_openings rfl

theorem within (h : Course openings told current) :
    ∀ before device, before ++ [Notice.found device] <+: told →
      Within openings told before device := by
  induction h with
  | fresh => simp
  | started target h ih =>
      intro before device hfront
      rcases List.prefix_concat_iff.mp hfront with hlast | hearlier
      · cases (List.append_singleton_inj.mp hlast).2
      · exact (ih before device hearlier).mono hearlier h.count_started
          (List.prefix_append _ _) (List.prefix_append _ _)
  | ended h ih | heard _ _ h ih =>
      intro before device hfront
      rcases List.prefix_concat_iff.mp hfront with hlast | hearlier
      · cases (List.append_singleton_inj.mp hlast).2
      · exact (ih before device hearlier).mono hearlier h.count_started
          (List.prefix_refl _) (List.prefix_append _ _)
  | found device h ih =>
      intro before device' hfront
      rcases List.prefix_concat_iff.mp hfront with hlast | hearlier
      · obtain ⟨rfl, hsame⟩ := List.append_singleton_inj.mp hlast
        refine ⟨h.reflects.last.mp rfl, fun target htarget => ?_⟩
        cases h.getElem?_openings.symm.trans htarget
      · exact (ih before device' hearlier).mono hearlier h.count_started
          (List.prefix_refl _) (List.prefix_append _ _)
  | paired haddress h ih =>
      intro before device hfront
      rcases List.prefix_concat_iff.mp hfront with hlast | hfront
      · cases (List.append_singleton_inj.mp hlast).2
      rcases List.prefix_concat_iff.mp hfront with hlast | hearlier
      · obtain ⟨rfl, hsame⟩ := List.append_singleton_inj.mp hlast
        cases hsame
        refine ⟨h.reflects.last.mp rfl, fun target htarget => ?_⟩
        cases h.getElem?_openings.symm.trans htarget
        exact ⟨haddress, List.prefix_refl _⟩
      · exact (ih before device hearlier).mono hearlier h.count_started
          (List.prefix_refl _) ((List.prefix_append _ _).trans (List.prefix_append _ _))

theorem length_le_of_found {before before' : List Notice} {device device' : Device}
    (hfirst : before ++ [Notice.found device] ++ [.ended] <+: told)
    (hsecond : before' ++ [Notice.found device'] <+: told)
    (hlast : (boundaries before').getLast? = some .started)
    (hsame : before'.count .started = before.count .started) : before'.length ≤ before.length := by
  by_contra hlonger
  have hbetween :
      before ++ [Notice.found device] ++ [.ended] <+: before' ++ [Notice.found device'] :=
    List.prefix_of_prefix_length_le hfirst hsecond (by simp; omega)
  rcases List.prefix_concat_iff.mp hbetween with hend | ⟨rest, rfl⟩
  · cases (List.append_singleton_inj.mp hend).2
  · have hnone : rest.count .started = 0 := by
      simp at hsame
      omega
    rw [boundaries_append, List.getLast?_append] at hlast
    cases hrest : (boundaries rest).getLast? with
    | none =>
        rw [hrest, boundaries_append, List.getLast?_append] at hlast
        cases hlast
    | some notice =>
        rw [hrest] at hlast
        cases hlast
        have hmem : Notice.started ∈ rest := (List.mem_filter.mp (List.mem_of_getLast? hrest)).1
        exact absurd hmem (List.count_eq_zero.mp hnone)

theorem found_once (h : Course openings told current) {before before' : List Notice}
    {device device' : Device} (hfirst : before ++ [Notice.found device] <+: told)
    (hsecond : before' ++ [Notice.found device'] <+: told)
    (hsame : before'.count .started = before.count .started) {target : Target}
    (htarget : openings[before.count .started - 1]? = some (some target)) : before' = before := by
  have hwithin := h.within before device hfirst
  have hwithin' := h.within before' device' hsecond
  obtain ⟨-, hended⟩ := hwithin.paired target htarget
  obtain ⟨-, hended'⟩ := hwithin'.paired target (by rwa [hsame])
  have hlength : before'.length = before.length :=
    Nat.le_antisymm (length_le_of_found hended hsecond hwithin'.window hsame)
      (length_le_of_found hended' hfirst hwithin.window hsame.symm)
  exact (List.prefix_of_prefix_length_le ((List.prefix_append _ _).trans hsecond)
    ((List.prefix_append _ _).trans hfirst) hlength.le).eq_of_length hlength

end Course

namespace Engine

/-! ## The course of a run -/

section

variable {σ : Type} (reg : Registry σ)

def opening (e : Engine σ) (now : Instant) : Operation → List (Option Target)
  | .openWindow length target =>
      if ({ e with clock := now }.openWindow length target).1 then [target] else []
  | .closeWindow | .expire _ | .handle _ => []

def openings : Engine σ → List (Instant × Operation) → List (Option Target)
  | _, [] => []
  | e, (now, operation) :: rest =>
      e.opening now operation ++ openings (e.operate reg now operation) rest

end

variable {e after : Engine DeviceTable} {earlier later : List Observer} {o : Observer}
  {openings : List (Option Target)} {effect : Effect} {target : Option Target} {done : Bool}

def Courses (name : String) (openings : List (Option Target)) (e : Engine DeviceTable) : Prop :=
  Course openings (e.told name) (e.window.map Window.target)

theorem window_of_isOpen (h : e.isOpen = true) :
    ∃ deadline target, e.window = some ⟨deadline, target⟩ := by
  obtain ⟨⟨deadline, target⟩, hwindow⟩ := Option.isSome_iff_exists.mp h
  exact ⟨deadline, target, hwindow⟩

theorem told_opened {result : Bool × Engine DeviceTable} (hseat : e.Seated earlier o later)
    (h : Opened target e result) :
    result.2.told o.name = e.told o.name ++ if result.1 then [.started] else [] := by
  cases h with
  | stays _ hstays => exact hstays.told_eq hseat
  | started _ _ hstarted => exact hstarted.told_eq (hseat.of_observers rfl)

theorem told_ceased {result : Bool × Engine DeviceTable} (hseat : e.Seated earlier o later)
    (h : Ceased e result) :
    result.2.told o.name = e.told o.name ++ if result.1 then [.ended] else [] := by
  cases h with
  | stays hstays => exact hstays.told_eq hseat
  | ended _ hended => exact hended.told_eq hseat

theorem courses_opened (hseat : e.Seated earlier o later) (h : Opened target e (done, after))
    (hcourses : e.Courses o.name openings) :
    after.Courses o.name (openings ++ if done then [target] else []) := by
  cases h with
  | stays _ hstays =>
      rw [Courses, hstays.told_eq hseat, hstays.window_eq]
      simpa [Courses] using hcourses
  | started deadline hclosed hstarted =>
      have hnone : e.window = none := by simpa [isOpen] using hclosed
      rw [Courses, hnone] at hcourses
      rw [Courses, hstarted.told_eq (hseat.of_observers rfl), hstarted.window]
      exact .started target hcourses

theorem courses_ceased (hseat : e.Seated earlier o later) (h : Ceased e (done, after))
    (hcourses : e.Courses o.name openings) : after.Courses o.name openings := by
  cases h with
  | stays hstays =>
      rw [Courses, hstays.told_eq hseat, hstays.window_eq]
      simpa [Courses] using hcourses
  | ended hopen hended =>
      obtain ⟨deadline, target, hwindow⟩ := window_of_isOpen hopen
      rw [Courses, hwindow] at hcourses
      rw [Courses, hended.told_eq hseat, hended.window]
      exact .ended hcourses

theorem course_learned {device : Device} (hadmits : e.admits device.address = true)
    (hcourses : e.Courses o.name openings) :
    Course openings (e.told o.name ++ (Effect.learned device e.isTargeted).notices)
      ((if (Effect.learned device e.isTargeted).closes then none else e.window).map
        Window.target) := by
  obtain ⟨deadline, target, hwindow⟩ := window_of_isOpen (isOpen_of_admits hadmits)
  rw [Courses, hwindow] at hcourses
  cases target with
  | none =>
      have htargeted : e.isTargeted = false := by simp [isTargeted, Window.isTargeted, hwindow]
      rw [htargeted, hwindow]
      exact .found device hcourses
  | some target =>
      have htargeted : e.isTargeted = true := by simp [isTargeted, Window.isTargeted, hwindow]
      have haddress : target.address = device.address := by
        simpa [admits, Window.admits, hwindow] using hadmits
      rw [htargeted]
      have hpaired := Course.paired haddress.symm hcourses
      rw [List.append_assoc] at hpaired
      exact hpaired

theorem courses_treated {p : Packet} {outcome : Outcome} (hseat : e.Seated earlier o later)
    (h : Treated p e outcome effect) (hchanges : Changes e after effect)
    (hcourses : e.Courses o.name openings) :
    after.Courses o.name openings := by
  rw [Courses, hchanges.told_eq hseat, hchanges.window]
  cases h with
  | passed | rejected | refused =>
      change Course openings (e.told o.name ++ []) (e.window.map Window.target)
      rw [List.append_nil]
      exact hcourses
  | heard t device => exact .heard device p hcourses
  | deleted t q _ _ hopen =>
      obtain ⟨deadline, target, hwindow⟩ := window_of_isOpen hopen
      rw [Courses, hwindow] at hcourses
      exact .ended hcourses
  | learned t _ _ _ hwelcomes => exact course_learned hwelcomes.admits hcourses
  | paired t q _ _ hwelcomes =>
      have hlearned := course_learned hwelcomes.admits hcourses
      generalize Effect.learned _ _ = effect at hlearned ⊢
      simpa [Effect.join, Effect.answer] using hlearned

theorem courses_operate (hquiet : e.Quiet) (hseat : e.Seated earlier o later) (now : Instant)
    (operation : Operation) (hcourses : e.Courses o.name openings) :
    (e.operate tableRegistry now operation).Courses o.name
      (openings ++ e.opening now operation) := by
  -- The clock has no part in the course.
  have hbegun : ({ e with clock := now } : Engine DeviceTable).Courses o.name openings := hcourses
  have hstill : ({ e with clock := now } : Engine DeviceTable).Quiet := hquiet.of_observers rfl
  have hseated : ({ e with clock := now } : Engine DeviceTable).Seated earlier o later :=
    hseat.of_observers rfl
  cases operation with
  | openWindow length target =>
      exact courses_opened hseated (opened_openWindow hstill length target) hbegun
  | closeWindow =>
      rw [opening, List.append_nil]
      exact courses_ceased hseated (ceased_closeWindow hstill) hbegun
  | expire deadline =>
      rw [opening, List.append_nil]
      exact courses_ceased hseated (ceased_expire hstill deadline) hbegun
  | handle p =>
      rw [opening, List.append_nil]
      have hoperated := operated_operate hquiet now (.handle p)
      generalize e.operate tableRegistry now (.handle p) = after at hoperated ⊢
      cases hoperated with
      | @handled begun _ _ _ _ _ hceased htreated hchanges =>
          have hseat' : begun.Seated earlier o later := hseat.of_observers hceased.observers
          exact courses_treated hseat' htreated hchanges (courses_ceased hseated hceased hbegun)

theorem courses_run (hquiet : e.Quiet) (hseat : e.Seated earlier o later)
    (operations : List (Instant × Operation)) (hcourses : e.Courses o.name openings) :
    (e.run tableRegistry operations).Courses o.name
      (openings ++ e.openings tableRegistry operations) := by
  induction operations generalizing e openings with
  | nil =>
      rw [Engine.openings, List.append_nil]
      exact hcourses
  | cons step rest ih =>
      obtain ⟨now, operation⟩ := step
      rw [Engine.openings, ← List.append_assoc]
      have hobservers := observers_operate hquiet now operation
      exact ih (hquiet.of_observers hobservers) (hseat.of_observers hobservers)
        (courses_operate hquiet hseat now operation hcourses)

/--
In every run that begins with no window, and for every observer that is told of it, starts and ends
take turns and tell whether a window is open.  Opening and closing return whether they are told of.
A target is that of the window opened last, while it is open.  Every device is found in an open
window; if it has a target, that is the device, the next that is told is the end, and no other
device is found in it.
-/
theorem lifecycle (e : Engine DeviceTable) (hquiet : e.Quiet) (hseat : e.Seated earlier o later)
    (hclosed : e.state = {}) (hfresh : e.told o.name = [])
    (operations : List (Instant × Operation)) :
    let s := e.run tableRegistry operations
    let told := s.told o.name
    let openings := e.openings tableRegistry operations
    Reflects told s.isOpen ∧ told.count .started = openings.length ∧
      (∀ now,
        let current : Engine DeviceTable := { s with clock := now }
        (∀ length target, (current.openWindow length target).2.told o.name =
          told ++ if (current.openWindow length target).1 then [.started] else []) ∧
        current.closeWindow.2.told o.name =
          told ++ (if current.closeWindow.1 then [.ended] else []) ∧
        ∀ deadline, (current.expire deadline).2.told o.name =
          told ++ if (current.expire deadline).1 then [.ended] else []) ∧
      (s.isOpen = true → openings.getLast? = s.window.map Window.target) ∧
      (∀ target, s.state.target = some target → s.isOpen = true) ∧
      ∀ before device, before ++ [Notice.found device] <+: told →
        (boundaries before).getLast? = some .started ∧
        ∀ target, openings[before.count .started - 1]? = some (some target) →
          device.address = target.address ∧ before ++ [Notice.found device] ++ [.ended] <+: told ∧
          ∀ before' device', before' ++ [Notice.found device'] <+: told →
            before'.count .started = before.count .started → before' = before := by
  intro s told openings
  have hcourse : Course openings told (s.window.map Window.target) := by
    have hfresh : e.Courses o.name [] := by
      rw [Courses, hfresh, window, hclosed]
      exact .fresh
    exact courses_run hquiet hseat operations hfresh
  have hobservers := observers_run hquiet operations
  have hquiet : s.Quiet := hquiet.of_observers hobservers
  have hseat : s.Seated earlier o later := hseat.of_observers hobservers
  refine ⟨?_, hcourse.count_started, ?_, ?_, ?_, ?_⟩
  · have hreflects := hcourse.reflects
    rwa [Option.isSome_map] at hreflects
  · intro now current
    have hstill : current.Quiet := hquiet.of_observers rfl
    have hseated : current.Seated earlier o later := hseat.of_observers rfl
    have htold : told = current.told o.name := rfl
    rw [htold]
    refine ⟨fun length target => ?_, ?_, fun deadline => ?_⟩
    · exact told_opened hseated (opened_openWindow hstill length target)
    · exact told_ceased hseated (ceased_closeWindow hstill)
    · exact told_ceased hseated (ceased_expire hstill deadline)
  · intro hopen
    obtain ⟨deadline, target, hwindow⟩ := window_of_isOpen hopen
    rw [hwindow]
    exact hcourse.getLast?_openings (by rw [hwindow]; rfl)
  · exact sound_run tableRegistry (sound_of_none (by rw [hclosed])) operations
  · intro before device hfound
    obtain ⟨hwindow, hpaired⟩ := hcourse.within before device hfound
    refine ⟨hwindow, fun target htarget => ?_⟩
    obtain ⟨haddress, hended⟩ := hpaired target htarget
    exact ⟨haddress, hended, fun before' device' hfound' hsame =>
      hcourse.found_once hfound hfound' hsame htarget⟩

theorem lifecycle_targeted_and_expired :
    let switch : Device := ⟨⟨0x01, 0x80, 0x2A, 0x3B⟩, unknownManufacturer, Profile.rockerSwitch⟩
    let target : Target := ⟨switch.address, Profile.rockerSwitch⟩
    let panel := Observer.recorder "panel"
    let e : Engine DeviceTable := { registry := {}, observers := [panel] }
    let operations := [
      (0, .openWindow (Span.ofSeconds 60) (some target)),
      (0, .handle (.sealed .radio [0xF6, 0x30, 0x01, 0x80, 0x2A, 0x3B, 0x30] [])),
      (0, .openWindow (Span.ofSeconds 60) none),
      (0, .expire (Instant.after 0 (Span.ofSeconds 60)))]
    let told := (e.run tableRegistry operations).told panel.name
    e.Quiet ∧ e.Seated [] panel [] ∧ e.state = {} ∧ e.told panel.name = [] ∧
      e.openings tableRegistry operations = [some target, none] ∧
      told = [.started, .found switch, .ended, .started, .ended] ∧
      Reflects told (e.run tableRegistry operations).isOpen ∧
      [.started] ++ [.found switch] ++ [.ended] <+: told := by
  intro switch target panel e operations told
  have hquiet : e.Quiet := by
    intro observer hmem notice
    cases List.mem_singleton.mp hmem
    rfl
  have hseat : e.Seated [] panel [] := ⟨rfl, rfl, nofun⟩
  have hopenings : e.openings tableRegistry operations = [some target, none] := by
    decide +kernel
  have htold : told = [.started, .found switch, .ended, .started, .ended] := by decide +kernel
  obtain ⟨hreflects, -, -, -, -, hfound⟩ := lifecycle e hquiet hseat rfl rfl operations
  have hswitch : [.started] ++ [.found switch] <+: told := by
    rw [htold]
    exact ⟨_, rfl⟩
  have hpaired := ((hfound _ _ hswitch).2 target (by rw [hopenings]; rfl)).2.1
  exact ⟨hquiet, hseat, rfl, rfl, hopenings, htold, hreflects, hpaired⟩

end Engine

end Esp3Host.TeachIn

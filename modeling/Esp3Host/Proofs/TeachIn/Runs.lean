import Esp3Host.Proofs.TeachIn.Effect
import Mathlib.Data.List.Chain

/-!
# Runs of an engine, and what observers are told in them

The owner of an engine opens and closes the window, lets the engine look at its deadline and hands
it packets, in any order and at any times.  An observer knows of the window what it is told: the
window is open from a start to the next end.
-/

namespace Esp3Host

def Journal.told (j : Journal) (name : String) : List TeachIn.Notice :=
  (j.notices.filter fun entry => entry.1 = name).map Prod.snd

def Entry.noticeTo (name : String) : Entry → List TeachIn.Notice
  | .notified observer notice => if observer = name then [notice] else []
  | _ => []

theorem Journal.told_add (j : Journal) (entry : Entry) (name : String) :
    (j.add entry).told name = j.told name ++ entry.noticeTo name := by
  cases entry with
  | notified observer notice =>
      by_cases h : observer = name <;> simp [told, notices, Entry.noticeTo, h]
  | _ => simp [told, notices, Entry.noticeTo]

namespace TeachIn

/-! ## Starts and ends -/

namespace Notice

def isBoundary : Notice → Bool
  | started | ended => true
  | found _ | registered _ _ => false

def turn (isOpen : Bool) : Notice := if isOpen then started else ended

@[simp] theorem isBoundary_turn (isOpen : Bool) : (turn isOpen).isBoundary = true := by
  cases isOpen <;> rfl

end Notice

def boundaries (notices : List Notice) : List Notice := notices.filter Notice.isBoundary

@[simp] theorem boundaries_nil : boundaries [] = [] := rfl

@[simp] theorem boundaries_append (first second : List Notice) :
    boundaries (first ++ second) = boundaries first ++ boundaries second :=
  List.filter_append ..

@[simp] theorem boundaries_turn (isOpen : Bool) :
    boundaries [.turn isOpen] = [.turn isOpen] := by
  simp [boundaries]

/-- Starts and ends take turns, a start first, and the window is open if the last was a start. -/
structure Reflects (notices : List Notice) (isOpen : Bool) : Prop where
  alternate : (boundaries notices).IsChain (· ≠ ·)
  first : (boundaries notices).head? ≠ some .ended
  last : isOpen = true ↔ (boundaries notices).getLast? = some .started

namespace Reflects

variable {notices more : List Notice} {isOpen : Bool}

theorem nil : Reflects [] false := ⟨.nil, by simp, by simp⟩

theorem congr (h : Reflects notices isOpen) (hsame : boundaries more = boundaries notices) :
    Reflects more isOpen := by
  obtain ⟨halternate, hfirst, hlast⟩ := h
  rw [← hsame] at halternate hfirst hlast
  exact ⟨halternate, hfirst, hlast⟩

theorem turn (h : Reflects notices (!isOpen)) : Reflects (notices ++ [.turn isOpen]) isOpen := by
  obtain ⟨halternate, hfirst, hlast⟩ := h
  constructor
  · rw [boundaries_append, boundaries_turn, List.isChain_append]
    refine ⟨halternate, .singleton _, ?_⟩
    rintro before hbefore after hafter rfl
    have hsame : before = .turn isOpen := by simpa using hafter.symm
    subst hsame
    have hbefore : (boundaries notices).getLast? = some (.turn isOpen) := hbefore
    rw [hbefore] at hlast
    cases isOpen <;> simp [Notice.turn] at hlast
  · rw [boundaries_append, boundaries_turn]
    cases hnone : boundaries notices with
    | nil =>
        rw [hnone] at hlast
        cases isOpen <;> simp [Notice.turn] at hlast ⊢
    | cons n rest =>
        rw [hnone] at hfirst
        simpa using hfirst
  · rw [boundaries_append, boundaries_turn]
    cases isOpen <;> simp [Notice.turn]

theorem started (h : Reflects notices false) : Reflects (notices ++ [.started]) true :=
  @turn notices true h

theorem ended (h : Reflects notices true) : Reflects (notices ++ [.ended]) false :=
  @turn notices false h

end Reflects

/-! ## Runs -/

inductive Operation where
  | openWindow (length : Span) (target : Option Target)
  | closeWindow
  | expire (deadline : Instant)
  | handle (p : Packet)

namespace Engine

variable {σ : Type} (reg : Registry σ)

/-- Operate an engine; its clock reads `now` meanwhile. -/
def operate (e : Engine σ) (now : Instant) : Operation → Engine σ
  | .openWindow length target => ({ e with clock := now }.openWindow length target).2
  | .closeWindow => { e with clock := now }.closeWindow.2
  | .expire deadline => ({ e with clock := now }.expire deadline).2
  | .handle p => ({ e with clock := now }.handle reg p).2

def run (e : Engine σ) (operations : List (Instant × Operation)) : Engine σ :=
  operations.foldl (fun e (now, operation) => e.operate reg now operation) e

/-- A property of the engine and of what comes next, at the beginning of every operation. -/
def Throughout (P : Engine σ → Instant → Operation → Prop) :
    Engine σ → List (Instant × Operation) → Prop
  | _, [] => True
  | e, (now, operation) :: rest =>
      P e now operation ∧ Throughout P (e.operate reg now operation) rest

/-! ## Observers in their places -/

def told (e : Engine σ) (name : String) : List Notice := e.link.journal.told name

theorem told_record (e : Engine σ) (entry : Entry) (name : String) :
    (e.record entry).told name = e.told name ++ entry.noticeTo name :=
  Journal.told_add e.link.journal entry name

@[simp] theorem told_note (e : Engine σ) (n : Note) (name : String) :
    (e.note n).told name = e.told name :=
  (told_record e (.note n) name).trans (List.append_nil _)

/-- An observer with those that are told before it and after it; nobody else bears its name. -/
structure Seated (e : Engine σ) (earlier : List Observer) (o : Observer) (later : List Observer) :
    Prop where
  observers : e.observers = earlier ++ o :: later
  recorded : o.recorded = true
  alone : ∀ other ∈ earlier ++ later, other.recorded = true → other.name ≠ o.name

variable {e next : Engine σ} {earlier later : List Observer} {o : Observer}

theorem Seated.of_observers (h : e.Seated earlier o later) (hsame : next.observers = e.observers) :
    next.Seated earlier o later :=
  ⟨hsame.trans h.observers, h.recorded, h.alone⟩

theorem Seated.recordOf_eq (h : e.Seated earlier o later) (notice : Notice) :
    (e.recordOf notice).filter (fun entry => entry.1 = o.name) = [(o.name, notice)] := by
  have hothers : ∀ others : List Observer, (∀ other ∈ others, other ∈ earlier ++ later) →
      ((others.filter Observer.recorded).map fun other => (other.name, notice)).filter
        (fun entry => entry.1 = o.name) = [] := by
    intro others hmem
    rw [List.filter_eq_nil_iff]
    rintro entry hentry
    obtain ⟨other, hother, rfl⟩ := List.mem_map.mp hentry
    obtain ⟨hother, hrecorded⟩ := List.mem_filter.mp hother
    simpa using h.alone other (hmem other hother) hrecorded
  rw [recordOf, h.observers, List.filter_append, List.filter_cons_of_pos h.recorded,
    List.map_append, List.map_cons, List.filter_append,
    hothers earlier fun _ => List.mem_append_left _,
    List.filter_cons_of_pos (by simp), hothers later fun _ => List.mem_append_right _]
  rfl

theorem Changes.told_eq {before after : Engine DeviceTable} {effect : Effect}
    (h : Changes before after effect) (hseat : before.Seated earlier o later) :
    after.told o.name = before.told o.name ++ effect.notices := by
  have hnotices : ∀ notices : List Notice,
      ((notices.flatMap before.recordOf).filter fun entry => entry.1 = o.name).map Prod.snd =
        notices := by
    intro notices
    induction notices with
    | nil => rfl
    | cons notice rest ih => simp [List.filter_append, hseat.recordOf_eq, ih]
  rw [told, Journal.told, h.notices, List.filter_append, List.map_append, hnotices]
  rfl

end Engine

end TeachIn

end Esp3Host

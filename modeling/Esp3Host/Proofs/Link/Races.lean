import Esp3Host.Proofs.Link.Steps

/-!
# Responses that race a cycle

A cycle decides on what it saw of the permit, and a response may free the permit before the cycle
acts.  `Fits` says what each place in a cycle still knows about permit and exchange when anything may
have been received meanwhile, and from it follows what every step adds to the books: the permit is
never refused, no packet is lost, and an exchange ends once.
-/

namespace Esp3Host

/-! ## Kinds of incidents -/

namespace Incident

def isLook : Incident → Bool
  | looked _ => true
  | _ => false

def isFirstWrite : Incident → Bool
  | began _ _ => true
  | _ => false

def isRepeat : Incident → Bool
  | resent _ => true
  | _ => false

def isFailure : Incident → Bool
  | dropped _ | gaveUp _ => true
  | _ => false

def writes (exchange : Nat) : Incident → Bool
  | began n _ | resent n => n == exchange
  | _ => false

def departed? : Incident → Option Item
  | dropped item | began _ item => some item
  | _ => none

end Incident

def Move.queued : Move → List Item
  | .send attempts .low p => [⟨p, attempts⟩]
  | _ => []

def Stage.isStarting : Stage → Bool
  | granted _ _ | written _ _ => true
  | _ => false

def Stage.mayWrite : Stage → Bool
  | informed held _ => held
  | granted _ _ => true
  | _ => false

namespace Contention

/-! ## What a stage knows -/

def Fits (c : Contention) : Prop :=
  match c.stage with
  | .resting | .looking _ => c.link.PermitOwned
  | .informed true _ => c.link.outstanding.isSome = true
  | .informed false _ => c.link.permitHeld = false
  | .drawing _ | .asking _ _ => c.link.permitHeld = false ∧ c.link.outstanding = none
  | .granted _ _ | .written _ _ | .leaving => c.link.outstanding = none
  | .denied _ => False

/-- A step of the transmitter from a stage that fits, one constructor for each exit. -/
inductive Advanced (c : Contention) (start : Instant) : List Incident → Contention → Prop
  | urgent (item rest) (hstage : c.stage = .resting) (hhigh : c.link.sendHigh = item :: rest) :
      Advanced c start [.finished .sentHigh]
        { c with link := { c.link with sendHigh := rest }.writeHigh item }
  | started (hstage : c.stage = .resting) :
      Advanced c start [] { c with stage := .looking start }
  | looked (now) (hstage : c.stage = .looking now) :
      Advanced c start [.looked c.link.permitHeld]
        { c with stage := .informed c.link.permitHeld now }
  | waited (now) (hstage : c.stage = .informed true now) :
      Advanced c start [.finished .waiting] { c with stage := .resting }
  | resent (now current) (hstage : c.stage = .informed true now)
      (hout : c.link.outstanding = some current) :
      Advanced c start [.resent c.begun, .finished .retransmitted]
        { c with link := c.link.resend now current, stage := .resting }
  | gaveUp (now current) (hstage : c.stage = .informed true now)
      (hout : c.link.outstanding = some current) :
      Advanced c start [.gaveUp c.begun]
        { c with link := c.link.abandon current, stage := .leaving }
  | collected (now current) (hstage : c.stage = .informed false now)
      (hout : c.link.outstanding = some current) :
      Advanced c start [.answered c.begun]
        { c with link := c.link.collect now, stage := .drawing now }
  | cleared (now) (hstage : c.stage = .informed false now) (hout : c.link.outstanding = none) :
      Advanced c start [] { c with link := c.link.collect now, stage := .drawing now }
  | idle (now) (hstage : c.stage = .drawing now) :
      Advanced c start [.finished .idle] { c with stage := .resting }
  | dropped (now item rest) (hstage : c.stage = .drawing now)
      (hlow : c.link.sendLow = item :: rest) :
      Advanced c start [.dropped item]
        { c with link := { c.link with sendLow := rest }.dropExhausted item }
  | drew (now item rest) (hstage : c.stage = .drawing now) (hlow : c.link.sendLow = item :: rest) :
      Advanced c start []
        { c with link := { c.link with sendLow := rest }, stage := .asking item now }
  | acquired (now item) (hstage : c.stage = .asking item now) (hfree : c.link.permitHeld = false) :
      Advanced c start [.acquired]
        { link := { c.link with permitHeld := true }, stage := .granted item now,
          begun := c.begun + 1 }
  | began (now item) (hstage : c.stage = .granted item now) :
      Advanced c start [.began c.begun item]
        { c with link := c.link.writeLow item, stage := .written item now }
  | entered (now item) (hstage : c.stage = .written item now) :
      Advanced c start [.finished .sentLow]
        { c with link := c.link.enter now item, stage := .resting }
  | left (hstage : c.stage = .leaving) :
      Advanced c start [.released c.link.permitHeld, .finished .gaveUp]
        { c with link := { c.link with permitHeld := false }, stage := .resting }

theorem advanced {c : Contention} (h : c.Fits) (start : Instant) :
    Advanced c start (c.advance start).1 (c.advance start).2 := by
  unfold advance Fits at *
  split
  case h_1 hstage =>
    split
    case h_1 item rest hhigh => exact .urgent item rest hstage hhigh
    case h_2 => exact .started hstage
  case h_2 now hstage => exact .looked now hstage
  case h_3 now hstage =>
    rw [hstage] at h
    obtain ⟨current, hout⟩ := Option.isSome_iff_exists.mp h
    simp only [await, hout]
    split
    · exact .waited now hstage
    · split
      · exact .resent now current hstage hout
      · exact .gaveUp now current hstage hout
  case h_4 now hstage =>
    cases hout : c.link.outstanding with
    | none => exact .cleared now hstage hout
    | some current => exact .collected now current hstage hout
  case h_5 now hstage =>
    unfold draw
    split
    case h_1 => exact .idle now hstage
    case h_2 item rest hlow =>
      dsimp only
      split
      · exact .dropped now item rest hstage hlow
      · exact .drew now item rest hstage hlow
  case h_6 item now hstage =>
    rw [hstage] at h
    simp only [Link.acquire, h.1, Bool.not_false]
    exact .acquired now item hstage h.1
  case h_7 item now hstage => exact .began now item hstage
  case h_8 item hstage =>
    rw [hstage] at h
    exact h.elim
  case h_9 item now hstage => exact .entered now item hstage
  case h_10 hstage => exact .left hstage

/-! ## What a step adds to the books -/

/-- Whether the exchange with a number is still to come or has not ended. -/
def mayEnd (c : Contention) (exchange : Nat) : Bool :=
  c.begun < exchange ||
    c.begun = exchange && (c.stage.isStarting || c.link.outstanding.isSome)

/-- How a part of a run changes the books of a contention, with what was queued meanwhile. -/
structure Accounts (c : Contention) (queued : List Item) (incidents : List Incident)
    (next : Contention) : Prop where
  fits : next.Fits
  unrefused : .refused ∉ incidents
  low : c.stage.hand ++ c.link.sendLow ++ queued =
    incidents.filterMap Incident.departed? ++ (next.stage.hand ++ next.link.sendLow)
  permit : incidents.count .acquired + c.link.permitHeld.toNat =
    incidents.count (.released true) + incidents.count (.responded true) +
      next.link.permitHeld.toNat
  begun : next.begun = c.begun + incidents.count .acquired
  sentLow : next.link.counters.sentLow =
    c.link.counters.sentLow + incidents.countP Incident.isFirstWrite
  retransmissions : next.link.counters.retransmissions =
    c.link.counters.retransmissions + incidents.countP Incident.isRepeat
  deliveryFailures : next.link.counters.deliveryFailures =
    c.link.counters.deliveryFailures + incidents.countP Incident.isFailure
  ends : ∀ exchange,
    incidents.count (.answered exchange) + incidents.count (.gaveUp exchange) +
      (next.mayEnd exchange).toNat ≤ (c.mayEnd exchange).toNat

theorem Accounts.trans {c mid next : Contention} {queued later : List Item}
    {first second : List Incident} (hfirst : Accounts c queued first mid)
    (hsecond : Accounts mid later second next) :
    Accounts c (queued ++ later) (first ++ second) next where
  fits := hsecond.fits
  unrefused := by simp [hfirst.unrefused, hsecond.unrefused]
  low := by
    rw [← List.append_assoc, hfirst.low, List.append_assoc, hsecond.low, List.filterMap_append,
      List.append_assoc]
  permit := by
    have hbefore := hfirst.permit
    have hafter := hsecond.permit
    simp only [List.count_append]
    omega
  begun := by rw [hsecond.begun, hfirst.begun, List.count_append, Nat.add_assoc]
  sentLow := by rw [hsecond.sentLow, hfirst.sentLow, List.countP_append, Nat.add_assoc]
  retransmissions := by
    rw [hsecond.retransmissions, hfirst.retransmissions, List.countP_append, Nat.add_assoc]
  deliveryFailures := by
    rw [hsecond.deliveryFailures, hfirst.deliveryFailures, List.countP_append, Nat.add_assoc]
  ends exchange := by
    have hbefore := hfirst.ends exchange
    have hafter := hsecond.ends exchange
    simp only [List.count_append]
    omega

/-! ## One step of the transmitter -/

section Advanced

variable {c next : Contention} {start : Instant} {incidents : List Incident}

theorem Advanced.fits (hadvanced : Advanced c start incidents next) (h : c.Fits) : next.Fits := by
  unfold Fits at h
  cases hadvanced with
  | urgent item rest hstage =>
      rw [Link.writeHigh_eq]
      simpa [Fits, Link.PermitOwned, hstage] using h
  | started hstage => simpa [Fits, hstage] using h
  | looked now hstage =>
      rw [hstage] at h
      cases hheld : c.link.permitHeld with
      | true => exact h hheld
      | false => exact hheld
  | waited now hstage =>
      rw [hstage] at h
      exact fun _ => h
  | resent now current =>
      rw [Link.resend_eq]
      exact fun _ => rfl
  | gaveUp => exact rfl
  | collected now current hstage | cleared now hstage =>
      rw [hstage] at h
      rw [Link.collect_eq]
      exact ⟨h, rfl⟩
  | idle now hstage =>
      rw [hstage] at h
      exact fun hheld => absurd (h.1.symm.trans hheld) Bool.false_ne_true
  | dropped now item rest hstage | drew now item rest hstage =>
      rw [hstage] at h
      simpa [Fits, hstage, Link.dropExhausted, Link.countFailure, Link.note, Link.record] using h
  | acquired now item hstage =>
      rw [hstage] at h
      exact h.2
  | began now item hstage =>
      rw [hstage] at h
      rw [Link.writeLow_eq]
      exact h
  | entered => exact fun _ => rfl
  | left => exact fun hheld => absurd hheld Bool.false_ne_true

theorem Advanced.low (hadvanced : Advanced c start incidents next) :
    c.stage.hand ++ c.link.sendLow =
      incidents.filterMap Incident.departed? ++ (next.stage.hand ++ next.link.sendLow) := by
  cases hadvanced with
  | urgent item rest => rw [Link.writeHigh_eq]; rfl
  | started hstage | looked now hstage | waited now hstage | idle now hstage | left hstage
  | gaveUp now current hstage | entered now item hstage => rw [hstage]; rfl
  | resent now current hstage => rw [hstage, Link.resend_eq]; rfl
  | collected now current hstage | cleared now hstage => rw [hstage, Link.collect_eq]; rfl
  | dropped now item rest hstage hlow | drew now item rest hstage hlow => rw [hstage, hlow]; rfl
  | acquired now item hstage => rw [hstage]; rfl
  | began now item hstage => rw [hstage, Link.writeLow_eq]; rfl

theorem Advanced.permit (hadvanced : Advanced c start incidents next) :
    incidents.count .acquired + c.link.permitHeld.toNat =
      incidents.count (.released true) + incidents.count (.responded true) +
        next.link.permitHeld.toNat := by
  cases hadvanced with
  | urgent item rest => rw [Link.writeHigh_eq]; rfl
  | resent now current => rw [Link.resend_eq]; simp
  | collected now current | cleared now => rw [Link.collect_eq]; simp
  | began now item => rw [Link.writeLow_eq]; simp
  | acquired now item hstage hfree => simp [hfree]
  | left => cases c.link.permitHeld <;> rfl
  | gaveUp now current => simp [Link.abandon, Link.countFailure, Link.note, Link.record]
  | dropped now item rest => simp [Link.dropExhausted, Link.countFailure, Link.note, Link.record]
  | entered now item => simp [Link.enter]
  | started | looked now | waited now | idle now | drew now item rest => simp

theorem Advanced.begun (hadvanced : Advanced c start incidents next) :
    next.begun = c.begun + incidents.count .acquired := by
  cases hadvanced <;> simp

theorem Advanced.counters (hadvanced : Advanced c start incidents next) :
    next.link.counters.sentLow =
        c.link.counters.sentLow + incidents.countP Incident.isFirstWrite ∧
      next.link.counters.retransmissions =
        c.link.counters.retransmissions + incidents.countP Incident.isRepeat ∧
      next.link.counters.deliveryFailures =
        c.link.counters.deliveryFailures + incidents.countP Incident.isFailure := by
  cases hadvanced with
  | urgent item rest => rw [Link.writeHigh_eq]; exact ⟨rfl, rfl, rfl⟩
  | resent now current => rw [Link.resend_eq]; exact ⟨rfl, rfl, rfl⟩
  | collected now current | cleared now => rw [Link.collect_eq]; exact ⟨rfl, rfl, rfl⟩
  | began now item => rw [Link.writeLow_eq]; exact ⟨rfl, rfl, rfl⟩
  | gaveUp | dropped | entered | started | looked | waited | idle | drew | acquired | left =>
      exact ⟨rfl, rfl, rfl⟩

theorem Advanced.ends (hadvanced : Advanced c start incidents next) (exchange : Nat) :
    incidents.count (.answered exchange) + incidents.count (.gaveUp exchange) +
      (next.mayEnd exchange).toNat ≤ (c.mayEnd exchange).toNat := by
  cases hadvanced with
  | urgent item rest => rw [Link.writeHigh_eq]; simp [mayEnd]
  | started hstage | looked now hstage | waited now hstage | idle now hstage
  | drew now item rest hstage => simp [mayEnd, hstage, Stage.isStarting]
  | left hstage => simp [mayEnd, hstage, Stage.isStarting]
  | resent now current hstage hout =>
      rw [Link.resend_eq]
      simp [mayEnd, hstage, hout, Stage.isStarting]
  | gaveUp now current hstage hout =>
      rcases Nat.lt_trichotomy c.begun exchange with hbefore | rfl | hafter
      · simp [mayEnd, hbefore, Nat.ne_of_lt hbefore]
      · simp [mayEnd, hout, Stage.isStarting, Link.abandon, Link.countFailure, Link.note,
          Link.record]
      · simp [mayEnd, Nat.ne_of_gt hafter, Nat.not_lt_of_gt hafter]
  | collected now current hstage hout =>
      rw [Link.collect_eq]
      rcases Nat.lt_trichotomy c.begun exchange with hbefore | rfl | hafter
      · simp [mayEnd, hbefore, Nat.ne_of_lt hbefore]
      · simp [mayEnd, hout, Stage.isStarting]
      · simp [mayEnd, Nat.ne_of_gt hafter, Nat.not_lt_of_gt hafter]
  | cleared now hstage hout =>
      rw [Link.collect_eq]
      simp [mayEnd, hstage, hout, Stage.isStarting]
  | dropped now item rest hstage =>
      simp [mayEnd, Link.dropExhausted, Link.countFailure, Link.note, Link.record]
  | acquired now item hstage =>
      by_cases hlater : c.begun < exchange
      · simp [mayEnd, hlater, Bool.toNat_le]
      · have hbegun : ¬c.begun + 1 < exchange ∧ c.begun + 1 ≠ exchange := by omega
        simp [mayEnd, hbegun]
  | began now item hstage => rw [Link.writeLow_eq]; simp [mayEnd, hstage, Stage.isStarting]
  | entered now item hstage => simp [mayEnd, hstage, Stage.isStarting, Link.enter]

theorem Advanced.accounts (hadvanced : Advanced c start incidents next) (h : c.Fits) :
    Accounts c [] incidents next where
  fits := hadvanced.fits h
  unrefused := by cases hadvanced <;> simp
  low := by simpa using hadvanced.low
  permit := hadvanced.permit
  begun := hadvanced.begun
  sentLow := hadvanced.counters.1
  retransmissions := hadvanced.counters.2.1
  deliveryFailures := hadvanced.counters.2.2
  ends := hadvanced.ends

end Advanced

/-! ## One move -/

/-- What others than the transmitter do to a link: they free the permit and add to the queue. -/
structure Meddled (l : Link) (freed : Bool) (queued : List Item) (next : Link) : Prop where
  permitHeld : next.permitHeld = (l.permitHeld && !freed)
  sendLow : next.sendLow = l.sendLow ++ queued
  outstanding : next.outstanding = l.outstanding
  sentLow : next.counters.sentLow = l.counters.sentLow
  retransmissions : next.counters.retransmissions = l.counters.retransmissions
  deliveryFailures : next.counters.deliveryFailures = l.counters.deliveryFailures

theorem meddled_accept (l : Link) (p : Packet) :
    Meddled l (p.kind = .response) [] (l.accept p) := by
  rw [Link.accept_eq]
  constructor <;> simp

theorem meddled_sendWith (l : Link) (attempts : Nat) (priority : Priority) (p : Packet) :
    Meddled l false (Move.queued (.send attempts priority p))
      (l.sendWith attempts priority p) := by
  rw [Link.sendWith_eq]
  cases priority <;> constructor <;> simp [Move.queued]

theorem meddled_lineFails (l : Link) (failing : Bool) :
    Meddled l false [] { l with line := { l.line with failing } } := by
  constructor <;> simp

theorem Fits.meddled {c : Contention} {freed : Bool} {queued : List Item} {l : Link} (h : c.Fits)
    (hmeddled : Meddled c.link freed queued l) : Fits { c with link := l } := by
  have hkept : l.permitHeld = true → c.link.permitHeld = true := by
    rw [hmeddled.permitHeld]
    simp +contextual
  have hfree (hfree : c.link.permitHeld = false) : l.permitHeld = false := by
    rw [hmeddled.permitHeld, hfree]
    rfl
  obtain ⟨link, stage, begun⟩ := c
  unfold Fits Link.PermitOwned at *
  rw [hmeddled.outstanding]
  cases stage with
  | resting | looking now => exact fun hheld => h (hkept hheld)
  | informed held now =>
      cases held with
      | true => exact h
      | false => exact hfree h
  | drawing now | asking item now => exact ⟨hfree h.1, h.2⟩
  | granted item now | written item now | leaving | denied item => exact h

theorem Meddled.accounts {c : Contention} {freed : Bool} {queued : List Item} {l : Link}
    (hmeddled : Meddled c.link freed queued l) (h : c.Fits) :
    Accounts c queued (if freed then [.responded c.link.permitHeld] else [])
      { c with link := l } where
  fits := h.meddled hmeddled
  unrefused := by cases freed <;> simp
  low := by cases freed <;> simp [hmeddled.sendLow, Incident.departed?]
  permit := by
    cases hheld : c.link.permitHeld <;> cases freed <;> simp [hmeddled.permitHeld, hheld]
  begun := by cases freed <;> simp
  sentLow := by cases freed <;> exact hmeddled.sentLow
  retransmissions := by cases freed <;> exact hmeddled.retransmissions
  deliveryFailures := by cases freed <;> exact hmeddled.deliveryFailures
  ends exchange := by cases freed <;> simp [mayEnd, hmeddled.outstanding]

theorem accounts_step {c : Contention} (h : c.Fits) (move : Move) :
    Accounts c move.queued (c.step move).1 (c.step move).2 := by
  cases move with
  | advance now => exact (advanced h now).accounts h
  | accept p => simpa [step, Move.queued] using (meddled_accept c.link p).accounts h
  | send attempts priority p => exact (meddled_sendWith c.link attempts priority p).accounts h
  | lineFails failing => exact (meddled_lineFails c.link failing).accounts h

/-! ## A whole run -/

theorem Accounts.refl {c : Contention} (h : c.Fits) : Accounts c [] [] c := by
  constructor <;> simp [h]

theorem accounts_run {c : Contention} (h : c.Fits) (moves : List Move) :
    Accounts c (moves.flatMap Move.queued) (c.history moves) (c.run moves) := by
  -- What a stage knows carries the induction: it is part of the books after every move.
  induction moves generalizing c with
  | nil => exact .refl h
  | cons move rest ih =>
      have hstep := accounts_step h move
      exact hstep.trans (ih hstep.fits)

/-! ## After a response -/

def Freed (c : Contention) (exchange : Nat) : Prop :=
  exchange < c.begun ∨ exchange = c.begun ∧ c.link.permitHeld = false

/-- How many writes of a freed exchange the cycle under way may still come to. -/
def writesDue (c : Contention) (exchange : Nat) : Nat :=
  if exchange = c.begun ∧ c.stage.mayWrite then 1 else 0

theorem Freed.of_accounts {c next : Contention} {queued : List Item} {incidents : List Incident}
    {exchange : Nat} (hfreed : c.Freed exchange) (haccounts : Accounts c queued incidents next) :
    next.Freed exchange := by
  have hbegun := haccounts.begun
  have hpermit := haccounts.permit
  rcases hfreed with hearlier | ⟨hlast, hfree⟩
  · exact .inl (by omega)
  · rcases Nat.eq_zero_or_pos (incidents.count .acquired) with hnone | hsome
    · refine .inr ⟨by omega, ?_⟩
      rw [hnone, hfree] at hpermit
      cases hheld : next.link.permitHeld with
      | false => rfl
      | true => simp [hheld] at hpermit
    · exact .inl (by omega)

/--
A look at the permit of a freed exchange cannot lead to a write, and without a look no step makes up
for the writes it uses.
-/
def Spares (c : Contention) (exchange : Nat) (incidents : List Incident) (next : Contention) :
    Prop :=
  (∃ held, incidents = [.looked held]) ∧ next.writesDue exchange = 0 ∨
    (∀ incident ∈ incidents, incident.isLook = false) ∧
      incidents.countP (Incident.writes exchange) + next.writesDue exchange ≤
        c.writesDue exchange

theorem Advanced.spares {c next : Contention} {start : Instant} {incidents : List Incident}
    {exchange : Nat} (hadvanced : Advanced c start incidents next) (hfreed : c.Freed exchange) :
    c.Spares exchange incidents next := by
  cases hadvanced with
  | looked now hstage =>
      refine .inl ⟨⟨_, rfl⟩, ?_⟩
      cases hheld : c.link.permitHeld with
      | false => simp [writesDue, Stage.mayWrite]
      | true =>
          have hearlier : exchange ≠ c.begun := by
            rintro rfl
            simp [Freed, hheld] at hfreed
          simp [writesDue, hearlier]
  | acquired now item hstage =>
      have hearlier : exchange ≠ c.begun + 1 := by
        rintro rfl
        rcases hfreed with hbefore | ⟨hlast, -⟩ <;> omega
      right
      simp [writesDue, hearlier, Incident.isLook, Incident.writes]
  | resent now current hstage | began now item hstage =>
      right
      by_cases hlast : c.begun = exchange <;>
        simp [writesDue, hstage, hlast, Stage.mayWrite, Incident.isLook, Incident.writes]
  | urgent item rest hstage | started hstage | waited now hstage | gaveUp now current hstage
  | collected now current hstage | cleared now hstage | idle now hstage
  | dropped now item rest hstage | drew now item rest hstage | entered now item hstage
  | left hstage =>
      right
      simp [writesDue, hstage, Stage.mayWrite, Incident.isLook, Incident.writes]

theorem spares_step {c : Contention} {exchange : Nat} (h : c.Fits) (hfreed : c.Freed exchange)
    (move : Move) : c.Spares exchange (c.step move).1 (c.step move).2 := by
  cases move with
  | advance now => exact (advanced h now).spares hfreed
  | send attempts priority p | lineFails failing =>
      exact .inr ⟨by simp [step], Nat.le_of_eq (Nat.zero_add _)⟩
  | accept p =>
      right
      by_cases hkind : p.kind = .response <;>
        simp [step, hkind, writesDue, Incident.isLook, Incident.writes]

theorem writes_of_freed {c : Contention} {exchange : Nat} (h : c.Fits) (hfreed : c.Freed exchange)
    (moves : List Move) :
    ((c.history moves).takeWhile (!·.isLook)).countP (Incident.writes exchange) ≤
        c.writesDue exchange ∧
      ((c.history moves).dropWhile (!·.isLook)).countP (Incident.writes exchange) = 0 := by
  -- The exchange stays freed, so a later look finds the permit free or held by another exchange.
  induction moves generalizing c with
  | nil => simp [history]
  | cons move rest ih =>
      have haccounts := accounts_step h move
      obtain ⟨hsoon, hlate⟩ := ih haccounts.fits (hfreed.of_accounts haccounts)
      rcases spares_step h hfreed move with ⟨⟨held, hlook⟩, hdue⟩ | ⟨hquiet, hdue⟩
      · have hall : ((c.step move).2.history rest).countP (Incident.writes exchange) = 0 := by
          rw [← List.takeWhile_append_dropWhile (p := fun incident => !incident.isLook)
            (l := (c.step move).2.history rest), List.countP_append, hlate]
          omega
        simp [history, hlook, Incident.isLook, Incident.writes, hall]
      · have hpass : ∀ incident ∈ (c.step move).1, (!incident.isLook) = true := by
          simpa using hquiet
        rw [history, List.takeWhile_append_of_pos hpass, List.dropWhile_append_of_pos hpass,
          List.countP_append]
        exact ⟨by omega, hlate⟩

/-! ## Responses and cycles -/

theorem writesDue_le (c : Contention) (exchange : Nat) : c.writesDue exchange ≤ 1 := by
  unfold writesDue
  split <;> decide

theorem fits_fresh (tuning : Tuning) : (fresh tuning).Fits := nofun

/--
The steps of a cycle come to the cycle when nothing falls between them.  On every run in which
anything does, the permit is never refused, and every packet queued has left the queue for good, is
held or is still queued, in its order; between cycles a held permit belongs to an exchange; the
permit is held exactly when it was taken once more often than given back; an exchange ends once, as
answered or as failed; and an exchange whose permit a response gives back is written once more at
most, by a cycle that looked at the permit before.
-/
theorem responses_race_cycles (tuning : Tuning) (moves : List Move) :
    let c := (fresh tuning).run moves
    let h := (fresh tuning).history moves
    (∀ l now begun, Completes ⟨l, .resting, begun⟩ now (l.cycle now)) ∧
      .refused ∉ h ∧
      moves.flatMap Move.queued =
        h.filterMap Incident.departed? ++ (c.stage.hand ++ c.link.sendLow) ∧
      (c.stage = .resting → c.link.PermitOwned) ∧
      h.count .acquired =
        h.count (.released true) + h.count (.responded true) + c.link.permitHeld.toNat ∧
      c.begun = h.count .acquired ∧
      c.link.counters.sentLow = h.countP Incident.isFirstWrite ∧
      c.link.counters.retransmissions = h.countP Incident.isRepeat ∧
      c.link.counters.deliveryFailures = h.countP Incident.isFailure ∧
      (∀ exchange, h.count (.answered exchange) + h.count (.gaveUp exchange) ≤ 1) ∧
      ∀ p later, p.kind = .response → c.link.permitHeld = true →
        let after := (c.step (.accept p)).2.history later
        (after.takeWhile (!·.isLook)).countP (Incident.writes c.begun) ≤ 1 ∧
          (after.dropWhile (!·.isLook)).countP (Incident.writes c.begun) = 0 := by
  intro c h
  have haccounts : Accounts (fresh tuning) (moves.flatMap Move.queued) h c :=
    accounts_run (fits_fresh tuning) moves
  refine ⟨completes_cycle, haccounts.unrefused, ?_, ?_, ?_, ?_, ?_, ?_, ?_, ?_, ?_⟩
  · simpa [fresh, Stage.hand] using haccounts.low
  · intro hresting
    have hfits := haccounts.fits
    unfold Fits at hfits
    rw [hresting] at hfits
    exact hfits
  · simpa [fresh] using haccounts.permit
  · simpa [fresh] using haccounts.begun
  · simpa [fresh] using haccounts.sentLow
  · simpa [fresh] using haccounts.retransmissions
  · simpa [fresh] using haccounts.deliveryFailures
  · intro exchange
    have hends := haccounts.ends exchange
    have hmost := Bool.toNat_le ((fresh tuning).mayEnd exchange)
    omega
  · intro p later hkind hheld
    have hfree : (c.link.accept p).permitHeld = false := by
      rw [Link.accept_eq]
      simp [hkind]
    have hfreed : (c.step (.accept p)).2.Freed c.begun := .inr ⟨rfl, hfree⟩
    obtain ⟨hsoon, hlate⟩ :=
      writes_of_freed (accounts_step haccounts.fits (.accept p)).fits hfreed later
    exact ⟨Nat.le_trans hsoon (writesDue_le _ _), hlate⟩

example :
    let advance := Move.advance
    let response := Move.accept (.sealed .response [0x00] [])
    let first := [.send 2 .low (.sealed .commonCommand [0x03] [])] ++ List.replicate 7 (advance 0)
    let second := [advance 500000000, advance 500000000, response, advance 500000000]
    let third := List.replicate 4 (advance 600000000)
    ((fresh {}).run first).history (second ++ third) =
      [.looked true, .responded true, .resent 1, .finished .retransmitted,
        .looked false, .answered 1, .finished .idle] := by
  rfl

end Contention

end Esp3Host

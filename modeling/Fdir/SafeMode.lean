/-
This file states what `watchdog` makes of the samples it takes.

The mode is read, decided, broadcast and stored in separate steps while the power process
keeps copying its own flag over it. When signals are handled as soon as they are sent, the
flag, the bus and the last broadcast still move together: between two ticks all three are
the state of a plain hysteresis automaton run over the samples so far. A ground command for
safe mode has no part in it, because nothing reads the flag it sets.
-/

import Fdir.ChildPids
import Fdir.ModeStores

namespace Fdir

/-! ### The automaton -/

theorem Sample.isCritical_iff (sample : Sample) :
    sample.isCritical = true ↔ sample.batt ≤ batteryCritical ∨ tempCritical ≤ sample.temp := by
  rw [Sample.isCritical, Bool.or_eq_true, decide_eq_true_eq, decide_eq_true_eq]

theorem Sample.apart (sample : Sample) (critical : sample.isCritical = true) :
    sample.isNominal = false := by
  rw [Sample.isCritical_iff] at critical
  rw [Sample.isNominal, Bool.and_eq_false_iff, Bool.and_eq_false_iff, decide_eq_false_iff_not,
    decide_eq_false_iff_not]
  rcases critical with low | hot
  · exact .inl (.inl (FloatOrder.not_lt_of_le low (by decide)))
  · exact .inl (.inr (FloatOrder.not_lt_of_ge hot (by decide)))

/-- The hysteresis automaton over samples. -/
def watchdogLatch : Latch Sample where
  critical := Sample.isCritical
  warning _ := false
  nominal := Sample.isNominal
  apart := Sample.apart

/-- The mode a broadcast announces. -/
def Broadcast.mode? : Broadcast → Option Bool
  | safeMode _ => some modeSafe
  | safeModeExit => some modeNormal
  | shutdown => none

def ObcEvent.sampled? : ObcEvent → Option Sample
  | sampled sample => some sample
  | _ => none

def ObcEvent.announced? : ObcEvent → Option Bool
  | began broadcast => broadcast.mode?
  | _ => none

/-- The samples taken so far. -/
def samples (events : List ObcEvent) : List Sample := events.filterMap ObcEvent.sampled?

/-- The modes announced so far. -/
def announcements (events : List ObcEvent) : List Bool := events.filterMap ObcEvent.announced?

theorem samples_snoc (events : List ObcEvent) (event : ObcEvent) :
    samples (events ++ [event]) = samples events ++ event.sampled?.toList := by
  rw [samples, List.filterMap_append, List.filterMap_cons, List.filterMap_nil]
  cases event.sampled? <;> rfl

theorem announcements_snoc (events : List ObcEvent) (event : ObcEvent) :
    announcements (events ++ [event]) = announcements events ++ event.announced?.toList := by
  rw [announcements, List.filterMap_append, List.filterMap_cons, List.filterMap_nil]
  cases event.announced? <;> rfl

/-- What the events so far amount to: the mode announced last, the state of the automaton over
the samples, and the number of announcements since the last sample. -/
structure Ledger where
  announced : Bool
  decided : Bool
  announcedThisTick : Nat

def Ledger.record (ledger : Ledger) (event : ObcEvent) : Ledger where
  announced := event.announced?.getD ledger.announced
  decided := event.sampled?.elim ledger.decided (watchdogLatch.next ledger.decided)
  announcedThisTick :=
    if event.sampled?.isSome then 0
    else if event.announced?.isSome then ledger.announcedThisTick + 1
    else ledger.announcedThisTick

def ledger (events : List ObcEvent) : Ledger := events.foldl Ledger.record ⟨false, false, 0⟩

theorem ledger_snoc (events : List ObcEvent) (event : ObcEvent) :
    ledger (events ++ [event]) = (ledger events).record event := by
  rw [ledger, List.foldl_append]
  rfl

theorem decided_ledger (events : List ObcEvent) :
    (ledger events).decided = watchdogLatch.after (samples events) := by
  induction events using List.reverseRecOn with
  | nil => rfl
  | append_singleton front event inductionHypothesis =>
    rw [ledger_snoc, samples_snoc, Ledger.record, inductionHypothesis]
    cases event.sampled? with
    | none => rw [Option.elim_none, Option.toList_none, List.append_nil]
    | some sample => exact (watchdogLatch.after_snoc _ _).symm

/-! ### Prompt signals -/

/-- Some live child has not handled a signal yet. -/
def Obc.Unhandled (obc : Obc) : Prop :=
  ∃ who child signal, obc.children who = some child ∧ child.status = .alive ∧
    child.pending signal = true

/-- Handling a signal, and exiting. -/
def ObcAction.settles : ObcAction → Bool
  | handle _ _ | exit _ => true
  | _ => false

/-- Nothing but its handling, or a child's exit, comes between a signal and its handling. -/
def Prompt (obc : Obc) (action : ObcAction) : Prop := obc.Unhandled → action.settles = true

instance (obc : Obc) : Decidable obc.Unhandled :=
  decidable_of_iff
    (∃ who ∈ broadcastOrder, ∃ child ∈ obc.children who, child.status = .alive ∧
      ∃ signal ∈ [Signal.sigusr1, .sigusr2, .sigterm], child.pending signal = true)
    (by
      constructor
      · rintro ⟨who, _, child, found, alive, signal, _, pending⟩
        exact ⟨who, child, signal, found, alive, pending⟩
      · rintro ⟨who, child, signal, found, alive, pending⟩
        exact ⟨who, mem_broadcastOrder who, child, found, alive, signal,
          by cases signal <;> decide, pending⟩)

instance (obc : Obc) (action : ObcAction) : Decidable (Prompt obc action) :=
  inferInstanceAs (Decidable (_ → _))

/-- The mode a child is in once it has handled what is pending. -/
def ChildProc.mode (child : ChildProc) : Bool :=
  if child.pending .sigusr1 then true
  else if child.pending .sigusr2 then false
  else child.flags.gSafeMode

/-! ### The flag, the bus and the last announcement -/

/-- The power process has yet to be signalled in the broadcast of a mode. -/
def ObcPc.powerWaits : ObcPc → Bool
  | testing broadcast rest => broadcast.mode?.isSome && rest = broadcastOrder
  | killing broadcast who _ => broadcast.mode?.isSome && who = .power
  | _ => false

/-- The mode the power process is in. -/
def powerMode (pc : ObcPc) (announced : Bool) : Bool := announced != pc.powerWaits

/-- What holds of the bus and the ledger where `main` is. -/
def ObcPc.Agrees (pc : ObcPc) (bus : Bool) (ledger : Ledger) : Prop :=
  match pc with
  | starting _ | assigning _ _ _ =>
    ledger.announced = false ∧ bus = false ∧ ledger.decided = false ∧ ledger.announcedThisTick ≤ 1
  | enterTest taken =>
    taken.safe = ledger.announced ∧ bus = ledger.announced ∧
      ledger.decided = watchdogLatch.next ledger.announced taken ∧ ledger.announcedThisTick = 0
  | exitTest taken =>
    bus = ledger.announced ∧
      if taken.safe then ledger.announced = true ∧
        ledger.decided = watchdogLatch.next true taken ∧ ledger.announcedThisTick = 0
      else ledger.decided = ledger.announced ∧ ledger.announcedThisTick ≤ 1
  | testing (.safeMode taken) rest =>
    taken.safe = false ∧ ledger.announced = true ∧ ledger.decided = true ∧
      rest <:+ broadcastOrder ∧ (rest = broadcastOrder → bus = false) ∧
      ledger.announcedThisTick ≤ 1
  | killing (.safeMode taken) who rest =>
    taken.safe = false ∧ ledger.announced = true ∧ ledger.decided = true ∧
      who :: rest <:+ broadcastOrder ∧ (who = .power → bus = false) ∧
      ledger.announcedThisTick ≤ 1
  | storeSafe taken =>
    taken.safe = false ∧ ledger.announced = true ∧ ledger.decided = true ∧
      ledger.announcedThisTick ≤ 1
  | testing .safeModeExit rest =>
    ledger.announced = false ∧ ledger.decided = false ∧ rest <:+ broadcastOrder ∧
      (rest = broadcastOrder → bus = true) ∧ ledger.announcedThisTick ≤ 1
  | killing .safeModeExit who rest =>
    ledger.announced = false ∧ ledger.decided = false ∧ who :: rest <:+ broadcastOrder ∧
      (who = .power → bus = true) ∧ ledger.announcedThisTick ≤ 1
  | storeNormal =>
    ledger.announced = false ∧ ledger.decided = false ∧ ledger.announcedThisTick ≤ 1
  | _ => bus = ledger.announced ∧ ledger.decided = ledger.announced ∧ ledger.announcedThisTick ≤ 1

/-- How the children, the bus and the ledger go together in runs with prompt signals. -/
structure Obc.Watching (obc : Obc) (events : List ObcEvent) : Prop where
  named : obc.Named
  follows : Follows (ledger events).announced (announcements events)
  agrees : obc.pc.Agrees obc.bus.safeMode (ledger events)
  power : ∀ child, obc.children .power = some child → child.status = .alive →
    child.mode = powerMode obc.pc (ledger events).announced ∧
      ¬ (child.pending .sigusr1 = true ∧ child.pending .sigusr2 = true)

/-! ### What one step keeps -/

/-- The broadcasts begin with the power process. -/
theorem suffix_broadcastOrder {who : Subsystem} {rest : List Subsystem}
    (suffix : who :: rest <:+ broadcastOrder) :
    rest <:+ broadcastOrder ∧ rest ≠ broadcastOrder ∧
      (who = .power ↔ who :: rest = broadcastOrder) := by
  refine ⟨(List.suffix_cons who rest).trans suffix, ?_, ?_, ?_⟩
  · rintro rfl
    have length := suffix.length_le
    rw [List.length_cons] at length
    omega
  · rintro rfl
    simpa [broadcastOrder, List.suffix_cons_iff] using suffix
  · rintro same
    exact (List.cons.inj same).1

/-- Delivering a signal to a child with nothing pending puts it in the mode the signal is for. -/
theorem ChildProc.mode_deliver {child : ChildProc} (none : ∀ signal, child.pending signal = false)
    (broadcast : Broadcast) :
    let delivered :=
      { child with pending := Function.update child.pending broadcast.signal true }
    ChildProc.mode delivered = broadcast.mode?.getD child.mode ∧
      ¬ (delivered.pending .sigusr1 = true ∧ delivered.pending .sigusr2 = true) := by
  cases broadcast <;>
    simp [ChildProc.mode, Broadcast.signal, Broadcast.mode?, Function.update, none]

/-- Handling a pending signal does not change the mode a child is in. -/
theorem ChildProc.mode_handle {child : ChildProc} {signal : Signal}
    (pending : child.pending signal = true)
    (single : ¬ (child.pending .sigusr1 = true ∧ child.pending .sigusr2 = true)) :
    let handled :=
      { child with
        flags := childHandler signal child.flags
        pending := Function.update child.pending signal false }
    ChildProc.mode handled = child.mode ∧
      ¬ (handled.pending .sigusr1 = true ∧ handled.pending .sigusr2 = true) := by
  cases signal <;> cases first : child.pending .sigusr1 <;>
    cases second : child.pending .sigusr2 <;>
    simp_all [ChildProc.mode, childHandler, handleSigusr1, handleSigusr2, handleSigint,
      Function.update]

/-- A child that is gone does not matter to what holds of a live power process. -/
theorem Children.power_update_of_gone {children : Children} {Property : ChildProc → Prop}
    {who : Subsystem} {child : ChildProc} (gone : child.status ≠ .alive)
    (power : ∀ child, children .power = some child → child.status = .alive → Property child)
    (child' : ChildProc) (found : Function.update children who (some child) .power = some child')
    (alive : child'.status = .alive) : Property child' := by
  rcases Children.update_eq_some.mp found with ⟨_, rfl⟩ | ⟨_, found⟩
  · exact absurd alive gone
  · exact power child' found alive

namespace Obc.Watching

variable {obc next : Obc} {events : List ObcEvent}

theorem start : Obc.start.Watching [] where
  named := Obc.named_start
  follows := .nil
  agrees := ⟨rfl, rfl, rfl, Nat.zero_le _⟩
  power _ found := by cases found

/-- Before the signal of a subsystem what holds is what held before its test. -/
theorem agrees_killing_iff {broadcast : Broadcast} {who : Subsystem} {rest : List Subsystem}
    {bus : Bool} {ledger : Ledger} :
    (ObcPc.killing broadcast who rest).Agrees bus ledger ↔
      (ObcPc.testing broadcast (who :: rest)).Agrees bus ledger := by
  cases broadcast with
  | safeMode taken =>
    constructor
    · rintro ⟨normal, announced, decided, suffix, bus, atMost⟩
      exact ⟨normal, announced, decided, suffix,
        fun all => bus ((suffix_broadcastOrder suffix).2.2.mpr all), atMost⟩
    · rintro ⟨normal, announced, decided, suffix, bus, atMost⟩
      exact ⟨normal, announced, decided, suffix,
        fun same => bus ((suffix_broadcastOrder suffix).2.2.mp same), atMost⟩
  | safeModeExit =>
    constructor
    · rintro ⟨announced, decided, suffix, bus, atMost⟩
      exact ⟨announced, decided, suffix,
        fun all => bus ((suffix_broadcastOrder suffix).2.2.mpr all), atMost⟩
    · rintro ⟨announced, decided, suffix, bus, atMost⟩
      exact ⟨announced, decided, suffix,
        fun same => bus ((suffix_broadcastOrder suffix).2.2.mp same), atMost⟩
  | shutdown => exact Iff.rfl

/-- Once a subsystem has been dealt with, the bus is no longer tied to the mode before. -/
theorem agrees_rest {broadcast : Broadcast} {who : Subsystem} {rest : List Subsystem}
    {bus : Bool} {ledger : Ledger}
    (agrees : (ObcPc.testing broadcast (who :: rest)).Agrees bus ledger) :
    (ObcPc.testing broadcast rest).Agrees bus ledger := by
  cases broadcast with
  | safeMode taken =>
    obtain ⟨normal, announced, decided, suffix, _, atMost⟩ := agrees
    obtain ⟨shorter, different, _⟩ := suffix_broadcastOrder suffix
    exact ⟨normal, announced, decided, shorter, fun same => absurd same different, atMost⟩
  | safeModeExit =>
    obtain ⟨announced, decided, suffix, _, atMost⟩ := agrees
    obtain ⟨shorter, different, _⟩ := suffix_broadcastOrder suffix
    exact ⟨announced, decided, shorter, fun same => absurd same different, atMost⟩
  | shutdown => exact agrees

/-- A statement of `main` keeps the bus and the ledger together. -/
theorem agrees_statement {emitted : List ObcEvent}
    (agrees : obc.pc.Agrees obc.bus.safeMode (ledger events))
    (statement : obc.Statement next emitted) :
    next.pc.Agrees next.bus.safeMode (ledger (events ++ emitted)) := by
  cases statement with
  | started atPc =>
    rw [atPc] at agrees
    obtain ⟨announced, bus, decided, atMost⟩ := agrees
    rw [List.append_nil]
    exact ⟨bus.trans announced.symm, decided.trans announced.symm, atMost⟩
  | assign who pid todo atPc =>
    rw [atPc] at agrees
    rwa [List.append_nil]
  | shutDown atPc =>
    rw [atPc] at agrees
    rw [ledger_snoc]
    exact agrees
  | count atPc | tick atPc =>
    rw [atPc] at agrees
    rwa [List.append_nil]
  | sample atPc =>
    rw [atPc] at agrees
    obtain ⟨bus, decided, atMost⟩ := agrees
    rw [ledger_snoc]
    refine ⟨bus, bus, ?_, rfl⟩
    change watchdogLatch.next (ledger events).decided _ = _
    rw [decided]
    rfl
  | enter taken atPc normal isCritical =>
    rw [atPc] at agrees
    obtain ⟨safe, bus, decided, none⟩ := agrees
    rw [ledger_snoc]
    refine ⟨normal, rfl, ?_, List.suffix_rfl, fun _ => ?_, ?_⟩
    · exact decided.trans (watchdogLatch.next_of_critical isCritical)
    · exact (bus.trans safe.symm).trans normal
    · change (ledger events).announcedThisTick + 1 ≤ 1
      rw [none]
  | noEnter taken atPc other =>
    rw [atPc] at agrees
    obtain ⟨safe, bus, decided, none⟩ := agrees
    rw [List.append_nil]
    refine ⟨bus, ?_⟩
    rw [← safe] at decided
    cases was : taken.safe with
    | true =>
      rw [was] at decided safe
      exact ⟨safe.symm, decided, none⟩
    | false =>
      rw [was] at decided safe
      have notCritical : taken.isCritical = false :=
        other.resolve_left (by rw [was]; exact Bool.false_ne_true)
      refine ⟨?_, by rw [none]; exact Nat.zero_le _⟩
      rw [decided, ← safe]
      exact watchdogLatch.next_clear notCritical
  | broadcasted broadcast atPc =>
    rw [atPc] at agrees
    rw [List.append_nil]
    cases broadcast with
    | safeMode taken =>
      obtain ⟨normal, announced, decided, _, _, atMost⟩ := agrees
      exact ⟨normal, announced, decided, atMost⟩
    | safeModeExit =>
      obtain ⟨announced, decided, _, _, atMost⟩ := agrees
      exact ⟨announced, decided, atMost⟩
    | shutdown => exact agrees
  | tested broadcast who rest atPc =>
    rw [atPc] at agrees
    rw [List.append_nil]
    exact agrees_killing_iff.mpr agrees
  | skipped broadcast who rest atPc =>
    rw [atPc] at agrees
    rw [List.append_nil]
    exact agrees_rest agrees
  | kill broadcast who rest atPc =>
    rw [atPc] at agrees
    rw [ledger_snoc]
    exact agrees_rest (agrees_killing_iff.mp agrees)
  | storeSafe taken atPc =>
    rw [atPc] at agrees
    obtain ⟨normal, announced, decided, atMost⟩ := agrees
    rw [ledger_snoc]
    refine ⟨announced.symm, ?_⟩
    rw [normal]
    exact ⟨decided.trans announced.symm, atMost⟩
  | leave taken atPc safe isNominal =>
    rw [atPc] at agrees
    obtain ⟨bus, agrees⟩ := agrees
    rw [safe] at agrees
    obtain ⟨announced, decided, none⟩ := agrees
    rw [ledger_snoc]
    refine ⟨rfl, ?_, List.suffix_rfl, fun _ => bus.trans announced, ?_⟩
    · exact decided.trans (watchdogLatch.next_of_nominal isNominal)
    · change (ledger events).announcedThisTick + 1 ≤ 1
      rw [none]
  | noLeave taken atPc other =>
    rw [atPc] at agrees
    obtain ⟨bus, agrees⟩ := agrees
    rw [List.append_nil]
    cases safe : taken.safe with
    | false =>
      rw [safe] at agrees
      exact ⟨bus, agrees.1, agrees.2⟩
    | true =>
      rw [safe] at agrees
      obtain ⟨announced, decided, none⟩ := agrees
      have notNominal : taken.isNominal = false :=
        other.resolve_left (by rw [safe]; exact Bool.true_eq_false.mp)
      refine ⟨bus, ?_, by rw [none]; exact Nat.zero_le _⟩
      rw [decided, announced]
      exact watchdogLatch.next_set notNominal
  | storeNormal atPc =>
    rw [atPc] at agrees
    obtain ⟨announced, decided, atMost⟩ := agrees
    rw [ledger_snoc]
    exact ⟨announced.symm, decided.trans announced.symm, atMost⟩
  | noChild calls atPc | waited atPc =>
    rw [atPc] at agrees
    rwa [List.append_nil]

/-- A statement of `main` announces nothing or the other mode. -/
theorem follows_statement {emitted : List ObcEvent}
    (follows : Follows (ledger events).announced (announcements events))
    (agrees : obc.pc.Agrees obc.bus.safeMode (ledger events))
    (statement : obc.Statement next emitted) :
    Follows (ledger (events ++ emitted)).announced (announcements (events ++ emitted)) := by
  have silent : ∀ event, ObcEvent.announced? event = none →
      Follows (ledger (events ++ [event])).announced (announcements (events ++ [event])) := by
    intro event none
    rw [ledger_snoc, announcements_snoc, Ledger.record, none]
    simpa using follows
  have changed : ∀ event, ObcEvent.announced? event = some (!(ledger events).announced) →
      Follows (ledger (events ++ [event])).announced (announcements (events ++ [event])) := by
    intro event change
    rw [ledger_snoc, announcements_snoc, Ledger.record, change]
    exact follows.snoc
  cases statement with
  | enter taken atPc normal =>
    rw [atPc] at agrees
    refine changed _ ?_
    rw [← agrees.1, normal]
    rfl
  | leave taken atPc safe =>
    rw [atPc] at agrees
    obtain ⟨_, agrees⟩ := agrees
    rw [safe] at agrees
    refine changed _ ?_
    rw [agrees.1]
    rfl
  | shutDown | sample | kill | storeSafe | storeNormal => exact silent _ rfl
  | _ =>
    rw [List.append_nil]
    exact follows

/-- Inside the broadcast of a mode, that mode was announced last, and an end of the list of
subsystems is still to be dealt with. -/
theorem agrees_testing {broadcast : Broadcast} {rest : List Subsystem} {mode bus : Bool}
    {ledger : Ledger} (agrees : (ObcPc.testing broadcast rest).Agrees bus ledger)
    (announces : broadcast.mode? = some mode) :
    ledger.announced = mode ∧ rest <:+ broadcastOrder := by
  cases broadcast with
  | safeMode =>
    cases announces
    exact ⟨agrees.2.1, agrees.2.2.2.1⟩
  | safeModeExit =>
    cases announces
    exact ⟨agrees.1, agrees.2.2.1⟩
  | shutdown => cases announces

/-- The test of a subsystem does not change whether the power process waits. -/
theorem powerWaits_killing {broadcast : Broadcast} {who : Subsystem} {rest : List Subsystem}
    {bus : Bool} {ledger : Ledger}
    (agrees : (ObcPc.testing broadcast (who :: rest)).Agrees bus ledger) :
    (ObcPc.killing broadcast who rest).powerWaits =
      (ObcPc.testing broadcast (who :: rest)).powerWaits := by
  rw [ObcPc.powerWaits, ObcPc.powerWaits]
  cases announces : broadcast.mode? with
  | none => rfl
  | some mode =>
    have suffix := (agrees_testing agrees announces).2
    rw [decide_eq_decide.mpr (suffix_broadcastOrder suffix).2.2]

theorem agrees_testing_powerMode {broadcast : Broadcast} {rest : List Subsystem} {bus : Bool}
    {ledger : Ledger} (agrees : (ObcPc.testing broadcast rest).Agrees bus ledger) :
    (ObcPc.testing broadcast rest).Agrees (powerMode (.testing broadcast rest) ledger.announced)
      ledger := by
  cases broadcast with
  | safeMode =>
    obtain ⟨normal, announced, decided, suffix, _, atMost⟩ := agrees
    refine ⟨normal, announced, decided, suffix, ?_, atMost⟩
    rintro rfl
    rw [announced]
    rfl
  | safeModeExit =>
    obtain ⟨announced, decided, suffix, _, atMost⟩ := agrees
    refine ⟨announced, decided, suffix, ?_, atMost⟩
    rintro rfl
    rw [announced]
    rfl
  | shutdown =>
    obtain ⟨_, decided, atMost⟩ := agrees
    exact ⟨Bool.bne_false _, decided, atMost⟩

/-- The bus may show the mode the power process is in, wherever `main` is. -/
theorem agrees_powerMode {pc : ObcPc} {bus : Bool} {ledger : Ledger}
    (agrees : pc.Agrees bus ledger) : pc.Agrees (powerMode pc ledger.announced) ledger := by
  cases pc with
  | starting | assigning =>
    obtain ⟨announced, _, decided, atMost⟩ := agrees
    exact ⟨announced, by rw [announced]; rfl, decided, atMost⟩
  | loop | sample | waiting | finished =>
    obtain ⟨_, decided, atMost⟩ := agrees
    exact ⟨Bool.bne_false _, decided, atMost⟩
  | enterTest =>
    obtain ⟨safe, _, decided, none⟩ := agrees
    exact ⟨safe, Bool.bne_false _, decided, none⟩
  | exitTest => exact ⟨Bool.bne_false _, agrees.2⟩
  | storeSafe | storeNormal => exact agrees
  | testing broadcast rest => exact agrees_testing_powerMode agrees
  | killing broadcast who rest =>
    have tested := agrees_killing_iff.mp agrees
    rw [powerMode, powerWaits_killing tested]
    exact agrees_killing_iff.mpr (agrees_testing_powerMode tested)

/-- The signal of a broadcast takes the power process to the mode announced last, and the signal of
one that announces no mode leaves it where it was. -/
theorem power_kill (watching : obc.Watching events) {broadcast : Broadcast} {who : Subsystem}
    {rest : List Subsystem} (atPc : obc.pc = .killing broadcast who rest)
    (handled : ¬ obc.Unhandled) {child : ChildProc}
    (found : Fdir.kill (obc.gPid who) broadcast.signal obc.children .power = some child)
    (alive : child.status = .alive) :
    child.mode = powerMode (.testing broadcast rest) (ledger events).announced ∧
      ¬ (child.pending .sigusr1 = true ∧ child.pending .sigusr2 = true) := by
  obtain ⟨named, _, agrees, power⟩ := watching
  rw [atPc] at agrees power
  obtain ⟨before, same, rfl⟩ := Option.map_eq_some_iff.mp found
  have status : before.status = .alive := by
    split at alive <;> exact alive
  have none : ∀ signal, before.pending signal = false := fun signal =>
    Bool.eq_false_iff.mpr fun pending => handled ⟨_, before, signal, same, status, pending⟩
  obtain ⟨mode, single⟩ := power before same status
  have delivered := ChildProc.mode_deliver none broadcast
  cases announces : broadcast.mode? with
  | none =>
    have keeps : ∀ pc : ObcPc, pc.powerWaits = false →
        powerMode pc (ledger events).announced = (ledger events).announced := by
      intro pc waits
      rw [powerMode, waits, Bool.bne_false]
    have waiting : (ObcPc.killing broadcast who rest).powerWaits = false := by
      rw [ObcPc.powerWaits, announces]
      rfl
    have waiting' : (ObcPc.testing broadcast rest).powerWaits = false := by
      rw [ObcPc.powerWaits, announces]
      rfl
    rw [keeps _ waiting']
    rw [keeps _ waiting] at mode
    rw [announces] at delivered
    split
    · exact ⟨delivered.1.trans mode, delivered.2⟩
    · exact ⟨mode, single⟩
  | some announced =>
    obtain ⟨last, suffix⟩ := agrees_testing (agrees_killing_iff.mp agrees) announces
    have waiting : (ObcPc.testing broadcast rest).powerWaits = false := by
      rw [ObcPc.powerWaits, decide_eq_false (suffix_broadcastOrder suffix).2.1, Bool.and_false]
    rw [powerMode, waiting, Bool.bne_false, last]
    rw [announces] at delivered
    split
    · exact delivered
    next missed =>
      -- A live power process is not missed when it is the one addressed.
      have other : who ≠ .power := by
        rintro rfl
        exact missed ⟨status, named.reaches_gPid (by rw [atPc]; rfl) same status⟩
      rw [powerMode, ObcPc.powerWaits, decide_eq_false other, Bool.and_false, Bool.bne_false,
        last] at mode
      exact ⟨mode, single⟩

/-- In a statement made while no signal is unhandled, the power process keeps to its mode. -/
theorem power_statement (watching : obc.Watching events) {emitted : List ObcEvent}
    (statement : obc.Statement next emitted) (handled : ¬ obc.Unhandled) (child : ChildProc)
    (found : next.children .power = some child) (alive : child.status = .alive) :
    child.mode = powerMode next.pc (ledger (events ++ emitted)).announced ∧
      ¬ (child.pending .sigusr1 = true ∧ child.pending .sigusr2 = true) := by
  have ⟨named, _, agrees, power⟩ := watching
  -- Apart from the signals themselves, only what the flag is compared with may move.
  have quiet : ∀ {mode}, obc.children .power = some child →
      powerMode obc.pc (ledger events).announced = mode →
      child.mode = mode ∧ ¬ (child.pending .sigusr1 = true ∧ child.pending .sigusr2 = true) := by
    rintro mode before rfl
    exact power child before alive
  cases statement with
  | kill broadcast who rest atPc =>
    rw [ledger_snoc]
    exact watching.power_kill atPc handled found alive
  | enter taken atPc normal =>
    rw [atPc] at agrees
    refine quiet found ?_
    rw [atPc, ledger_snoc, ← agrees.1, normal]
    rfl
  | leave taken atPc safe =>
    rw [atPc] at agrees
    obtain ⟨_, agrees⟩ := agrees
    rw [safe] at agrees
    refine quiet found ?_
    rw [atPc, ledger_snoc, agrees.1]
    rfl
  | broadcasted broadcast atPc =>
    refine quiet found ?_
    rw [atPc, List.append_nil]
    cases broadcast <;> rfl
  | tested broadcast who rest atPc =>
    refine quiet found ?_
    rw [atPc] at agrees
    rw [atPc, List.append_nil, powerMode, powerMode, powerWaits_killing agrees]
  | skipped broadcast who rest atPc absent =>
    refine quiet found ?_
    rw [atPc] at agrees
    rw [atPc, List.append_nil, powerMode, powerMode, ObcPc.powerWaits, ObcPc.powerWaits]
    cases announces : broadcast.mode? with
    | none => rfl
    | some announced =>
      obtain ⟨_, different, first⟩ := suffix_broadcastOrder (agrees_testing agrees announces).2
      -- A live power process is not skipped.
      have other : who ≠ .power := by
        rintro rfl
        exact absent (named.gPid_pos (by rw [atPc]; rfl) found alive)
      rw [decide_eq_false different, decide_eq_false fun same => other (first.mpr same)]
  | count atPc =>
    refine quiet found ?_
    rw [atPc, List.append_nil]
  | started atPc | tick atPc | noEnter _ atPc | noLeave _ atPc | assign _ _ _ atPc
  | noChild _ atPc | waited atPc =>
    refine quiet found ?_
    rw [atPc, List.append_nil]
    rfl
  | shutDown atPc | sample atPc | storeNormal atPc | storeSafe _ atPc =>
    refine quiet found ?_
    rw [atPc, ledger_snoc]
    rfl

theorem step (watching : obc.Watching events) {action : ObcAction} {emitted : List ObcEvent}
    (prompt : Prompt obc action) (stepped : obc.step action = some (next, emitted)) :
    next.Watching (events ++ emitted) := by
  have named := watching.named.step (Obc.pidStep_of_step stepped)
  have silent : ∀ event, ObcEvent.announced? event = none → ObcEvent.sampled? event = none →
      ledger (events ++ [event]) = ledger events ∧
        announcements (events ++ [event]) = announcements events := by
    intro event noMode noSample
    rw [ledger_snoc, announcements_snoc, Ledger.record, noMode, noSample]
    exact ⟨rfl, List.append_nil _⟩
  have ⟨_, follows, agrees, power⟩ := watching
  cases Obc.does_of_step stepped with
  | main free statement =>
    have handled : ¬ obc.Unhandled := by
      intro unhandled
      cases prompt unhandled
    exact ⟨named, follows_statement follows agrees statement, agrees_statement agrees statement,
      power_statement watching statement handled⟩
  | fork who pid todo atPc =>
    rw [List.append_nil]
    rw [atPc] at agrees power
    refine ⟨named, follows, agrees, fun child found alive => ?_⟩
    rcases Children.update_eq_some.mp found with ⟨_, rfl⟩ | ⟨_, found⟩
    · refine ⟨?_, fun both => by cases both.1⟩
      change false = ((ledger events).announced != false)
      rw [agrees.1]
      rfl
    · exact power child found alive
  | forkFails who todo atPc =>
    rw [List.append_nil]
    rw [atPc] at agrees power
    exact ⟨named, follows, agrees, power⟩
  | wait who child calls atPc found zombie =>
    obtain ⟨same, kept⟩ := silent (.reaped who) rfl rfl
    rw [atPc] at agrees power
    refine ⟨named, by rwa [same, kept], by rw [same]; exact agrees, ?_⟩
    rw [same]
    exact Children.power_update_of_gone ChildStatus.noConfusion power
  | reap who child found zombie =>
    obtain ⟨same, kept⟩ := silent (.reaped who) rfl rfl
    refine ⟨named, by rwa [same, kept], by rw [same]; exact agrees, ?_⟩
    rw [same]
    exact Children.power_update_of_gone ChildStatus.noConfusion power
  | exit who child found =>
    rw [List.append_nil]
    exact ⟨named, follows, agrees, Children.power_update_of_gone ChildStatus.noConfusion power⟩
  | handle who signal child found alive pending =>
    rw [List.append_nil]
    refine ⟨named, follows, agrees, fun child' found' alive' => ?_⟩
    rcases Children.update_eq_some.mp found' with ⟨rfl, rfl⟩ | ⟨_, found'⟩
    · obtain ⟨mode, single⟩ := power child found alive
      obtain ⟨kept, still⟩ := ChildProc.mode_handle pending single
      exact ⟨kept.trans mode, still⟩
    · exact power child' found' alive'
  | powerBusWriter written child found alive =>
    rw [List.append_nil]
    have none : ∀ signal, child.pending signal = false := by
      intro signal
      refine Bool.eq_false_iff.mpr fun pending => ?_
      cases prompt ⟨_, child, signal, found, alive, pending⟩
    have flag : child.flags.gSafeMode = powerMode obc.pc (ledger events).announced := by
      rw [← (power child found alive).1, ChildProc.mode, none, none]
      rfl
    refine ⟨named, follows, ?_, power⟩
    change obc.pc.Agrees child.flags.gSafeMode (ledger events)
    rw [flag]
    exact agrees_powerMode agrees
  | publish action other bus mode =>
    rw [List.append_nil]
    refine ⟨named, follows, ?_, power⟩
    rw [mode]
    exact agrees
  | signalled =>
    rw [List.append_nil]
    exact ⟨named, follows, agrees, power⟩

end Obc.Watching

/-! ### The watchdog as a whole -/

/-- The mode announcements made since the last sample; a tick is a sample and what follows it
up to the next. -/
def announcedThisTick (events : List ObcEvent) : Nat := (ledger events).announcedThisTick

theorem announcedThisTick_le {pc : ObcPc} {bus : Bool} {ledger : Ledger}
    (agrees : pc.Agrees bus ledger) : ledger.announcedThisTick ≤ 1 := by
  cases pc with
  | starting | assigning => exact agrees.2.2.2
  | loop | sample | waiting | finished => exact agrees.2.2
  | enterTest => exact agrees.2.2.2.le.trans Nat.one_pos.le
  | exitTest taken =>
    obtain ⟨_, agrees⟩ := agrees
    split at agrees
    · exact agrees.2.2.le.trans Nat.one_pos.le
    · exact agrees.2
  | testing broadcast | killing broadcast =>
    cases broadcast with
    | safeMode => exact agrees.2.2.2.2.2
    | safeModeExit => exact agrees.2.2.2.2
    | shutdown => exact agrees.2.2
  | storeSafe => exact agrees.2.2.2
  | storeNormal => exact agrees.2.2

/-- With prompt signals, whatever telemetry is published and whichever children exit: the modes
announced alternate, safe mode first; no tick announces two; and at the head of the loop the bus
shows safe mode exactly when some sample was critical and no later one nominal. -/
theorem watchdog_hysteresis (actions : List ObcAction) (obc : Obc) (events : List ObcEvent)
    (ran : obcMachine.run .start actions = some (obc, events))
    (prompt : obcMachine.Guarded Prompt .start actions) :
    Alternates true (announcements events) ∧ announcedThisTick events ≤ 1 ∧
      (obc.pc = .loop → (obc.bus.safeMode = modeSafe ↔
        ∃ earlier sample later, samples events = earlier ++ sample :: later ∧
          (sample.batt ≤ batteryCritical ∨ tempCritical ≤ sample.temp) ∧
          ∀ other ∈ later, ¬ (batteryWarning < other.batt ∧ other.temp < tempWarning ∧
            0.0 < other.solar))) := by
  have watching : obc.Watching events :=
    obcMachine.guarded_invariant Obc.Watching .start
      (fun _ _ _ _ _ watching allowed stepped => watching.step allowed stepped) prompt ran
  refine ⟨watching.follows.alternates, ?_, fun atLoop => ?_⟩
  · exact announcedThisTick_le watching.agrees
  · have agrees := watching.agrees
    rw [atLoop] at agrees
    rw [agrees.1, ← agrees.2.1, decided_ledger, Latch.after_eq_true_iff]
    simp [watchdogLatch, Sample.isCritical_iff, Sample.isNominal]

/-- The subsystems are started, and a tick samples a charge of 5; each of them handles its signal
before the next is sent. -/
def enteringPromptly : List ObcAction :=
  [.fork 100, .main, .fork 101, .main, .fork 102, .main, .fork 103, .main, .main,
    .powerBusWriter ⟨0.0, 5.0, true, true⟩, .main, .main, .main, .main,
    .main, .main, .handle .power .sigusr1, .main, .main, .handle .thermal .sigusr1,
    .main, .main, .handle .comms .sigusr1, .main, .main, .handle .logger .sigusr1,
    .main, .main, .main]

theorem watchdog_hysteresis_entering :
    ∃ obc events, obcMachine.run .start enteringPromptly = some (obc, events) ∧
      announcements events = [modeSafe] ∧
      Alternates true (announcements events) ∧ announcedThisTick events ≤ 1 ∧
      (obc.pc = .loop → (obc.bus.safeMode = modeSafe ↔
        ∃ earlier sample later, samples events = earlier ++ sample :: later ∧
          (sample.batt ≤ batteryCritical ∨ tempCritical ≤ sample.temp) ∧
          ∀ other ∈ later, ¬ (batteryWarning < other.batt ∧ other.temp < tempWarning ∧
            0.0 < other.solar))) :=
  ⟨_, _, rfl, rfl, watchdog_hysteresis enteringPromptly _ _ rfl (by decide +kernel)⟩

end Fdir

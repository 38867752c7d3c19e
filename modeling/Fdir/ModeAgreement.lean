/-
This file proves that the children agree on the mode once a broadcast has settled.

The bus may show a mode that is out of date, so `watchdog` may broadcast a mode the children
are in already, or leave out a broadcast for a tick. What keeps the children together is only
that every broadcast goes to all that are alive, in one tick at most once, and that its signals
are handled before the next tick. While a broadcast is under way the children it has reached
may already differ from those it has yet to come to.
-/

import Fdir.SafeMode

namespace Fdir

/-! ### Broadcasts and pending signals -/

/-- The mode of the last broadcast, normal if there was none. -/
def lastBroadcast (events : List ObcEvent) : Bool :=
  (announcements events).getLast?.getD modeNormal

/-- The signal that takes a child to a mode. -/
def modeSignal : Bool → Signal
  | true => .sigusr1
  | false => .sigusr2

/-- The subsystems the broadcast of a mode has still to deal with. -/
def ObcPc.unsignalled : ObcPc → List Subsystem
  | testing broadcast rest => if broadcast.mode?.isSome then rest else []
  | killing broadcast who rest => if broadcast.mode?.isSome then who :: rest else []
  | _ => []

/-- Some live child has not handled a mode signal yet. -/
def Obc.ModePending (obc : Obc) : Prop :=
  ∃ who child, obc.children who = some child ∧ child.status = .alive ∧
    ∃ mode, child.pending (modeSignal mode) = true

/-- Some live child is still to be signalled by a broadcast under way. -/
def Obc.ModeToCome (obc : Obc) : Prop :=
  ∃ who child, obc.children who = some child ∧ child.status = .alive ∧ who ∈ obc.pc.unsignalled

/-- The step is the first of `watchdog`. -/
def Obc.beginsTick (obc : Obc) : ObcAction → Bool
  | .main => obc.pc = .sample
  | _ => false

/-- A tick begins only when every live child has handled the signals of the broadcast before. -/
def SettledTick (obc : Obc) (action : ObcAction) : Prop :=
  obc.beginsTick action = true → ¬ obc.ModePending

instance (obc : Obc) : Decidable obc.ModePending :=
  decidable_of_iff
    (∃ who ∈ broadcastOrder, ∃ child ∈ obc.children who, child.status = .alive ∧
      ∃ mode ∈ [true, false], child.pending (modeSignal mode) = true)
    (by
      constructor
      · rintro ⟨who, _, child, found, alive, mode, _, pending⟩
        exact ⟨who, child, found, alive, mode, pending⟩
      · rintro ⟨who, child, found, alive, mode, pending⟩
        exact ⟨who, mem_broadcastOrder who, child, found, alive, mode,
          by cases mode <;> decide, pending⟩)

instance (obc : Obc) (action : ObcAction) : Decidable (SettledTick obc action) :=
  inferInstanceAs (Decidable (_ → _))

theorem lastBroadcast_snoc (events : List ObcEvent) (event : ObcEvent) :
    lastBroadcast (events ++ [event]) = event.announced?.getD (lastBroadcast events) := by
  rw [lastBroadcast, announcements_snoc]
  cases event.announced? with
  | none => rw [Option.toList_none, List.append_nil, Option.getD_none, lastBroadcast]
  | some mode => rw [Option.toList_some, List.getLast?_concat, Option.getD_some, Option.getD_some]

theorem Broadcast.signal_of_mode {broadcast : Broadcast} {mode : Bool}
    (announces : broadcast.mode? = some mode) : broadcast.signal = modeSignal mode := by
  cases broadcast <;> cases announces <;> rfl

/-! ### What a broadcast leaves behind -/

/-- What `main` knows of the last broadcast. -/
def ObcPc.Announces (pc : ObcPc) (announced : Bool) : Prop :=
  match pc with
  | starting _ | assigning _ _ _ => announced = modeNormal
  | testing (.safeMode taken) _ | killing (.safeMode taken) _ _ =>
    announced = modeSafe ∧ taken.safe = false
  | testing .safeModeExit _ | killing .safeModeExit _ _ => announced = modeNormal
  | storeSafe taken => taken.safe = false
  | _ => True

/-- The tick has broadcast nothing yet and still may. -/
def ObcPc.deciding : ObcPc → Bool
  | enterTest _ => true
  | exitTest taken => taken.safe
  | _ => false

/-- A child is not on its way to the other mode, and once the last broadcast has dealt with it,
it is in that broadcast's mode or on its way there. -/
structure ChildProc.Obeys (child : ChildProc) (announced : Bool) (signalled : Prop) : Prop where
  forward : child.pending (modeSignal !announced) = false
  arrives : signalled →
    child.pending (modeSignal announced) = true ∨ child.flags.gSafeMode = announced

/-- What runs with settled ticks keep. -/
structure Obc.Agreeing (obc : Obc) (announced : Bool) : Prop where
  named : obc.Named
  announces : obc.pc.Announces announced
  settled : obc.pc.deciding = true → ¬ obc.ModePending
  obeys : ∀ who child, obc.children who = some child → child.status = .alive →
    child.Obeys announced (who ∉ obc.pc.unsignalled)

/-- In a broadcast of a mode that mode was announced last. -/
theorem ObcPc.announces_testing {broadcast : Broadcast} {rest : List Subsystem}
    {announced mode : Bool} (known : (ObcPc.testing broadcast rest).Announces announced)
    (announces : broadcast.mode? = some mode) : announced = mode := by
  cases broadcast with
  | safeMode =>
    cases announces
    exact known.1
  | safeModeExit =>
    cases announces
    exact known
  | shutdown => cases announces

/-- What `main` knows in a broadcast does not depend on whom it comes to. -/
theorem ObcPc.announces_killing {broadcast : Broadcast} {who : Subsystem}
    {rest : List Subsystem} (other : List Subsystem) {announced : Bool} :
    (ObcPc.killing broadcast who rest).Announces announced ↔
      (ObcPc.testing broadcast other).Announces announced := by
  cases broadcast <;> exact Iff.rfl

theorem ChildProc.Obeys.mono {child : ChildProc} {announced : Bool} {signalled later : Prop}
    (obeys : child.Obeys announced signalled) (sooner : later → signalled) :
    child.Obeys announced later :=
  ⟨obeys.forward, fun dealt => obeys.arrives (sooner dealt)⟩

/-- Another broadcast's signal does not matter. -/
theorem ChildProc.Obeys.deliver_shutdown {child : ChildProc} {announced : Bool}
    {signalled : Prop} (obeys : child.Obeys announced signalled) :
    ChildProc.Obeys { child with pending := Function.update child.pending .sigterm true }
      announced signalled := by
  have other : ∀ mode, modeSignal mode ≠ .sigterm := by
    intro mode
    cases mode <;> decide
  constructor
  · exact (Function.update_of_ne (other _) _ _).trans obeys.forward
  · intro dealt
    exact (obeys.arrives dealt).imp (Function.update_of_ne (other _) _ _).trans id

/-- The signal of the mode announced last puts a child on its way there. -/
theorem ChildProc.Obeys.deliver {child : ChildProc} {announced : Bool} {signalled : Prop}
    (obeys : child.Obeys announced signalled) (later : Prop) :
    ChildProc.Obeys
      { child with pending := Function.update child.pending (modeSignal announced) true }
      announced later := by
  have other : modeSignal (!announced) ≠ modeSignal announced := by
    cases announced <;> decide
  constructor
  · exact (Function.update_of_ne other _ _).trans obeys.forward
  · intro _
    exact .inl (Function.update_self ..)

/-- A child handles what is pending and stays as obedient as it was. -/
theorem ChildProc.Obeys.handle {child : ChildProc} {announced : Bool} {signalled : Prop}
    (obeys : child.Obeys announced signalled) {signal : Signal}
    (pending : child.pending signal = true) :
    ChildProc.Obeys
      { child with
        flags := childHandler signal child.flags
        pending := Function.update child.pending signal false } announced signalled := by
  obtain ⟨forward, arrives⟩ := obeys
  constructor
  · by_cases same : modeSignal (!announced) = signal
    · rw [same]
      exact Function.update_self ..
    · exact (Function.update_of_ne same _ _).trans forward
  · intro dealt
    by_cases same : modeSignal announced = signal
    · subst same
      right
      cases announced <;> rfl
    · refine (arrives dealt).imp (Function.update_of_ne same _ _).trans fun flag => ?_
      -- The other mode's signal is not pending, so this is SIGTERM.
      have term : signal = .sigterm := by
        cases signal with
        | sigterm => rfl
        | sigusr1 | sigusr2 => cases announced <;> simp_all [modeSignal]
      rw [term]
      exact flag

/-! ### What one step keeps -/

namespace Obc.Agreeing

variable {obc next : Obc} {announced : Bool}

theorem start : Obc.start.Agreeing modeNormal where
  named := Obc.named_start
  announces := rfl
  settled := nofun
  obeys _ _ found := by cases found

/-- A change of the children that gives no live child a pending mode signal. -/
theorem modePending_of_update {who : Subsystem} {child changed : ChildProc}
    (found : obc.children who = some child)
    (fewer : changed.status = .alive → child.status = .alive ∧
      ∀ mode, changed.pending (modeSignal mode) = true → child.pending (modeSignal mode) = true)
    (pending : (obc.setChild who changed).ModePending) : obc.ModePending := by
  obtain ⟨other, child', found', alive, mode, signal⟩ := pending
  rcases Children.update_eq_some.mp found' with ⟨rfl, rfl⟩ | ⟨_, found'⟩
  · exact ⟨other, child, found, (fewer alive).1, mode, (fewer alive).2 mode signal⟩
  · exact ⟨other, child', found', alive, mode, signal⟩

/-- A statement that leaves the children alone, broadcasts nothing and deals with no live child. -/
theorem of_children (agreeing : obc.Agreeing announced) (named : next.Named)
    (children : next.children = obc.children) (announces : next.pc.Announces announced)
    (deciding : next.pc.deciding = true → obc.pc.deciding = true)
    (unsignalled : ∀ who child, obc.children who = some child → child.status = .alive →
      who ∈ obc.pc.unsignalled → who ∈ next.pc.unsignalled) : next.Agreeing announced where
  named := named
  announces := announces
  settled := by
    intro decides
    rw [ModePending, children]
    exact agreeing.settled (deciding decides)
  obeys := by
    intro who child found alive
    rw [children] at found
    exact (agreeing.obeys who child found alive).mono
      fun dealt member => dealt (unsignalled who child found alive member)

/-- A broadcast begins with no mode signal pending. -/
theorem begin (agreeing : obc.Agreeing announced) (named : next.Named)
    (children : next.children = obc.children) (decides : obc.pc.deciding = true) {mode : Bool}
    (announces : next.pc.Announces mode) (still : next.pc.deciding = false)
    (unsignalled : next.pc.unsignalled = broadcastOrder) : next.Agreeing mode where
  named := named
  announces := announces
  settled := fun again => by rw [still] at again; cases again
  obeys := by
    intro who child found alive
    rw [children] at found
    constructor
    · refine Bool.eq_false_iff.mpr fun pending => ?_
      exact agreeing.settled decides ⟨who, child, found, alive, _, pending⟩
    · intro dealt
      rw [unsignalled] at dealt
      exact absurd (mem_broadcastOrder who) dealt

/-- One `kill` of a broadcast deals with the child it is for. -/
theorem kill (agreeing : obc.Agreeing announced) {broadcast : Broadcast} {who : Subsystem}
    {rest : List Subsystem} (atPc : obc.pc = .killing broadcast who rest)
    (named : next.Named)
    (children : next.children = Fdir.kill (obc.gPid who) broadcast.signal obc.children)
    (pc : next.pc = .testing broadcast rest) : next.Agreeing announced where
  named := named
  announces := by
    have known := agreeing.announces
    rw [atPc] at known
    rw [pc]
    exact (ObcPc.announces_killing rest).mp known
  settled := fun decides => by rw [pc] at decides; cases decides
  obeys := by
    intro other child found alive
    have known := agreeing.announces
    rw [atPc] at known
    rw [children] at found
    obtain ⟨before, same, rfl⟩ := Option.map_eq_some_iff.mp found
    have status : before.status = .alive := by
      split at alive <;> exact alive
    have obeys := agreeing.obeys other before same status
    rw [atPc] at obeys
    rw [pc]
    cases announces : broadcast.mode? with
    | none =>
      have term : broadcast.signal = .sigterm := by
        cases broadcast <;> first | rfl | cases announces
      have everyone : (ObcPc.testing broadcast rest).unsignalled =
          (ObcPc.killing broadcast who rest).unsignalled := by
        simp only [ObcPc.unsignalled, announces, Option.isSome_none, Bool.false_eq_true, if_false]
      rw [everyone]
      split
      · rw [term]
        exact obeys.deliver_shutdown
      · exact obeys
    | some mode =>
      have same' : announced = mode :=
        ObcPc.announces_testing ((ObcPc.announces_killing rest).mp known) announces
      subst same'
      rw [Broadcast.signal_of_mode announces]
      simp only [ObcPc.unsignalled, announces, Option.isSome_some, if_true] at obeys ⊢
      split
      · exact obeys.deliver _
      next missed =>
        -- The variable of a live child holds its pid, so the child is not the one addressed.
        have different : other ≠ who := by
          rintro rfl
          exact missed ⟨status, agreeing.named.reaches_gPid (by rw [atPc]; rfl) same status⟩
        refine obeys.mono fun dealt member => ?_
        rcases List.mem_cons.mp member with equal | member
        · exact different equal
        · exact dealt member

/-- A statement of `main`. -/
theorem statement (agreeing : obc.Agreeing announced) {emitted : List ObcEvent}
    {events : List ObcEvent} (last : lastBroadcast events = announced) (named : next.Named)
    (settled : obc.pc = .sample → ¬ obc.ModePending) (statement : obc.Statement next emitted) :
    next.Agreeing (lastBroadcast (events ++ emitted)) := by
  subst last
  have known := agreeing.announces
  cases statement with
  | enter taken atPc normal =>
    rw [lastBroadcast_snoc]
    exact agreeing.begin named rfl (by rw [atPc]; rfl) ⟨rfl, normal⟩ rfl rfl
  | leave taken atPc safe =>
    rw [lastBroadcast_snoc]
    exact agreeing.begin named rfl (by rw [atPc]; exact safe) rfl rfl rfl
  | kill broadcast who rest atPc =>
    rw [lastBroadcast_snoc]
    exact agreeing.kill atPc named rfl rfl
  | skipped broadcast who rest atPc absent =>
    rw [List.append_nil]
    rw [atPc] at known
    refine agreeing.of_children named rfl ?_ nofun fun other child found alive member => ?_
    · cases broadcast <;> exact known
    · rw [atPc] at member
      cases announces : broadcast.mode? with
      | none => simp [ObcPc.unsignalled, announces] at member
      | some mode =>
        simp only [ObcPc.unsignalled, announces, Option.isSome_some, if_true] at member ⊢
        refine (List.mem_cons.mp member).resolve_left ?_
        -- A live child's variable is positive, so it is not skipped.
        rintro rfl
        exact absent (agreeing.named.gPid_pos (by rw [atPc]; rfl) found alive)
  | tested broadcast who rest atPc =>
    rw [List.append_nil]
    rw [atPc] at known
    refine agreeing.of_children named rfl ((ObcPc.announces_killing _).mpr known) nofun ?_
    rw [atPc]
    exact fun _ _ _ _ member => member
  | broadcasted broadcast atPc =>
    rw [List.append_nil]
    rw [atPc] at known
    refine agreeing.of_children named rfl ?_ ?_ ?_
    · cases broadcast with
      | safeMode => exact known.2
      | safeModeExit | shutdown => trivial
    · cases broadcast <;> nofun
    · rw [atPc]
      intro other _ _ _ member
      cases broadcast <;> cases member
  | sample atPc =>
    rw [lastBroadcast_snoc]
    refine ⟨named, trivial, fun _ => settled atPc, fun who child found alive => ?_⟩
    refine (agreeing.obeys who child found alive).mono fun _ => ?_
    rw [atPc]
    exact List.not_mem_nil
  | storeSafe taken atPc =>
    rw [lastBroadcast_snoc]
    rw [atPc] at known
    refine agreeing.of_children named rfl trivial (fun decides => ?_) ?_
    · rw [show ObcPc.deciding (.exitTest taken) = taken.safe from rfl,
        show taken.safe = false from known] at decides
      cases decides
    · rw [atPc]
      exact fun _ _ _ _ member => by cases member
  | noEnter taken atPc =>
    rw [List.append_nil]
    refine agreeing.of_children named rfl trivial (fun _ => by rw [atPc]; rfl) ?_
    rw [atPc]
    exact fun _ _ _ _ member => by cases member
  | assign who pid todo atPc =>
    rw [List.append_nil]
    rw [atPc] at known
    refine agreeing.of_children named rfl known nofun ?_
    rw [atPc]
    exact fun _ _ _ _ member => by cases member
  | count atPc =>
    rw [List.append_nil]
    refine agreeing.of_children named rfl trivial nofun ?_
    rw [atPc]
    exact fun _ _ _ _ member => by cases member
  | started atPc | tick atPc | noLeave _ atPc | noChild _ atPc | waited atPc =>
    rw [List.append_nil]
    refine agreeing.of_children named rfl trivial nofun ?_
    rw [atPc]
    exact fun _ _ _ _ member => by cases member
  | shutDown atPc | storeNormal atPc =>
    rw [lastBroadcast_snoc]
    refine agreeing.of_children named rfl trivial nofun ?_
    rw [atPc]
    exact fun _ _ _ _ member => by cases member

/-- A step outside `main` that changes one child. -/
theorem setChild (agreeing : obc.Agreeing announced) (named : next.Named) {who : Subsystem}
    {child changed : ChildProc} (found : obc.children who = some child)
    (children : next.children = (obc.setChild who changed).children)
    (announces : next.pc.Announces announced)
    (deciding : next.pc.deciding = true → obc.pc.deciding = true)
    (unsignalled : next.pc.unsignalled = obc.pc.unsignalled)
    (fewer : changed.status = .alive → child.status = .alive ∧
      ∀ mode, changed.pending (modeSignal mode) = true → child.pending (modeSignal mode) = true)
    (obeys : changed.status = .alive → ∀ signalled, child.Obeys announced signalled →
      changed.Obeys announced signalled) : next.Agreeing announced where
  named := named
  announces := announces
  settled := by
    intro decides pending
    rw [ModePending, children] at pending
    exact agreeing.settled (deciding decides) (modePending_of_update found fewer pending)
  obeys := by
    intro other child' found' alive
    rw [unsignalled]
    rw [children] at found'
    rcases Children.update_eq_some.mp found' with ⟨rfl, rfl⟩ | ⟨_, found'⟩
    · exact obeys alive _ (agreeing.obeys other child found (fewer alive).1)
    · exact agreeing.obeys other child' found' alive

theorem step (agreeing : obc.Agreeing announced) {events emitted : List ObcEvent}
    (last : lastBroadcast events = announced) {action : ObcAction}
    (settled : SettledTick obc action) (stepped : obc.step action = some (next, emitted)) :
    next.Agreeing (lastBroadcast (events ++ emitted)) := by
  have named := agreeing.named.step (Obc.pidStep_of_step stepped)
  have known := agreeing.announces
  cases Obc.does_of_step stepped with
  | main free statement =>
    exact agreeing.statement last named (fun atPc => settled (by simp [Obc.beginsTick, atPc]))
      statement
  | fork who pid todo atPc =>
    rw [List.append_nil, last]
    rw [atPc] at known
    refine ⟨named, known, nofun, fun other child found alive => ?_⟩
    rcases Children.update_eq_some.mp found with ⟨_, rfl⟩ | ⟨_, found⟩
    · exact ⟨rfl, fun _ => .inr (Eq.symm known)⟩
    · exact (agreeing.obeys other child found alive).mono fun _ => by
        rw [atPc]
        exact List.not_mem_nil
  | forkFails who todo atPc =>
    rw [List.append_nil, last]
    rw [atPc] at known
    refine agreeing.of_children named rfl known nofun ?_
    rw [atPc]
    exact fun _ _ _ _ member => by cases member
  | wait who child calls atPc found zombie =>
    rw [lastBroadcast_snoc, last]
    exact agreeing.setChild named found rfl trivial nofun (by rw [atPc]; rfl) nofun nofun
  | reap who child found zombie =>
    rw [lastBroadcast_snoc, last]
    exact agreeing.setChild named found rfl known id rfl nofun nofun
  | exit who child found =>
    rw [List.append_nil, last]
    exact agreeing.setChild named found rfl known id rfl nofun nofun
  | handle who signal child found alive pending =>
    rw [List.append_nil, last]
    refine agreeing.setChild named found rfl known id rfl (fun _ => ⟨alive, fun mode still => ?_⟩)
      fun _ _ obeys => obeys.handle pending
    by_cases same : modeSignal mode = signal
    · rw [same]
      exact pending
    · exact (Function.update_of_ne same _ _).symm.trans still
  | powerBusWriter | publish | signalled =>
    rw [List.append_nil, last]
    exact agreeing.of_children named rfl known id fun _ _ _ _ => id

end Obc.Agreeing

/-! ### Agreement -/

/-- In a run whose ticks are settled, wherever no live child has a mode signal pending or still
to come: all live children are in the mode of the last broadcast, and a pass of the power
process's bus writer puts that mode on the bus. -/
theorem modes_agree (actions : List ObcAction) (obc : Obc) (events : List ObcEvent)
    (ran : obcMachine.run .start actions = some (obc, events))
    (settled : obcMachine.Guarded SettledTick .start actions)
    (handled : ¬ obc.ModePending) (sent : ¬ obc.ModeToCome) :
    (∀ who child, obc.children who = some child → child.status = .alive →
        child.flags.gSafeMode = lastBroadcast events) ∧
      ∀ power next emitted, obc.step (.powerBusWriter power) = some (next, emitted) →
        next.bus.safeMode = lastBroadcast events := by
  have agreeing : obc.Agreeing (lastBroadcast events) :=
    obcMachine.guarded_invariant (fun obc events => obc.Agreeing (lastBroadcast events))
      Obc.Agreeing.start (fun _ _ _ _ _ agreeing allowed stepped =>
        agreeing.step rfl allowed stepped) settled ran
  have agree : ∀ who child, obc.children who = some child → child.status = .alive →
      child.flags.gSafeMode = lastBroadcast events := by
    intro who child found alive
    have arrives := (agreeing.obeys who child found alive).arrives
      fun member => sent ⟨who, child, found, alive, member⟩
    exact arrives.resolve_left fun pending => handled ⟨who, child, found, alive, _, pending⟩
  refine ⟨agree, fun power next emitted stepped => ?_⟩
  cases Obc.does_of_step stepped with
  | powerBusWriter _ child found alive => exact agree .power child found alive
  | publish _ other => exact absurd rfl (other power)
  | signalled _ other => exact absurd rfl (other power)

/-- The broadcast of `enteringSafeMode` is handled in another order than it was sent in; the power
process copies its old mode to the bus first, and the thermal process exits before its turn. -/
def settlingLate : List ObcAction :=
  enteringSafeMode ++ [.powerBusWriter ⟨0.0, 5.0, true, true⟩, .handle .comms .sigusr1,
    .exit .thermal, .main, .handle .power .sigusr1, .handle .logger .sigusr1]

theorem modes_agree_settlingLate :
    ∃ obc events, obcMachine.run .start settlingLate = some (obc, events) ∧
      lastBroadcast events = modeSafe ∧
      (∀ who child, obc.children who = some child → child.status = .alive →
        child.flags.gSafeMode = lastBroadcast events) ∧
      ∀ power next emitted, obc.step (.powerBusWriter power) = some (next, emitted) →
        next.bus.safeMode = lastBroadcast events :=
  ⟨_, _, rfl, rfl, modes_agree settlingLate _ _ rfl (by decide +kernel) (by decide +kernel)
    (by rintro ⟨_, _, _, _, member⟩; cases member)⟩

/-- The power process handles its SIGUSR1 before the thermal process is sent one. -/
theorem not_modes_agree :
    ¬ ∀ (actions : List ObcAction) (obc : Obc) (events : List ObcEvent),
      obcMachine.run .start actions = some (obc, events) →
      obcMachine.Guarded SettledTick .start actions → ¬ obc.ModePending →
      ∀ who child, obc.children who = some child → child.status = .alive →
        child.flags.gSafeMode = lastBroadcast events := by
  intro claimed
  have agree := claimed
    ([.fork 100, .main, .fork 101, .main, .fork 102, .main, .fork 103, .main, .main,
      .powerBusWriter ⟨0.0, 5.0, true, true⟩, .main, .main, .main, .main,
      .main, .main, .handle .power .sigusr1]) _ _ rfl (by decide +kernel) (by decide +kernel)
    .thermal _ rfl rfl
  cases agree

end Fdir

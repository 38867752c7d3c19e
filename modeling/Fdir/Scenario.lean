/-
This file proves what the scenario of the mission, an eclipse and a thermal spike, makes of the
spacecraft's mode.

Before the tenth iteration of the solar panel's thread and the thirtieth of the sensor's the power
and the thermal process report nothing and the mode never changes. Once the eclipse is over, seven
charges bring the battery past the warning level from wherever it was, the CPU has cooled down six
iterations after its spike, and from what the bus then shows safe mode is left and never entered
again.
-/

import Fdir.Overheat
import Fdir.PowerThreads
import Fdir.Spacecraft

namespace Fdir

open CMemory

/-! ### The processes in the spacecraft -/

/-- The thermal process in the spacecraft. -/
def Spacecraft.thermalRun (craft : Spacecraft) : ThermalRun := ⟨craft.sensorElapsed, craft.thermal⟩

/-- The data of the two processes and their reports, as the scenario has them. -/
structure Spacecraft.OnScript (craft : Spacecraft) (events : List SpacecraftEvent) : Prop where
  thermal : craft.thermalRun.Holds
  thermalReports :
    decidedBy .thermal events = (thermalReports craft.sensorElapsed).map Prod.snd
  cooled : thermalSpike + 6 ≤ craft.sensorElapsed → craft.thermal.tempCpu < tempWarning
  sound : craft.power.Sound
  eclipse : craft.power.inEclipse = inEclipse craft.solarElapsed
  before : craft.solarElapsed < eclipseStart →
    craft.power.batteryPct = (100).toFloat32 ∧ craft.power.faultActive = false ∧
      decidedBy .power events = []

namespace Spacecraft.OnScript

variable {craft next : Spacecraft} {events emitted : List SpacecraftEvent}

theorem start : Spacecraft.start.OnScript [] where
  thermal := .start
  thermalReports := rfl
  cooled late := absurd late (by decide)
  sound := .init
  eclipse := rfl
  before _ := ⟨by decide +kernel, rfl, rfl⟩

/-- What does not concern the processes' threads changes nothing. -/
theorem keep (script : craft.OnScript events) (solar : next.solarElapsed = craft.solarElapsed)
    (power : next.power = craft.power) (sensor : next.sensorElapsed = craft.sensorElapsed)
    (thermal : next.thermal = craft.thermal)
    (silent : ∀ who, decidedBy who (events ++ emitted) = decidedBy who events) :
    next.OnScript (events ++ emitted) := by
  obtain ⟨holds, reports, cooled, sound, eclipse, before⟩ := script
  constructor
  · rwa [thermalRun, sensor, thermal]
  · rw [silent, sensor, reports]
  · rwa [sensor, thermal]
  · rwa [power]
  · rw [power, solar, eclipse]
  · rwa [silent, solar, power]

theorem solar (script : craft.OnScript events) (rand : Nat) :
    OnScript { craft with
      solarElapsed := craft.solarElapsed + 1
      power := solarUpdate (craft.solarElapsed + 1) rand craft.power } events where
  thermal := script.thermal
  thermalReports := script.thermalReports
  cooled := script.cooled
  sound := script.sound.solar _ rand
  eclipse := inEclipse_solarUpdate ..
  before early := by
    obtain ⟨full, clear, silent⟩ := script.before (Nat.lt_of_succ_lt early)
    refine ⟨?_, ?_, silent⟩ <;> simp only [solarUpdate] <;> split <;> assumption

theorem battery (script : craft.OnScript events) (rand : Nat) :
    OnScript { craft with
        power := (batteryCheck (batteryMeasure rand craft.power) craft.power).1 }
      (events ++ (batteryCheck (batteryMeasure rand craft.power) craft.power).2.fault?.toList.map
        (.decided .power)) where
  thermal := script.thermal
  thermalReports := by
    rw [Tracks.decidedBy_other (by decide)]
    exact script.thermalReports
  cooled := script.cooled
  sound := script.sound.battery rand
  eclipse := by
    rw [batteryCheck_eq]
    exact script.eclipse
  before early := by
    obtain ⟨full, clear, silent⟩ := script.before early
    have sunlit : craft.power.inEclipse = false := by
      rw [script.eclipse, Bool.eq_false_iff]
      exact fun dark => Nat.not_lt.mpr (inEclipse_iff.mp dark).1 early
    have still : chargeAfter craft.power.inEclipse ⟨0, rand⟩ 100 = 100 := by
      rw [sunlit]
      exact Nat.min_eq_left (Nat.le_add_right ..)
    obtain ⟨after, report⟩ := batteryIteration_eq ⟨0, rand⟩ full le_rfl still
    rw [clear] at after report
    refine ⟨congrArg (fun checked => checked.1.batteryPct) after,
      congrArg (fun checked => checked.1.faultActive) after, ?_⟩
    rw [Tracks.decidedBy_own, silent, report]
    rfl

theorem sensor (script : craft.OnScript events) (rand : Fin 4 → Nat) :
    OnScript { craft with
        sensorElapsed := craft.sensorElapsed + 1
        thermal := (sensorCheck (sensorMeasure (craft.sensorElapsed + 1) rand craft.thermal)
          craft.thermal).1 }
      (events ++ (sensorCheck (sensorMeasure (craft.sensorElapsed + 1) rand craft.thermal)
        craft.thermal).2.fault?.toList.map (.decided .thermal)) := by
  have stepped : thermalThreads.step craft.thermalRun (.sensor rand) = some
      (⟨craft.sensorElapsed + 1, (sensorCheck (sensorMeasure (craft.sensorElapsed + 1) rand
          craft.thermal) craft.thermal).1⟩,
        (sensorCheck (sensorMeasure (craft.sensorElapsed + 1) rand craft.thermal)
          craft.thermal).2.fault?.toList.map fun fault => (craft.sensorElapsed + 1, fault)) := rfl
  obtain ⟨holds, _, more⟩ := script.thermal.sensor stepped
  refine ⟨holds, ?_, fun late => ?_, script.sound, script.eclipse, fun early => ?_⟩
  · rw [Tracks.decidedBy_own, script.thermalReports]
    refine Eq.trans ?_ (congrArg (List.map Prod.snd) more).symm
    rw [List.map_append, List.map_map]
    congr 1
    exact (List.map_id _).symm
  · obtain ⟨cpu, measured, most, known⟩ := script.thermal.exists_cpu rand
    have spike : thermalSpike = 30 := rfl
    have level : tempWarning = (85).toFloat32 := by decide +kernel
    have cool : cpu < 85 := by
      simp only [thermalRun, spike] at known late
      split at known
      · simp only [spikeTemp, spike] at known
        omega
      · exact known
    change (sensorMeasure (craft.sensorElapsed + 1) rand craft.thermal).cpu < tempWarning
    rw [level]
    refine lt_of_eq_of_lt measured ?_
    exact (WholeFloat.lt_toFloat32 (by omega) (by decide)).mpr cool
  · rw [Tracks.decidedBy_other (by decide)]
    exact script.before early

theorem heater (script : craft.OnScript events) :
    OnScript { craft with thermal := (heaterCheck craft.thermal).1 }
      (events ++ (heaterCheck craft.thermal).2.fault?.toList.map (.decided .thermal)) := by
  have stepped : thermalThreads.step craft.thermalRun .heater = some
      ({ craft.thermalRun with thermal := (heaterCheck craft.thermal).1 },
        (heaterCheck craft.thermal).2.fault?.toList.map
          fun fault => (craft.sensorElapsed, fault)) := rfl
  obtain ⟨same, silent⟩ := script.thermal.heater stepped
  have still : (heaterCheck craft.thermal).1 = craft.thermal := congrArg ThermalRun.thermal same
  rw [List.map_eq_nil_iff.mp silent, still]
  exact script.keep rfl rfl rfl rfl fun who => by rw [List.map_nil, List.append_nil]

theorem step (script : craft.OnScript events) {action : SpacecraftAction}
    (stepped : spacecraft.step craft action = some (next, emitted)) :
    next.OnScript (events ++ emitted) := by
  cases Spacecraft.does_of_step stepped with
  | obc inner =>
    refine script.keep rfl rfl rfl rfl fun who => ?_
    rw [decidedBy_append, decidedBy_map_obc, List.append_nil]
  | @solar rand =>
    rw [List.append_nil]
    exact script.solar rand
  | @battery rand => exact script.battery rand
  | @sensor rand => exact script.sensor rand
  | heater => exact script.heater
  | powerBusWriter | thermalBusWriter =>
    exact script.keep rfl rfl rfl rfl fun who => decidedBy_published who _ events

end Spacecraft.OnScript

theorem onScript_of_run {actions : List SpacecraftAction} {craft : Spacecraft}
    {events : List SpacecraftEvent} (ran : spacecraft.run .start actions = some (craft, events)) :
    craft.OnScript events :=
  spacecraft.run_invariant Spacecraft.OnScript .start
    (fun _ _ _ _ _ script stepped => script.step stepped) ran

/-! ### A mission that stays normal -/

/-- `main` is not on its way to a change of mode. -/
def ObcPc.Normal : ObcPc → Prop
  | enterTest taken | exitTest taken => taken.safe = false
  | testing broadcast _ | killing broadcast _ _ => broadcast = .shutdown
  | storeSafe _ | storeNormal => False
  | _ => True

/-- No process is in safe mode or on its way there. -/
structure Obc.StaysNormal (obc : Obc) : Prop where
  bus : obc.bus.safeMode = false
  pc : obc.pc.Normal
  children : ∀ who child, obc.children who = some child →
    child.pending .sigusr1 = false ∧ child.flags.gSafeMode = false

/-- The event belongs to a change of mode. -/
def ObcEvent.changesMode : ObcEvent → Bool
  | began broadcast => broadcast ≠ .shutdown
  | killed _ signal => signal ≠ .sigterm
  | stored _ => true
  | _ => false

namespace Obc.StaysNormal

variable {obc next : Obc} {emitted : List ObcEvent}

theorem start : Obc.start.StaysNormal where
  bus := rfl
  pc := trivial
  children _ _ found := by cases found

theorem statement (stays : obc.StaysNormal) (statement : obc.Statement next emitted)
    (noEntry : ∀ sample, .began (.safeMode sample) ∉ emitted) :
    next.StaysNormal ∧ ∀ event ∈ emitted, event.changesMode = false := by
  obtain ⟨bus, pc, children⟩ := stays
  cases statement with
  | enter sample atPc => exact absurd (List.mem_singleton_self _) (noEntry sample)
  | leave sample atPc safe =>
    rw [atPc] at pc
    exact absurd (safe.symm.trans pc) (by decide)
  | storeSafe sample atPc | storeNormal atPc =>
    rw [atPc] at pc
    exact absurd pc id
  | sample atPc => exact ⟨⟨bus, bus, children⟩, by simp [ObcEvent.changesMode]⟩
  | noEnter sample atPc other =>
    rw [atPc] at pc
    exact ⟨⟨bus, pc, children⟩, by simp⟩
  | shutDown atPc => exact ⟨⟨bus, rfl, children⟩, by simp [ObcEvent.changesMode]⟩
  | tested broadcast who rest atPc | skipped broadcast who rest atPc =>
    rw [atPc] at pc
    exact ⟨⟨bus, pc, children⟩, by simp⟩
  | broadcasted broadcast atPc =>
    rw [atPc] at pc
    cases pc
    exact ⟨⟨bus, trivial, children⟩, by simp⟩
  | kill broadcast who rest atPc =>
    rw [atPc] at pc
    cases pc
    have other : Signal.sigusr1 ≠ .sigterm := by decide
    refine ⟨⟨bus, rfl, fun target child isFound => ?_⟩,
      by simp [ObcEvent.changesMode, Broadcast.signal]⟩
    obtain ⟨earlier, found, rfl⟩ := Option.map_eq_some_iff.mp isFound
    obtain ⟨pending, flag⟩ := children target earlier found
    have still : Function.update earlier.pending .sigterm true .sigusr1 =
        earlier.pending .sigusr1 := Function.update_of_ne other _ _
    split
    · exact ⟨still.trans pending, flag⟩
    · exact ⟨pending, flag⟩
  | started | assign | count | tick | noLeave | noChild | waited =>
    exact ⟨⟨bus, trivial, children⟩, by simp⟩

/-- A change of one child that sets neither its flag nor the signal for it. -/
theorem setChild (stays : obc.StaysNormal) {who : Subsystem} {child : ChildProc}
    (children : next.children = Function.update obc.children who (some child))
    (pc : next.pc.Normal) (bus : next.bus = obc.bus)
    (normal : child.pending .sigusr1 = false ∧ child.flags.gSafeMode = false) :
    next.StaysNormal where
  bus := bus ▸ stays.bus
  pc := pc
  children other found isFound := by
    rw [children] at isFound
    rcases Children.update_eq_some.mp isFound with ⟨rfl, rfl⟩ | ⟨_, isFound⟩
    · exact normal
    · exact stays.children other found isFound

theorem step (stays : obc.StaysNormal) {action : ObcAction}
    (stepped : obc.step action = some (next, emitted))
    (noEntry : ∀ sample, .began (.safeMode sample) ∉ emitted) :
    next.StaysNormal ∧ ∀ event ∈ emitted, event.changesMode = false := by
  cases Obc.does_of_step stepped with
  | main free statement => exact stays.statement statement noEntry
  | fork who pid todo atPc => exact ⟨stays.setChild rfl trivial rfl ⟨rfl, rfl⟩, by simp⟩
  | forkFails who todo atPc => exact ⟨⟨stays.bus, trivial, stays.children⟩, by simp⟩
  | wait who child calls atPc found =>
    exact ⟨stays.setChild rfl trivial rfl (stays.children who child found),
      by simp [ObcEvent.changesMode]⟩
  | reap who child found =>
    exact ⟨stays.setChild rfl stays.pc rfl (stays.children who child found),
      by simp [ObcEvent.changesMode]⟩
  | exit who child found =>
    exact ⟨stays.setChild rfl stays.pc rfl (stays.children who child found), by simp⟩
  | handle who signal child found alive pending =>
    obtain ⟨none, flag⟩ := stays.children who child found
    refine ⟨stays.setChild rfl stays.pc rfl ?_, by simp⟩
    have other : Signal.sigusr1 ≠ signal := by
      rintro rfl
      exact absurd (none.symm.trans pending) (by decide)
    refine ⟨(Function.update_of_ne other _ _).trans none, ?_⟩
    cases signal with
    | sigusr1 => exact absurd rfl other
    | sigusr2 => rfl
    | sigterm => exact flag
  | powerBusWriter power child found =>
    exact ⟨⟨(stays.children .power child found).2, stays.pc, stays.children⟩, by simp⟩
  | publish _ _ bus mode => exact ⟨⟨mode.trans stays.bus, stays.pc, stays.children⟩, by simp⟩
  | signalled => exact ⟨⟨stays.bus, stays.pc, stays.children⟩, by simp⟩

end Obc.StaysNormal

/-- Without an entry into safe mode there is no exit either, and nobody is signalled a mode. -/
theorem staysNormal_of_run {actions : List SpacecraftAction} {craft : Spacecraft}
    {events : List SpacecraftEvent} (ran : spacecraft.run .start actions = some (craft, events))
    (noEntry : ∀ sample, .obc (.began (.safeMode sample)) ∉ events) :
    craft.obc.StaysNormal ∧ ∀ event, .obc event ∈ events → event.changesMode = false := by
  refine spacecraft.run_invariant (fun craft events =>
    (∀ sample, .obc (.began (.safeMode sample)) ∉ events) →
      craft.obc.StaysNormal ∧ ∀ event, .obc event ∈ events → event.changesMode = false)
    (fun _ => ⟨.start, fun _ member => by cases member⟩) ?_ ran noEntry
  intro craft events action next emitted held stepped noEntry
  obtain ⟨stays, quiet⟩ := held fun sample member => noEntry sample (List.mem_append_left _ member)
  have still : ∀ {more : List SpacecraftEvent}, (∀ event, .obc event ∉ more) →
      ∀ event, .obc event ∈ events ++ more → event.changesMode = false := by
    intro more other event member
    rcases List.mem_append.mp member with member | member
    · exact quiet event member
    · exact absurd member (other event)
  cases Spacecraft.does_of_step stepped with
  | obc inner =>
    obtain ⟨stays, none⟩ := stays.step inner fun sample member =>
      noEntry sample (List.mem_append_right _ (List.mem_map_of_mem member))
    refine ⟨stays, fun event member => ?_⟩
    rcases List.mem_append.mp member with member | member
    · exact quiet event member
    · obtain ⟨_, member, ⟨⟩⟩ := List.mem_map.mp member
      exact none event member
  | solar | battery | sensor | heater => exact ⟨stays, still (by simp)⟩
  | powerBusWriter child live =>
    exact ⟨⟨(stays.children .power child (Obc.of_live live).1).2, stays.pc, stays.children⟩,
      still (by simp)⟩
  | thermalBusWriter => exact ⟨⟨stays.bus, stays.pc, stays.children⟩, still (by simp)⟩

/-- Nothing was outstanding at any time if nothing has been reported yet. -/
theorem not_outstanding_of_silent {who : Subsystem} {thresholds : FaultThresholds}
    {events before later : List SpacecraftEvent} (silent : decidedBy who events = [])
    (split : events = before ++ later) : ¬ Outstanding who thresholds (shownBy who before) := by
  obtain ⟨rest, whole⟩ : shownBy who before <+: before := List.rdropWhile_prefix ..
  rw [split, ← whole, List.append_assoc, decidedBy_append] at silent
  rw [Outstanding, (List.append_eq_nil_iff.mp silent).1]
  exact fun set => by cases set

/-- However the processes, the signals and `watchdog` interleave: before the solar panel's tenth
iteration and the sensor's thirtieth neither the power nor the thermal process has decided to report
anything, and the mode has never changed, on the bus or in a child, nor has any child been sent a
signal to change it. -/
theorem normal_before_scenario (actions : List SpacecraftAction) (craft : Spacecraft)
    (events : List SpacecraftEvent) (ran : spacecraft.run .start actions = some (craft, events))
    (noEclipse : craft.solarElapsed < eclipseStart) (noSpike : craft.sensorElapsed < thermalSpike) :
    decidedBy .power events = [] ∧ decidedBy .thermal events = [] ∧
      (∀ event, .obc event ∈ events → event.changesMode = false) ∧
      craft.obc.bus.safeMode = modeNormal ∧
      ∀ who child, craft.obc.children who = some child → child.flags.gSafeMode = modeNormal := by
  have script := onScript_of_run ran
  obtain ⟨_, _, power⟩ := script.before noEclipse
  have thermal : decidedBy .thermal events = [] := by
    have spike : thermalSpike = 30 := rfl
    rw [script.thermalReports, thermalReports, if_neg (Nat.not_le.mpr noSpike),
      if_neg (by omega)]
    rfl
  have noEntry : ∀ sample, .obc (.began (.safeMode sample)) ∉ events := by
    intro sample member
    obtain ⟨front, back, split⟩ := List.append_of_mem member
    obtain ⟨before, since, last, isCritical, told⟩ := explained_of_run ran front _ back split
    rw [last.split, List.append_assoc] at split
    rcases told.of_isCritical isCritical with outstanding | outstanding
    · exact not_outstanding_of_silent power split outstanding
    · exact not_outstanding_of_silent thermal split outstanding
  obtain ⟨stays, quiet⟩ := staysNormal_of_run ran noEntry
  exact ⟨power, thermal, quiet, stays.bus,
    fun who child found => (stays.children who child found).2⟩

/-- The last iterations before the eclipse and the spike, their data on the bus, and a tick. -/
def lastNormal : List SpacecraftAction :=
  startingUp ++ List.replicate 9 (.solar 0) ++ List.replicate 5 (.battery 0) ++ sensing 29 ++
    [.powerBusWriter, .thermalBusWriter] ++ List.replicate 6 (.obc .main)

theorem normal_before_scenario_lastNormal :
    ∃ craft events, spacecraft.run .start lastNormal = some (craft, events) ∧
      decidedBy .power events = [] ∧ decidedBy .thermal events = [] ∧
      (∀ event, .obc event ∈ events → event.changesMode = false) ∧
      craft.obc.bus.safeMode = modeNormal ∧
      ∀ who child, craft.obc.children who = some child → child.flags.gSafeMode = modeNormal := by
  have reached : (spacecraft.run .start lastNormal).any (fun reached =>
      decide (reached.1.solarElapsed < eclipseStart) &&
        decide (reached.1.sensorElapsed < thermalSpike)) = true := by decide +kernel
  obtain ⟨⟨craft, events⟩, ran, early⟩ := (Option.any_eq_true _ _).mp reached
  simp only [Bool.and_eq_true, decide_eq_true_eq] at early
  exact ⟨craft, events, ran, normal_before_scenario lastNormal craft events ran early.1 early.2⟩

/-! ### A mission that becomes normal again -/

/-- The number of iterations of `battery_thread`. -/
def charges (actions : List SpacecraftAction) : Nat :=
  actions.countP fun
    | .battery _ => true
    | _ => false

/-- Both processes are past their emergencies for good. -/
structure Spacecraft.Recovered (craft : Spacecraft) : Prop where
  beyond : eclipseEnd < craft.solarElapsed
  charged : batteryWarning < craft.power.batteryPct
  cooled : thermalSpike + 6 ≤ craft.sensorElapsed

/-- The bus shows the battery past the warning level, in the sun. -/
def TelemetryBus.ShowsCharged (bus : TelemetryBus) : Prop :=
  batteryWarning < bus.batteryPct ∧ 0.0 < bus.solarWatts

/-- The bus shows a cool CPU. -/
def TelemetryBus.ShowsCool (bus : TelemetryBus) : Prop := bus.tempCpu < tempWarning

section Steps

variable {craft next : Spacecraft} {events emitted : List SpacecraftEvent}
  {action : SpacecraftAction}

theorem Spacecraft.OnScript.sunlit (script : craft.OnScript events)
    (beyond : eclipseEnd < craft.solarElapsed) : craft.power.inEclipse = false := by
  rw [script.eclipse, Bool.eq_false_iff]
  exact fun dark => Nat.not_lt.mpr (inEclipse_iff.mp dark).2 beyond

/-- What a bus writer publishes then. -/
theorem Spacecraft.OnScript.shows (script : craft.OnScript events) (recovered : craft.Recovered)
    (gSafeMode : Bool) (bus : TelemetryBus) :
    (powerBusWrite craft.power gSafeMode bus).ShowsCharged ∧
      (thermalBusWrite craft.thermal bus).ShowsCool := by
  obtain ⟨watts, least, most, bright⟩ := script.sound.sunlight (script.sunlit recovered.beyond)
  have none : (0.0 : Float32) = (0).toFloat32 := by decide +kernel
  refine ⟨⟨recovered.charged, ?_⟩, script.cooled recovered.cooled⟩
  change 0.0 < craft.power.solarWatts
  rw [bright, none]
  exact (WholeFloat.lt_toFloat32 (by decide) (by omega)).mpr (by omega)

end Steps

theorem PowerData.Charged.above {power : PowerData} {iterations : Nat}
    (charged : power.Charged iterations) (enough : 7 ≤ iterations) :
    batteryWarning < power.batteryPct := by
  obtain ⟨charge, most, whole, gained, _⟩ := charged.gained
  have level : batteryWarning = (20).toFloat32 := by decide +kernel
  rw [whole, level]
  exact (WholeFloat.lt_toFloat32 (by decide) (by omega)).mpr (by omega)

/-- The ticks that found the bus in safe mode. -/
def safeSamples (events : List SpacecraftEvent) : Nat :=
  events.countP fun
    | .obc (.sampled sample) => sample.safe
    | _ => false

/-- The broadcasts of the normal mode. -/
def exits (events : List SpacecraftEvent) : Nat :=
  events.countP fun
    | .obc (.began .safeModeExit) => true
    | _ => false

/-- Whether the sample held still has `watchdog` leave safe mode. -/
def ObcPc.owed (pc : ObcPc) : Nat :=
  match pc.taken? with
  | some taken => if taken.safe then 1 else 0
  | none => 0

/-- The samples were nominal, so nothing was entered, and each tick that found safe mode left
it. -/
structure ObcPc.OnlyLeaves (pc : ObcPc) (events : List SpacecraftEvent) : Prop where
  holds : ∀ sample, pc.taken? = some sample →
    sample.isNominal = true ∧ (pc = .enterTest sample ∨ pc = .exitTest sample)
  nominal : ∀ sample, .obc (.sampled sample) ∈ events → sample.isNominal = true
  noEntry : ∀ sample, .obc (.began (.safeMode sample)) ∉ events
  exits : safeSamples events = exits events + pc.owed

namespace ObcPc.OnlyLeaves

variable {pc next : ObcPc} {events more : List SpacecraftEvent}

/-- A step without a sample and without a decision. -/
theorem idle (only : pc.OnlyLeaves events)
    (taken : next.taken? = pc.taken?)
    (holds : ∀ sample, next.taken? = some sample →
      next = .enterTest sample ∨ next = .exitTest sample)
    (silent : ∀ event ∈ more, (∀ sample, event ≠ .obc (.sampled sample)) ∧
      ∀ broadcast, event = .obc (.began broadcast) → broadcast = .shutdown) :
    next.OnlyLeaves (events ++ more) := by
  have none : safeSamples more = 0 ∧ Fdir.exits more = 0 := by
    refine ⟨List.countP_eq_zero.mpr fun event member => ?_,
      List.countP_eq_zero.mpr fun event member => ?_⟩
    · split
      next sample => exact absurd rfl ((silent _ member).1 sample)
      · simp
    · split
      · cases (silent _ member).2 _ rfl
      · simp
  refine ⟨fun sample held => ⟨(only.holds sample (taken ▸ held)).1, holds sample held⟩,
    fun sample member => ?_, fun sample member => ?_, ?_⟩
  · rcases List.mem_append.mp member with member | member
    · exact only.nominal sample member
    · exact absurd rfl ((silent _ member).1 sample)
  · rcases List.mem_append.mp member with member | member
    · exact only.noEntry sample member
    · cases (silent _ member).2 _ rfl
  · have first := only.exits
    rw [safeSamples, List.countP_append, Fdir.exits, List.countP_append]
    change safeSamples events + safeSamples more = Fdir.exits events + Fdir.exits more + next.owed
    rw [none.1, none.2, owed, taken]
    exact first

/-- A sample is taken. -/
theorem sampled (only : pc.OnlyLeaves events) (between : pc.taken? = none) {sample : Sample}
    (isNominal : sample.isNominal = true) :
    (ObcPc.enterTest sample).OnlyLeaves (events ++ [.obc (.sampled sample)]) where
  holds _ held := by
    cases held
    exact ⟨isNominal, .inl rfl⟩
  nominal other member := by
    rcases List.mem_append.mp member with member | member
    · exact only.nominal other member
    · cases List.mem_singleton.mp member
      exact isNominal
  noEntry other member := by
    rcases List.mem_append.mp member with member | member
    · exact only.noEntry other member
    · cases List.mem_singleton.mp member
  exits := by
    have first := only.exits
    rw [owed, between] at first
    rw [safeSamples, Fdir.exits, List.countP_append, List.countP_append, List.countP_singleton,
      List.countP_singleton]
    exact congrArg (· + if sample.safe then 1 else 0) first

/-- Safe mode is left. -/
theorem left (only : pc.OnlyLeaves events) {sample : Sample} (held : pc.taken? = some sample)
    (safe : sample.safe = true) (rest : List Subsystem) :
    (ObcPc.testing .safeModeExit rest).OnlyLeaves (events ++ [.obc (.began .safeModeExit)]) where
  holds _ held := by cases held
  nominal other member := by
    rcases List.mem_append.mp member with member | member
    · exact only.nominal other member
    · cases List.mem_singleton.mp member
  noEntry other member := by
    rcases List.mem_append.mp member with member | member
    · exact only.noEntry other member
    · cases List.mem_singleton.mp member
  exits := by
    have first := only.exits
    simp only [owed, held, safe, if_true] at first
    rw [safeSamples, Fdir.exits, List.countP_append, List.countP_append, List.countP_singleton,
      List.countP_singleton]
    exact first

theorem statement {obc after : Obc} {emitted : List ObcEvent} (only : obc.pc.OnlyLeaves events)
    (shows : obc.bus.sample.isNominal = true) (statement : obc.Statement after emitted) :
    after.pc.OnlyLeaves (events ++ emitted.map .obc) := by
  -- A sample that is held is on its way to neither broadcast yet.
  have stage : ∀ {taken : Sample}, obc.pc.taken? = some taken →
      taken.isNominal = true ∧ (obc.pc = .enterTest taken ∨ obc.pc = .exitTest taken) :=
    fun held => only.holds _ held
  cases statement with
  | sample atPc => exact only.sampled (by rw [atPc]; rfl) shows
  | leave taken atPc safe => exact only.left (by rw [atPc]; rfl) safe broadcastOrder
  | enter taken atPc normal isCritical =>
    have isNominal := (stage (by rw [atPc]; rfl : obc.pc.taken? = some taken)).1
    rw [taken.apart isCritical] at isNominal
    cases isNominal
  | noEnter taken atPc other =>
    refine only.idle (by rw [atPc]; rfl) (fun _ held => ?_) (by simp)
    cases held
    exact .inr rfl
  | noLeave taken atPc other =>
    have isNominal := (stage (by rw [atPc]; rfl : obc.pc.taken? = some taken)).1
    have normal : taken.safe = false :=
      other.resolve_right fun notNominal => absurd (isNominal.symm.trans notNominal) (by decide)
    refine ⟨fun _ held => (by cases held), ?_, ?_, ?_⟩
    · simpa using only.nominal
    · simpa using only.noEntry
    · have first := only.exits
      rw [owed, atPc] at first
      simp only [taken?, normal] at first
      rw [List.map_nil, List.append_nil]
      exact first
  | storeSafe taken atPc =>
    rcases (stage (by rw [atPc]; rfl : obc.pc.taken? = some taken)).2 with other | other <;>
      rw [atPc] at other <;> cases other
  | broadcasted broadcast atPc | tested broadcast who rest atPc | skipped broadcast who rest atPc
  | kill broadcast who rest atPc =>
    cases broadcast with
    | safeMode taken =>
      rcases (stage (by rw [atPc]; rfl : obc.pc.taken? = some taken)).2 with other | other <;>
        rw [atPc] at other <;> cases other
    | safeModeExit | shutdown =>
      exact only.idle (congrArg taken? atPc).symm (fun _ held => (by cases held)) (by simp)
  | started atPc | assign who pid todo atPc | shutDown atPc | count atPc | tick atPc
  | storeNormal atPc | noChild calls atPc | waited atPc =>
    exact only.idle (congrArg taken? atPc).symm (fun _ held => (by cases held)) (by simp)

theorem step {craft after : Spacecraft} {emitted : List SpacecraftEvent}
    {action : SpacecraftAction} (only : craft.obc.pc.OnlyLeaves events)
    (shows : craft.obc.bus.sample.isNominal = true)
    (stepped : spacecraft.step craft action = some (after, emitted)) :
    after.obc.pc.OnlyLeaves (events ++ emitted) := by
  have still : ∀ {more : List SpacecraftEvent}, (∀ event, .obc event ∉ more) →
      craft.obc.pc.OnlyLeaves (events ++ more) := by
    intro more other
    refine only.idle rfl (fun sample held => (only.holds sample held).2) fun event member => ?_
    constructor <;> rintro _ rfl <;> exact absurd member (other _)
  cases Spacecraft.does_of_step stepped with
  | solar | battery | sensor | heater | powerBusWriter | thermalBusWriter => exact still (by simp)
  | obc inner =>
    cases Obc.does_of_step inner with
    | main free statement => exact only.statement shows statement
    | fork who pid todo atPc | forkFails who todo atPc | wait who child calls atPc =>
      exact only.idle (congrArg ObcPc.taken? atPc).symm (fun _ held => (by cases held)) (by simp)
    | reap | exit | handle | powerBusWriter | publish | signalled =>
      exact only.idle rfl (fun sample held => (only.holds sample held).2) (by simp)

end ObcPc.OnlyLeaves

end Fdir

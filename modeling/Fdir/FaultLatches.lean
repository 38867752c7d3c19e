/-
This file states what the three fault latches do over whole runs. The battery, the CPU
temperature and the signal quality are each checked by a thread of their own, with
comparisons of different directions and strictness, one of them under its mutex and one of
them not at all in safe mode; the reports of all three tell the ground the same story.
-/

import Fdir.Comms
import Fdir.Power
import Fdir.Thermal

namespace Fdir

open CMemory

/-- Over the whole past, each latch is that of a plain hysteresis automaton: it is set exactly
when some value checked was critical and no later one had crossed back. -/
theorem faultLatches_eq_after :
    (∀ charges power faults, batteryThread.run powerInit charges = some (power, faults) →
      power.faultActive = batteryThresholds.after charges) ∧
      (∀ readings thermal faults, sensorThread.run thermalInit readings = some (thermal, faults) →
        thermal.faultActive = sensorThresholds.after (readings.map ZoneReading.cpu)) ∧
      ∀ signals downlink faults,
        downlinkThread.run ⟨commsInit, 0⟩ signals = some (downlink, faults) →
          downlink.comms.faultActive = downlinkThresholds.after signals.reduceOption := by
  refine ⟨fun charges power faults ran => ?_, fun readings thermal faults ran => ?_,
    fun signals downlink faults ran => ?_⟩
  · rw [batteryThread_judgesBy.faultActive_eq_after rfl ran, List.filterMap_some]
  · rw [sensorThread_judgesBy.faultActive_eq_after rfl ran, List.filterMap_eq_map']
  · exact downlinkThread_judgesBy.faultActive_eq_after rfl ran

end Fdir

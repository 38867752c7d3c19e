import Fdir.FlightLog
import Fdir.SendFault
import Fdir.Logger
import Fdir.FaultLatch
import Fdir.Power
import Fdir.Comms
import Fdir.FaultLatches
import Fdir.Supervisor
import Fdir.ChildPids
import Fdir.SignalTargets
import Fdir.ModeStores
import Fdir.SafeMode
import Fdir.SafeModeCommand
import Fdir.LineFraming
import Fdir.Uplink
import Fdir.LockedThreads
import Fdir.Contention
import Fdir.ModeAgreement
import Fdir.SentEntries
import Fdir.WriteFaults
import Fdir.ForeignLog
import Fdir.LogCrash
import Fdir.InitIpc
import Fdir.LoggerShutdown
import Fdir.WaitChildren
import Fdir.Eclipse
import Fdir.Overheat
import Fdir.Heater
import Fdir.PowerThreads
import Fdir.Downlink
import Fdir.PausedLogging
import Fdir.BusIsolation
import Fdir.LastCommand
import Fdir.LockOrder
import Fdir.MissionLocks
import Fdir.MissionAccesses
import Fdir.MissionReports
import Fdir.Spacecraft
import Fdir.Scenario
import Fdir.Shutdown
import Fdir.Delivery
import Fdir.FlightRecorder
import Fdir.Processes
import Fdir.CleanExit

import ThermalManager.Lib.Run
import ThermalManager.Lib.Hysteresis
import ThermalManager.Lib.Extremum
import ThermalManager.Lib.Overlay
import ThermalManager.Lib.Fanout
import ThermalManager.Lib.Alignment
import ThermalManager.Lib.Outcome
import ThermalManager.Lib.OneShot
import ThermalManager.Lib.EdgeTrigger
import ThermalManager.Lib.LeastSquares
import ThermalManager.Lib.Window
import ThermalManager.Utils.StringOperation
import ThermalManager.Utils.Splitting
import ThermalManager.Utils.UintDecimal
import ThermalManager.Policy.SensorCluster
import ThermalManager.Policy.LevelSafety
import ThermalManager.Policy.LevelMonotone
import ThermalManager.Policy.LevelStable
import ThermalManager.Policy.JudgmentSpec
import ThermalManager.Action.ActionClass
import ThermalManager.Action.ThermalAction
import ThermalManager.Action.ActionSpec
import ThermalManager.Action.Lifecycle
import ThermalManager.Action.TimerOwner
import ThermalManager.Action.RoundWindow
import ThermalManager.Action.AppliedValue
import ThermalManager.Action.Airplane
import ThermalManager.Action.ChargingLimit
import ThermalManager.Action.SocRestart
import ThermalManager.Policy.Decision
import ThermalManager.Policy.Arbitration
import ThermalManager.Policy.EntryLedger
import ThermalManager.Policy.DelayEntry
import ThermalManager.Action.ThermalLevel
import ThermalManager.Action.LevelClients
import ThermalManager.Action.LevelListeners
import ThermalManager.Action.LevelOutdated
import ThermalManager.Observer.CallbackRegistry
import ThermalManager.Observer.DeathRecipients
import ThermalManager.Observer.ThermalObserver
import ThermalManager.Observer.TempCallback
import ThermalManager.Observer.SensorQuery
import ThermalManager.Observer.RiseRate
import ThermalManager.Observer.Subscriber
import ThermalManager.Observer.ActionCallback
import ThermalManager.Observer.ActionTasks
import ThermalManager.Ipc.CallbackParcel
import ThermalManager.Config.ServiceConfig
import ThermalManager.Config.SectionParser
import ThermalManager.Config.LevelSection
import ThermalManager.Config.LevelFields
import ThermalManager.Config.Load
import ThermalManager.Config.BaseInfo
import ThermalManager.Policy.Reporting
import ThermalManager.Policy.FanFault
import ThermalManager.Policy.RateFreshness
import ThermalManager.Policy.AskedStates
import ThermalManager.State.StateMachine
import ThermalManager.State.LiveStates
import ThermalManager.State.ChargeState
import ThermalManager.State.ChargeIdle
import ThermalManager.State.DelayTimer
import ThermalManager.State.TimerOwnership
import ThermalManager.State.StaleTimer
import ThermalManager.Protector.ThermalZone
import ThermalManager.Protector.SamplingSchedule
import ThermalManager.Protector.KernelPolicy
import ThermalManager.Protector.DeviceControl
import ThermalManager.Client.MgrListener
import ThermalManager.Protector.KernelConfig
import ThermalManager.Protector.TimerPeriod
import ThermalManager.Protector.IndexSafety
import ThermalManager.Lib.Simulation
import ThermalManager.Service.Evaluation
import ThermalManager.Service.QuietUpdates
import ThermalManager.Service.ServiceActions
import ThermalManager.Service.OwnStates
import ThermalManager.Service.HdiRegistration
import ThermalManager.Protector.Process
import ThermalManager.Protector.TickSchedule
import ThermalManager.Client.MgrConnection
import ThermalManager.Client.NapiCallback
import ThermalManager.Service.ServiceStates
import ThermalManager.Service.AskedService
import ThermalManager.Service.ScriptedService
import ThermalManager.Service.DeviceRequests

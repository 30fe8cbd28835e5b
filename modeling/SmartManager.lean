import SmartManager.Libc.Conv
import SmartManager.Libc.Format
import SmartManager.Misc.Timestamp
import SmartManager.Misc.List
import SmartManager.Misc.Hashmap
import SmartManager.Data.MmsmData
import SmartManager.Backend.Nl80211
import SmartManager.Backend.Nl80211Request
import SmartManager.Backend.Nl80211Sync
import SmartManager.Engine.AsyncMonitor
import SmartManager.Engine.Polling
import SmartManager.Engine.Registry
import SmartManager.Engine.Datalog
import SmartManager.Engine.Helpers
import SmartManager.Backend.HostapdCtrl
import SmartManager.Backend.MonitorSetup
import SmartManager.Dcs.Context
import SmartManager.Dcs.Events
import SmartManager.Backend.Morsectrl
import SmartManager.Dcs.Algo
import SmartManager.Dcs.HighestScore
import SmartManager.Dcs.ScanThread
import SmartManager.Dcs.AlgoRuns
import SmartManager.Dcs.ScanRounds
import SmartManager.Dcs.EwmaScores
import SmartManager.Dcs.EwmaHysteresis
import SmartManager.Dcs.Measurement
import SmartManager.Dcs.ChannelSwitch
import SmartManager.Dcs.ReplayStore
import SmartManager.Dcs.Replay
import SmartManager.Dcs.ReplayCreate
import SmartManager.Dcs.Teardown
import SmartManager.Main.Modules

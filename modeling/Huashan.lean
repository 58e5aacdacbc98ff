import Huashan.Run
import Huashan.Lights.Light
import Huashan.Lights.Leds
import Huashan.Lights.Target
import Huashan.Lights.Display
import Huashan.Lights.Drawn
import Huashan.Lights.History
import Huashan.Lights.Blink
import Huashan.Ril.Dispatch
import Huashan.Ril.Requests
import Huashan.Ril.Pending
import Huashan.Ril.Answered
import Huashan.Ril.Completion
import Huashan.Ril.Callbacks
import Huashan.Ril.Nitz
import Huashan.Ril.WakeLock
import Huashan.Camera.Exposure
import Huashan.Camera.RoundTrip
import Huashan.Camera.Callbacks
import Huashan.Doze.Sensors
import Huashan.Doze.Service
import Huashan.Doze.Monitor
import Huashan.Doze.Watch
import Huashan.Doze.Period
import Huashan.LightsEffects.Property
import Huashan.LightsEffects.Sessions
import Huashan.LightsEffects.Playing
import Huashan.Gnss.Wakelock
import Huashan.MacAddr.ReadMac
import Huashan.Sap.Responses
import Huashan.Sap.Socket
import Huashan.Sap.Queue
import Huashan.Sap.Requests
import Huashan.Ril.Arguments
import Huashan.Ril.DataCalls
import Huashan.Ril.Networks
import Huashan.Ril.Registration
import Huashan.Boot.Image
import Huashan.Ril.CdmaSms
import Huashan.Ril.Mnc
import Huashan.Ril.SignalStrength
import Huashan.Ril.CellInfo
import Huashan.CString
import Huashan.Camera.Accesses
import Huashan.Camera.DeviceOpen
import Huashan.Gnss.SvStatus
import Huashan.MacAddr.Files
import Huashan.Lights.Levels
import Huashan.Lights.Program
import Huashan.Glove.Service
import Huashan.Ril.NewSms
import Huashan.RilEvent.TimerRuns
import Huashan.RilEvent.WatchRuns
import Huashan.Vector.SortedRuns
import Huashan.Mailbox
import Huashan.Polling.Wakes
import Huashan.Polling.Removal
import Huashan.Graphics.Flatten
import Huashan.Graphics.Ownership
import Huashan.RilEvent.LoopRuns

import Gear360.PlainStream
import Gear360.TttsDemux
import Gear360.WsmBinding
import Gear360.VariantsAgree
import Gear360.AuthGate
import Gear360.PdExchange
import Gear360.DeviceInfo
import Gear360.SessionLayer
import Gear360.SlpDecoding
import Gear360.ServiceConnection
import Gear360.SessionIds
import Gear360.MalformedFrames
import Gear360.CrcErrors
import Gear360.ScRequest
import Gear360.HandlerShapes
import Gear360.WsmAtomic
import Gear360.HelperRefusal
import Gear360.DemuxTimeouts
import Gear360.FrameRate
import Gear360.PatcherExact
import Gear360.CommandEcho
import Gear360.HostBudget
import Gear360.CrcArc
import Gear360.ShortWrites
import Gear360.DeviceDiscovery
import Gear360.SapConnection

import Libmonome.Mext.Levels
import Libmonome.Success
import Libmonome.LevelMaps
import Libmonome.PartialLines
import Libmonome.Buffers
import Libmonome.Ownership
import Libmonome.Mext.OutputStream
import Libmonome.FullLines
import Libmonome.Mext.Stream
import Libmonome.Mext.Phantoms
import Libmonome.Alignment
import Libmonome.Mext.Session
import Libmonome.Mext.Deadline
import Libmonome.Cpp.Dispatch
import Libmonome.Monomeserial
import Libmonome.PosixRead
import Libmonome.Serials
import Libmonome.ImageRotation
import Libmonome.Decoding
import Libmonome.OscPackets
import Libmonome.Windows
import Libmonome.Mext.Packing
import Libmonome.Numstr
import Libmonome.Lib.Display
import Libmonome.Panel
import Libmonome.Mext.Lamps
import Libmonome.Lib.Agree
import Libmonome.EventLoop
import Libmonome.Hearing
import Libmonome.Relay
import Libmonome.LineFrames
import Libmonome.LineLamps
import Libmonome.DeviceLamps
import Libmonome.Mext.Dialogue
import Libmonome.Attending
import Libmonome.SimpleToggle
import Libmonome.RelayLamps
import Libmonome.Lib.Life
import Libmonome.Life
import Libmonome.SerialLookup
import Libmonome.WindowsPort

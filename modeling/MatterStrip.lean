import MatterStrip.Lib.Run
import MatterStrip.Lib.Unwinding
import MatterStrip.Lib.Bits
import MatterStrip.Lib.Store
import MatterStrip.Lib.Scale
import MatterStrip.Strip.LastWriter
import MatterStrip.Strip.Relit
import MatterStrip.Strip.LostUpdate
import MatterStrip.Strip.Dimming
import MatterStrip.Strip.Wheel
import MatterStrip.Strip.Temperature
import MatterStrip.Strip.Trace
import MatterStrip.Strip.Linear
import MatterStrip.Strip.Distinct
import MatterStrip.Strip.Healed
import MatterStrip.Strip.Torn
import MatterStrip.Light.Backing
import MatterStrip.Light.Purpose
import MatterStrip.Light.Delays
import MatterStrip.Light.Settle
import MatterStrip.Light.Phases
import MatterStrip.App.Lit
import MatterStrip.App.ColourMode
import MatterStrip.App.Agreement
import MatterStrip.App.WriteBack
import MatterStrip.App.StartUp
import MatterStrip.App.Shown
import MatterStrip.App.Moves
import MatterStrip.App.Settle
import MatterStrip.App.Device
import MatterStrip.App.Independent
import MatterStrip.App.Events
import MatterStrip.App.Interrupted
import MatterStrip.App.Between
import MatterStrip.App.Harmless

import OpenRaw.Format
import OpenRaw.Facade
import OpenRaw.Script
import OpenRaw.Pnm
import OpenRaw.Thumb
import OpenRaw.Cfa

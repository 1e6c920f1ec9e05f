import XcanRouter.Base.Chain
import XcanRouter.Base.Fifo
import XcanRouter.Base.Custody
import XcanRouter.Base.Runs
import XcanRouter.Conservation
import XcanRouter.Content
import XcanRouter.Refcount
import XcanRouter.Transmission
import XcanRouter.Registry
import XcanRouter.Router
import XcanRouter.Sharing
import XcanRouter.Blocks
import XcanRouter.Lookup
import XcanRouter.Rejection
import XcanRouter.Constructors
import XcanRouter.Lengths
import XcanRouter.Polling
import XcanRouter.Exchange
import XcanRouter.Waiting
import XcanRouter.HeadOfLine
import XcanRouter.HotPlug
import XcanRouter.Creation
import XcanRouter.Lifecycle
import XcanRouter.Framework.Routing
import XcanRouter.Framework.Sessions
import XcanRouter.Framework.Success
import XcanRouter.Framework.Image
import XcanRouter.Framework.Release
import XcanRouter.Framework.Indices
import XcanRouter.Framework.PayloadBounds
import XcanRouter.Framework.SdFirmware
import XcanRouter.Framework.SdArchive
import XcanRouter.Framework.KeyUpdate
import XcanRouter.Framework.Traffic
import XcanRouter.Framework.Quiescence
import XcanRouter.Framework.Heartbeat
import XcanRouter.Framework.Leaks
import XcanRouter.Framework.KeyMemory
import XcanRouter.Framework.KeyErase
import XcanRouter.Framework.Alongside
import XcanRouter.Framework.ConsoleRuns

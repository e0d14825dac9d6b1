import RaceLink.Transport.Reader
import RaceLink.Transport.OneAtATime
import RaceLink.Dispatch.Cost
import RaceLink.Offset.Wire
import RaceLink.Scenes.Malformed
import RaceLink.Gateway.Expect
import RaceLink.Gateway.ConfigStash
import RaceLink.Gateway.PendingRequests
import RaceLink.Protocol.OffsetGrammar
import RaceLink.Offset.Explicit
import RaceLink.Dispatch.Progress
import RaceLink.Dispatch.Sizes
import RaceLink.Scenes.FixedPoint
import RaceLink.Scenes.Export
import RaceLink.Dispatch.GroupCache
import RaceLink.Presets.FlagsByte
import RaceLink.Presets.Isolation
import RaceLink.Web.Tasks
import RaceLink.Dispatch.Detail
import RaceLink.Startblock.Names
import RaceLink.Gateway.Exchange
import RaceLink.Gateway.Restore
import RaceLink.Gateway.Hooks
import RaceLink.Gateway.Reconnect
import RaceLink.Web.Bridge
import RaceLink.Web.Pages
import RaceLink.Ota.Radio
import RaceLink.Presets.Uploads

import LaluneServer.Lib.Transition
import LaluneServer.Lib.SkipZero
import LaluneServer.Lib.BitWindow
import LaluneServer.Pvp.SequenceNumbers
import LaluneServer.Pvp.Terminal
import LaluneServer.Pvp.Window
import LaluneServer.Pvp.Network
import LaluneServer.Pvp.Reliability
import LaluneServer.Pvp.Deadlock
import LaluneServer.Lib.DeadlineTimer
import LaluneServer.NetLib.Client
import LaluneServer.NetLib.ClientLifecycle
import LaluneServer.NetLib.ClientPackets
import LaluneServer.Lib.Framing
import LaluneServer.NetLib.ByteStream
import LaluneServer.NetLib.Connection
import LaluneServer.NetLib.ServerSession
import LaluneServer.NetLib.ServerSessionPackets
import LaluneServer.AutoMatch.Dispatch
import LaluneServer.Control.ControlServer
import LaluneServer.Control.Registry
import LaluneServer.NetLibPlus.Groups
import LaluneServer.Gateway.Frames
import LaluneServer.Gateway.Routing
import LaluneServer.NetLib.ClientOrder
import LaluneServer.Pvp.Bookkeeping
import LaluneServer.Pvp.Acknowledgements
import LaluneServer.Pvp.SendQueue
import LaluneServer.Pvp.ShiftCounts
import LaluneServer.Pvp.ControlSocket
import LaluneServer.Pvp.ExactlyOnce
import LaluneServer.Control.AddressCopies
import LaluneServer.Control.Convergence
import LaluneServer.NetLib.ClientLedger
import LaluneServer.NetLibPlus.Client
import LaluneServer.NetLibPlus.Custody
import LaluneServer.AutoMatch.Answers
import LaluneServer.Control.SessionTable
import LaluneServer.Gateway.TmpIds
import LaluneServer.NetLibPlus.Startup
import LaluneServer.Pvp.GameServer
import LaluneServer.Pvp.Games
import LaluneServer.Pvp.Datagrams
import LaluneServer.Pvp.ReceiveChains
import LaluneServer.NetLib.ClientSettings
import LaluneServer.NetLib.ClientCancel
import LaluneServer.NetLib.ClientKeepAlive
import LaluneServer.NetLib.ClientConnects
import LaluneServer.NetLib.ClientTurns
import LaluneServer.NetLib.ClientReconnect
import LaluneServer.NetLib.ClientBudget
import LaluneServer.NetLibPlus.EarlyData
import LaluneServer.NetLibPlus.Resend
import LaluneServer.AutoMatch.BattleServers
import LaluneServer.Lib.JsonText
import LaluneServer.Control.Config
import LaluneServer.Control.ConfigList
import LaluneServer.Control.ConfigRuns
import LaluneServer.Account.Registrations
import LaluneServer.Match.Groups
import LaluneServer.Combat.GameStart
import LaluneServer.Combat.GameTables
import LaluneServer.Log.CounterRuns
import LaluneServer.Control.Timeouts
import LaluneServer.Lib.BufferRead
import LaluneServer.ServerCommon.FrameBounds
import LaluneServer.Gateway.ReplyBounds
import LaluneServer.Combat.CombatServerUdp
import LaluneServer.Version.UpgradeChain
import LaluneServer.Version.ConfigRefresh
import LaluneServer.Pvp.Resends
import LaluneServer.Include.IdRuns
import LaluneServer.Lib.Calendar
import LaluneServer.Lib.DecimalText
import LaluneServer.Include.TimeStrings
import LaluneServer.Log.FileNames
import LaluneServer.Log.Retention
import LaluneServer.Log.OptionRuns
import LaluneServer.Log.LogText
import LaluneServer.Log.LogDataReader
import LaluneServer.Version.Publishing
import LaluneServer.NetLib.ClientService
import LaluneServer.Lib.TaggedFields
import LaluneServer.Lib.FieldJumps
import LaluneServer.Lib.WireCodecs
import LaluneServer.ServerCommon.CommonLib
import LaluneServer.ServerCommon.ControlFrames
import LaluneServer.ServerCommon.ControlChannel
import LaluneServer.Control.ConfigServer
import LaluneServer.Control.ConfigDelivery
import LaluneServer.Control.ConfigAnswers
import LaluneServer.Control.ConfigCopies
import LaluneServer.NetLib.ServerRuns
import LaluneServer.Lib.SortedPicks
import LaluneServer.AutoMatch.FairGames
import LaluneServer.Combat.SharedActions
import LaluneServer.Pvp.ServiceSockets
import LaluneServer.Version.Publishers
import LaluneServer.Version.PublishedVersions

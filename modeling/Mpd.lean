import Mpd.Transition
import Mpd.Alternation
import Mpd.Fsm.Events
import Mpd.Fsm.Automaton
import Mpd.Fsm.Refinement
import Mpd.Fsm.Runs
import Mpd.Fsm.RestartTimer
import Mpd.Fsm.LayerCalls
import Mpd.Fsm.CodeReject
import Mpd.Fsm.Identifiers
import Mpd.Fsm.Acknowledgement
import Mpd.Fsm.OptionList
import Mpd.Lcp.Request
import Mpd.Lcp.Phase
import Mpd.Lcp.Authentication
import Mpd.Lcp.AuthNaks
import Mpd.Lcp.Identifiers
import Mpd.Ipcp.Identifiers
import Mpd.Ipv6cp.Identifiers
import Mpd.Lcp.Recorded
import Mpd.Fsm.Naks
import Mpd.Lcp.Suggestions
import Mpd.Auth.Work
import Mpd.Auth.Reflection
import Mpd.Auth.EapMethods
import Mpd.Auth.PayloadReads
import Mpd.Auth.AclLists
import Mpd.Link.Init
import Mpd.Link.Children
import Mpd.Ipcp.Request
import Mpd.Ipcp.Exclusive
import Mpd.Ipcp.Compression
import Mpd.CString
import Mpd.Util.ParseLine
import Mpd.Util.Strings
import Mpd.KeyedList
import Mpd.Util.GHash
import Mpd.Util.GHashRuns
import Mpd.Command
import Mpd.Console.Session
import Mpd.Console.Login
import Mpd.Console.Editor
import Mpd.Pptp.Numbers
import Mpd.Pptp.Stream
import Mpd.IpRange
import Mpd.MsgQueue
import Mpd.IpPoolAdd
import Mpd.Lcp.MagicCheck
import Mpd.Ccp.Pred1Access
import Mpd.ConfigureAck
import Mpd.NakConvergence
import Mpd.Ccp.Mppc
import Mpd.Ccp.Request
import Mpd.Bund.Discrim
import Mpd.Bund.Bloat
import Mpd.Bund.Bandwidth
import Mpd.Ccp.Pred1Session
import Mpd.Ecp.DeseBis
import Mpd.L2tp.AvpRoundTrip
import Mpd.L2tp.Message
import Mpd.L2tp.Ctrl
import Mpd.L2tp.DataEvent
import Mpd.Outcome
import Mpd.L2tp.Bookkeeping
import Mpd.L2tp.Simulation
import Mpd.L2tp.Handlers
import Mpd.L2tp.Lifetime
import Mpd.L2tp.Plain
import Mpd.L2tp.Unpacked
import Mpd.L2tp.Disconnect
import Mpd.L2tp.Pointers
import Mpd.L2tp.Quiet
import Mpd.L2tp.Tie
import Mpd.L2tp.Reads
import Mpd.L2tp.ReplyRuns
import Mpd.L2tp.ReplyTimer
import Mpd.L2tp.Secret
import Mpd.Region
import Mpd.Words
import Mpd.OnesComplement
import Mpd.Mbuf
import Mpd.Bund.Defs
import Mpd.Bund.Membership
import Mpd.Bund.OnePeer
import Mpd.Bund.OnePeerRuns
import Mpd.Fsm.Settled
import Mpd.Ipv6cp.Layer
import Mpd.Ipv6cp.Distinct
import Mpd.Agreement
import Mpd.Fsm.Course
import Mpd.Fsm.Orderly
import Mpd.Fsm.Advance
import Mpd.Fsm.Peers
import Mpd.Ipv6cp.Peers
import Mpd.Link.Input
import Mpd.Bund.Ncps
import Mpd.Bund.NcpsRuns
import Mpd.Bund.DataHooks
import Mpd.Bund.DataRoundTrip
import Mpd.Iface.AclPools
import Mpd.Iface.TableKeys
import Mpd.Iface.CorrectMss
import Mpd.Iface.AclMacros
import Mpd.Chat.Defs
import Mpd.Chat.Engine
import Mpd.Chat.Sound
import Mpd.Chat.Commands
import Mpd.Chat.Runs
import Mpd.Border
import Mpd.Chat.ExactMatch
import Mpd.Chat.Survivors
import Mpd.Chat.PendingMatches
import Mpd.Chat.ReadBoundaries
import Mpd.Chat.Expansion
import Mpd.L2tp.Links
import Mpd.L2tp.Tunnels
import Mpd.Pptp.Ctrl
import Mpd.Pptp.Moves
import Mpd.Pptp.Records
import Mpd.Pptp.Conversation
import Mpd.Pptp.Dying
import Mpd.Pptp.FindChan
import Mpd.Pptp.Agreement

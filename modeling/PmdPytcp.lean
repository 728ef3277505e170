import PmdPytcp.Lib.EndAround
import PmdPytcp.Lib.Circle
import PmdPytcp.Tcp.Sack
import PmdPytcp.Tcp.Rack
import PmdPytcp.Tcp.Rto
import PmdPytcp.InetCksum
import PmdPytcp.TcpHandler
import PmdPytcp.IcmpErrors
import PmdPytcp.Tcp.Stale
import PmdPytcp.Tcp.Laws.Flight
import PmdPytcp.Tcp.Laws.Fin
import PmdPytcp.Tcp.Laws.Stream
import PmdPytcp.Tcp.Laws.Close
import PmdPytcp.Tcp.Laws.TimeWait
import PmdPytcp.Tcp.Laws.EndOfStream
import PmdPytcp.Tcp.Laws.Frto
import PmdPytcp.Tcp.Laws.Reuse
import PmdPytcp.Tcp.Laws.Wakeup
import PmdPytcp.Tcp.Laws.Window
import PmdPytcp.Tcp.Laws.Options
import PmdPytcp.Plpmtud.Search
import PmdPytcp.Plpmtud.Trust
import PmdPytcp.Neighbor.Solicits
import PmdPytcp.Neighbor.Queue
import PmdPytcp.Ip.Completion
import PmdPytcp.Ip.Chunks
import PmdPytcp.Ip.Order
import PmdPytcp.Ip6.Caps
import PmdPytcp.Neighbor
import PmdPytcp.Neighbor.Moves
import PmdPytcp.Sockets.Sessions
import PmdPytcp.Udp.ZeroChecksum
import PmdPytcp.Neighbor.Entries
import PmdPytcp.Neighbor.Collect
import PmdPytcp.Icmp6.Routers
import PmdPytcp.Icmp6.Membership
import PmdPytcp.Icmp6.Temporary
import PmdPytcp.Icmp6.Tracking
import PmdPytcp.Ip4.LinkLocal
import PmdPytcp.Igmp.Agreement
import PmdPytcp.Igmp.Suppression
import PmdPytcp.Ip6.SourceSelection
import PmdPytcp.NetAddr.Exclude
import PmdPytcp.NetAddr.Constructors
import PmdPytcp.Ipc.Stream
import PmdPytcp.Dhcp4.Daemon
import PmdPytcp.Dhcp4.Concatenation

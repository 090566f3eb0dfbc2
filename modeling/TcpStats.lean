import TcpStats.Lib.CString
import TcpStats.Lib.Scan
import TcpStats.Lib.Run
import TcpStats.Filter.Parse
import TcpStats.Device.Read
import TcpStats.Device.ReadSpec
import TcpStats.Lib.Machine
import TcpStats.Device.Descriptor
import TcpStats.Device.PrefixBounds
import TcpStats.Client.Kld
import TcpStats.Client.Collect
import TcpStats.Device.AddrFamily
import TcpStats.Profile.Request
import TcpStats.Profile.Store
import TcpStats.Profile.Invariant
import TcpStats.Lib.Snprintf
import TcpStats.Profile.Listing
import TcpStats.Profile.Concurrent
import TcpStats.Profile.Handles
import TcpStats.Profile.Linearize
import TcpStats.Profile.Names
import TcpStats.Profile.CopyIn
import TcpStats.Profile.Nodes
import TcpStats.Profile.Unload
import TcpStats.Device.Accounting
import TcpStats.Device.Refusal
import TcpStats.Device.FilterRace
import TcpStats.Filter.Lists
import TcpStats.Device.ListStages
import TcpStats.Device.ExcludeFlags
import TcpStats.Device.OnlyFlags
import TcpStats.Client.Layout
import TcpStats.Device.Balance
import TcpStats.Client.Proto
import TcpStats.Client.Timers
import TcpStats.Filter.WellFormed
import TcpStats.Device.FullOutput
import TcpStats.Filter.Ipv6
import TcpStats.Filter.Ipv6Grammar
import TcpStats.Client.Macos
import TcpStats.Client.MacosFields
import TcpStats.Client.MacosLoop
import TcpStats.Client.MacosSafety
import TcpStats.Client.MacosFraming
import TcpStats.Client.MacosIdentity
import TcpStats.Client.IdleTime
import TcpStats.Device.FieldMask
import TcpStats.Filter.Ipv4
import TcpStats.Filter.Syntax
import TcpStats.Filter.Language
import TcpStats.Filter.Errno
import TcpStats.Device.CidrMatch
import TcpStats.Filter.Conflicts
import TcpStats.Filter.Order
import TcpStats.Lib.Lockstep
import TcpStats.Filter.CaseFold
import TcpStats.Device.Duration
import TcpStats.Device.LockBalance
import TcpStats.Client.KernFile
import TcpStats.Client.MacosPresence
import TcpStats.Echo.RateLimiter
import TcpStats.Echo.ClientArgs
import TcpStats.Echo.Sending
import TcpStats.Device.PrefixSets
import TcpStats.Device.StatMax
import TcpStats.Client.Pcblist
import TcpStats.Lib.Pipe
import TcpStats.Lib.Throttle
import TcpStats.Lib.Items
import TcpStats.Echo.Connection
import TcpStats.Device.Selection
import TcpStats.Device.Session
import TcpStats.Device.Work
import TcpStats.Profile.Restore
import TcpStats.Filter.Spelling
import TcpStats.Filter.Texts
import TcpStats.Lib.Tally
import TcpStats.Lib.Exposition
import TcpStats.Client.Sysctl
import TcpStats.Client.Batch
import TcpStats.Client.Reader
import TcpStats.Exporter.Metrics
import TcpStats.Exporter.Collector
import TcpStats.Exporter.Serve
import TcpStats.Lib.Text
import TcpStats.Lib.FloatText
import TcpStats.Exporter.Scrape
import TcpStats.Profile.Reading
import TcpStats.Client.ReadTcpstats

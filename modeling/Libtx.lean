import Libtx.Intrusive.Linked
import Libtx.Rounds.Orderly
import Libtx.Loop.Task
import Libtx.Loop.Refine
import Libtx.Loop.Membership
import Libtx.Loop.History
import Libtx.Loop.Timeout
import Libtx.Loop.Schedule
import Libtx.Timer.Drain
import Libtx.Wheel.Slots
import Libtx.Timer.Grid
import Libtx.Timer.OnTime
import Libtx.Timer.Rescan
import Libtx.Timer.Early
import Libtx.Timer.Shift
import Libtx.Aiocb.Aiocb
import Libtx.Aiocb.Epoll
import Libtx.Count.Holder
import Libtx.Runs.Partial
import Libtx.Runs.While
import Libtx.Loop.Holder
import Libtx.Aiocb.Core
import Libtx.Aiocb.Masked
import Libtx.Aiocb.Report
import Libtx.Aiocb.Exact
import Libtx.Aiocb.Waiter
import Libtx.Aiocb.Filters
import Libtx.Runs.Simulation
import Libtx.Aiocb.Twin
import Libtx.Loop.Stack
import Libtx.Timer.Once
import Libtx.Aiocb.Short
import Libtx.Intrusive.Drain
import Libtx.Loop.Wake
import Libtx.Timer.Links
import Libtx.Timer.Sweep
import Libtx.Timer.Teardown
import Libtx.Timer.Step
import Libtx.Timer.Frames
import Libtx.Intrusive.Search
import Libtx.Timer.Rings
import Libtx.Timer.Single
import Libtx.Aiocb.Port
import Libtx.Aiocb.Flight
import Libtx.Aiocb.Completion
import Libtx.Aiocb.Lifetime
import Libtx.Aiocb.Fini
import Libtx.Loop.Actives
import Libtx.Loop.Nesting
import Libtx.Count.Custody
import Libtx.Aiocb.Listener
import Libtx.Aiocb.Sockets
import Libtx.Aiocb.Outgoing
import Libtx.Aiocb.Wire
import Libtx.Text.Buffer
import Libtx.Net.InetPton
import Libtx.Net.Address
import Libtx.Net.Forms
import Libtx.Netcat.Options
import Libtx.Netcat.Context
import Libtx.Netcat.Relay
import Libtx.Netcat.Workers
import Libtx.Netcat.Places
import Libtx.Netcat.Streams
import Libtx.Netcat.Threads
import Libtx.Debug.Log
import Libtx.Debug.Tags
import Libtx.Debug.Putlog
import Libtx.Loop.Spares
import Libtx.Rounds.Ahead
import Libtx.Loop.Order
import Libtx.Timer.Callout
import Libtx.Timer.Deliver
import Libtx.Stdio.Client
import Libtx.Stdio.Frames
import Libtx.Stdio.Attend
import Libtx.Stdio.Turn
import Libtx.Stdio.Main
import Libtx.Aiocb.Notify
import Libtx.Net.Url

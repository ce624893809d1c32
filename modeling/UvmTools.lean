import UvmTools.Basic
import UvmTools.Queue.Enqueue
import UvmTools.Queue.Consumer
import UvmTools.Queue.Refinement
import UvmTools.Queue.Wakeup
import UvmTools.Queue.Producers
import UvmTools.Deferred.Records
import UvmTools.Deferred.Submit
import UvmTools.Deferred.Dispatch
import UvmTools.Deferred.Channels
import UvmTools.Deferred.Pipeline
import UvmTools.Deferred.Flush
import UvmTools.Tracker.UserPages
import UvmTools.Tracker.CheckVmas
import UvmTools.Tracker.Registry
import UvmTools.Tracker.Links
import UvmTools.Tracker.Broadcast
import UvmTools.Tracker.EventMask
import UvmTools.Tracker.Counters
import UvmTools.Api.ProcessMemory
import UvmTools.Api.AccessLoop
import UvmTools.Lifecycle
import UvmTools.Api.UuidTable
import UvmTools.Events.Fault
import UvmTools.Events.Migration
import UvmTools.Events.ReadDuplicate
import UvmTools.Events.Reports
import UvmTools.System

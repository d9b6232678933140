import OpenflowDatapath.Basic
import OpenflowDatapath.Admin.Maint
import OpenflowDatapath.Admin.Ops
import OpenflowDatapath.Admin.Invariant
import OpenflowDatapath.Admin.Preservation
import OpenflowDatapath.Admin.Reach
import OpenflowDatapath.Admin.Tables
import OpenflowDatapath.Forward.Output
import OpenflowDatapath.Forward.Disposal
import OpenflowDatapath.Netlink.Message
import OpenflowDatapath.Stats.Dump
import OpenflowDatapath.Stats.Dumpit
import OpenflowDatapath.Stats.Resume
import OpenflowDatapath.Stats.Replies
import OpenflowDatapath.Admin.Race
import OpenflowDatapath.Stats.Request
import OpenflowDatapath.Stats.Aggregate
import OpenflowDatapath.Control.Buffer
import OpenflowDatapath.Control.FlowEnd
import OpenflowDatapath.Control.PacketIn
import OpenflowDatapath.Control.Features
import OpenflowDatapath.Admin.AddPort
import OpenflowDatapath.Admin.Unlink
import OpenflowDatapath.Admin.PortMod
import OpenflowDatapath.Admin.Lifecycle
import OpenflowDatapath.Control.Messages
import OpenflowDatapath.Module.Load
import OpenflowDatapath.Admin.Query
import OpenflowDatapath.Control.PortDesc

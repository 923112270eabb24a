import ThymesisFlow.Afu.CommandCarried
import ThymesisFlow.Afu.Latency
import ThymesisFlow.Afu.MmioServed
import ThymesisFlow.Afu.ResponsePort
import ThymesisFlow.Afu.SegTranslate
import ThymesisFlow.Agent.AttachFailure
import ThymesisFlow.Agent.Client
import ThymesisFlow.Agent.ConnHeap
import ThymesisFlow.Agent.Hotplug
import ThymesisFlow.Agent.IoLoops
import ThymesisFlow.Agent.RoundTrip
import ThymesisFlow.Llc.ExactlyOnce
import ThymesisFlow.Llc.FramerFifo
import ThymesisFlow.Llc.NopPadding
import ThymesisFlow.Llc.ParserRefines
import ThymesisFlow.Memory.CmdIssue
import ThymesisFlow.Memory.Correlation
import ThymesisFlow.Memory.IngressRun
import ThymesisFlow.Memory.LookupRange
import ThymesisFlow.Memory.MrffCredits
import ThymesisFlow.Memory.Residue
import ThymesisFlow.Memory.RetryRun
import ThymesisFlow.Port.HostAnswered
import ThymesisFlow.Port.LineDelivers
import ThymesisFlow.Port.Network
import ThymesisFlow.Port.Starvation
import ThymesisFlow.Routing.ArbiterFair
import ThymesisFlow.Routing.RespRouting
import ThymesisFlow.Shmem.BufferMap

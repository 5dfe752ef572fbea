import RemoteBSP.Protocol.Isolation
import RemoteBSP.Protocol.Completion
import RemoteBSP.Protocol.RoundTrip
import RemoteBSP.Protocol.Discovery
import RemoteBSP.Firmware.MotionSteps
import RemoteBSP.Protocol.Packet
import RemoteBSP.Toolbusd.NodeRegistry
import RemoteBSP.Toolbusd.Daemon
import RemoteBSP.Toolbusd.NodeIds
import RemoteBSP.Firmware.Core
import RemoteBSP.Firmware.Commands
import RemoteBSP.Firmware.Node
import RemoteBSP.System.Assignment
import RemoteBSP.System.AtMostOnce
import RemoteBSP.MockMcu.GpioBsp
import RemoteBSP.MockMcu.MotionExecutor
import RemoteBSP.MockMcu.UartBsp
import RemoteBSP.Protocol.Resource
import RemoteBSP.MockMcu.RemoteCore
import RemoteBSP.MockMcu.Handlers
import RemoteBSP.MockMcu.Effects
import RemoteBSP.MockMcu.Leases
import RemoteBSP.MockMcu.LeaseIsolation
import RemoteBSP.MockMcu.MotionLeases
import RemoteBSP.Firmware.Codec
import RemoteBSP.Firmware.Fragments
import RemoteBSP.Firmware.MotionCalls
import RemoteBSP.Firmware.MotionSafety
import RemoteBSP.Lib.Sort
import RemoteBSP.MockMcu.Waveform
import RemoteBSP.MockMcu.SegmentEdges
import RemoteBSP.MockMcu.Polling
import RemoteBSP.MockMcu.Schedule
import RemoteBSP.MockMcu.ExecutorRuns
import RemoteBSP.MockMcu.Conservation
import RemoteBSP.MockMcu.StepWaveform
import RemoteBSP.Toolbusd.RequestLifecycle
import RemoteBSP.Toolbusd.Clients
import RemoteBSP.Toolbusd.Tables
import RemoteBSP.Toolbusd.ErrorPath
import RemoteBSP.Lib.Liveness
import RemoteBSP.Toolbusd.Routing
import RemoteBSP.Toolbusd.ClientAnswers
import RemoteBSP.Firmware.Runs
import RemoteBSP.Firmware.Replies
import RemoteBSP.MockMcu.Replies
import RemoteBSP.System.Matching
import RemoteBSP.Firmware.Bootloader
import RemoteBSP.Firmware.UartStream
import RemoteBSP.Lib.TokenBucket
import RemoteBSP.Toolbusd.TrafficControl
import RemoteBSP.Toolbusd.UartStreams
import RemoteBSP.MockMcu.ErrorPaths
import RemoteBSP.MockMcu.QueueChain
import RemoteBSP.Protocol.Rejection
import RemoteBSP.Firmware.MotionRing
import RemoteBSP.Lib.Latch
import RemoteBSP.Firmware.MotionDda
import RemoteBSP.System.FaultLatch
import RemoteBSP.Firmware.MotionPulses
import RemoteBSP.Firmware.MotionArithmetic
import RemoteBSP.Firmware.MotionTiming
import RemoteBSP.Firmware.RequestCache
import RemoteBSP.Firmware.MotionWire
import RemoteBSP.Lib.Codec
import RemoteBSP.Protocol.MotionCodec
import RemoteBSP.Lib.Fifo
import RemoteBSP.Protocol.PayloadCodecs
import RemoteBSP.Firmware.ByteRing
import RemoteBSP.Lib.Crc
import RemoteBSP.MockMcu.StepArithmetic
import RemoteBSP.Protocol.BurstErrors
import RemoteBSP.Toolbusd.Ipc
import RemoteBSP.Toolbusd.IpcCodecs
import RemoteBSP.Toolbusd.NodeIdExhaustion
import RemoteBSP.Firmware.SoftUart
import RemoteBSP.Firmware.SoftUartTiming
import RemoteBSP.MockMcu.Json
import RemoteBSP.MockMcu.JsonExact
import RemoteBSP.Lib.FifoCache
import RemoteBSP.MockMcu.MockNode
import RemoteBSP.MockMcu.NodeCache
import RemoteBSP.MockMcu.NodeReplies
import RemoteBSP.MockMcu.Manifest
import RemoteBSP.MockMcu.DigitalTwin
import RemoteBSP.MockMcu.ManifestLoading
import RemoteBSP.MockMcu.NodeMotion
import RemoteBSP.MockMcu.LimitSwitch
import RemoteBSP.MockMcu.NodeLevels
import RemoteBSP.MockMcu.TwinEvents
import RemoteBSP.MockMcu.TwinRuns
import RemoteBSP.MockMcu.TwinSteps

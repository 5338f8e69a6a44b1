import LocalCall.Library.Transition
import LocalCall.Library.Replica
import LocalCall.Library.Pool
import LocalCall.Library.PrefixCode
import LocalCall.Library.Blocks
import LocalCall.Library.CountedLoop
import LocalCall.Library.BigEndian
import LocalCall.Library.SortedQueue
import LocalCall.Library.LinkedList
import LocalCall.Library.Dictionary
import LocalCall.Library.Piece
import LocalCall.Library.Record
import LocalCall.Java.Jint
import LocalCall.Java.Text
import LocalCall.Java.Split
import LocalCall.Java.Decimal
import LocalCall.Java.Inet4Address
import LocalCall.Java.LinkedHashMap
import LocalCall.Java.BufferedReader
import LocalCall.Data.FrameBufferQueueNew
import LocalCall.Data.CounterRace
import LocalCall.Data.FrameBufferQueue
import LocalCall.Data.PoolOwnership
import LocalCall.Data.QueueRefinement
import LocalCall.Data.FrameBufferQueueExt
import LocalCall.Utils.AudioSync
import LocalCall.Utils.AudioSpec
import LocalCall.Utils.AudioPlayback
import LocalCall.Utils.AudioDevices
import LocalCall.Utils.QueueBound
import LocalCall.Utils.AudioRecorder
import LocalCall.Utils.AudioCapture
import LocalCall.Utils.MultiCastSender
import LocalCall.Utils.SenderThread
import LocalCall.Utils.Advertising
import LocalCall.Utils.MultiCastReceiver
import LocalCall.Utils.Recognition
import LocalCall.Utils.StopFinal
import LocalCall.Utils.LocalIp
import LocalCall.Utils.CustomTimer
import LocalCall.Utils.WifiAdmin
import LocalCall.Jni.CustomSpeex
import LocalCall.Jni.InetAddr
import LocalCall.Jni.Jrtp
import LocalCall.Jni.Rtp
import LocalCall.Jni.RtpHandle
import LocalCall.Jni.DottedQuad
import LocalCall.Jni.CustomRtpSession
import LocalCall.Jni.MediaClock
import LocalCall.Jni.ReceivedPayload
import LocalCall.Jni.SpeexJni
import LocalCall.Jni.EncodeExt
import LocalCall.Jrtp.RtpTime
import LocalCall.Jrtp.RtpHeader
import LocalCall.Jrtp.RtpPacket
import LocalCall.Jrtp.PacketContents
import LocalCall.Jrtp.SourceStats
import LocalCall.Jrtp.SourceData
import LocalCall.Jrtp.PacketOrder
import LocalCall.Jrtp.KeyHashTable
import LocalCall.Jrtp.TableLinks
import LocalCall.Jrtp.TableRefinement
import LocalCall.Jrtp.Sources
import LocalCall.Jrtp.SourceTable
import LocalCall.Jrtp.SourceCounters
import LocalCall.Jrtp.SourceChanges
import LocalCall.Jrtp.SourceAddresses
import LocalCall.Jrtp.PollThread
import LocalCall.Jrtp.PacketBuilder
import LocalCall.Jrtp.RtcpHeader
import LocalCall.Jrtp.RtcpPacket
import LocalCall.Jrtp.SdesPacket
import LocalCall.Jrtp.RtcpContents
import LocalCall.Jrtp.CompoundPacket
import LocalCall.Jrtp.CompoundBuilder
import LocalCall.Jrtp.CompoundRoundTrip
import LocalCall.Jrtp.CompoundSize
import LocalCall.Jrtp.RawPackets
import LocalCall.Jrtp.WireSession
import LocalCall.Jrtp.Transmission
import LocalCall.Socket.Streams
import LocalCall.Socket.CtlServerSocket
import LocalCall.Socket.CtlSocket
import LocalCall.Socket.ControlTrace
import LocalCall.Socket.ControlClose
import LocalCall.Socket.ControlConnect
import LocalCall.Socket.CommandFraming
import LocalCall.Socket.SocketExt
import LocalCall.Socket.FrameOwnership
import LocalCall.Socket.FrameDelivery
import LocalCall.Socket.EndOfStream
import LocalCall.Socket.StartReset
import LocalCall.Socket.Reuse
import LocalCall.Service.LocalCallService
import LocalCall.Service.RecorderAddress
import LocalCall.Service.Destinations
import LocalCall.Service.TalkBurst
import LocalCall.Service.AdvertisedPort
import LocalCall.Service.OpenServers
import LocalCall.Service.PumpThreads
import LocalCall.Service.Teardown
import LocalCall.Service.RgbaBitmap
import LocalCall.Main.MainActivity
import LocalCall.Main.HostList
import LocalCall.Main.DialActivity
import LocalCall.Call.CallActivity
import LocalCall.Call.TalkAudio
import LocalCall.Call.Floor
import LocalCall.Call.ControlLine
import LocalCall.Call.FloorAgreement
import LocalCall.Call.NewCommand
import LocalCall.Call.CalledSide
import LocalCall.Call.HostTap

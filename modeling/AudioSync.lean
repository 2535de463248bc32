import AudioSync.Lib.Transition
import AudioSync.Lib.MachineInt
import AudioSync.Lib.BoundedQueue
import AudioSync.Basic
import AudioSync.Decoder.EnqueueBuffer
import AudioSync.Core.Session
import AudioSync.Player.State
import AudioSync.Player.Callback
import AudioSync.Player.Control
import AudioSync.Player.System
import AudioSync.Player.Accounting
import AudioSync.Player.FrameConservation
import AudioSync.Player.CallbackChain
import AudioSync.Sender.Streaming
import AudioSync.Sender.Timestamps
import AudioSync.Receiver.RunNetwork
import AudioSync.Receiver.Schedule
import AudioSync.Stream.Agreement
import AudioSync.Lib.KeyedTable
import AudioSync.Sources.Session
import AudioSync.Sources.Cases
import AudioSync.Lib.SetUpdate
import AudioSync.Sources.ClientCount
import AudioSync.Sources.Destinations
import AudioSync.Cast.Playback
import AudioSync.Cast.SessionAgreement
import AudioSync.Cast.AdvertisedPort
import AudioSync.Lib.Ring
import AudioSync.Lib.SharedQueue
import AudioSync.Player.Fifo
import AudioSync.Player.FifoThreads
import AudioSync.Core.EntryPoints
import AudioSync.Ntp.Msntp
import AudioSync.Ntp.Server
import AudioSync.Lib.Truncation
import AudioSync.Ntp.Offset
import AudioSync.Format.CreateFormat
import AudioSync.Receiver.MediaTime
import AudioSync.Format.RoundTrip
import AudioSync.Format.APPPacket
import AudioSync.Local.Playback
import AudioSync.Local.UserPause
import AudioSync.Player.Leftovers
import AudioSync.Player.PlaybackSession
import AudioSync.Player.Isolation
import AudioSync.Catalogue.MusicProvider
import AudioSync.Catalogue.GenreIndex
import AudioSync.Catalogue.MediaIDHelper
import AudioSync.Catalogue.Browsing
import AudioSync.Format.Announcement
import AudioSync.Core.ClockOffsets
import AudioSync.Decoder.Success
import AudioSync.Receiver.EndOfInput
import AudioSync.Player.Setup
import AudioSync.Player.CatchUp
import AudioSync.Player.LateStart
import AudioSync.Player.Marks
import AudioSync.Player.PlaybackClock
import AudioSync.Player.LongSession
import AudioSync.Player.Lateness
import AudioSync.Player.Settling
import AudioSync.Player.FrameMemory
import AudioSync.Player.EnqueuedData
import AudioSync.Player.RealAudio
import AudioSync.Lib.Footprint
import AudioSync.Player.Footprint
import AudioSync.Player.SampleBounds
import AudioSync.Receiver.Flush
import AudioSync.Decoder.DequeueBuffer
import AudioSync.Receiver.Tail
import AudioSync.Ntp.Smoothing
import AudioSync.Queue.QueueHelper
import AudioSync.Queue.MusicService
import AudioSync.Queue.Position
import AudioSync.Catalogue.Filing
import AudioSync.Queue.AlbumArt
import AudioSync.Catalogue.FailedLoad
import AudioSync.Catalogue.TrackIds
import AudioSync.Local.MissingPlayer
import AudioSync.Cast.Switching
import AudioSync.Cast.Discovery
import AudioSync.Player.FrameDropper
import AudioSync.Cast.Listeners
import AudioSync.Queue.VoiceSearch
import AudioSync.Player.ReaderWriterQueue
import AudioSync.Player.QueueThreads
import AudioSync.Player.QueueSteps
import AudioSync.Player.MarkQueue
import AudioSync.Lib.ReorderBuffer
import AudioSync.Rtp.WireFormat
import AudioSync.Rtp.SourceStats
import AudioSync.Rtp.PacketQueue
import AudioSync.Rtp.Sending
import AudioSync.Rtp.Delivery
import AudioSync.Rtcp.CompoundPacket
import AudioSync.Rtcp.BuilderSizes
import AudioSync.Rtp.AppPackets
import AudioSync.Rtcp.BuiltPackets
import AudioSync.Lib.KeyedList
import AudioSync.Sources.Counters
import AudioSync.Sources.RawPackets
import AudioSync.Sources.PollThread

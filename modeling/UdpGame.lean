import UdpGame.Lib.Checked
import UdpGame.Lib.Run
import UdpGame.Lib.BigEndian
import UdpGame.Lib.ByteWindow
import UdpGame.Lib.UnorderedMap
import UdpGame.Lib.Cells
import UdpGame.Lib.FirstCome
import UdpGame.Lib.Grid
import UdpGame.Lib.Absorb
import UdpGame.Common
import UdpGame.StringLength
import UdpGame.MemoryReader
import UdpGame.ReaderBounds
import UdpGame.MemoryWriter
import UdpGame.FieldSequence
import UdpGame.Message
import UdpGame.Checksum
import UdpGame.Decode
import UdpGame.Encode
import UdpGame.Codec
import UdpGame.Framing
import UdpGame.Network
import UdpGame.SelfTests
import UdpGame.Initialize
import UdpGame.Board
import UdpGame.Game
import UdpGame.EventPipeline
import UdpGame.UdpServer
import UdpGame.DrainSocket
import UdpGame.Players
import UdpGame.Server
import UdpGame.Registry
import UdpGame.Replies
import UdpGame.Isolation
import UdpGame.MessageLog
import UdpGame.LastMessage
import UdpGame.Capacity
import UdpGame.Client
import UdpGame.Lifecycle
import UdpGame.KeepAlive
import UdpGame.System
import UdpGame.LoginAgreement
import UdpGame.Process
import UdpGame.Traffic
import UdpGame.Answers
import UdpGame.Pacing
import UdpGame.Confinement
import UdpGame.Joining
import UdpGame.Loops
import UdpGame.Shutdown
import UdpGame.Lib.UniquePtr
import UdpGame.BufferOwnership
import UdpGame.BufferLifetime
import UdpGame.Lib.Handles
import UdpGame.Sockets
import UdpGame.Programs

import MesiboV8.Lib.Bytes
import MesiboV8.Lib.Effects
import MesiboV8.Lib.Runs
import MesiboV8.Lib.Utf
import MesiboV8.Lib.Chunks
import MesiboV8.Lib.Tokens
import MesiboV8.Lib.Interleave
import MesiboV8.World
import MesiboV8.Platform
import MesiboV8.Util
import MesiboV8.Message
import MesiboV8.Http
import MesiboV8.Socket
import MesiboV8.Processor
import MesiboV8.System
import MesiboV8.Params
import MesiboV8.MessageCodec
import MesiboV8.MessageSend
import MesiboV8.MessageOutcome
import MesiboV8.MessagePayload
import MesiboV8.IntegerProperties
import MesiboV8.HttpSend
import MesiboV8.HttpOptions
import MesiboV8.HttpAtomic
import MesiboV8.Reload
import MesiboV8.Freshness
import MesiboV8.Visits
import MesiboV8.Listeners
import MesiboV8.Frames
import MesiboV8.Host
import MesiboV8.SocketSession
import MesiboV8.Scripts
import MesiboV8.HttpBuffer
import MesiboV8.HttpRecord
import MesiboV8.HttpClose
import MesiboV8.HttpBounds
import MesiboV8.SocketData
import MesiboV8.HttpLife
import MesiboV8.HttpBody
import MesiboV8.HttpIsolation
import MesiboV8.Templates
import MesiboV8.Echo
import MesiboV8.HttpAccumulation
import MesiboV8.HttpStatus
import MesiboV8.MessageFlags
import MesiboV8.SocketWrite
import MesiboV8.SocketHandles
import MesiboV8.ReadFile
import MesiboV8.ReloadFile
import MesiboV8.Callables
import MesiboV8.Natives
import MesiboV8.Visible
import MesiboV8.HostEffects
import MesiboV8.HttpLedger
import MesiboV8.Leaks
import MesiboV8.Soundness
import MesiboV8.Faults
import MesiboV8.Lifetimes
import MesiboV8.Outbound
import MesiboV8.Modules
import MesiboV8.Delivery
import MesiboV8.HttpRuns
import MesiboV8.HttpResponses
import MesiboV8.HttpInterleave
import MesiboV8.Replies

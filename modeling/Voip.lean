import Voip.App.BufferSizes
import Voip.App.Call
import Voip.App.Capture
import Voip.App.Conversation
import Voip.App.FrameExact
import Voip.App.Independence
import Voip.App.Lifecycle
import Voip.App.OpusConversation
import Voip.App.OpusFailure
import Voip.App.OpusPath
import Voip.App.OpusPeer
import Voip.App.OpusSend
import Voip.App.PlayedOnce
import Voip.App.RawFrames
import Voip.App.ReceivePath
import Voip.App.Threads
import Voip.App.Tolerance
import Voip.App.WholeInTime
import Voip.Audio.BufferShape
import Voip.Audio.DecodedAudio
import Voip.Audio.StreamState
import Voip.Base.Linearize
import Voip.Base.Objects
import Voip.Jitter.Accounting
import Voip.Jitter.Atomicity
import Voip.Jitter.Interleaving
import Voip.Net.Blocking
import Voip.Net.BufferReuse
import Voip.Net.Descriptors
import Voip.Net.Port
import Voip.Rtp.Acceptance
import Voip.Rtp.Counters
import Voip.Rtp.Foreign
import Voip.Rtp.Gaps
import Voip.Rtp.Lossless
import Voip.Rtp.OneSource
import Voip.Rtp.Payload
import Voip.Rtp.Replay

import FsfwFromZero.Lib.Machine
import FsfwFromZero.Lib.History
import FsfwFromZero.Handler.WebcamDeviceHandler
import FsfwFromZero.Handler.PendingHistory
import FsfwFromZero.Handler.ReplySlot
import FsfwFromZero.Handler.Provenance
import FsfwFromZero.Handler.ReportedRate
import FsfwFromZero.Handler.Transmission
import FsfwFromZero.Handler.PowerCycle
import FsfwFromZero.Handler.FrameRatePaths
import FsfwFromZero.Ipc.IntQueue
import FsfwFromZero.Lib.Store
import FsfwFromZero.Tmtc.StubPusDistributor
import FsfwFromZero.Tmtc.TcStoreAccount
import FsfwFromZero.Tmtc.QueueHandles
import FsfwFromZero.CommandMessages
import FsfwFromZero.Tmtc.WebcamCommandingService
import FsfwFromZero.Handler.LetChildHandleMessage
import FsfwFromZero.Lib.Fifo
import FsfwFromZero.CommandRoundTrip
import FsfwFromZero.Tmtc.ReplyHandling
import FsfwFromZero.Tmtc.SequenceCount
import FsfwFromZero.CommandValidation
import FsfwFromZero.Handler.ReplyLatches
import FsfwFromZero.Handler.ParameterLoad
import FsfwFromZero.Lib.Loop
import FsfwFromZero.Tmtc.TelemetryDrain
import FsfwFromZero.V4l2.Webcam
import FsfwFromZero.V4l2.FrameBounds
import FsfwFromZero.V4l2.ResourceBalance
import FsfwFromZero.Ipc.SharedCounter
import FsfwFromZero.Ipc.IntThreads
import FsfwFromZero.Lib.Simulation
import FsfwFromZero.Tmtc.ServiceRouting
import FsfwFromZero.GroundPath
import FsfwFromZero.GroundArrival
import FsfwFromZero.V4l2.Program
import FsfwFromZero.Handler.ResponseBound
import FsfwFromZero.Handler.PowerMembers
import FsfwFromZero.Tmtc.QueueLifetime
import FsfwFromZero.Tmtc.Downlink
import FsfwFromZero.Handler.CommandMap
import FsfwFromZero.ObjectFactory
import FsfwFromZero.MissionMain
import FsfwFromZero.Handler.RequestedWork
import FsfwFromZero.TelecommandEffects
import FsfwFromZero.MissionEffects
import FsfwFromZero.Lib.Rounds
import FsfwFromZero.GroundProgress

import Mania.SsoRoundTrip
import Mania.BusinessFacts
import Mania.SendPacketFacts
import Mania.PendingFacts
import Mania.HwFrameCodec
import Mania.Socket
import Mania.CacheOpFacts
import Mania.MembersModes
import Mania.FriendsModes
import Mania.Event
import Mania.PushMsgFacts
import Mania.FieldTree
import Mania.WtLoginFacts
import Mania.SsoBuildFacts
import Mania.TlvFacts
import Mania.TlvSerFacts
import Mania.StreamSha1
import Mania.TriSha1
import Mania.PackContent
import Mania.NextSequence
import Mania.MessagingLogicFacts
import Mania.UploadEventFacts
import Mania.WtLoginParse
import Mania.VideoSizes
import Mania.FriendsSteps
import Mania.GroupChanges
import Mania.GroupRequests
import Mania.JpegHeaders
import Mania.LengthFields
import Mania.MediaKinds
import Mania.TcpFinishes
import Mania.FetchUserInfo
import Mania.IndexInverse
import Mania.QrLogin
import Mania.RubatoResampler
import Mania.SpecialTitle
import Mania.TraceForm
import Mania.ClientFacts
import Mania.MultiMsgDownload
import Mania.IncomingLogicFacts
import Mania.TransEmpFacts
import Mania.CacheRoutinesAlone
import Mania.EventDelivery
import Mania.PackedKinds
import Mania.HwUploadRuns
import Mania.LoginSession

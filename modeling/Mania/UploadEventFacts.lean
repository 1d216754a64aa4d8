/-
What an upload's request says of its files.

Every request but that of an image to a friend gives the size and both
hashes of each file (`describes_iff`). So a group and a friend are told the
same of a video or a record, and of an image whose hashes are the same
bytes (`toGroup_toC2c_iff`).
-/
import Mania.UploadEvent

namespace Mania

open HexString

namespace ClientEvent

/-- What the arguments say of a file. -/
structure Upload where
  size : UInt32
  md5 : Bytes
  sha1 : Bytes

/-- The files an upload's arguments are about. -/
def files : ClientEvent → List Upload
  | imageGroupUpload req => [{ size := req.size, md5 := req.md5, sha1 := req.sha1 }]
  | imageC2CUpload req => [{ size := req.size, md5 := req.md5, sha1 := req.sha1 }]
  | videoGroupUpload req =>
    [{ size := req.videoSize, md5 := req.videoMd5, sha1 := req.videoSha1 },
     { size := req.thumbSize, md5 := req.thumbMd5, sha1 := req.thumbSha1 }]
  | videoC2CUpload req =>
    [{ size := req.videoSize, md5 := req.videoMd5, sha1 := req.videoSha1 },
     { size := req.thumbSize, md5 := req.thumbMd5, sha1 := req.thumbSha1 }]
  | recordGroupUpload req => [{ size := req.size, md5 := req.md5, sha1 := req.sha1 }]
  | recordC2CUpload req => [{ size := req.size, md5 := req.md5, sha1 := req.sha1 }]
  | fetchHighwayTicket => []
  | sendMessage _ => []

/-- The `file_info` of each file of the request. -/
def fileInfos (clientRandomId : UInt64) (event : ClientEvent) : List (Option FileInfo) :=
  ((event.uploadRequest clientRandomId).bind (·.2.upload)).elim [] fun upload => upload.uploadInfo.map (·.fileInfo)

def Upload.DescribedBy (file : Upload) (info : Option FileInfo) : Prop :=
  ∃ i, info = some i ∧ i.fileSize = file.size ∧ i.fileHash = hex file.md5 ∧ i.fileSha1 = hex file.sha1

/-- The request describes each file of the arguments, in their order. -/
def Describes (clientRandomId : UInt64) (event : ClientEvent) : Prop :=
  List.Forall₂ Upload.DescribedBy event.files (event.fileInfos clientRandomId)

@[simp] theorem Upload.describedBy_some {file : Upload} {info : FileInfo} :
    file.DescribedBy (some info) ↔
      info.fileSize = file.size ∧ info.fileHash = hex file.md5 ∧ info.fileSha1 = hex file.sha1 := by
  simp [Upload.DescribedBy]

/-- Every request describes its files but that of an image to a friend. -/
theorem describes_iff (clientRandomId : UInt64) (event : ClientEvent) :
    event.Describes clientRandomId ↔ ∀ req, event = .imageC2CUpload req → req.md5 = req.sha1 := by
  unfold Describes
  cases event with
  | fetchHighwayTicket => simp [files, fileInfos, uploadRequest]
  | sendMessage chain => simp [files, fileInfos, uploadRequest]
  | imageGroupUpload req =>
    simp [files, fileInfos, uploadRequest, ImageGroupUploadEvent.request, uploadReq, imageInfo]
  | imageC2CUpload req =>
    have hashes : hex req.md5 = hex req.sha1 ↔ req.md5 = req.sha1 := ⟨hex_injective, congrArg hex⟩
    simp [files, fileInfos, uploadRequest, ImageC2CUploadEvent.request, uploadReq, imageInfo, hashes]
  | videoGroupUpload req =>
    simp [files, fileInfos, uploadRequest, VideoGroupUploadEvent.request, uploadReq, videoInfo]
  | videoC2CUpload req =>
    simp [files, fileInfos, uploadRequest, VideoC2CUploadEvent.request, uploadReq, videoInfo]
  | recordGroupUpload req =>
    simp [files, fileInfos, uploadRequest, RecordGroupUploadEvent.request, uploadReq, recordInfo]
  | recordC2CUpload req =>
    simp [files, fileInfos, uploadRequest, RecordC2CUploadEvent.request, uploadReq, recordInfo]

end ClientEvent

/-- The arguments of an upload, without whom it is for. -/
inductive MediaUpload where
  | image (req : ImageUploadArgs Unit)
  | video (req : VideoUploadArgs Unit)
  | record (req : RecordUploadArgs Unit)

namespace MediaUpload

def toGroup (groupUin : UInt32) : MediaUpload → ClientEvent
  | image req => .imageGroupUpload { req with target := groupUin }
  | video req => .videoGroupUpload { req with target := groupUin }
  | record req => .recordGroupUpload { req with target := groupUin }

def toC2c (uid : String) : MediaUpload → ClientEvent
  | image req => .imageC2CUpload { req with target := uid }
  | video req => .videoC2CUpload { req with target := uid }
  | record req => .recordC2CUpload { req with target := uid }

/-- A group and a friend are told the same of every upload but an image's. -/
theorem toGroup_toC2c_iff (upload : MediaUpload) (groupUin : UInt32) (uid : String) (rand rand' : UInt64) :
    (upload.toGroup groupUin).fileInfos rand = (upload.toC2c uid).fileInfos rand' ↔
      ∀ req, upload = .image req → req.md5 = req.sha1 := by
  cases upload with
  | image req =>
    have hashes : hex req.sha1 = hex req.md5 ↔ req.md5 = req.sha1 :=
      ⟨fun h => (hex_injective h).symm, fun h => congrArg hex h.symm⟩
    simp [toGroup, toC2c, ClientEvent.fileInfos, ClientEvent.uploadRequest, ImageGroupUploadEvent.request,
      ImageC2CUploadEvent.request, uploadReq, imageInfo, hashes]
  | video req => simp [toGroup, toC2c, ClientEvent.fileInfos, ClientEvent.uploadRequest,
      VideoGroupUploadEvent.request, VideoC2CUploadEvent.request, uploadReq, videoInfo]
  | record req => simp [toGroup, toC2c, ClientEvent.fileInfos, ClientEvent.uploadRequest,
      RecordGroupUploadEvent.request, RecordC2CUploadEvent.request, uploadReq, recordInfo]

/-- The requests describe their files, and a group's says what a friend's
does, exactly where no image with two hashes goes to a friend. -/
theorem requests_describe_iff (event : ClientEvent) (upload : MediaUpload) (groupUin : UInt32) (uid : String)
    (rand rand' : UInt64) :
    (event.Describes rand ↔ ∀ req, event = .imageC2CUpload req → req.md5 = req.sha1) ∧
    ((upload.toGroup groupUin).fileInfos rand = (upload.toC2c uid).fileInfos rand' ↔
      ∀ req, upload = .image req → req.md5 = req.sha1) :=
  ⟨ClientEvent.describes_iff rand event, toGroup_toC2c_iff upload groupUin uid rand rand'⟩

/-- An empty image, under its MD5 and its SHA-1. -/
def emptyImage : ImageUploadArgs String where
  target := "uid"
  size := 0
  md5 := [0xd4, 0x1d, 0x8c, 0xd9, 0x8f, 0x00, 0xb2, 0x04, 0xe9, 0x80, 0x09, 0x98, 0xec, 0xf8, 0x42, 0x7e]
  sha1 := [0xda, 0x39, 0xa3, 0xee, 0x5e, 0x6b, 0x4b, 0x0d, 0x32, 0x55, 0xbf, 0xef, 0x95, 0x60, 0x18, 0x90,
    0xaf, 0xd8, 0x07, 0x09]
  name := "image.jpg"
  picType := 0
  subType := 0
  height := 0
  width := 0
  summary := "[图片]"

theorem emptyImage_not_described : ¬ (ClientEvent.imageC2CUpload emptyImage).Describes 7 := by
  intro h
  have hashes := (ClientEvent.describes_iff 7 _).mp h emptyImage rfl
  simp [emptyImage] at hashes

end MediaUpload

end Mania

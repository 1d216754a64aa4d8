/-
`pack_element` and `pack_content` of `message/entity/`, and `build` of
`message/packer.rs`: the message a chain is sent in.

A kind that is not packed yet (`todo!()`), or never (`unreachable!()`),
panics. The elements a reply quotes are left out.
-/
import Mania.MessagePacker

namespace Mania

variable (enc : Encoders)

/-- `once(0x01).chain(zlib::compress(..))`. -/
def deflated (s : String) : Bytes := 0x01 :: enc.compress (Utf8.encode s)

/-- A `MsgInfo` in a common element of service 48. -/
def mediaElem (msgInfo : Option MsgInfo) (businessType : UInt32) : Elem :=
  { commonElem := some
      { serviceType := 48
        pbElem := enc.msgInfo (msgInfo.getD .default)
        businessType } }

def TextEntity.packElement (self : TextEntity) : List Elem := [{ text := some { str := some self.text, attr6Buf := none } }]

def JsonEntity.packElement (self : JsonEntity) : List Elem :=
  [{ text := some { str := some self.resId, attr6Buf := none } },
   { richMsg := some { serviceId := some 1, template1 := some (deflated enc self.json) } }]

/-- The first body of the info says a group. -/
def MsgInfo.isGroup (info : MsgInfo) : Bool :=
  info.msgInfoBody.head?.any fun body => body.hashSum.any fun hashSum =>
    hashSum.troopSource.any fun troop => troop.groupUin ≠ 0

def ImageEntity.packElement (self : ImageEntity) : List Elem :=
  [{ customFace := some self.customFace, notOnlineImage := some self.notOnlineImage },
   mediaElem enc self.msgInfo (if self.msgInfo.any (·.isGroup) then 20 else 10)]

def ForwardEntity.packElement (self : ForwardEntity) : List Elem :=
  let pbReserve := enc.preserve { messageId := self.messageId, clientSequence := none, senderUid := self.uid }
  [{ srcMsg := some
      { origSeqs := [self.messageId.toUInt32]
        senderUin := self.targetUin.toUInt64
        time := some (Int32.ofInt self.time)
        pbReserve := some pbReserve
        toUin := some 0 } }]

def LightAppEntity.packElement (self : LightAppEntity) : List Elem :=
  [{ lightAppElem := some { data := deflated enc self.payload } }]

def MentionEntity.packElement (self : MentionEntity) : List Elem :=
  let pbReserve := enc.mentionExtra
    { type := some (if self.uin = 0 then 1 else 2)
      uin := some self.uin
      field5 := some 0
      uid := some self.uid }
  [{ text := some { str := self.name, attr6Buf := none, pbReserve := some pbReserve } }]

def RecordEntity.packElement (self : RecordEntity) : List Elem := [mediaElem enc self.msgInfo 22]

def VideoEntity.packElement (self : VideoEntity) : List Elem := [mediaElem enc self.msgInfo 21]

def XmlEntity.packElement (self : XmlEntity) : List Elem :=
  [{ richMsg := some { serviceId := some self.serviceId, template1 := some (deflated enc self.xml) } }]

namespace Entity

variable {ε : Type}

def packElement : Entity → Outcome ε (List Elem)
  | text inner => .ok inner.packElement
  | json inner => .ok (inner.packElement enc)
  | image inner => .ok (inner.packElement enc)
  | forward inner => .ok (inner.packElement enc)
  | lightApp inner => .ok (inner.packElement enc)
  | mention inner => .ok (inner.packElement enc)
  | record inner => .ok (inner.packElement enc)
  | video inner => .ok (inner.packElement enc)
  | xml inner => .ok (inner.packElement enc)
  | face _ | marketFace _ | multiMsg _ | file _ | longMsg _ => .panic
  | extraInfo _ | extraGeneralFlags _ => .panic

/-- What `pack_content(true)` and `pack_content(false)` both derive. -/
def needPack (_ : Entity) : Bool := true

def packContent : Entity → Outcome ε (Option Bytes)
  | file _ => .panic
  | _ => .ok none

def needPackContent (elems : List Entity) : Bool := elems.any needPack

def fromElems (x : Decoders) (elems : List Elem) : Outcome ε (List Entity) :=
  MessagePacker.filterMap (unpackElement x) elems

end Entity

namespace MessagePacker

variable {ε : Type}

/-- `filter_map(Entity::pack_content).next()`. -/
def firstContent : List Entity → Outcome ε (Option Bytes)
  | [] => .ok none
  | entity :: entities => do
    match ← entity.packContent with
    | some content => .ok (some content)
    | none => firstContent entities

def routingHead (chain : MessageChain) : RoutingHead where
  c2c :=
    match chain.typ, Entity.needPackContent chain.entities with
    | .friend friend, false => some { uin := some chain.friendUin, uid := friend.friendInfo.map (·.uid) }
    | _, _ => none
  grp :=
    match chain.typ with
    | .group group => some { groupCode := some group.groupUin }
    | _ => none
  trans0x211 := if Entity.needPackContent chain.entities then some { ccCmd := some 4, uid := some chain.uid } else none

/-- `now` is `Utc::now().timestamp()`. -/
def buildPacketBase (now : Int) (chain : MessageChain) : Outcome ε Message := do
  let elems ← chain.entities.mapM (Entity.packElement enc)
  let msgContent ← firstContent chain.entities
  .ok {
    routingHead := some (routingHead chain)
    contentHead := some
      { type := 1
        subType := some 0
        sequence := none
        timeStamp := none
        ntMsgSeq := none
        msgUid := none
        c2cCmd := some 0 }
    body := some { richText := some { elems := elems.flatten }, msgContent }
    clientSequence :=
      match chain.typ with
      | .friend _ => some chain.sequence
      | _ => some 0
    random := some chain.messageId.toUInt32
    ctrl :=
      match chain.typ with
      | .friend _ => some { msgFlag := Int32.ofInt now }
      | _ => none }

def build (now : Int) (chain : MessageChain) : Outcome ε Message := buildPacketBase enc now chain

end MessagePacker

end Mania

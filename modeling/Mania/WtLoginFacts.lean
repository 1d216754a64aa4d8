/-
The lengths of the `wtlogin` envelopes, and what is cut out of them at
these lengths: the TLV bytes of a QR code command, the body of a packet,
the body of a response.
-/
import Mania.WtLogin

namespace Mania

open Bytes PacketBuilder PacketReader

namespace WtLogin

variable {ε : Type}

/-! ## The body of a QR code command -/

/-- What a new packet has between its length and the TLV bytes. -/
def newPacketHead (qrCmd : UInt16) : Bytes :=
  be16 qrCmd ++ (List.replicate 21 0 ++ ([0x03] ++ (be16 0x00 ++ (be16 0x32 ++ (be32 0 ++ be64 0)))))

theorem newPacketHead_length (qrCmd : UInt16) : (newPacketHead qrCmd).length = 40 := by simp [newPacketHead]

def newPacketBytes (qrCmd : UInt16) (tlvs : Bytes) : Bytes :=
  [2] ++ (be16 (UInt16.ofNat (44 + tlvs.length)) ++ (newPacketHead qrCmd ++ (tlvs ++ [3])))

theorem newPacketBytes_length (qrCmd : UInt16) (tlvs : Bytes) :
    (newPacketBytes qrCmd tlvs).length = 44 + tlvs.length := by
  simp [newPacketBytes, newPacketHead_length]
  omega

theorem newPacket_eq (qrCmd : UInt16) (tlvs : Bytes) :
    (newPacket qrCmd tlvs : Outcome ε Bytes) = .ok (newPacketBytes qrCmd tlvs) := by
  have hcounted : 43 + tlvs.length + 1 = 44 + tlvs.length := by omega
  have h : Writes (ε := ε) _ _ :=
    (Writes.u8 2).comp <| (Writes.u16 (UInt16.ofNat (43 + tlvs.length + 1))).comp <| (Writes.u16 qrCmd).comp <|
    (Writes.bytes (List.replicate 21 0)).comp <| (Writes.u8 0x03).comp <| (Writes.u16 0x00).comp <|
    (Writes.u16 0x32).comp <| (Writes.u32 0).comp <| (Writes.u64 0).comp <| (Writes.bytes tlvs).comp <|
    Writes.u8 3
  rw [newPacket, h.build_eq, hcounted]
  simp only [newPacketBytes, newPacketHead, List.append_assoc]

/-- What the body has between its length and the request: the application
and two empty strings. -/
def transEmpHead (ctx : Context) : Bytes := be32 ctx.appInfo.appId.toUInt32 ++ (be32 0x72 ++ (be16 0 ++ [0]))

theorem transEmpHead_length (ctx : Context) : (transEmpHead ctx).length = 11 := by simp [transEmpHead]

theorem buildTransEmpBody_eq (ctx : Context) (timestamp : Int64) (qrCmd : UInt16) (tlvs : Bytes) :
    (buildTransEmpBody ctx timestamp qrCmd tlvs : Outcome ε Bytes) =
      .ok ([0] ++ (be16 (UInt16.ofNat (48 + tlvs.length)) ++ (transEmpHead ctx ++
        (be32 timestamp.toUInt64.toUInt32 ++ newPacketBytes qrCmd tlvs)))) := by
  let request := be32 timestamp.toUInt64.toUInt32 ++ newPacketBytes qrCmd tlvs
  have hrequest : request.length = 48 + tlvs.length := by
    simp only [request, List.length_append, be32_length, newPacketBytes_length]
    omega
  have hbody : (requestBody timestamp (newPacketBytes qrCmd tlvs) : Outcome ε Bytes) = .ok request :=
    ((Writes.u32 _).comp (Writes.bytes _)).build_eq
  have hempty16 := writes_writeWithLength (ε := ε) .two false (A := 0) (Writes.bytes [])
  have hempty8 := writes_writeWithLength (ε := ε) .one false (A := 0) (Writes.bytes [])
  have h : Writes (ε := ε) _ _ :=
    (Writes.u8 0x00).comp <| (Writes.u16 (UInt16.ofNat request.length)).comp <|
    (Writes.u32 ctx.appInfo.appId.toUInt32).comp <| (Writes.u32 0x72).comp <|
    hempty16.comp <| hempty8.comp <| Writes.bytes request
  rw [buildTransEmpBody, newPacket_eq, Outcome.ok_bind, hbody, Outcome.ok_bind]
  refine h.build_eq.trans ?_
  rw [hrequest]
  simp only [transEmpHead, List.append_assoc]
  rfl

/-- The request of a body, at the length in front of it. -/
def requestOf (body : Bytes) : Bytes := (body.drop 14).take (lengthOf (body.drop 1))

/-- The new packet of a request, behind the time. -/
def newPacketOf (request : Bytes) : Bytes := (request.drop 4).take (lengthOf (request.drop 5))

/-- The two lengths count what is there, and the TLV bytes are cut out at
the lengths. -/
structure TransEmpFramed (tlvs body : Bytes) : Prop where
  requestLength : lengthOf (body.drop 1) = (body.drop 14).length
  newPacketLength : lengthOf ((requestOf body).drop 5) = ((requestOf body).drop 4).length
  tlvs_eq : ((newPacketOf (requestOf body)).take ((newPacketOf (requestOf body)).length - 1)).drop 43 = tlvs

theorem lengthOf_be16 {n : Nat} (h : n < 65536) (rest : Bytes) : lengthOf (be16 (UInt16.ofNat n) ++ rest) = n := by
  rw [lengthOf, List.take_left' (be16_length _), ofBE16_be16]
  exact UInt16.toNat_ofNat_of_lt' h

theorem transEmpFramed {front head time new tlvs : Bytes} {n : Nat} (hhead : head.length = 11)
    (htime : time.length = 4) (hnew : new = [2] ++ (be16 (UInt16.ofNat (44 + tlvs.length)) ++ (front ++ (tlvs ++ [3]))))
    (hfront : front.length = 40) (hn : n = 48 + tlvs.length) (hsmall : n < 65536) :
    TransEmpFramed tlvs ([0] ++ (be16 (UInt16.ofNat n) ++ (head ++ (time ++ new)))) := by
  have hlen : new.length = 44 + tlvs.length := by
    rw [hnew]
    simp [hfront]
    omega
  have hdrop : ([0] ++ (be16 (UInt16.ofNat n) ++ (head ++ (time ++ new)))).drop 14 = time ++ new := by
    rw [← List.append_assoc, ← List.append_assoc]
    exact List.drop_left' (by simp [hhead])
  have hrequest : requestOf ([0] ++ (be16 (UInt16.ofNat n) ++ (head ++ (time ++ new)))) = time ++ new := by
    rw [requestOf, hdrop]
    show (time ++ new).take (lengthOf (be16 (UInt16.ofNat n) ++ _)) = _
    rw [lengthOf_be16 hsmall]
    exact List.take_of_length_le (by simp; omega)
  have htime5 : (time ++ new).drop 5 = new.drop 1 := by
    rw [List.drop_append, htime, List.drop_of_length_le (by omega), List.nil_append]
  have htime4 : (time ++ new).drop 4 = new := List.drop_left' htime
  have hcounted : lengthOf (new.drop 1) = new.length := by
    rw [hlen, hnew]
    exact lengthOf_be16 (by omega) _
  have hpacket : newPacketOf (time ++ new) = new := by
    rw [newPacketOf, htime4, htime5, hcounted, List.take_length]
  refine ⟨?_, ?_, ?_⟩
  · rw [hdrop]
    show lengthOf (be16 (UInt16.ofNat n) ++ _) = _
    rw [lengthOf_be16 hsmall]
    simp
    omega
  · rw [hrequest, htime5, htime4, hcounted]
  · rw [hrequest, hpacket, hlen]
    have hinit : new.take (44 + tlvs.length - 1) = [2] ++ (be16 (UInt16.ofNat (44 + tlvs.length)) ++ front) ++ tlvs := by
      rw [hnew]
      simp only [← List.append_assoc]
      exact List.take_left' (by simp [hfront]; omega)
    rw [hinit]
    exact List.drop_left' (by simp [hfront])

/-! ## The packet around a body -/

/-- What is counted before the public key. -/
def wtloginHead (ctx : Context) (cmd : UInt16) : Bytes :=
  be16 8001 ++ (be16 cmd ++ (be16 ctx.session.sequence ++ (be32 ctx.keyStore.uin ++ ([3] ++ ([135] ++ (be32 0 ++
    ([19] ++ (be16 0 ++ (be16 ctx.appInfo.appClientVersion ++ (be32 0 ++ ([2] ++ ([1] ++
    (ctx.session.stub.randomKey.toList ++ (be16 0x0131 ++ (be16 0x0001 ++
    be16 (UInt16.ofNat ctx.crypto.loginP256.publicKey.length))))))))))))))))

theorem wtloginHead_length (ctx : Context) (cmd : UInt16) : (wtloginHead ctx cmd).length = 49 := by
  simp [wtloginHead]

/-- The packet around what the body is encrypted to. -/
def wtloginBytes (ctx : Context) (cmd : UInt16) (cipher : Bytes) : Bytes :=
  let counted := wtloginHead ctx cmd ++ (ctx.crypto.loginP256.publicKey ++ (cipher ++ [3]))
  [2] ++ (be16 (UInt16.ofNat (counted.length + 3)) ++ counted)

theorem wtloginBytes_length (ctx : Context) (cmd : UInt16) (cipher : Bytes) :
    (wtloginBytes ctx cmd cipher).length = 53 + ctx.crypto.loginP256.publicKey.length + cipher.length := by
  simp [wtloginBytes, wtloginHead_length]
  omega

theorem writes_wtloginCounted (ctx : Context) (cmd : UInt16) (cipher : Bytes) :
    Writes (wtloginCounted ctx cmd cipher : Write ε)
      (wtloginHead ctx cmd ++ (ctx.crypto.loginP256.publicKey ++ (cipher ++ [3]))) := by
  have h : Writes (ε := ε) _ _ :=
    (Writes.u16 8001).comp <| (Writes.u16 cmd).comp <| (Writes.u16 ctx.session.sequence).comp <|
    (Writes.u32 ctx.keyStore.uin).comp <| (Writes.u8 3).comp <| (Writes.u8 135).comp <| (Writes.u32 0).comp <|
    (Writes.u8 19).comp <| (Writes.u16 0).comp <| (Writes.u16 ctx.appInfo.appClientVersion).comp <|
    (Writes.u32 0).comp <| (Writes.u8 2).comp <| (Writes.u8 1).comp <|
    (Writes.bytes ctx.session.stub.randomKey.toList).comp <| (Writes.u16 0x0131).comp <|
    (Writes.u16 0x0001).comp <| (Writes.u16 (UInt16.ofNat ctx.crypto.loginP256.publicKey.length)).comp <|
    (Writes.bytes ctx.crypto.loginP256.publicKey).comp <| (Writes.bytes cipher).comp <| Writes.u8 3
  simp only [wtloginHead, List.append_assoc]
  exact h

theorem buildWtloginPacket_eq (rng : Nat → UInt8) (ctx : Context) (cmd : UInt16) (body : Bytes) :
    (buildWtloginPacket rng ctx cmd body : Outcome ε Bytes) =
      .ok (wtloginBytes ctx cmd (encrypted rng body ctx.crypto.loginP256.sharedKey.toList)) := by
  have hcounted := writes_writeWithLength (ε := ε) .two true (A := 1) (writes_wtloginCounted ctx cmd
    (encrypted rng body ctx.crypto.loginP256.sharedKey.toList))
  rw [buildWtloginPacket, P256.teaEncrypt_eq, Outcome.ok_bind]
  refine ((Writes.u8 2).comp hcounted).build_eq.trans ?_
  have hlength (n : Nat) : PrefixWidth.two.encode ((n + PrefixWidth.two.added true : Nat) + 1) =
      be16 (UInt16.ofNat (n + 3)) := congrArg be16 (ofInt16_natCast (n + 3))
  rw [hlength]
  rfl

/-- First byte, last byte, length, and the body under the shared key
between the header with the public key and the last byte. -/
structure WtloginFramed (ctx : Context) (body packet : Bytes) : Prop where
  first : packet.head? = some 2
  last : packet.getLast? = some 3
  length : lengthOf (packet.drop 1) = packet.length
  decrypted : (ctx.crypto.loginP256.teaDecrypt
    ((packet.take (packet.length - 1)).drop (52 + ctx.crypto.loginP256.publicKey.length)) : Outcome Empty Bytes) = .ok body

theorem wtloginFramed (rng : Nat → UInt8) (ctx : Context) (cmd : UInt16) (body : Bytes)
    (hsmall : (wtloginBytes ctx cmd (encrypted rng body ctx.crypto.loginP256.sharedKey.toList)).length < 65536) :
    WtloginFramed ctx body (wtloginBytes ctx cmd (encrypted rng body ctx.crypto.loginP256.sharedKey.toList)) := by
  have hdecrypt : (ctx.crypto.loginP256.teaDecrypt (encrypted rng body ctx.crypto.loginP256.sharedKey.toList) :
      Outcome Empty Bytes) = .ok body := ctx.crypto.loginP256.teaDecrypt_eq rng body
  generalize encrypted rng body ctx.crypto.loginP256.sharedKey.toList = cipher at *
  have hlen := wtloginBytes_length ctx cmd cipher
  have hhead := wtloginHead_length ctx cmd
  let total := (wtloginHead ctx cmd ++ (ctx.crypto.loginP256.publicKey ++ (cipher ++ [3]))).length + 3
  have htotal : total = (wtloginBytes ctx cmd cipher).length := by
    rw [hlen]
    simp only [total, List.length_append, List.length_singleton, hhead]
    omega
  let front := [2] ++ (be16 (UInt16.ofNat total) ++ (wtloginHead ctx cmd ++ ctx.crypto.loginP256.publicKey))
  have hfront : front.length = 52 + ctx.crypto.loginP256.publicKey.length := by
    simp only [front, List.length_append, List.length_singleton, be16_length, hhead]
    omega
  have hbytes : wtloginBytes ctx cmd cipher = front ++ cipher ++ [3] := by
    simp only [wtloginBytes, front, total, List.append_assoc]
  refine ⟨rfl, ?_, ?_, ?_⟩
  · rw [hbytes, List.getLast?_concat]
  · show lengthOf (be16 (UInt16.ofNat total) ++ _) = _
    rw [lengthOf_be16 (by omega), htotal]
  · have hinit : (wtloginBytes ctx cmd cipher).take ((wtloginBytes ctx cmd cipher).length - 1) = front ++ cipher := by
      rw [hbytes]
      exact List.take_left' (by simp)
    rw [hinit, List.drop_left' hfront, hdecrypt]

/-! ## The response -/

/-- A response: the seven fields, and the body that is encrypted behind them. -/
structure WtloginResponse where
  length : UInt16
  ver : UInt16
  cmd : UInt16
  seq : UInt16
  uin : UInt32
  flag : UInt8
  retryTime : UInt16
  body : Bytes

namespace WtloginResponse

def fields (r : WtloginResponse) : Bytes :=
  be16 r.length ++ (be16 r.ver ++ (be16 r.cmd ++ (be16 r.seq ++ (be32 r.uin ++ ([r.flag] ++ be16 r.retryTime)))))

def toBytes (r : WtloginResponse) (rng : Nat → UInt8) (key : Vector UInt8 16) : Bytes :=
  [2] ++ r.fields ++ encrypted rng r.body key.toList ++ [3]

end WtloginResponse

theorem responseFields_run (r : WtloginResponse) (rest : Bytes) :
    responseFields.run (r.fields ++ rest) = .ok (rest, []) := by
  simp only [responseFields, WtloginResponse.fields, List.append_assoc, StateT.run_bind, u16_be16, u32_be32,
    Outcome.ok_bind, List.cons_append, List.nil_append, u8_cons]
  rfl

theorem parseWtloginPacket_toBytes (r : WtloginResponse) (rng : Nat → UInt8) (ctx : Context) :
    parseWtloginPacket (r.toBytes rng ctx.crypto.loginP256.sharedKey) ctx = .ok r.body := by
  let cipher := encrypted rng r.body ctx.crypto.loginP256.sharedKey.toList
  have hbytes : r.toBytes rng ctx.crypto.loginP256.sharedKey = 2 :: (r.fields ++ (cipher ++ [3])) := by
    simp [WtloginResponse.toBytes, cipher]
  have hlast : (Outcome.sub (cipher ++ [3]).length 1 : Outcome PacketError Nat) = .ok cipher.length := by
    rw [Outcome.sub_ok (by simp)]
    simp
  have htail : (Outcome.index ((cipher ++ [3]).drop cipher.length) 0 : Outcome PacketError UInt8) = .ok 3 := by
    rw [List.drop_left]
    rfl
  have hdecrypt : (ctx.crypto.loginP256.teaDecrypt cipher : Outcome PacketError Bytes) = .ok r.body :=
    ctx.crypto.loginP256.teaDecrypt_eq rng r.body
  rw [hbytes, parseWtloginPacket, new_eq_ok]
  refine ⟨[], ?_⟩
  simp only [StateT.run_bind, u8_cons, Outcome.ok_bind, StateT.run_lift, Outcome.refuse_ne_self, Outcome.pure_eq,
    responseFields_run, hlast, htail, List.take_left, hdecrypt]

/-! ## The envelopes -/

/-- **The envelopes of `wtlogin`.** A packet of less than 65536 bytes is
framed, and so is the body of a QR code command; of every response the
parser answers the body. -/
theorem envelopes (ctx : Context) :
    (∀ (rng : Nat → UInt8) (cmd : UInt16) (body : Bytes), ∃ packet,
      (buildWtloginPacket rng ctx cmd body : Outcome Empty Bytes) = .ok packet ∧
      (packet.length < 65536 → WtloginFramed ctx body packet)) ∧
    (∀ (timestamp : Int64) (qrCmd : UInt16) (tlvs : Bytes), ∃ body,
      (buildTransEmpBody ctx timestamp qrCmd tlvs : Outcome Empty Bytes) = .ok body ∧
      (body.length < 65536 → TransEmpFramed tlvs body)) ∧
    (∀ (r : WtloginResponse) (rng : Nat → UInt8),
      parseWtloginPacket (r.toBytes rng ctx.crypto.loginP256.sharedKey) ctx = .ok r.body) := by
  refine ⟨?_, ?_, ?_⟩
  · intro rng cmd body
    exact ⟨_, buildWtloginPacket_eq rng ctx cmd body, wtloginFramed rng ctx cmd body⟩
  · intro timestamp qrCmd tlvs
    refine ⟨_, buildTransEmpBody_eq ctx timestamp qrCmd tlvs, ?_⟩
    intro hsmall
    refine transEmpFramed (transEmpHead_length ctx) (be32_length _) rfl (newPacketHead_length qrCmd) rfl ?_
    simp only [List.length_append, List.length_singleton, be16_length, transEmpHead_length, be32_length,
      newPacketBytes_length] at hsmall
    omega
  · intro r rng
    exact parseWtloginPacket_toBytes r rng ctx

/-- A packet of one byte, which stays below the bound. -/
theorem envelopes_short : ∃ packet,
    (buildWtloginPacket (fun _ => 220) { keyStore := { uin := 0, session := { d2Key := .replicate 16 0 } } } 2066 [7] :
      Outcome Empty Bytes) = .ok packet ∧ packet.length < 65536 ∧
    WtloginFramed { keyStore := { uin := 0, session := { d2Key := .replicate 16 0 } } } [7] packet := by
  let ctx : Context := { keyStore := { uin := 0, session := { d2Key := .replicate 16 0 } } }
  obtain ⟨packet, hbuild, hframed⟩ := (envelopes ctx).1 (fun _ => 220) 2066 [7]
  have hbytes := hbuild
  rw [buildWtloginPacket_eq, Outcome.ok.injEq] at hbytes
  have hsmall : packet.length < 65536 := by
    rw [← hbytes, wtloginBytes_length, encrypted_length]
    decide
  exact ⟨packet, hbuild, hsmall, hframed hsmall⟩

end WtLogin

end Mania

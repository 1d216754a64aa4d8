/-
What a login is for: the session that its response holds is the one the
client has after it, so each side reads what the other sends
(`login_session`).

The server is one that keeps of a session what it granted. It reads requests
as `Request.decode` does, and seals its frames with the key.
-/
import Mania.SsoBuildFacts
import Mania.SsoRoundTrip
import Mania.WtLoginParse

namespace Mania

open SsoPacket

/-- A session, as the server granted it. -/
structure Granted where
  key : Vector UInt8 16
  d2 : Bytes
  tgt : Bytes
  uid : String

namespace Granted

/-- The server's keys, for the account with this uin. -/
def server (g : Granted) (uin : UInt32) : Context := { keyStore := { uin, session := { d2Key := g.key } } }

/-- What the server is told by a packet of the account. -/
def request (g : Granted) (uin : UInt32) (packet : SsoPacket) : Request :=
  match packet.packetType with
  | .T12 => .T12 g.d2 (decimal 0 uin.toNat) packet.sequence packet.command g.tgt packet.payload
  | .T13 => .T13 packet.sequence packet.command packet.payload

/-- The packet is the response to an accepted login, with this session in it. -/
def In (prost : TlvProst) (packet : Bytes) (ctx : Context) (g : Granted) : Prop :=
  ∃ tlvs, WtLogin.Accepts prost packet ctx tlvs ∧
    (tlvs.lookup 0x305).bind TlvDe.d2key = some g.key.toList ∧ (tlvs.lookup 0x143).bind TlvDe.d2 = some g.d2 ∧
    (tlvs.lookup 0x10A).bind TlvDe.tgt = some g.tgt ∧ (tlvs.lookup 0x543).bind TlvDe.uid = some g.uid

/-- The flag of a request says which key it is under: the server takes an
empty ticket for no key. -/
def Named (g : Granted) : Prop := g.d2 ≠ [] ∨ g.key = .replicate 16 0

/-- The client has the session, for the account with this uin. -/
structure Held (g : Granted) (uin : UInt32) (ctx : Context) : Prop where
  uin : ctx.keyStore.uin = uin
  key : ctx.keyStore.session.d2Key = g.key
  d2 : ctx.keyStore.session.d2 = g.d2
  tgt : ctx.keyStore.session.tgt = g.tgt
  uid : ctx.keyStore.uid = some g.uid

end Granted

/-! ## The key is all that is read of the other side -/

section Keys

variable {ctx ctx' : Context} (h : ctx.keyStore.session.d2Key = ctx'.keyStore.session.d2Key)
include h

theorem decryptBody_congr : decryptBody ctx = decryptBody ctx' := by
  funext authFlag body
  unfold decryptBody
  rw [h]

theorem Request.decode_congr : Request.decode ctx = Request.decode ctx' := by
  funext packet
  unfold Request.decode Request.envelope
  rw [decryptBody_congr h]

theorem SsoPacket.Sealed.congr {clear body : Bytes} {authFlag : UInt8} (hsealed : Sealed ctx clear authFlag body) :
    Sealed ctx' clear authFlag body := by
  cases hsealed with
  | clear => exact .clear
  | d2Key rng hencrypt => exact .d2Key rng (h ▸ hencrypt)
  | zeroKey rng hencrypt => exact .zeroKey rng hencrypt

end Keys

/-! ## Both directions -/

namespace Granted

variable {g : Granted} {uin : UInt32} {ctx : Context}

theorem Held.ofPacket (h : g.Held uin ctx) (self : SsoPacket) : Request.ofPacket ctx self = g.request uin self := by
  obtain ⟨packetType, command, sequence, payload⟩ := self
  cases packetType with
  | T12 => simp only [Request.ofPacket, Granted.request, h.uin, h.d2, h.tgt]
  | T13 => rfl

/-- The server reads what the client builds. -/
theorem Held.request (h : g.Held uin ctx) (hnamed : g.Named) (hversion : VersionFits ctx) (prost : RequestProst)
    (draws rng : Nat → UInt8) (self : SsoPacket) :
    ∃ bs, (self.build prost draws rng ctx : Outcome Empty Bytes) = .ok bs ∧
      (bs.length < 2 ^ 32 → LengthLed bs ∧ Request.decode (g.server uin) bs = .ok (g.request uin self)) := by
  have hkey : KeyNamed ctx := by
    rw [KeyNamed, h.d2, h.key]
    exact hnamed
  obtain ⟨bs, hbuild, hread⟩ := self.build_eq (ε := Empty) prost draws rng hversion
  refine ⟨reheaded bs, hbuild, fun hfits => ?_⟩
  have hbs : bs.length < 2 ^ 32 := by
    rw [PacketBuilder.reheaded_length] at hfits
    omega
  have hserver : Request.decode (g.server uin) = Request.decode ctx := Request.decode_congr h.key.symm
  refine ⟨lengthLed_reheaded hfits, ?_⟩
  rw [hserver, Request.decode_reheaded ctx hfits, hread hkey hbs, h.ofPacket]

/-- The client reads what the server seals. -/
theorem Held.response (h : g.Held uin ctx) {inflate : Bytes → Option Bytes} {e : ServicePacket} {s : SsoBody}
    {command extra : String} {P : Bytes} (hsent : Sent inflate (g.server uin) e s command extra P) :
    parse inflate e.toBytes ctx =
      if s.retCode = 0 then
        .ok { packetType := .T12, command, sequence := s.sequence, payload := reheaded P }
      else .err (.ssoPacketRetFailed command s.sequence s.retCode extra) := by
  have huin : (g.server uin).keyStore.uin = ctx.keyStore.uin := h.uin.symm
  have hclient : Sent inflate ctx e s command extra P :=
    { hsent with
      uin := huin ▸ hsent.uin
      body := hsent.body.congr h.key.symm }
  exact hclient.parse_eq

/-- An accepted login is held afterwards. -/
theorem held_of_parse {prost : TlvProst} {packet : Bytes} (md5 : Bytes → Bytes) (now : Int) (h : g.In prost packet ctx) :
    ∃ ctx', (WtLogin.parse prost md5 now packet).run ctx = (.ok { code := 0, msg := none }, ctx') ∧
      g.Held ctx.keyStore.uin ctx' ∧ ctx'.appInfo = ctx.appInfo := by
  obtain ⟨tlvs, haccepts, hkey, hd2, htgt, huid⟩ := h
  rcases hrun : (WtLogin.parse prost md5 now packet).run ctx with ⟨exit, ctx'⟩
  rcases WtLogin.parse_accepts hrun with ⟨rfl, tlvs', haccepts', hstored⟩ | ⟨-, hrefused, -⟩
  · cases haccepts.unsealed.unique haccepts'.unsealed
    have hkey' : ctx'.keyStore.session.d2Key.toList = g.key.toList :=
      Option.some.inj (hstored.d2Key.symm.trans hkey)
    exact ⟨ctx', rfl,
      { uin := congrArg (·.keyStore.uin) hstored.rest
        key := Vector.toList_inj.mp hkey'
        d2 := Option.some.inj (hstored.d2.symm.trans hd2)
        tgt := Option.some.inj (hstored.tgt.symm.trans htgt)
        uid := hstored.uid.symm.trans huid },
      congrArg (·.appInfo) hstored.rest⟩
  · exact absurd haccepts (hrefused tlvs)

end Granted

/-- **A login makes a session.** After the response to an accepted login the
server that granted the session in it reads every packet the client builds,
with the ticket and the tgt it granted, and the client reads every frame
the server seals. -/
theorem login_session {prost : TlvProst} (md5 : Bytes → Bytes) (now : Int) {packet : Bytes} {ctx : Context} {g : Granted}
    (hgranted : g.In prost packet ctx) (hnamed : g.Named) (hversion : VersionFits ctx) :
    ∃ ctx', (WtLogin.parse prost md5 now packet).run ctx = (.ok { code := 0, msg := none }, ctx') ∧
      (∀ (request : RequestProst) (draws rng : Nat → UInt8) (self : SsoPacket), ∃ bs,
        (self.build request draws rng ctx' : Outcome Empty Bytes) = .ok bs ∧
          (bs.length < 2 ^ 32 → LengthLed bs ∧
            Request.decode (g.server ctx.keyStore.uin) bs = .ok (g.request ctx.keyStore.uin self))) ∧
      ∀ (inflate : Bytes → Option Bytes) (e : ServicePacket) (s : SsoBody) (command extra : String) (P : Bytes),
        Sent inflate (g.server ctx.keyStore.uin) e s command extra P →
          parse inflate e.toBytes ctx' =
            if s.retCode = 0 then
              .ok { packetType := .T12, command, sequence := s.sequence, payload := reheaded P }
            else .err (.ssoPacketRetFailed command s.sequence s.retCode extra) := by
  obtain ⟨ctx', hrun, hheld, happ⟩ := Granted.held_of_parse md5 now hgranted
  have hversion' : VersionFits ctx' := by
    rw [VersionFits, happ]
    exact hversion
  exact ⟨ctx', hrun, fun request draws rng self => hheld.request hnamed hversion' request draws rng self,
    fun _ _ _ _ _ _ hsent => hheld.response hsent⟩

/-! ## The session of a login -/

/-- What the entries of a login grant. -/
def loginGranted : Granted := { key := .replicate 16 9, d2 := [2], tgt := [6], uid := "u_1" }

theorem in_login : loginGranted.In WtLogin.namedProst WtLogin.loginPacket WtLogin.freshContext := by
  obtain ⟨tlvs, hunsealed, hlookup⟩ := WtLogin.unsealed_login
  have hkey : (tlvs.lookup 0x305).bind TlvDe.d2key = some loginGranted.key.toList := by
    rw [hlookup]
    rfl
  have hd2 : (tlvs.lookup 0x143).bind TlvDe.d2 = some loginGranted.d2 := by
    rw [hlookup]
    rfl
  have htgt : (tlvs.lookup 0x10A).bind TlvDe.tgt = some loginGranted.tgt := by
    rw [hlookup]
    rfl
  have huid : (tlvs.lookup 0x543).bind TlvDe.uid = some loginGranted.uid := by
    rw [hlookup]
    rfl
  have htemp : (tlvs.lookup 0x106).bind TlvDe.temp = some [3] := by
    rw [hlookup]
    rfl
  have hinfo : (tlvs.lookup 0x11A).bind TlvDe.selfInfo = some { age := 20, gender := 1, name := "" } := by
    rw [hlookup]
    rfl
  exact ⟨tlvs, ⟨hunsealed, ⟨_, htgt⟩, ⟨_, hd2⟩, ⟨_, hkey⟩, ⟨_, htemp⟩, ⟨_, huid⟩, ⟨_, hinfo⟩⟩, hkey, hd2, htgt, huid⟩

/-- The request of one byte, after that login. -/
theorem login_session_granted : ∃ ctx' bs,
    (WtLogin.parse WtLogin.namedProst (fun _ => WtLogin.loginMd5) 5 WtLogin.loginPacket).run WtLogin.freshContext =
      (.ok { code := 0, msg := none }, ctx') ∧
    (packet12.build silentProst (fun _ => 0) (fun _ => 220) ctx' : Outcome Empty Bytes) = .ok bs ∧
      (bs.length < 2 ^ 32 → LengthLed bs ∧
        Request.decode (loginGranted.server 7) bs = .ok (.T12 [2] (decimal 0 7) 7 "trpc" [6] [1])) := by
  have hnamed : loginGranted.Named := .inl (List.cons_ne_nil 2 [])
  obtain ⟨ctx', hrun, hrequest, -⟩ := login_session (fun _ => WtLogin.loginMd5) 5 in_login hnamed
    (versionFits_tgtContext [])
  obtain ⟨bs, hbuild, hread⟩ := hrequest silentProst (fun _ => 0) (fun _ => 220) packet12
  exact ⟨ctx', bs, hrun, hbuild, hread⟩

end Mania

/-
What a sender puts into an SSO frame arrives: `parse` gives back the
command and the sequence, and `resolveEvent` hands the event parser the
payload, whether it was sent compressed or not.

One payload does not arrive: the length header of an inflated payload is
cut to 32 bits, so a compressed payload of 2^32 - 4 bytes or more is
handed over short or not at all.
-/
import Mania.SsoPacketFacts

namespace Mania

open Bytes

namespace SsoPacket

/-! ## What a sender writes -/

/-- `body` carries `clear` as the auth flag says: in clear, or encrypted
with one of the two keys and any filler bytes. -/
inductive Sealed (ctx : Context) (clear : Bytes) : UInt8 → Bytes → Prop where
  | clear : Sealed ctx clear 0 clear
  | d2Key (rng : Nat → UInt8) {body : Bytes}
      (h : teaEncrypt rng clear ctx.keyStore.session.d2Key.toList = (.ok body : Outcome PacketError Bytes)) :
      Sealed ctx clear 1 body
  | zeroKey (rng : Nat → UInt8) {body : Bytes}
      (h : teaEncrypt rng clear (List.replicate 16 0) = (.ok body : Outcome PacketError Bytes)) :
      Sealed ctx clear 2 body

/-- The payload part that carries `P` under a compression word: a section of
`P` itself, or of a zlib stream of it. -/
inductive PayloadPart (inflate : Bytes → Option Bytes) (P : Bytes) : UInt32 → Bytes → Prop where
  | plain (s : Section) (h : s.body = P) : PayloadPart inflate P 0 s.toBytes
  | zlib {compression : UInt32} (hc : compression ≠ 0) (stream : Section) (h : inflate stream.body = some P) :
      PayloadPart inflate P compression stream.toBytes

/-- The frame `e` with the body `s` carries these values to the key store of `ctx`. -/
structure Sent (inflate : Bytes → Option Bytes) (ctx : Context) (e : ServicePacket) (s : SsoBody)
    (command extra : String) (P : Bytes) : Prop where
  protocol : e.protocol = 12 ∨ e.protocol = 13
  uin : ∃ zeros, e.uin.body = Utf8.encode (decimal zeros ctx.keyStore.uin.toNat)
  body : Sealed ctx s.toBytes e.authFlag e.body
  command : s.command.body = Utf8.encode command
  extra : s.extra.body = Utf8.encode extra
  payload : PayloadPart inflate P s.compression s.payload

/-- `resolveEvent` hands `P` to the event parser of the packet's command. -/
def HandsOver (packet : SsoPacket) (P : Bytes) : Prop :=
  ∀ (ε β : Type) (eventMap : String → Option (Bytes → Outcome ε β)) (parser : Bytes → Outcome ε β),
    eventMap packet.command = some parser → resolveEvent eventMap packet = (parser P).mapErr .parse

/-- What is to come of a frame with these values. -/
def Arrives (inflate : Bytes → Option Bytes) (ctx : Context) (frame : Bytes) (sequence : UInt32) (retCode : Int32)
    (command extra : String) (P : Bytes) : Prop :=
  if retCode = 0 then
    ∃ packet, parse inflate frame ctx = .ok packet ∧ packet.sequence = sequence ∧ packet.command = command ∧
      HandsOver packet P
  else parse inflate frame ctx = .err (.ssoPacketRetFailed command sequence retCode extra)

/-! ## The steps of the way -/

theorem decryptBody_sealed {ctx : Context} {clear body : Bytes} {authFlag : UInt8}
    (h : Sealed ctx clear authFlag body) : decryptBody ctx authFlag body = .ok clear := by
  cases h with
  | clear => rfl
  | d2Key rng h =>
    have hkey : ctx.keyStore.session.d2Key.toList.length = 16 := by simp
    rw [teaEncrypt_ok rng clear hkey] at h
    cases h
    exact teaDecrypt_encrypted rng clear hkey
  | zeroKey rng h =>
    have hkey : (List.replicate 16 (0 : UInt8)).length = 16 := by simp
    rw [teaEncrypt_ok rng clear hkey] at h
    cases h
    exact teaDecrypt_encrypted rng clear hkey

/-- A section that fits is its body reheaded. -/
theorem toBytes_eq_reheaded (s : Section) : s.toBytes = reheaded s.body := rfl

/-- Compressed or not, the packet gets `P` behind a length header. -/
theorem payloadPart_run {inflate : Bytes → Option Bytes} {P payload : Bytes} {compression : UInt32}
    (h : PayloadPart inflate P compression payload) :
    PacketReader.new payload (payloadPart inflate (compression != 0)) = .ok (reheaded P) := by
  cases h with
  | plain s hs =>
    subst hs
    rfl
  | zlib hc stream hstream =>
    have hsection := section_bytes (ε := PacketError) stream []
    rw [List.append_nil] at hsection
    have hflag : (compression != 0) = true := by simpa using hc
    simp only [PacketReader.new, payloadPart, hflag, if_true, StateT.run_bind, StateT.run_lift, hsection,
      inflatePacket_eq, hstream, Outcome.okOr_some, Outcome.ok_bind, Outcome.map_ok, Outcome.pure_eq]

theorem text_of_encode {s : Section} {text : String} (h : s.body = Utf8.encode text) : s.text = text := by
  rw [Prefixed.text, h, Utf8.fromUtf8Lossy_encode]

theorem Sent.admitted {inflate : Bytes → Option Bytes} {ctx : Context} {e : ServicePacket} {s : SsoBody}
    {command extra : String} {P : Bytes} (h : Sent inflate ctx e s command extra P) : e.Admitted ctx := by
  obtain ⟨zeros, huin⟩ := h.uin
  have hparse : parseU32 e.uin.text = some ctx.keyStore.uin := by
    rw [text_of_encode huin, parseU32_decimal]
  rcases h.protocol with hp | hp
  · exact .inl ⟨hp, hparse⟩
  · exact .inr ⟨hp, _, hparse⟩

/-- What `parse` answers to a sent frame. -/
theorem Sent.parse_eq {inflate : Bytes → Option Bytes} {ctx : Context} {e : ServicePacket} {s : SsoBody}
    {command extra : String} {P : Bytes} (h : Sent inflate ctx e s command extra P) :
    parse inflate e.toBytes ctx =
      if s.retCode = 0 then
        .ok { packetType := .T12, command, sequence := s.sequence, payload := reheaded P }
      else .err (.ssoPacketRetFailed command s.sequence s.retCode extra) := by
  rw [parse, servicePackerParse_toBytes h.admitted, decryptBody_sealed h.body, Outcome.ok_bind,
    ssoPackerParse_toBytes, payloadPart_run h.payload, Outcome.ok_bind, finish, text_of_encode h.command,
    text_of_encode h.extra]

/-- The event parser gets exactly the payloads whose length header is not cut. -/
theorem handsOver_reheaded {packetType : PacketType} {command : String} {sequence : UInt32} {P : Bytes} :
    HandsOver { packetType, command, sequence, payload := reheaded P } P ↔ 4 + P.length < 2 ^ 32 := by
  constructor
  · intro h
    have hread := h Empty Bytes (fun _ => some .ok) .ok rfl
    simp only [resolveEvent, Outcome.okOr_some, Outcome.bind_eq_ok, Outcome.mapErr_ok, Outcome.ok.injEq] at hread
    obtain ⟨_, hsection, _, rfl, hP⟩ := hread
    simp only [Outcome.mapErr_ok, Outcome.ok.injEq] at hP
    subst hP
    obtain ⟨_, hsection⟩ := PacketReader.new_eq_ok.mp hsection
    obtain ⟨s, -, hs⟩ := PacketReader.section_eq_ok.mp hsection
    rw [PacketReader.new_bytes] at hs
    cases hs
    exact s.fits
  · intro hfits ε β eventMap parser hparser
    have hsection := section_bytes (ε := EventError ε) ⟨P, hfits⟩ []
    rw [List.append_nil, toBytes_eq_reheaded] at hsection
    simp only [resolveEvent, PacketReader.new, hsection, hparser, Outcome.map_ok, Outcome.okOr_some,
      Outcome.ok_bind]

/-- A sent frame arrives unless the event parser is to have its payload and does not get it. -/
theorem Sent.arrives {inflate : Bytes → Option Bytes} {ctx : Context} {e : ServicePacket} {s : SsoBody}
    {command extra : String} {P : Bytes} (h : Sent inflate ctx e s command extra P) :
    Arrives inflate ctx e.toBytes s.sequence s.retCode command extra P ↔
      (s.retCode = 0 →
        HandsOver { packetType := .T12, command, sequence := s.sequence, payload := reheaded P } P) := by
  unfold Arrives
  rw [h.parse_eq]
  by_cases hret : s.retCode = 0
  · simp [hret]
  · simp [hret]

/-! ## The round trip -/

/-- **What arrives.** Every sent frame does, compressed or not and under
every auth flag, except that a payload the event parser is to have must be
shorter than 2^32 - 4 bytes. -/
theorem arrives_iff (inflate : Bytes → Option Bytes) (ctx : Context) (e : ServicePacket) (s : SsoBody)
    (command extra : String) (P : Bytes) (h : Sent inflate ctx e s command extra P) :
    Arrives inflate ctx e.toBytes s.sequence s.retCode command extra P ↔ s.retCode ≠ 0 ∨ 4 + P.length < 2 ^ 32 := by
  rw [h.arrives, handsOver_reheaded]
  exact Decidable.imp_iff_not_or

/-- A body in clear that carries a zlib stream. -/
def zippedBody (stream : Section) : SsoBody where
  length := 0
  sequence := 7
  retCode := 0
  extra := Section.empty
  command := SsoBody.trpc
  unknown := Section.empty
  compression := 1
  header := SsoBody.noHeader
  payload := stream.toBytes

def zippedPacket (stream : Section) : ServicePacket where
  length := 0
  protocol := 12
  authFlag := 0
  flag := 0
  uin := ServicePacket.uinSeven
  body := (zippedBody stream).toBytes

def zippedContext : Context := { keyStore := { uin := 7, session := { d2Key := Vector.replicate 16 0 } } }

theorem sent_zipped {inflate : Bytes → Option Bytes} {stream : Section} {P : Bytes}
    (h : inflate stream.body = some P) :
    Sent inflate zippedContext (zippedPacket stream) (zippedBody stream) "trpc" "" P where
  protocol := .inl rfl
  uin := ⟨0, rfl⟩
  body := .clear
  command := rfl
  extra := rfl
  payload := .zlib (show (1 : UInt32) ≠ 0 by decide) stream h

/-- Two bytes in a stored zlib block. -/
def storedStream : Section :=
  ⟨[0x78, 0x01, 0x01, 0x02, 0x00, 0xFD, 0xFF, 0x01, 0x02, 0x00, 0x06, 0x00, 0x04], by decide⟩

theorem arrives_stored :
    Arrives (fun bs => if bs = storedStream.body then some [1, 2] else none) zippedContext
      (zippedPacket storedStream).toBytes 7 0 "trpc" "" [1, 2] :=
  (arrives_iff _ zippedContext (zippedPacket storedStream) (zippedBody storedStream) "trpc" "" [1, 2]
    (sent_zipped (by decide))).mpr
    (.inr (by decide))

/-- 2^32 - 4 zero bytes, which a zlib stream of some four million bytes
inflates to, do not arrive whatever the stream: the header they get is 0. -/
theorem not_arrives_zeros :
    (∀ (inflate : Bytes → Option Bytes) (stream : Section),
      inflate stream.body = some (List.replicate (2 ^ 32 - 4) 0) →
      ¬ Arrives inflate zippedContext (zippedPacket stream).toBytes 7 0 "trpc" "" (List.replicate (2 ^ 32 - 4) 0)) ∧
    ¬ ∀ (inflate : Bytes → Option Bytes) (ctx : Context) (e : ServicePacket) (s : SsoBody)
      (command extra : String) (P : Bytes), Sent inflate ctx e s command extra P →
      Arrives inflate ctx e.toBytes s.sequence s.retCode command extra P := by
  have hzeros (inflate : Bytes → Option Bytes) (stream : Section)
      (h : inflate stream.body = some (List.replicate (2 ^ 32 - 4) 0)) :
      ¬ Arrives inflate zippedContext (zippedPacket stream).toBytes 7 0 "trpc" ""
        (List.replicate (2 ^ 32 - 4) 0) := by
    intro harrives
    have hlen := handsOver_reheaded.mp ((sent_zipped h).arrives.mp harrives rfl)
    rw [List.length_replicate] at hlen
    omega
  refine ⟨hzeros, fun h => ?_⟩
  let inflate : Bytes → Option Bytes := fun _ => some (List.replicate (2 ^ 32 - 4) 0)
  exact hzeros inflate storedStream rfl (h inflate _ _ _ _ _ _ (sent_zipped rfl))

end SsoPacket

end Mania

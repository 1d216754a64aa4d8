/-
Facts about the inbound SSO format (`Mania.SsoPacket`).

`ServicePacket` and `SsoBody` are the two layouts as a sender writes them,
with every length prefix that fits by construction. A reader accepts a
byte string exactly when it is one of these layouts, so `parse` is read
off the layout: what it returns, and on which packets it panics.
-/
import Mania.SsoPacket
import Mania.TeaFacts

namespace Mania

open Bytes

/-! ## Layouts -/

/-- The envelope of a packet. The length and the flag are read and ignored. -/
structure ServicePacket where
  length : UInt32
  protocol : UInt32
  authFlag : UInt8
  flag : UInt8
  uin : Section
  body : Bytes

/-- The body of a packet, decrypted. The length, the unknown section and
the header are read and ignored. -/
structure SsoBody where
  length : UInt32
  sequence : UInt32
  retCode : Int32
  extra : Section
  command : Section
  unknown : Section
  compression : UInt32
  header : Prefixed 0
  payload : Bytes

/-- A header of no bytes. -/
def SsoBody.noHeader : Prefixed 0 := ⟨[], by decide⟩

/-- The command `trpc`. -/
def SsoBody.trpc : Section := ⟨Utf8.encode "trpc", by decide⟩

/-- The uin 7. -/
def ServicePacket.uinSeven : Section := ⟨Utf8.encode (decimal 0 7), by decide⟩

def ServicePacket.toBytes (e : ServicePacket) : Bytes :=
  be32 e.length ++ (be32 e.protocol ++ (e.authFlag :: e.flag :: (e.uin.toBytes ++ e.body)))

def SsoBody.toBytes (s : SsoBody) : Bytes :=
  be32 s.length ++ (be32 s.sequence ++ (be32 s.retCode.toUInt32 ++ (s.extra.toBytes ++ (s.command.toBytes ++
    (s.unknown.toBytes ++ (be32 s.compression ++ (s.header.toBytes ++ s.payload)))))))

/-- The text of a section. -/
def Prefixed.text {N : Nat} (s : Prefixed N) : String := Utf8.fromUtf8Lossy s.body

/-- The protocol and uin checks let the envelope through. -/
def ServicePacket.Admitted (ctx : Context) (e : ServicePacket) : Prop :=
  (e.protocol = 12 ∧ parseU32 e.uin.text = some ctx.keyStore.uin) ∨
    (e.protocol = 13 ∧ ∃ uin, parseU32 e.uin.text = some uin)

namespace SsoPacket

open PacketReader

theorem section_bytes {ε : Type} (s : Section) (rest : Bytes) :
    («section» bytes : Cursor ε Bytes).run (s.toBytes ++ rest) = .ok (s.body, rest) :=
  section_eq_ok.mpr ⟨s, rfl, rfl⟩

theorem section_string {ε : Type} (s : Section) (rest : Bytes) :
    («section» string : Cursor ε String).run (s.toBytes ++ rest) = .ok (s.text, rest) :=
  section_eq_ok.mpr ⟨s, rfl, rfl⟩

/-! ## The envelope -/

theorem mapErr_tryFrom_eq_ok {ε : Type} {f : UInt32 → ε} {value : UInt32} {t : PacketType} :
    (PacketType.tryFrom value).mapErr f = .ok t ↔ (value = 12 ∧ t = .T12) ∨ (value = 13 ∧ t = .T13) := by
  unfold PacketType.tryFrom
  split
  · next h12 => simp [h12, eq_comm]
  split
  · next h13 => simp [h13, eq_comm]
  · next h12 h13 => simp [h12, h13]

theorem mapErr_tryFrom_ne_panic {ε : Type} {f : UInt32 → ε} (value : UInt32) :
    (PacketType.tryFrom value).mapErr f ≠ .panic := by
  unfold PacketType.tryFrom
  repeat' split
  all_goals simp

/-- The envelopes that are let through, as the checks of `parse` state it. -/
theorem admitted_iff {ctx : Context} {e : ServicePacket} :
    e.Admitted ctx ↔ ∃ (t : PacketType) (uin : UInt32), ((e.protocol = 12 ∧ t = .T12) ∨ (e.protocol = 13 ∧ t = .T13)) ∧
      parseU32 e.uin.text = some uin ∧ ¬ (uin ≠ ctx.keyStore.uin ∧ t = .T12) := by
  unfold ServicePacket.Admitted
  constructor
  · rintro (⟨hp, hu⟩ | ⟨hp, uin, hu⟩)
    · exact ⟨.T12, _, .inl ⟨hp, rfl⟩, hu, by simp⟩
    · exact ⟨.T13, uin, .inr ⟨hp, rfl⟩, hu, by simp⟩
  · rintro ⟨t, uin, ⟨hp, rfl⟩ | ⟨hp, rfl⟩, hu, hne⟩
    · obtain rfl : uin = ctx.keyStore.uin := by simpa using hne
      exact .inl ⟨hp, hu⟩
    · exact .inr ⟨hp, uin, hu⟩

/-- An admitted envelope gives its decrypted body. -/
theorem servicePackerParse_toBytes {ctx : Context} {e : ServicePacket} (h : e.Admitted ctx) :
    PacketReader.new e.toBytes (servicePackerParse ctx) = decryptBody ctx e.authFlag e.body := by
  obtain ⟨t, uin, ht, huin, hcheck⟩ := admitted_iff.mp h
  have hrefuse : Outcome.refuse (uin ≠ ctx.keyStore.uin ∧ t = .T12)
      (PacketError.uinMismatch ctx.keyStore.uin uin) = .ok () := Outcome.refuse_eq_ok.mpr hcheck
  simp only [PacketReader.new, servicePackerParse, ServicePacket.toBytes, StateT.run_bind, StateT.run_lift, u32, u8,
    Cursor.getU32_be32, Cursor.getU8_cons, section_string, mapErr_tryFrom_eq_ok.mpr ht, huin, hrefuse,
    Outcome.okOr_some, Outcome.ok_bind, Outcome.pure_eq, bytes, Cursor.rest_run]
  cases decryptBody ctx e.authFlag e.body <;> rfl

/-- An envelope that is not admitted is an error. -/
theorem servicePackerParse_toBytes_err {ctx : Context} {e : ServicePacket} (h : ¬ e.Admitted ctx) :
    ∃ err, PacketReader.new e.toBytes (servicePackerParse ctx) = .err err := by
  rw [admitted_iff] at h
  cases ht : (PacketType.tryFrom e.protocol).mapErr PacketError.unknownSsoPacketType with
  | ok t =>
    simp only [PacketReader.new, servicePackerParse, ServicePacket.toBytes, StateT.run_bind, StateT.run_lift, u32,
      u8, Cursor.getU32_be32, Cursor.getU8_cons, section_string, ht, Outcome.ok_bind, Outcome.pure_eq]
    cases huin : parseU32 e.uin.text with
    | none => exact ⟨_, rfl⟩
    | some uin =>
      have hcheck : uin ≠ ctx.keyStore.uin ∧ t = .T12 := by
        by_contra hcheck
        exact h ⟨t, uin, mapErr_tryFrom_eq_ok.mp ht, huin, hcheck⟩
      simp only [Outcome.okOr_some, Outcome.ok_bind, Outcome.refuse, if_pos hcheck]
      exact ⟨_, rfl⟩
  | err err =>
    simp only [PacketReader.new, servicePackerParse, ServicePacket.toBytes, StateT.run_bind, StateT.run_lift, u32,
      Cursor.getU32_be32, ht, Outcome.ok_bind]
    exact ⟨_, rfl⟩
  | panic => exact absurd ht (mapErr_tryFrom_ne_panic _)

/-- A packet of fewer than eight bytes apart, this is all that is read of
one with an unknown protocol. -/
def UnknownProtocol (packet : Bytes) : Prop :=
  ∃ (length protocol : UInt32) (rest : Bytes), packet = be32 length ++ (be32 protocol ++ rest) ∧
    protocol ≠ 12 ∧ protocol ≠ 13

theorem servicePackerParse_unknownProtocol (ctx : Context) {packet : Bytes} (h : UnknownProtocol packet) :
    ∃ err, PacketReader.new packet (servicePackerParse ctx) = .err err := by
  obtain ⟨length, protocol, rest, rfl, h12, h13⟩ := h
  refine ⟨.unknownSsoPacketType protocol, ?_⟩
  simp [PacketReader.new, servicePackerParse, u32, StateT.run_lift, PacketType.tryFrom, h12, h13]

/-- A packet no reader of `servicePackerParse` runs past the end of is an
envelope, unless its protocol is unknown. -/
theorem eq_envelope_of_ne_panic {ctx : Context} {packet : Bytes} (h : (servicePackerParse ctx).run packet ≠ .panic) :
    UnknownProtocol packet ∨ ∃ e : ServicePacket, packet = e.toBytes := by
  obtain ⟨length, _, hlength, h₁⟩ := errorless_u32.bind_ne_panic.mp h
  obtain ⟨protocol, _, hprotocol, h₂⟩ := errorless_u32.bind_ne_panic.mp h₁
  obtain rfl := Cursor.getU32_eq_ok.mp hlength
  obtain rfl := Cursor.getU32_eq_ok.mp hprotocol
  rcases Cursor.lift_bind_ne_panic.mp h₂ with ⟨err, herr⟩ | ⟨t, ht, h₃⟩
  · refine .inl ⟨length, protocol, _, rfl, ?_, ?_⟩
    · rintro rfl
      cases herr
    · rintro rfl
      cases herr
  · obtain ⟨authFlag, _, hauthFlag, h₄⟩ := errorless_u8.bind_ne_panic.mp h₃
    obtain ⟨flag, _, hflag, h₅⟩ := errorless_u8.bind_ne_panic.mp h₄
    obtain ⟨_, body, huin, -⟩ := (errorless_section errorless_string).bind_ne_panic.mp h₅
    obtain ⟨uin, rfl, -⟩ := section_eq_ok.mp huin
    obtain rfl := Cursor.getU8_eq_ok.mp hflag
    obtain rfl := Cursor.getU8_eq_ok.mp hauthFlag
    exact .inr ⟨{ length, protocol, authFlag, flag, uin, body }, rfl⟩

/-! ## The layout inside -/

/-- How `ssoPackerParse` ends on a layout, once it has the payload. -/
def finish (s : SsoBody) (payload : Bytes) : Outcome PacketError SsoPacket :=
  if s.retCode = 0 then .ok { packetType := .T12, command := s.command.text, sequence := s.sequence, payload }
  else .err (.ssoPacketRetFailed s.command.text s.sequence s.retCode s.extra.text)

theorem ssoPackerParse_toBytes (inflate : Bytes → Option Bytes) (s : SsoBody) :
    PacketReader.new s.toBytes (ssoPackerParse inflate) =
      PacketReader.new s.payload (payloadPart inflate (s.compression != 0)) >>= finish s := by
  have hret (bs : Bytes) : (i32 : Cursor PacketError Int32).run (be32 s.retCode.toUInt32 ++ bs) = .ok (s.retCode, bs) :=
    i32_eq_ok.mpr rfl
  have hheader (bs : Bytes) : (readWithLength (PREFIX_U32 ||| PREFIX_LENGTH_ONLY) bytes : Cursor PacketError Bytes).run
      (s.header.toBytes ++ bs) = .ok (s.header.body, bs) :=
    readWithLength_eq_ok.mpr ⟨s.header, rfl, rfl⟩
  simp only [PacketReader.new, ssoPackerParse, SsoBody.toBytes, StateT.run_bind, StateT.run_map, u32,
    Cursor.getU32_be32, hret, section_string, section_bytes, hheader, Outcome.ok_bind, Outcome.map_ok]
  cases (payloadPart inflate (s.compression != 0)).run s.payload with
  | ok p =>
    simp only [Outcome.ok_bind, Outcome.map_ok, finish]
    split <;> rfl
  | err e => rfl
  | panic => rfl

/-- Bytes behind the length header the inflated payloads get. It counts
itself, modulo 2^32. -/
def reheaded (inflated : Bytes) : Bytes := be32 (UInt32.ofNat (4 + inflated.length)) ++ inflated

theorem inflatePacket_eq (inflate : Bytes → Option Bytes) (body : Bytes) :
    inflatePacket inflate body = reheaded <$> Outcome.okOr .inflateFailed (inflate body) := by
  unfold inflatePacket
  cases inflate body with
  | none => rfl
  | some inflated =>
    have hcopy (len : UInt32) : Outcome.copyFromSlice ([] ++ (be32 0 ++ inflated)) 0 4 (be32 len) =
        (.ok ([] ++ (be32 len ++ inflated)) : Outcome PacketError Bytes) :=
      Outcome.copyFromSlice_append (by simp) (by simp) (by simp)
    simp only [List.nil_append] at hcopy
    rw [Outcome.okOr_some, Outcome.ok_bind, hcopy, Outcome.map_ok, reheaded, List.length_append, be32_length]

theorem inflatePacket_ne_panic (inflate : Bytes → Option Bytes) (body : Bytes) :
    inflatePacket inflate body ≠ .panic := by
  rw [inflatePacket_eq, ne_eq, Outcome.map_eq_panic]
  exact Outcome.okOr_ne_panic _ _

/-- A payload part is refused for want of a section only. -/
theorem payloadPart_ne_panic {inflate : Bytes → Option Bytes} {isCompressed : Bool} {payload : Bytes} :
    (payloadPart inflate isCompressed).run payload ≠ .panic ↔
      (isCompressed = true → ∃ (stream : Section) (rest : Bytes), payload = stream.toBytes ++ rest) := by
  cases isCompressed with
  | false => simp [payloadPart, bytes]
  | true =>
    simp only [payloadPart, if_true, (errorless_section errorless_bytes).bind_ne_panic, section_eq_ok,
      StateT.run_lift, forall_const]
    constructor
    · rintro ⟨_, rest, ⟨stream, rfl, -⟩, -⟩
      exact ⟨stream, rest, rfl⟩
    · rintro ⟨stream, rest, rfl⟩
      refine ⟨stream.body, rest, ⟨stream, rfl, rfl⟩, ?_⟩
      rw [ne_eq, Outcome.bind_eq_panic]
      simp [inflatePacket_ne_panic]

/-- `p` is what the packet of this layout gets for its payload. -/
def PayloadOf (inflate : Bytes → Option Bytes) (s : SsoBody) (p : Bytes) : Prop :=
  (s.compression = 0 ∧ p = s.payload) ∨
    (s.compression ≠ 0 ∧ ∃ (stream : Section) (rest inflated : Bytes), s.payload = stream.toBytes ++ rest ∧
      inflate stream.body = some inflated ∧ p = reheaded inflated)

theorem payloadPart_eq_ok {inflate : Bytes → Option Bytes} {s : SsoBody} {p : Bytes} :
    PacketReader.new s.payload (payloadPart inflate (s.compression != 0)) = .ok p ↔ PayloadOf inflate s p := by
  by_cases hc : s.compression = 0
  · simp [PayloadOf, hc, payloadPart, eq_comm]
  · have hflag : (s.compression != 0) = true := by simpa using hc
    simp only [new_eq_ok, payloadPart, hflag, if_true, StateT.run_bind, StateT.run_lift, Outcome.bind_eq_ok,
      Prod.exists, section_eq_ok, inflatePacket_eq, Outcome.map_eq_ok, Outcome.okOr_eq_ok, PayloadOf, hc,
      false_and, false_or, not_false_eq_true, true_and, new_bytes, Outcome.ok.injEq, ne_eq]
    constructor
    · intro h
      obtain ⟨_, _, _, ⟨stream, hpayload, rfl⟩, _, ⟨inflated, hinflate, rfl⟩, h⟩ := h
      cases h
      exact ⟨stream, _, inflated, hpayload, hinflate, rfl⟩
    · intro h
      obtain ⟨stream, rest, inflated, hpayload, hinflate, rfl⟩ := h
      exact ⟨rest, _, rest, ⟨stream, hpayload, rfl⟩, _, ⟨inflated, hinflate, rfl⟩, rfl⟩

/-- A body no reader of `ssoPackerParse` runs past the end of is a layout. -/
theorem eq_toBytes_of_ne_panic {inflate : Bytes → Option Bytes} {clear : Bytes}
    (h : (ssoPackerParse inflate).run clear ≠ .panic) : ∃ s : SsoBody, clear = s.toBytes := by
  obtain ⟨length, _, hlength, h₁⟩ := errorless_u32.bind_ne_panic.mp h
  obtain ⟨sequence, _, hsequence, h₂⟩ := errorless_u32.bind_ne_panic.mp h₁
  obtain ⟨retCode, _, hretCode, h₃⟩ := errorless_i32.bind_ne_panic.mp h₂
  obtain ⟨_, _, hextra, h₄⟩ := (errorless_section errorless_string).bind_ne_panic.mp h₃
  obtain ⟨_, _, hcommand, h₅⟩ := (errorless_section errorless_string).bind_ne_panic.mp h₄
  obtain ⟨_, _, hunknown, h₆⟩ := (errorless_section errorless_bytes).bind_ne_panic.mp h₅
  rw [bind_map_left] at h₆
  obtain ⟨compression, _, hcompression, h₇⟩ := errorless_u32.bind_ne_panic.mp h₆
  obtain ⟨_, payload, hheader, -⟩ := (errorless_readWithLength errorless_bytes).bind_ne_panic.mp h₇
  obtain ⟨extra, rfl, -⟩ := section_eq_ok.mp hextra
  obtain ⟨command, rfl, -⟩ := section_eq_ok.mp hcommand
  obtain ⟨unknown, rfl, -⟩ := section_eq_ok.mp hunknown
  obtain ⟨header, rfl, -⟩ := readWithLength_eq_ok.mp hheader
  rw [Cursor.getU32_eq_ok.mp hlength, Cursor.getU32_eq_ok.mp hsequence, i32_eq_ok.mp hretCode,
    Cursor.getU32_eq_ok.mp hcompression]
  exact ⟨{ length, sequence, retCode, extra, command, unknown, compression, header, payload }, rfl⟩

/-! ## Which packets panic -/

/-- A decrypted body that is read to the end. -/
def ReadableBody (clear : Bytes) : Prop :=
  ∃ s : SsoBody, clear = s.toBytes ∧
    (s.compression ≠ 0 → ∃ (stream : Section) (rest : Bytes), s.payload = stream.toBytes ++ rest)

/-- The key an auth flag stands for. -/
def authKey (ctx : Context) (authFlag : UInt8) : Option Bytes :=
  if authFlag = 1 then some ctx.keyStore.session.d2Key.toList
  else if authFlag = 2 then some (List.replicate 16 0)
  else none

/-- A body in clear that is read to the end, or one that decrypts to such. -/
def ReadableUnder (ctx : Context) (authFlag : UInt8) (body : Bytes) : Prop :=
  (authFlag = 0 → ReadableBody body) ∧
    ∀ key, authKey ctx authFlag = some key → Decryptable body key ∧ ReadableBody (plaintext body key)

/-- The packets `parse` answers. -/
def Readable (ctx : Context) (packet : Bytes) : Prop :=
  UnknownProtocol packet ∨
    ∃ e : ServicePacket, packet = e.toBytes ∧ (e.Admitted ctx → ReadableUnder ctx e.authFlag e.body)

theorem ssoPackerParse_ne_panic {inflate : Bytes → Option Bytes} {clear : Bytes} :
    PacketReader.new clear (ssoPackerParse inflate) ≠ .panic ↔ ReadableBody clear := by
  have hfinish (s : SsoBody) : PacketReader.new s.toBytes (ssoPackerParse inflate) ≠ .panic ↔
      (s.compression ≠ 0 → ∃ (stream : Section) (rest : Bytes), s.payload = stream.toBytes ++ rest) := by
    have hne (p : Bytes) : finish s p ≠ .panic := by
      unfold finish
      split <;> simp
    have hpart : (payloadPart inflate (s.compression != 0)).run s.payload ≠ .panic ↔ _ := payloadPart_ne_panic
    rw [ssoPackerParse_toBytes, ne_eq, Outcome.bind_eq_panic, not_or]
    simpa [hne, new_eq_panic] using hpart
  constructor
  · intro h
    obtain ⟨s, rfl⟩ := eq_toBytes_of_ne_panic (fun hp => h (new_eq_panic.mpr hp))
    exact ⟨s, rfl, (hfinish s).mp h⟩
  · intro h
    obtain ⟨s, rfl, hs⟩ := h
    exact (hfinish s).mpr hs

theorem decryptBody_key {ctx : Context} {authFlag : UInt8} {key : Bytes} (body : Bytes)
    (h : authKey ctx authFlag = some key) :
    decryptBody ctx authFlag body = if Decryptable body key then .ok (plaintext body key) else .panic := by
  unfold authKey at h
  split at h
  · next h1 =>
    cases h
    exact h1 ▸ teaDecrypt_eq body (by simp)
  split at h
  · next h2 =>
    cases h
    exact h2 ▸ teaDecrypt_eq body (by simp)
  · cases h

theorem decryptBody_readable {ctx : Context} {authFlag : UInt8} {body : Bytes} (inflate : Bytes → Option Bytes) :
    (decryptBody ctx authFlag body >>= fun clear => PacketReader.new clear (ssoPackerParse inflate)) ≠ .panic ↔
      ReadableUnder ctx authFlag body := by
  cases hkey : authKey ctx authFlag with
  | some key =>
    have h0 : authFlag ≠ 0 := by
      rintro rfl
      cases hkey
    rw [decryptBody_key body hkey, ReadableUnder, hkey]
    split
    · next h => simp [h, h0, ssoPackerParse_ne_panic]
    · next h => simp [h]
  | none =>
    have h12 : authFlag ≠ 1 ∧ authFlag ≠ 2 := by
      constructor <;> rintro rfl <;> cases hkey
    by_cases h0 : authFlag = 0
    · subst h0
      simp [ReadableUnder, hkey, decryptBody, ssoPackerParse_ne_panic]
    · simp [ReadableUnder, hkey, decryptBody, h0, h12]

/-- **When `parse` answers.** It panics on every packet but the readable ones. -/
theorem parse_ne_panic_iff (inflate : Bytes → Option Bytes) (packet : Bytes) (ctx : Context) :
    parse inflate packet ctx ≠ .panic ↔ Readable ctx packet := by
  unfold parse
  constructor
  · intro h
    have hservice : (servicePackerParse ctx).run packet ≠ .panic := fun hp =>
      h (by rw [new_eq_panic.mpr hp]; rfl)
    rcases eq_envelope_of_ne_panic hservice with hunknown | ⟨e, rfl⟩
    · exact .inl hunknown
    · refine .inr ⟨e, rfl, fun hadmitted => ?_⟩
      rw [servicePackerParse_toBytes hadmitted] at h
      exact (decryptBody_readable inflate).mp h
  · intro h
    rcases h with hunknown | ⟨e, rfl, he⟩
    · obtain ⟨err, herr⟩ := servicePackerParse_unknownProtocol ctx hunknown
      rw [herr]
      simp
    · by_cases hadmitted : e.Admitted ctx
      · rw [servicePackerParse_toBytes hadmitted]
        exact (decryptBody_readable inflate).mpr (he hadmitted)
      · obtain ⟨err, herr⟩ := servicePackerParse_toBytes_err hadmitted
        rw [herr]
        simp

/-- A frame that holds its own length and nothing more. -/
theorem parse_lengthOnly : ¬ ∀ (inflate : Bytes → Option Bytes) (packet : Bytes) (ctx : Context),
    parse inflate packet ctx ≠ .panic := by
  intro h
  refine h (fun _ => none) [0, 0, 0, 4] { keyStore := { uin := 0, session := { d2Key := Vector.replicate 16 0 } } } ?_
  rfl

/-! ## Which packets are accepted -/

theorem ssoPackerParse_eq_ok {inflate : Bytes → Option Bytes} {clear : Bytes} {packet : SsoPacket} :
    PacketReader.new clear (ssoPackerParse inflate) = .ok packet ↔
      ∃ (s : SsoBody) (p : Bytes), clear = s.toBytes ∧ s.retCode = 0 ∧ PayloadOf inflate s p ∧
        packet = { packetType := .T12, command := s.command.text, sequence := s.sequence, payload := p } := by
  constructor
  · intro h
    have hrun : (ssoPackerParse inflate).run clear ≠ .panic := by
      intro hp
      rw [new_eq_panic.mpr hp] at h
      cases h
    obtain ⟨s, rfl⟩ := eq_toBytes_of_ne_panic hrun
    rw [ssoPackerParse_toBytes, Outcome.bind_eq_ok] at h
    obtain ⟨p, hp, h⟩ := h
    unfold finish at h
    split at h
    · next hret =>
      cases h
      exact ⟨s, p, rfl, hret, payloadPart_eq_ok.mp hp, rfl⟩
    · cases h
  · intro h
    obtain ⟨s, p, rfl, hret, hp, rfl⟩ := h
    rw [ssoPackerParse_toBytes, payloadPart_eq_ok.mpr hp, Outcome.ok_bind, finish, if_pos hret]

/-- An envelope with a body that decrypts to `clear` is accepted when it is
admitted and `clear` is a layout with return code 0 that inflates. -/
theorem parse_toBytes_eq_ok {inflate : Bytes → Option Bytes} {ctx : Context} {e : ServicePacket} {clear : Bytes}
    (hclear : decryptBody ctx e.authFlag e.body = .ok clear) {packet : SsoPacket} :
    parse inflate e.toBytes ctx = .ok packet ↔
      e.Admitted ctx ∧ ∃ (s : SsoBody) (p : Bytes), clear = s.toBytes ∧ s.retCode = 0 ∧ PayloadOf inflate s p ∧
        packet = { packetType := .T12, command := s.command.text, sequence := s.sequence, payload := p } := by
  unfold parse
  by_cases h : e.Admitted ctx
  · rw [servicePackerParse_toBytes h, hclear, Outcome.ok_bind, ssoPackerParse_eq_ok, and_iff_right h]
  · obtain ⟨err, herr⟩ := servicePackerParse_toBytes_err h
    simp [herr, h]

end SsoPacket

end Mania

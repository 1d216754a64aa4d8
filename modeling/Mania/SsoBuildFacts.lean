/-
What a server gets of a request: `SsoPacket::build` writes its own length
first, and the decoder finds what the packet and the key store put in.

A request of protocol 13 is in clear and for no account: its uin is "0",
and there is neither a ticket nor a tgt in it. The length is cut to 32
bits, so everything is said of requests shorter than 2^32 bytes.
-/
import Mania.SsoBuild
import Mania.SsoPacketFacts

namespace Mania

open Bytes HexString PacketBuilder

variable {ε : Type}

/-! ## Sections, written and read -/

namespace PacketBuilder

open SsoPacket

theorem writes_reheaded {w : Write ε} {bs : Bytes} (h : Writes w bs) : Writes («section» w) (reheaded bs) := by
  have hlength : UInt32.ofInt ((bs.length : Int) + 4) = UInt32.ofNat (4 + bs.length) := by
    rw [Nat.add_comm]
    exact ofInt32_natCast (bs.length + 4)
  have hw := writes_section h
  rw [hlength] at hw
  exact hw

/-- A section behind a `u16` length. -/
def reheaded16 (bs : Bytes) : Bytes := be16 (UInt16.ofNat (2 + bs.length)) ++ bs

theorem writes_reheaded16 {w : Write ε} {bs : Bytes} (h : Writes w bs) (hlen : 2 + bs.length ≤ 65535) :
    Writes (section16 w) (reheaded16 bs) := by
  have hlength : UInt16.ofInt ((bs.length : Int) + 2) = UInt16.ofNat (2 + bs.length) := by
    rw [Nat.add_comm]
    exact ofInt16_natCast (bs.length + 2)
  have hw := writes_section16WithAddition (N := 2) h (by omega)
  rw [hlength] at hw
  exact hw

@[simp] theorem reheaded_length (bs : Bytes) : (reheaded bs).length = 4 + bs.length := by simp [reheaded]

@[simp] theorem reheaded16_length (bs : Bytes) : (reheaded16 bs).length = 2 + bs.length := by simp [reheaded16]

end PacketBuilder

namespace PacketReader

variable {α : Type}

open SsoPacket

theorem section_reheaded {b : Bytes} (h : 4 + b.length < 2 ^ 32) (f : Cursor ε α) (rest : Bytes) :
    («section» f).run (reheaded b ++ rest) = (fun a => (a, rest)) <$> new b f := by
  have hlength : ((UInt32.ofNat (4 + b.length)).toNat : Int) = 4 + b.length := by
    rw [UInt32.toNat_ofNat_of_lt' h]
    omega
  rw [reheaded, List.append_assoc]
  exact sectionWithAddition_run (by omega) f rest

theorem section_bytes_reheaded {b : Bytes} (h : 4 + b.length < 2 ^ 32) (rest : Bytes) :
    («section» bytes : Cursor ε Bytes).run (reheaded b ++ rest) = .ok (b, rest) :=
  section_reheaded h bytes rest

theorem section_string_reheaded {s : String} (h : 4 + (Utf8.encode s).length < 2 ^ 32) (rest : Bytes) :
    («section» string : Cursor ε String).run (reheaded (Utf8.encode s) ++ rest) = .ok (s, rest) := by
  rw [section_reheaded h, new_string, Utf8.fromUtf8Lossy_encode]
  rfl

theorem section16_reheaded {bs : Bytes} (h : 2 + bs.length ≤ 65535) (f : Cursor ε α) (rest : Bytes) :
    (section16 f).run (reheaded16 bs ++ rest) = (fun a => (a, rest)) <$> new bs f := by
  have hlength : ((UInt16.ofNat (2 + bs.length)).toNat : Int) = 2 + bs.length := by
    rw [UInt16.toNat_ofNat_of_lt' (show 2 + bs.length < 65536 by omega)]
    omega
  rw [reheaded16, List.append_assoc]
  exact section16WithAddition_run (by omega) f rest

end PacketReader

namespace SsoPacket

/-! ## The bytes of a request -/

section bytes

variable (prost : RequestProst) (draws rng : Nat → UInt8) (ctx : Context) (self : SsoPacket)

/-- The first section of the body, as it is written. -/
def headerBytes : Bytes :=
  be32 self.sequence ++ (be32 ctx.appInfo.subAppId.toUInt32 ++ (be32 2052 ++ ([2, 0, 0, 0, 0, 0, 0, 0, 0, 0, 0, 0] ++
    (reheaded ctx.keyStore.session.tgt ++ (reheaded (Utf8.encode self.command) ++ (reheaded [] ++
    (reheaded (Utf8.encode (hex ctx.device.uuid.toList)) ++ (reheaded [] ++
    (reheaded16 (Utf8.encode ctx.appInfo.currentVersion) ++
    reheaded (prost.deviceSign (self.deviceSign draws ctx)))))))))))

theorem writes_headerPart (hversion : 2 + (Utf8.encode ctx.appInfo.currentVersion).length ≤ 65535) :
    Writes (self.headerPart prost draws ctx : Write ε) (self.headerBytes prost draws ctx) :=
  (Writes.u32 self.sequence).comp <| (Writes.u32 ctx.appInfo.subAppId.toUInt32).comp <| (Writes.u32 2052).comp <|
  (Writes.bytes [2, 0, 0, 0, 0, 0, 0, 0, 0, 0, 0, 0]).comp <|
  (writes_reheaded (Writes.bytes ctx.keyStore.session.tgt)).comp <|
  (writes_reheaded (Writes.string self.command)).comp <| (writes_reheaded Writes.skip).comp <|
  (writes_reheaded (Writes.string (hex ctx.device.uuid.toList))).comp <| (writes_reheaded Writes.skip).comp <|
  (writes_reheaded16 (Writes.string ctx.appInfo.currentVersion) hversion).comp <|
  writes_reheaded (Writes.bytes (prost.deviceSign (self.deviceSign draws ctx)))

/-- The body, before it is encrypted. -/
def clear12 : Bytes := reheaded (self.headerBytes prost draws ctx) ++ reheaded self.payload

/-- What is behind the length of a request of protocol 12. -/
def bytes12 : Bytes :=
  be32 12 ++ ([if ctx.keyStore.session.d2 = [] then 2 else 1] ++ (reheaded ctx.keyStore.session.d2 ++ ([0] ++
    (reheaded (Utf8.encode (decimal 0 ctx.keyStore.uin.toNat)) ++
    encrypted rng (self.clear12 prost draws ctx) ctx.keyStore.session.d2Key.toList))))

theorem buildProtocol12_eq (hversion : 2 + (Utf8.encode ctx.appInfo.currentVersion).length ≤ 65535) :
    (self.buildProtocol12 prost draws rng ctx : Outcome ε Bytes) =
      .ok (reheaded (self.bytes12 prost draws rng ctx)) := by
  have hclear : (PacketBuilder.build («section» (self.headerPart prost draws ctx) >=>
      «section» (PacketBuilder.bytes self.payload)) : Outcome ε Bytes) = .ok (self.clear12 prost draws ctx) :=
    ((writes_reheaded (self.writes_headerPart prost draws ctx hversion)).comp
      (writes_reheaded (Writes.bytes self.payload))).build_eq
  have hkey : ctx.keyStore.session.d2Key.toList.length = 16 := by simp
  have hencrypted := teaEncrypt_ok (ε := ε) rng (self.clear12 prost draws ctx) hkey
  rw [buildProtocol12, hclear, Outcome.ok_bind, hencrypted, Outcome.ok_bind]
  exact (writes_reheaded <| (Writes.u32 12).comp <| (Writes.u8 _).comp <|
    (writes_reheaded (Writes.bytes ctx.keyStore.session.d2)).comp <| (Writes.u8 0).comp <|
    (writes_reheaded (Writes.string (decimal 0 ctx.keyStore.uin.toNat))).comp <| Writes.bytes _).build_eq

/-- The section with the command in a request of protocol 13. -/
def commandBytes : Bytes := reheaded (Utf8.encode self.command) ++ (reheaded [] ++ reheaded (packetUid prost ctx))

/-- What is behind the flag of a request of protocol 13. -/
def clear13 : Bytes :=
  be32 self.sequence ++ ([0] ++ (reheaded (Utf8.encode "0") ++ (reheaded (self.commandBytes prost ctx) ++
    reheaded self.payload)))

theorem buildProtocol13_eq :
    (self.buildProtocol13 prost ctx : Outcome ε Bytes) =
      .ok (reheaded (be32 13 ++ ([0] ++ self.clear13 prost ctx))) :=
  (writes_reheaded <| (Writes.u32 13).comp <| (Writes.u8 0).comp <| (Writes.u32 self.sequence).comp <|
    (Writes.u8 0).comp <| (writes_reheaded (Writes.string "0")).comp <|
    (writes_reheaded <| (writes_reheaded (Writes.string self.command)).comp <|
      (writes_reheaded Writes.skip).comp <| writes_reheaded (Writes.bytes (packetUid prost ctx))).comp <|
    writes_reheaded (Writes.bytes self.payload)).build_eq

end bytes

end SsoPacket

/-! ## What the decoder finds -/

namespace Request

open SsoPacket PacketReader

section decode

variable (prost : RequestProst) (draws rng : Nat → UInt8) (ctx : Context) (self : SsoPacket)

theorem new_header (hversion : 2 + (Utf8.encode ctx.appInfo.currentVersion).length ≤ 65535)
    (hfits : (self.headerBytes prost draws ctx).length < 2 ^ 32) :
    new (self.headerBytes prost draws ctx) header =
      .ok { sequence := self.sequence, tgt := ctx.keyStore.session.tgt, command := self.command } := by
  have hlen := hfits
  simp only [headerBytes, List.length_append, be32_length, reheaded_length, reheaded16_length] at hlen
  have htgt := section_bytes_reheaded (ε := PacketError) (b := ctx.keyStore.session.tgt) (by omega)
  have hcommand := section_string_reheaded (ε := PacketError) (s := self.command) (by omega)
  have hempty := section_bytes_reheaded (ε := PacketError) (b := []) (by decide)
  have huuid := section_string_reheaded (ε := PacketError) (s := hex ctx.device.uuid.toList) (by omega)
  have hversion' := section16_reheaded (ε := PacketError) hversion PacketReader.string
  have hsign := section_bytes_reheaded (ε := PacketError) (b := prost.deviceSign (self.deviceSign draws ctx))
    (by omega) []
  have hfixed := readPacket_append (ε := PacketError) (x := [2, 0, 0, 0, 0, 0, 0, 0, 0, 0, 0, 0]) (show _ = 12 from rfl)
  rw [List.append_nil] at hsign
  rw [new_eq_ok]
  refine ⟨[], ?_⟩
  simp only [header, headerBytes, StateT.run_bind, u32_be32, hfixed, htgt, hcommand, hempty, huuid, hversion', hsign,
    new_string, Outcome.map_ok, Outcome.ok_bind]
  rfl

theorem new_body12 (hversion : 2 + (Utf8.encode ctx.appInfo.currentVersion).length ≤ 65535)
    (hfits : (self.clear12 prost draws ctx).length < 2 ^ 32) (d2 : Bytes) (uin : String) :
    new (self.clear12 prost draws ctx) (body12 d2 uin) =
      .ok (.T12 d2 uin self.sequence self.command ctx.keyStore.session.tgt self.payload) := by
  rw [clear12, List.length_append, reheaded_length, reheaded_length] at hfits
  have hheader := section_reheaded (ε := PacketError) (b := self.headerBytes prost draws ctx) (by omega) header
  have hpayload := section_bytes_reheaded (ε := PacketError) (b := self.payload) (by omega) []
  rw [List.append_nil] at hpayload
  rw [new_eq_ok]
  refine ⟨[], ?_⟩
  simp only [body12, clear12, StateT.run_bind, hheader, new_header prost draws ctx self hversion (by omega), hpayload,
    Outcome.map_ok, Outcome.ok_bind]
  rfl

/-- The key a request is encrypted with is the one its flag names. -/
theorem decryptBody_encrypted (hkey : ctx.keyStore.session.d2 ≠ [] ∨ ctx.keyStore.session.d2Key = .replicate 16 0)
    (clear : Bytes) :
    decryptBody ctx (if ctx.keyStore.session.d2 = [] then 2 else 1)
      (encrypted rng clear ctx.keyStore.session.d2Key.toList) = .ok clear := by
  by_cases hd2 : ctx.keyStore.session.d2 = []
  · have hzero : ctx.keyStore.session.d2Key.toList = List.replicate 16 0 := by
      rcases hkey with hne | hzero
      · exact absurd hd2 hne
      · rw [hzero]
        rfl
    rw [if_pos hd2, hzero]
    exact teaDecrypt_encrypted rng clear (by simp)
  · rw [if_neg hd2]
    exact teaDecrypt_encrypted rng clear (by simp)

theorem new_envelope12 (hversion : 2 + (Utf8.encode ctx.appInfo.currentVersion).length ≤ 65535)
    (hkey : ctx.keyStore.session.d2 ≠ [] ∨ ctx.keyStore.session.d2Key = .replicate 16 0)
    (hfits : (self.bytes12 prost draws rng ctx).length < 2 ^ 32) :
    new (self.bytes12 prost draws rng ctx) (envelope ctx) =
      .ok (.T12 ctx.keyStore.session.d2 (decimal 0 ctx.keyStore.uin.toNat) self.sequence self.command
        ctx.keyStore.session.tgt self.payload) := by
  have hlen := hfits
  simp only [bytes12, List.length_append, be32_length, reheaded_length, encrypted_length] at hlen
  have hd2 := section_bytes_reheaded (ε := PacketError) (b := ctx.keyStore.session.d2) (by omega)
  have huin := section_string_reheaded (ε := PacketError) (s := decimal 0 ctx.keyStore.uin.toNat) (by omega)
  have htype : (PacketType.tryFrom 12).mapErr PacketError.unknownSsoPacketType = .ok .T12 := rfl
  rw [new_eq_ok]
  refine ⟨[], ?_⟩
  simp only [envelope, bytes12, StateT.run_bind, StateT.run_lift, u32_be32, htype, List.cons_append, List.nil_append,
    u8_cons, hd2, huin, bytes_run, Outcome.ok_bind, Outcome.pure_eq, decryptBody_encrypted rng ctx hkey,
    new_body12 prost draws ctx self hversion (by omega)]

theorem new_command13 (hfits : (self.commandBytes prost ctx).length < 2 ^ 32) :
    new (self.commandBytes prost ctx) command13 = .ok self.command := by
  simp only [commandBytes, List.length_append, reheaded_length] at hfits
  have hcommand := section_string_reheaded (ε := PacketError) (s := self.command) (by omega)
  have hempty := section_bytes_reheaded (ε := PacketError) (b := []) (by decide)
  have huid := section_bytes_reheaded (ε := PacketError) (b := packetUid prost ctx) (by omega) []
  rw [List.append_nil] at huid
  rw [new_eq_ok]
  refine ⟨[], ?_⟩
  simp only [command13, commandBytes, StateT.run_bind, hcommand, hempty, huid, Outcome.ok_bind]
  rfl

theorem new_body13 (hfits : (self.clear13 prost ctx).length < 2 ^ 32) :
    new (self.clear13 prost ctx) body13 = .ok (.T13 self.sequence self.command self.payload) := by
  simp only [clear13, List.length_append, be32_length, reheaded_length] at hfits
  have hzero := section_string_reheaded (ε := PacketError) (s := "0") (by omega)
  have hcommand := section_reheaded (ε := PacketError) (b := self.commandBytes prost ctx) (by omega) command13
  have hpayload := section_bytes_reheaded (ε := PacketError) (b := self.payload) (by omega) []
  rw [List.append_nil] at hpayload
  rw [new_eq_ok]
  refine ⟨[], ?_⟩
  simp only [body13, clear13, StateT.run_bind, u32_be32, List.cons_append, List.nil_append, Outcome.ok_bind, u8_cons,
    hzero, hcommand, new_command13 prost ctx self (by omega), hpayload, Outcome.map_ok]
  rfl

theorem new_envelope13 (hfits : (be32 13 ++ ([0] ++ self.clear13 prost ctx)).length < 2 ^ 32) :
    new (be32 13 ++ ([0] ++ self.clear13 prost ctx)) (envelope ctx) =
      .ok (.T13 self.sequence self.command self.payload) := by
  rw [List.length_append, List.length_append] at hfits
  have htype : (PacketType.tryFrom 13).mapErr PacketError.unknownSsoPacketType = .ok .T13 := rfl
  have hclear (clear : Bytes) : decryptBody ctx 0 clear = .ok clear := rfl
  rw [new_eq_ok]
  refine ⟨[], ?_⟩
  simp only [envelope, StateT.run_bind, StateT.run_lift, u32_be32, htype, List.cons_append, List.nil_append, u8_cons,
    bytes_run, Outcome.ok_bind, Outcome.pure_eq, hclear, new_body13 prost ctx self (by omega)]

theorem decode_reheaded {bs : Bytes} (hfits : (reheaded bs).length < 2 ^ 32) :
    decode ctx (reheaded bs) = new bs (envelope ctx) := by
  rw [reheaded_length] at hfits
  have hsection := section_reheaded hfits (envelope ctx) []
  rw [List.append_nil] at hsection
  rw [decode, PacketReader.new, hsection]
  cases new bs (envelope ctx) <;> rfl

end decode

end Request

/-! ## Requests back to back -/

/-- The bytes are cut at their leading lengths, at most `n` times. -/
def cutTimes : Nat → Bytes → List Bytes
  | 0, _ => []
  | n + 1, bs =>
    let length := (ofBE32 (bs.take 4)).toNat
    if 4 ≤ length ∧ length ≤ bs.length then bs.take length :: cutTimes n (bs.drop length) else []

/-- A packet is four bytes or more. -/
def cutPackets (bs : Bytes) : List Bytes := cutTimes bs.length bs

/-- The leading length is the total one. -/
def LengthLed (packet : Bytes) : Prop := (ofBE32 (packet.take 4)).toNat = packet.length

theorem cutTimes_flatten {n : Nat} {packets : List Bytes}
    (h : ∀ packet ∈ packets, 4 ≤ packet.length ∧ LengthLed packet) (hn : packets.length ≤ n) :
    cutTimes n packets.flatten = packets := by
  induction packets generalizing n with
  | nil =>
    cases n with
    | zero => rfl
    | succ n => rfl
  | cons packet packets ih =>
    obtain ⟨m, rfl⟩ : ∃ m, n = m + 1 := ⟨n - 1, by simp at hn; omega⟩
    obtain ⟨h4, hled⟩ := h packet List.mem_cons_self
    have hlength : (ofBE32 ((packet ++ packets.flatten).take 4)).toNat = packet.length := by
      rw [List.take_append_of_le_length h4]
      exact hled
    have hrest := ih (n := m) (fun p hp => h p (List.mem_cons_of_mem packet hp)) (by simpa using hn)
    simp only [List.flatten_cons, cutTimes, hlength]
    rw [if_pos ⟨h4, by simp⟩, List.take_left, List.drop_left, hrest]

theorem length_le_flatten {packets : List Bytes} (h : ∀ packet ∈ packets, 4 ≤ packet.length) :
    packets.length ≤ packets.flatten.length := by
  induction packets with
  | nil => simp
  | cons packet packets ih =>
    have hrest := ih fun p hp => h p (List.mem_cons_of_mem packet hp)
    have h4 := h packet List.mem_cons_self
    simp only [List.length_cons, List.flatten_cons, List.length_append]
    omega

theorem cutPackets_flatten {packets : List Bytes} (h : ∀ packet ∈ packets, 4 ≤ packet.length ∧ LengthLed packet) :
    cutPackets packets.flatten = packets :=
  cutTimes_flatten h (length_le_flatten fun packet hp => (h packet hp).1)

theorem lengthLed_reheaded {bs : Bytes} (hfits : (SsoPacket.reheaded bs).length < 2 ^ 32) :
    LengthLed (SsoPacket.reheaded bs) := by
  rw [LengthLed, PacketBuilder.reheaded_length]
  rw [PacketBuilder.reheaded_length] at hfits
  rw [SsoPacket.reheaded, List.take_left' (be32_length _), ofBE32_be32]
  exact UInt32.toNat_ofNat_of_lt' hfits

/-- No length of 32 bits counts this much. -/
theorem not_lengthLed {packet : Bytes} (h : 2 ^ 32 ≤ packet.length) : ¬ LengthLed packet := by
  intro hled
  have hlt := (ofBE32 (packet.take 4)).toNat_lt
  rw [LengthLed] at hled
  omega

namespace SsoPacket

/-- The version fits its section. -/
def VersionFits (ctx : Context) : Prop := 2 + (Utf8.encode ctx.appInfo.currentVersion).length ≤ 65535

/-- The flag of a request names the key it is encrypted with. -/
def KeyNamed (ctx : Context) : Prop :=
  ctx.keyStore.session.d2 ≠ [] ∨ ctx.keyStore.session.d2Key = .replicate 16 0

/-- A request is a section, and the decoder gets what is behind the length. -/
theorem build_eq (prost : RequestProst) (draws rng : Nat → UInt8) {ctx : Context} (hversion : VersionFits ctx)
    (self : SsoPacket) :
    ∃ bs, (self.build prost draws rng ctx : Outcome ε Bytes) = .ok (reheaded bs) ∧
      (KeyNamed ctx → bs.length < 2 ^ 32 →
        PacketReader.new bs (Request.envelope ctx) = .ok (Request.ofPacket ctx self)) := by
  obtain ⟨packetType, command, sequence, payload⟩ := self
  cases packetType with
  | T12 =>
    refine ⟨_, buildProtocol12_eq prost draws rng ctx _ hversion, ?_⟩
    intro hkey hfits
    exact Request.new_envelope12 prost draws rng ctx _ hversion hkey hfits
  | T13 =>
    refine ⟨_, buildProtocol13_eq prost ctx _, ?_⟩
    intro _ hfits
    exact Request.new_envelope13 prost ctx _ hfits

/-- What `build` answers for some packet and some key store, if it is
shorter than 2^32 bytes. -/
def Built (bs : Bytes) : Prop :=
  ∃ (prost : RequestProst) (draws rng : Nat → UInt8) (ctx : Context) (self : SsoPacket), VersionFits ctx ∧
    (self.build prost draws rng ctx : Outcome Empty Bytes) = .ok bs ∧ bs.length < 2 ^ 32

theorem Built.lengthLed {bs : Bytes} (h : Built bs) : 4 ≤ bs.length ∧ LengthLed bs := by
  obtain ⟨prost, draws, rng, ctx, self, hversion, hbuild, hfits⟩ := h
  obtain ⟨body, hbody, -⟩ := self.build_eq (ε := Empty) prost draws rng hversion
  rw [hbody, Outcome.ok.injEq] at hbuild
  subst hbuild
  exact ⟨by simp, lengthLed_reheaded hfits⟩

/-- **What a server gets.** A request shorter than 2^32 bytes leads with its
length, the decoder finds in it what its protocol carries, and requests
back to back are cut apart at their lengths. -/
theorem build_decodes (prost : RequestProst) (draws rng : Nat → UInt8) (ctx : Context) (self : SsoPacket)
    (hversion : VersionFits ctx) (hkey : KeyNamed ctx) :
    (∃ bs, (self.build prost draws rng ctx : Outcome Empty Bytes) = .ok bs ∧
      (bs.length < 2 ^ 32 → LengthLed bs ∧ Request.decode ctx bs = .ok (Request.ofPacket ctx self))) ∧
    ∀ packets : List Bytes, (∀ packet ∈ packets, Built packet) → cutPackets packets.flatten = packets := by
  refine ⟨?_, ?_⟩
  · obtain ⟨bs, hbuild, hread⟩ := self.build_eq (ε := Empty) prost draws rng hversion
    refine ⟨reheaded bs, hbuild, ?_⟩
    intro hfits
    have hbs : bs.length < 2 ^ 32 := by
      rw [PacketBuilder.reheaded_length] at hfits
      omega
    refine ⟨lengthLed_reheaded hfits, ?_⟩
    rw [Request.decode_reheaded ctx hfits]
    exact hread hkey hbs
  · intro packets hbuilt
    exact cutPackets_flatten fun packet hp => (hbuilt packet hp).lengthLed

/-- Messages that are encoded to nothing. -/
def silentProst : RequestProst where
  deviceSign := fun _ => []
  packetUid := fun _ => []

/-- A key store with no ticket, and this tgt. -/
def tgtContext (tgt : Bytes) : Context := { keyStore := { uin := 7, session := { d2Key := .replicate 16 0, tgt } } }

theorem versionFits_tgtContext (tgt : Bytes) : VersionFits (tgtContext tgt) := by
  show 2 + (Utf8.encode AppInfo.LINUX.currentVersion).length ≤ 65535
  decide

/-- A packet of protocol 12 with one byte. -/
def packet12 : SsoPacket := { packetType := .T12, command := "trpc", sequence := 7, payload := [1] }

theorem build_decodes_packet12 : ∃ bs,
    (packet12.build silentProst (fun _ => 0) (fun _ => 220) (tgtContext [9]) : Outcome Empty Bytes) = .ok bs ∧
    LengthLed bs ∧ Request.decode (tgtContext [9]) bs = .ok (.T12 [] (decimal 0 7) 7 "trpc" [9] [1]) := by
  obtain ⟨bs, hbuild, hread⟩ := (build_decodes silentProst (fun _ => 0) (fun _ => 220) (tgtContext [9]) packet12
    (versionFits_tgtContext [9]) (.inr rfl)).1
  have hbytes : packet12.buildProtocol12 silentProst (fun _ => 0) (fun _ => 220) (tgtContext [9]) = .ok bs := hbuild
  rw [buildProtocol12_eq _ _ _ _ _ (versionFits_tgtContext [9]), Outcome.ok.injEq] at hbytes
  have hclear : (packet12.clear12 silentProst (fun _ => 0) (tgtContext [9])).length = 108 := by decide
  have hfill := fillCount_bounds (packet12.clear12 silentProst (fun _ => 0) (tgtContext [9]))
  have hfits : bs.length < 2 ^ 32 := by
    have huin : (Utf8.encode (decimal 0 (tgtContext [9]).keyStore.uin.toNat)).length = 1 := by decide
    have hd2 : (tgtContext [9]).keyStore.session.d2.length = 0 := rfl
    rw [← hbytes]
    simp only [PacketBuilder.reheaded_length, bytes12, List.length_append, be32_length, List.length_singleton,
      encrypted_length, hclear, huin, hd2]
    omega
  exact ⟨bs, hbuild, hread hfits⟩

/-- A packet of protocol 13 with this payload. -/
def packet13 (payload : Bytes) : SsoPacket := { packetType := .T13, command := "trpc", sequence := 7, payload }

/-- No decoder tells two tgts from a request of protocol 13, and 2^32 zero
bytes do not fit the leading length. -/
theorem build_forgets :
    (¬ ∃ decode : Vector UInt8 16 → Bytes → Option (Bytes × String × UInt32 × String × Bytes × Bytes),
      ∀ (prost : RequestProst) (draws rng : Nat → UInt8) (ctx : Context) (self : SsoPacket),
        VersionFits ctx → KeyNamed ctx → ∀ bs, (self.build prost draws rng ctx : Outcome Empty Bytes) = .ok bs →
        decode ctx.keyStore.session.d2Key bs = some (ctx.keyStore.session.d2, decimal 0 ctx.keyStore.uin.toNat,
          self.sequence, self.command, ctx.keyStore.session.tgt, self.payload)) ∧
    ∃ bs, ((packet13 (List.replicate (2 ^ 32) 0)).build silentProst (fun _ => 0) (fun _ => 220) (tgtContext []) :
      Outcome Empty Bytes) = .ok bs ∧ ¬ LengthLed bs := by
  refine ⟨?_, ?_⟩
  · rintro ⟨decode, h⟩
    have hbuild (tgt : Bytes) := buildProtocol13_eq (ε := Empty) silentProst (tgtContext tgt) (packet13 [])
    have h0 := h silentProst (fun _ => 0) (fun _ => 220) (tgtContext []) (packet13 [])
      (versionFits_tgtContext []) (.inr rfl) _ (hbuild [])
    have h9 := h silentProst (fun _ => 0) (fun _ => 220) (tgtContext [9]) (packet13 [])
      (versionFits_tgtContext [9]) (.inr rfl) _ (hbuild [9])
    have hsame := h0.symm.trans h9
    simp [tgtContext] at hsame
  · refine ⟨_, buildProtocol13_eq silentProst (tgtContext []) (packet13 (List.replicate (2 ^ 32) 0)), ?_⟩
    apply not_lengthLed
    simp only [packet13, clear13, PacketBuilder.reheaded_length, List.length_append, List.length_replicate]
    omega

end SsoPacket

end Mania

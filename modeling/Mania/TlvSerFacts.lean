/-
A set of TLVs is written as a stream that parses into the tags it was
asked for, and so is the set inside a `T144`.

Every serializer appends one entry: its tag, and the body that the table
below has for the tag behind the body's length. The count in front of the
entries is cut to 16 bits, where the lengths of sections are checked, so
all of this holds of fewer than 65536 tags and of no more.
-/
import Mania.Lib.TypeLengthValue
import Mania.TeaFacts
import Mania.TlvSer

namespace Mania

open Bytes PacketBuilder TypeLengthValue

variable {ε : Type}

namespace PacketBuilder

/-- A length and the bytes it counts. -/
def lengthFirst (bs : Bytes) : Bytes := be16 (UInt16.ofNat bs.length) ++ bs

@[simp] theorem lengthFirst_length (bs : Bytes) : (lengthFirst bs).length = 2 + bs.length := by simp [lengthFirst]

theorem writes_lengthFirst {f : Write ε} {bs : Bytes} (hf : Writes f bs) (h : bs.length < 65536) :
    Writes (section16WithAddition 0 f) (lengthFirst bs) := by
  have hw := writes_section16WithAddition (N := 0) hf (by omega)
  rw [Int.add_zero, ofInt16_natCast] at hw
  exact hw

theorem writes_bytesWithLength {bs : Bytes} (h : bs.length < 65536) :
    Writes (bytesWithLength bs : Write ε) (lengthFirst bs) :=
  writes_lengthFirst (Writes.bytes bs) h

theorem writes_stringWithLength {s : String} (h : (Utf8.encode s).length < 65536) :
    Writes (stringWithLength s : Write ε) (lengthFirst (Utf8.encode s)) :=
  writes_bytesWithLength h

theorem writes_tlv {tag : UInt16} {f : Write ε} {body : Bytes} (hf : Writes f body) (h : body.length < 65536) :
    Writes (tlv tag f) (Entry.toBytes { tag, value := body, fits := h }) :=
  (Writes.u16 tag).comp (writes_lengthFirst hf h)

end PacketBuilder

/-! ## The bodies -/

/-- A table of bodies, one for each tag. -/
abbrev TlvBodies := List (UInt16 × Bytes)

def TlvBodies.body (bodies : TlvBodies) (tag : UInt16) : Bytes := (bodies.lookup tag).getD []

def qrcodeBodies (prost : TlvSerProst) (ctx : Context) : TlvBodies :=
  [(0x011, ctx.session.unusualSign.getD []),
    (0x016, be32 0 ++ (be32 ctx.appInfo.appId.toUInt32 ++ (be32 ctx.appInfo.subAppId.toUInt32 ++
      (ctx.device.uuid.toList ++ (lengthFirst (Utf8.encode ctx.appInfo.packageName) ++
      (lengthFirst (Utf8.encode ctx.appInfo.ptVersion) ++ lengthFirst (Utf8.encode ctx.appInfo.packageName))))))),
    (0x01b, be32 0 ++ (be32 0 ++ (be32 3 ++ (be32 4 ++ (be32 72 ++ (be32 2 ++ (be32 2 ++ be16 0))))))),
    (0x01d, [1] ++ (be32 ctx.appInfo.miscBitmap.toUInt32 ++ (be32 0 ++ [0]))),
    (0x033, ctx.device.uuid.toList),
    (0x035, be32 ctx.appInfo.ptOsVersion.toUInt32),
    (0x066, be32 ctx.appInfo.ptOsVersion.toUInt32),
    (0x0d1, prost.qrCodeD1 (T0d1q.fromContext ctx).proto)]

/-- The bodies that are not encrypted. -/
def plainBodies (ctx : Context) : TlvBodies :=
  [(0x106, ctx.keyStore.session.tempPassword.getD []),
    (0x116, [0] ++ (be32 12058620 ++ (be32 ctx.appInfo.subSigMap.toUInt32 ++ [0]))),
    (0x142, be16 0 ++ lengthFirst (Utf8.encode ctx.appInfo.packageName)),
    (0x145, ctx.device.uuid.toList),
    (0x018, be16 0 ++ (be32 0x00000005 ++ (be32 0 ++ (be32 ctx.appInfo.appClientVersion.toUInt32 ++
      (be32 ctx.keyStore.uin ++ (be16 0 ++ be16 0)))))),
    (0x141, be16 0 ++ (lengthFirst (Utf8.encode "Unknown") ++ (be16 0 ++ lengthFirst (Utf8.encode "")))),
    (0x177, [1] ++ (be32 0 ++ lengthFirst (Utf8.encode ctx.appInfo.wtLoginSdk))),
    (0x191, [0]),
    (0x100, be16 0 ++ (be32 0x00000005 ++ (be32 ctx.appInfo.appId.toUInt32 ++ (be32 ctx.appInfo.subAppId.toUInt32 ++
      (be32 ctx.appInfo.appClientVersion.toUInt32 ++ be32 ctx.appInfo.mainSigMap))))),
    (0x107, be16 0x0001 ++ ([0x0D] ++ (be16 0x0000 ++ [0x01]))),
    (0x318, []),
    (0x16A, ctx.keyStore.session.noPicSig.getD []),
    (0x166, [5]),
    (0x521, be32 0x13 ++ lengthFirst (Utf8.encode "basicim")),
    (0x16E, Utf8.encode ctx.device.deviceName),
    (0x147, be32 ctx.appInfo.appId.toUInt32 ++ (lengthFirst (Utf8.encode ctx.appInfo.ptVersion) ++
      lengthFirst (Utf8.encode ctx.appInfo.packageName))),
    (0x128, be16 0 ++ ([0] ++ ([1] ++ ([0] ++ (be32 0 ++ (lengthFirst (Utf8.encode ctx.appInfo.os) ++
      (lengthFirst ctx.device.uuid.toList ++ lengthFirst (Utf8.encode "")))))))),
    (0x124, List.replicate 12 0)]

/-- The tags of these. -/
def plainTags : List UInt16 :=
  [0x106, 0x116, 0x142, 0x145, 0x018, 0x141, 0x177, 0x191, 0x100, 0x107, 0x318, 0x16A, 0x166, 0x521, 0x16E, 0x147,
    0x128, 0x124]

/-- The TLVs inside a `T144`. -/
def innerTags : List UInt16 := [0x16E, 0x147, 0x128, 0x124]

def innerSet (ctx : Context) : Bytes :=
  be16 4 ++ innerTags.flatMap fun tag => be16 tag ++ lengthFirst ((plainBodies ctx).body tag)

def loginBodies (rng : Nat → UInt8) (ctx : Context) : TlvBodies :=
  (0x144, encrypted rng (innerSet ctx) ctx.session.stub.tgtgtKey) :: plainBodies ctx

/-- The credentials that the TLVs with these tags need. -/
structure Credentials (ctx : Context) (tags : List UInt16) : Prop where
  unusualSign : 0x011 ∈ tags → ctx.session.unusualSign.isSome
  tempPassword : 0x106 ∈ tags → ctx.keyStore.session.tempPassword.isSome
  noPicSig : 0x16A ∈ tags → ctx.keyStore.session.noPicSig.isSome

/-! ## One TLV -/

/-- The TLV that the map has for the tag appends an entry with this body. -/
def Serves (map : TlvSerMap ε) (ctx : Context) (tag : UInt16) (body : Bytes) : Prop :=
  ∀ h : body.length < 65536, ∃ constructor tlv, map.lookup tag = some constructor ∧ constructor ctx = .ok tlv ∧
    Writes tlv (Entry.toBytes { tag, value := body, fits := h })

theorem serves {map : TlvSerMap ε} {ctx : Context} {tag : UInt16} {body : Bytes} {constructor : TlvConstructor ε}
    {f : Write ε} (hlookup : map.lookup tag = some constructor) (hconstructor : constructor ctx = .ok (tlv tag f))
    (hf : body.length < 65536 → Writes f body) : Serves map ctx tag body :=
  fun h => ⟨constructor, _, hlookup, hconstructor, writes_tlv (hf h) h⟩

theorem serves_qrcode (prost : TlvSerProst) {ctx : Context} {tags : List UInt16} (hcred : Credentials ctx tags) :
    ∀ p ∈ qrcodeBodies prost ctx, p.1 ∈ tags → Serves (TLV_QR_SER_MAP prost : TlvSerMap ε) ctx p.1 p.2 := by
  simp only [qrcodeBodies, List.forall_mem_cons, List.not_mem_nil, false_implies, implies_true, and_true]
  refine ⟨?_, ?_, ?_, ?_, ?_, ?_, ?_, ?_⟩ <;> intro hmem
  · obtain ⟨sign, hsign⟩ := Option.isSome_iff_exists.mp (hcred.unusualSign hmem)
    refine serves rfl ?_ fun _ => Writes.bytes _
    rw [hsign]
    simp only [T011q.fromContext, hsign]
    rfl
  · refine serves rfl rfl fun h => ?_
    simp only [List.length_append, lengthFirst_length] at h
    have hpackage : (Utf8.encode ctx.appInfo.packageName).length < 65536 := by omega
    have hversion : (Utf8.encode ctx.appInfo.ptVersion).length < 65536 := by omega
    exact (Writes.u32 _).comp <| (Writes.u32 _).comp <| (Writes.u32 _).comp <| (Writes.bytes _).comp <|
      (writes_stringWithLength hpackage).comp <| (writes_stringWithLength hversion).comp <|
      writes_stringWithLength hpackage
  · exact serves rfl rfl fun _ => (Writes.u32 _).comp <| (Writes.u32 _).comp <| (Writes.u32 _).comp <|
      (Writes.u32 _).comp <| (Writes.u32 _).comp <| (Writes.u32 _).comp <| (Writes.u32 _).comp <| Writes.u16 _
  · exact serves rfl rfl fun _ => (Writes.u8 _).comp <| (Writes.u32 _).comp <| (Writes.u32 _).comp <| Writes.u8 _
  · exact serves rfl rfl fun _ => Writes.bytes _
  · exact serves rfl rfl fun _ => Writes.i32 _
  · exact serves rfl rfl fun _ => Writes.i32 _
  · exact serves rfl rfl fun _ => Writes.bytes _

/-- The map over any other serves the tags that need no other. -/
theorem serves_plain (rng : Nat → UInt8) (map : TlvSerMap ε) {ctx : Context} {tags : List UInt16}
    (hcred : Credentials ctx tags) :
    ∀ p ∈ plainBodies ctx, p.1 ∈ tags → Serves (serMapOver rng map) ctx p.1 p.2 := by
  simp only [plainBodies, List.forall_mem_cons, List.not_mem_nil, false_implies, implies_true, and_true]
  refine ⟨?_, ?_, ?_, ?_, ?_, ?_, ?_, ?_, ?_, ?_, ?_, ?_, ?_, ?_, ?_, ?_, ?_, ?_⟩ <;> intro hmem
  · obtain ⟨temp, htemp⟩ := Option.isSome_iff_exists.mp (hcred.tempPassword hmem)
    refine serves rfl ?_ fun _ => Writes.bytes _
    rw [htemp]
    simp only [T106.fromContext, htemp]
    rfl
  · exact serves rfl rfl fun _ => (Writes.u8 _).comp <| (Writes.u32 _).comp <| (Writes.u32 _).comp <| Writes.u8 _
  · refine serves rfl rfl fun h => ?_
    simp only [List.length_append, lengthFirst_length] at h
    have hpackage : (Utf8.encode ctx.appInfo.packageName).length < 65536 := by omega
    exact (Writes.u16 _).comp <| writes_stringWithLength hpackage
  · exact serves rfl rfl fun _ => Writes.bytes _
  · exact serves rfl rfl fun _ => (Writes.u16 _).comp <| (Writes.u32 _).comp <| (Writes.u32 _).comp <|
      (Writes.u32 _).comp <| (Writes.u32 _).comp <| (Writes.u16 _).comp <| Writes.u16 _
  · refine serves rfl rfl fun _ => ?_
    have hunknown : (Utf8.encode "Unknown").length < 65536 := by decide
    have hapn : (Utf8.encode "").length < 65536 := by decide
    exact (Writes.u16 _).comp <| (writes_stringWithLength hunknown).comp <| (Writes.u16 _).comp <|
      writes_stringWithLength hapn
  · refine serves rfl rfl fun h => ?_
    simp only [List.length_append, lengthFirst_length] at h
    have hsdk : (Utf8.encode ctx.appInfo.wtLoginSdk).length < 65536 := by omega
    exact (Writes.u8 _).comp <| (Writes.u32 _).comp <| writes_stringWithLength hsdk
  · exact serves rfl rfl fun _ => Writes.u8 _
  · exact serves rfl rfl fun _ => (Writes.u16 _).comp <| (Writes.u32 _).comp <| (Writes.u32 _).comp <|
      (Writes.u32 _).comp <| (Writes.u32 _).comp <| Writes.u32 _
  · exact serves rfl rfl fun _ => (Writes.u16 _).comp <| (Writes.u8 _).comp <| (Writes.u16 _).comp <| Writes.u8 _
  · exact serves rfl rfl fun _ => Writes.skip
  · obtain ⟨sig, hsig⟩ := Option.isSome_iff_exists.mp (hcred.noPicSig hmem)
    refine serves rfl ?_ fun _ => Writes.bytes _
    rw [hsig]
    simp only [T16A.fromContext, hsig]
    rfl
  · exact serves rfl rfl fun _ => Writes.u8 _
  · refine serves rfl rfl fun _ => ?_
    have hbasicim : (Utf8.encode "basicim").length < 65536 := by decide
    exact (Writes.u32 _).comp <| writes_stringWithLength hbasicim
  · exact serves rfl rfl fun _ => Writes.bytes _
  · refine serves rfl rfl fun h => ?_
    simp only [List.length_append, lengthFirst_length] at h
    have hversion : (Utf8.encode ctx.appInfo.ptVersion).length < 65536 := by omega
    have hpackage : (Utf8.encode ctx.appInfo.packageName).length < 65536 := by omega
    exact (Writes.u32 _).comp <| (writes_stringWithLength hversion).comp <| writes_stringWithLength hpackage
  · refine serves rfl rfl fun h => ?_
    simp only [List.length_append, lengthFirst_length] at h
    have hos : (Utf8.encode ctx.appInfo.os).length < 65536 := by omega
    have hguid : ctx.device.uuid.toList.length < 65536 := by simp
    have hempty : (Utf8.encode "").length < 65536 := by decide
    exact (Writes.u16 _).comp <| (Writes.u8 _).comp <| (Writes.u8 _).comp <| (Writes.u8 _).comp <|
      (Writes.u32 _).comp <| (writes_stringWithLength hos).comp <| (writes_bytesWithLength hguid).comp <|
      writes_stringWithLength hempty
  · exact serves rfl rfl fun _ => Writes.bytes _

/-! ## Sets -/

theorem writes_serializeTag {map : TlvSerMap ε} {ctx : Context} {tag : UInt16} {body : Bytes}
    (hserves : Serves map ctx tag body) (h : body.length < 65536) :
    Writes (serializeTag map ctx tag) (Entry.toBytes { tag, value := body, fits := h }) := by
  obtain ⟨constructor, tlv, hlookup, hconstructor, hw⟩ := hserves h
  intro packet
  simp only [serializeTag, hlookup, Outcome.expect_some, Outcome.ok_bind, hconstructor, hw.build_eq]
  rfl

/-- A set writes an entry for each tag; `body k` is the table of bodies
when `k` tags are to follow. -/
theorem exists_entries (map : Nat → TlvSerMap ε) {ctx : Context} (body : Nat → UInt16 → Bytes) {tags : List UInt16}
    (h : ∀ tag ∈ tags, ∀ k, (body k tag).length < 65536 ∧ Serves (map k) ctx tag (body k tag)) :
    ∃ entries : List Entry, entries.map Entry.tag = tags ∧ Writes (serializeWith map ctx tags) (toStream entries) ∧
      ∀ e ∈ entries, ∃ k, e.value = body k e.tag := by
  have htags : ∃ entries : List Entry, entries.map Entry.tag = tags ∧
      Writes (serializeTags map ctx tags) (entries.flatMap Entry.toBytes) ∧
      ∀ e ∈ entries, ∃ k, e.value = body k e.tag := by
    induction tags with
    | nil => exact ⟨[], rfl, Writes.skip, by simp⟩
    | cons tag tags ih =>
      obtain ⟨entries, htags, hw, hbody⟩ := ih fun t ht => h t (List.mem_cons_of_mem tag ht)
      obtain ⟨hlength, hserves⟩ := h tag List.mem_cons_self tags.length
      let e : Entry := { tag, value := body tags.length tag, fits := hlength }
      refine ⟨e :: entries, by rw [List.map_cons, htags], ?_, ?_⟩
      · rw [List.flatMap_cons]
        exact (writes_serializeTag hserves hlength).comp hw
      · intro e' he'
        rcases List.mem_cons.mp he' with rfl | he'
        · exact ⟨tags.length, rfl⟩
        · exact hbody e' he'
  obtain ⟨entries, htags, hw, hbody⟩ := htags
  have hcount : entries.length = tags.length := by rw [← htags, List.length_map]
  refine ⟨entries, htags, ?_, hbody⟩
  rw [toStream, hcount]
  exact (Writes.u16 _).comp hw

/-! ## The map of the login TLVs -/

theorem serializeTag_congr {map map' : TlvSerMap ε} {tag : UInt16} (h : map.lookup tag = map'.lookup tag)
    (ctx : Context) : serializeTag map ctx tag = serializeTag map' ctx tag := by
  funext packet
  simp only [serializeTag, h]

/-- The TLVs inside a `T144` do not depend on where the ones inside a
`T144` are looked up. -/
theorem fromContext_serMapOver (rng : Nat → UInt8) (map map' : TlvSerMap ε) (ctx : Context) :
    T144.fromContext (serMapOver rng map) ctx = T144.fromContext (serMapOver rng map') ctx := by
  have hlookup (tag : UInt16) (h : (serMapOver rng map).lookup tag = (serMapOver rng map').lookup tag) :=
    serializeTag_congr h ctx
  simp only [T144.fromContext, serializeWith, serializeTags, hlookup 0x16E rfl, hlookup 0x147 rfl, hlookup 0x128 rfl,
    hlookup 0x124 rfl]

theorem serMapOver_congr (rng : Nat → UInt8) {map map' : TlvSerMap ε}
    (h : ∀ ctx, T144.fromContext map ctx = T144.fromContext map' ctx) : serMapOver rng map = serMapOver rng map' := by
  simp only [serMapOver, h]

/-- The map looks the TLVs inside a `T144` up in itself. -/
theorem TLV_SER_MAP_eq (rng : Nat → UInt8) : (TLV_SER_MAP rng : TlvSerMap ε) = serMapOver rng (TLV_SER_MAP rng) :=
  serMapOver_congr rng fun ctx => fromContext_serMapOver rng [] (serMapOver rng []) ctx

theorem TlvBodies.mem_body {bodies : TlvBodies} {tag : UInt16} (h : tag ∈ bodies.map Prod.fst) :
    (tag, bodies.body tag) ∈ bodies := by
  cases hlookup : bodies.lookup tag with
  | none =>
    obtain ⟨p, hp, rfl⟩ := List.mem_map.mp h
    have hne := List.lookup_eq_none_iff.mp hlookup p hp
    simp at hne
  | some body =>
    obtain ⟨front, back, heq, -⟩ := List.lookup_eq_some_iff.mp hlookup
    rw [TlvBodies.body, hlookup, Option.getD_some, heq]
    simp

theorem innerCredentials (ctx : Context) : Credentials ctx innerTags where
  unusualSign h := absurd h (by decide)
  tempPassword h := absurd h (by decide)
  noPicSig h := absurd h (by decide)

theorem length_body_le (ctx : Context) {tag : UInt16} (h : tag ∈ innerTags) :
    ((plainBodies ctx).body tag).length ≤ (innerSet ctx).length := by
  simp only [innerSet, innerTags, List.flatMap_cons, List.flatMap_nil, List.append_nil, List.length_append,
    lengthFirst_length]
  simp only [innerTags, List.mem_cons, List.not_mem_nil, or_false] at h
  rcases h with rfl | rfl | rfl | rfl <;> omega

theorem innerTags_subset : innerTags ⊆ plainTags := by
  simp [innerTags, plainTags]

/-- What the map has beside the `T144` needs no encryption. -/
theorem tags_subset (rng : Nat → UInt8) : (TLV_SER_MAP rng : TlvSerMap ε).tags ⊆ 0x144 :: plainTags := by
  show ([0x106, 0x144, 0x116, 0x142, 0x145, 0x018, 0x141, 0x177, 0x191, 0x100, 0x107, 0x318, 0x16A, 0x166, 0x521,
    0x16E, 0x147, 0x128, 0x124] : List UInt16) ⊆ _
  simp [plainTags]

/-- The set inside a `T144`, and the tags it parses into. -/
theorem exists_innerEntries (rng : Nat → UInt8) (map : TlvSerMap ε) {ctx : Context}
    (h : (innerSet ctx).length < 65536) :
    ∃ entries : List Entry, entries.map Entry.tag = innerTags ∧ toStream entries = innerSet ctx ∧
      Writes (serializeWith (fun _ => serMapOver rng map) ctx innerTags) (toStream entries) := by
  have hserves : ∀ tag ∈ innerTags, ∀ _ : Nat, ((plainBodies ctx).body tag).length < 65536 ∧
      Serves (serMapOver rng map) ctx tag ((plainBodies ctx).body tag) := by
    intro tag htag _
    have hmem : tag ∈ (plainBodies ctx).map Prod.fst := innerTags_subset htag
    have hle := length_body_le ctx htag
    exact ⟨by omega, serves_plain rng map (innerCredentials ctx) _ (TlvBodies.mem_body hmem) htag⟩
  obtain ⟨entries, htags, hw, hbody⟩ := exists_entries _ _ hserves
  refine ⟨entries, htags, ?_, hw⟩
  have hcount : entries.length = 4 := by
    have hlength := congrArg List.length htags
    rwa [List.length_map] at hlength
  have hbytes : entries.flatMap Entry.toBytes =
      entries.flatMap fun e => be16 e.tag ++ lengthFirst ((plainBodies ctx).body e.tag) := by
    refine List.flatMap_congr fun e he => ?_
    obtain ⟨_, hvalue⟩ := hbody e he
    rw [Entry.toBytes, hvalue]
    rfl
  rw [toStream, hcount, hbytes, innerSet, ← htags, List.flatMap_map]
  rfl

theorem serves_T144 (rng : Nat → UInt8) {ctx : Context} (hkey : ctx.session.stub.tgtgtKey.length = 16) :
    Serves (TLV_SER_MAP rng : TlvSerMap ε) ctx 0x144 (encrypted rng (innerSet ctx) ctx.session.stub.tgtgtKey) := by
  intro h
  have hinner : (innerSet ctx).length < 65536 := by
    rw [encrypted_length] at h
    omega
  obtain ⟨entries, -, hstream, hw⟩ := exists_innerEntries (ε := ε) rng [] hinner
  have hcontext : (T144.fromContext (serMapOver rng []) ctx : Outcome ε T144) =
      .ok { tgtgtKey := ctx.session.stub.tgtgtKey, tlvs := innerSet ctx } := by
    have hbuild := hw.build_eq
    rw [hstream] at hbuild
    show PacketBuilder.build (serializeWith (fun _ => serMapOver rng []) ctx innerTags) >>= _ = _
    rw [hbuild]
    rfl
  refine ⟨_, _, rfl, ?_, writes_tlv (f := fun p => teaEncrypt rng (innerSet ctx) ctx.session.stub.tgtgtKey >>=
    fun encryptedTlvs => PacketBuilder.bytes encryptedTlvs p) ?_ h⟩
  · show T144.serialize rng <$> T144.fromContext (serMapOver rng []) ctx = _
    rw [hcontext]
    rfl
  · intro p
    show (teaEncrypt rng (innerSet ctx) ctx.session.stub.tgtgtKey >>= fun encryptedTlvs =>
      PacketBuilder.bytes encryptedTlvs p) = _
    rw [teaEncrypt_ok rng _ hkey]
    rfl

theorem serves_login (rng : Nat → UInt8) {ctx : Context} {tags : List UInt16} (hcred : Credentials ctx tags)
    (hkey : ctx.session.stub.tgtgtKey.length = 16) {tag : UInt16} (htag : tag ∈ tags)
    (hmem : tag ∈ (TLV_SER_MAP rng : TlvSerMap ε).tags) :
    Serves (TLV_SER_MAP rng : TlvSerMap ε) ctx tag ((loginBodies rng ctx).body tag) := by
  by_cases h144 : tag = 0x144
  · subst h144
    exact serves_T144 rng hkey
  · have hplain : tag ∈ (plainBodies ctx).map Prod.fst :=
      (List.mem_cons.mp (tags_subset rng hmem)).resolve_left h144
    have hbody : (loginBodies rng ctx).body tag = (plainBodies ctx).body tag := by
      have hne : (tag == 0x144) = false := by simpa using h144
      rw [TlvBodies.body, loginBodies, List.lookup_cons, hne]
      rfl
    rw [hbody]
    exact serves_plain rng _ hcred _ (TlvBodies.mem_body hplain) htag

/-! ## Both sets -/

/-- The bytes are a stream of these tags, in order, and no more. -/
def ParsesInto (bs : Bytes) (tags : List UInt16) : Prop :=
  ∃ entries, parse bs = some entries ∧ entries.map Entry.tag = tags

/-- A stream of the tags in which the value of a `T144` is encrypted with
the tgtgt key, and is a stream of the inner tags. -/
def LoginSet (ctx : Context) (bs : Bytes) (tags : List UInt16) : Prop :=
  ∃ entries, parse bs = some entries ∧ entries.map Entry.tag = tags ∧ ∀ e ∈ entries, e.tag = 0x144 →
    ∃ inner, (teaDecrypt e.value ctx.session.stub.tgtgtKey : Outcome Empty Bytes) = .ok inner ∧
      ParsesInto inner innerTags

/-- The tags are in the map, their credentials are there, and the bodies fit their lengths. -/
structure LoginReady (rng : Nat → Nat → UInt8) (ctx : Context) (tags : List UInt16) : Prop where
  listed : ∀ tag ∈ tags, ∀ k, tag ∈ (TLV_SER_MAP (rng k) : TlvSerMap Empty).tags
  credentials : Credentials ctx tags
  bodies : ∀ tag ∈ tags, ∀ k, ((loginBodies (rng k) ctx).body tag).length < 65536

structure QrcodeReady (prost : TlvSerProst) (ctx : Context) (tags : List UInt16) : Prop where
  listed : ∀ tag ∈ tags, tag ∈ (TLV_QR_SER_MAP prost : TlvSerMap Empty).tags
  credentials : Credentials ctx tags
  bodies : ∀ tag ∈ tags, ((qrcodeBodies prost ctx).body tag).length < 65536

/-- The count of a stream is of 16 bits. -/
theorem ParsesInto.length_lt {bs : Bytes} {tags : List UInt16} (h : ParsesInto bs tags) : tags.length < 65536 := by
  obtain ⟨entries, hparse, rfl⟩ := h
  rw [List.length_map]
  exact length_of_parse hparse

theorem LoginSet.parsesInto {ctx : Context} {bs : Bytes} {tags : List UInt16} (h : LoginSet ctx bs tags) :
    ParsesInto bs tags := by
  obtain ⟨entries, hparse, htags, -⟩ := h
  exact ⟨entries, hparse, htags⟩

theorem parsesInto_innerSet {ctx : Context} (h : (innerSet ctx).length < 65536) :
    ParsesInto (innerSet ctx) innerTags := by
  obtain ⟨entries, htags, hstream, -⟩ := exists_innerEntries (ε := Empty) (fun _ => 0) [] h
  have hcount : entries.length < 65536 := by
    have hlength := congrArg List.length htags
    rw [List.length_map] at hlength
    rw [hlength]
    decide
  exact ⟨entries, by rw [← hstream, parse_toStream hcount], htags⟩

theorem LoginReady.loginSet {rng : Nat → Nat → UInt8} {ctx : Context} {tags : List UInt16}
    (h : LoginReady rng ctx tags) (hkey : ctx.session.stub.tgtgtKey.length = 16) (hcount : tags.length < 65536) :
    ∃ bs, Writes (serializeTlvSet rng ctx tags : Write Empty) bs ∧ LoginSet ctx bs tags := by
  obtain ⟨entries, htags, hw, hbody⟩ := exists_entries (fun k => (TLV_SER_MAP (rng k) : TlvSerMap Empty))
    (fun k tag => (loginBodies (rng k) ctx).body tag) fun tag ht k =>
      ⟨h.bodies tag ht k, serves_login (rng k) h.credentials hkey ht (h.listed tag ht k)⟩
  have hlength : entries.length < 65536 := by rwa [← htags, List.length_map] at hcount
  refine ⟨toStream entries, hw, entries, parse_toStream hlength, htags, ?_⟩
  intro e he h144
  obtain ⟨k, hvalue⟩ := hbody e he
  have hencrypted : e.value = encrypted (rng k) (innerSet ctx) ctx.session.stub.tgtgtKey := by
    rw [hvalue, h144]
    rfl
  have hinner : (innerSet ctx).length < 65536 := by
    have hfits := e.fits
    rw [hencrypted, encrypted_length] at hfits
    omega
  refine ⟨innerSet ctx, ?_, parsesInto_innerSet hinner⟩
  rw [hencrypted]
  exact teaDecrypt_encrypted (rng k) _ hkey

theorem QrcodeReady.parsesInto {prost : TlvSerProst} {ctx : Context} {tags : List UInt16}
    (h : QrcodeReady prost ctx tags) (hcount : tags.length < 65536) :
    ∃ bs, Writes (serializeQrcodeTlvSet prost ctx tags : Write Empty) bs ∧ ParsesInto bs tags := by
  obtain ⟨entries, htags, hw, -⟩ := exists_entries (fun _ => (TLV_QR_SER_MAP prost : TlvSerMap Empty))
    (fun _ tag => (qrcodeBodies prost ctx).body tag) fun tag ht _ =>
      ⟨h.bodies tag ht, serves_qrcode prost h.credentials _ (TlvBodies.mem_body (h.listed tag ht)) ht⟩
  have hlength : entries.length < 65536 := by rwa [← htags, List.length_map] at hcount
  exact ⟨toStream entries, hw, entries, parse_toStream hlength, htags⟩

/-- **Which sets parse.** Those of fewer than 65536 tags do, the set inside
a `T144` with them. -/
theorem sets_parse_iff (prost : TlvSerProst) (rng : Nat → Nat → UInt8) (ctx : Context) (tags : List UInt16)
    (hkey : ctx.session.stub.tgtgtKey.length = 16) :
    (LoginReady rng ctx tags →
      ((∃ bs, Writes (serializeTlvSet rng ctx tags : Write Empty) bs ∧ LoginSet ctx bs tags) ↔ tags.length < 65536)) ∧
    (QrcodeReady prost ctx tags →
      ((∃ bs, Writes (serializeQrcodeTlvSet prost ctx tags : Write Empty) bs ∧ ParsesInto bs tags) ↔
        tags.length < 65536)) := by
  refine ⟨fun h => ⟨?_, h.loginSet hkey⟩, fun h => ⟨?_, h.parsesInto⟩⟩
  · rintro ⟨_, -, hset⟩
    exact hset.parsesInto.length_lt
  · rintro ⟨_, -, hset⟩
    exact hset.length_lt

/-- A key store with a temporary password of one byte. -/
def passwordContext : Context :=
  { keyStore := { uin := 7, session := { d2Key := .replicate 16 0, tempPassword := some [1] } } }

theorem body_T144_length (rng : Nat → UInt8) : ((loginBodies rng passwordContext).body 0x144).length < 65536 := by
  have hbody : (loginBodies rng passwordContext).body 0x144 = encrypted rng (innerSet passwordContext)
    passwordContext.session.stub.tgtgtKey := rfl
  have hinner : (innerSet passwordContext).length = 107 := by decide
  have hfill := fillCount_bounds (innerSet passwordContext)
  rw [hbody, encrypted_length, hinner]
  omega

/-- A password, an encrypted set and a `T018`. -/
theorem sets_parse_login : ∃ bs,
    Writes (serializeTlvSet (fun _ _ => 220) passwordContext [0x106, 0x144, 0x018] : Write Empty) bs ∧
      LoginSet passwordContext bs [0x106, 0x144, 0x018] := by
  have hready : LoginReady (fun _ _ => 220) passwordContext [0x106, 0x144, 0x018] :=
    { listed := by
        intro tag h k
        simp only [List.mem_cons, List.not_mem_nil, or_false] at h
        rcases h with rfl | rfl | rfl <;> exact List.mem_of_elem_eq_true rfl
      credentials :=
        { unusualSign := fun h => absurd h (by decide)
          tempPassword := fun _ => rfl
          noPicSig := fun h => absurd h (by decide) }
      bodies := by
        intro tag h k
        simp only [List.mem_cons, List.not_mem_nil, or_false] at h
        rcases h with rfl | rfl | rfl
        · show ([1] : Bytes).length < 65536
          decide
        · exact body_T144_length _
        · show ((plainBodies passwordContext).body 0x018).length < 65536
          decide }
  exact ((sets_parse_iff { qrCodeD1 := fun _ => [] } (fun _ _ => 220) passwordContext [0x106, 0x144, 0x018] rfl).1
    hready).mpr (by decide)

theorem loginReady_T018 (rng : Nat → Nat → UInt8) (n : Nat) :
    LoginReady rng passwordContext (List.replicate n 0x018) where
  listed tag h k := by
    rw [List.eq_of_mem_replicate h]
    exact List.mem_of_elem_eq_true rfl
  credentials :=
    { unusualSign := fun h => absurd (List.eq_of_mem_replicate h) (by decide)
      tempPassword := fun h => absurd (List.eq_of_mem_replicate h) (by decide)
      noPicSig := fun h => absurd (List.eq_of_mem_replicate h) (by decide) }
  bodies tag h k := by
    rw [List.eq_of_mem_replicate h]
    have hbody : (loginBodies (rng k) passwordContext).body 0x018 = (plainBodies passwordContext).body 0x018 := rfl
    rw [hbody]
    decide

/-- 65536 tags are counted as none. -/
theorem sets_parse_wrapped : LoginReady (fun _ _ => 220) passwordContext (List.replicate 65536 0x018) ∧
    ¬ ∃ bs, Writes (serializeTlvSet (fun _ _ => 220) passwordContext (List.replicate 65536 0x018) : Write Empty) bs ∧
      LoginSet passwordContext bs (List.replicate 65536 0x018) := by
  refine ⟨loginReady_T018 _ _, ?_⟩
  rintro ⟨_, -, hset⟩
  have hlt := hset.parsesInto.length_lt
  rw [List.length_replicate] at hlt
  omega

end Mania

/-
A set of TLVs is read as a map: each supported tag to the last of its
entries that decodes.

One step of the loop takes exactly one entry off the packet, whether its
tag is supported, its protobuf decodes, or neither; that carries the
induction over the entries.
-/
import Mania.FieldTree
import Mania.Lib.TypeLengthValue
import Mania.Tlv

namespace Mania

open Bytes PacketReader TypeLengthValue

variable {ε α : Type}

/-! ## Values -/

/-- The value of an entry holds this TLV, perhaps with bytes behind it. -/
inductive Holds (prost : TlvProst) : TlvDe → Bytes → Prop where
  | T017q (bs : Bytes) : Holds prost (.T017q bs) bs
  | T018q (bs : Bytes) : Holds prost (.T018q bs) bs
  | T019q (bs : Bytes) : Holds prost (.T019q bs) bs
  | T01cq (expireSec : UInt32) (expireMin : UInt16) (extra : Bytes) :
      Holds prost (.T01cq expireSec expireMin) (be32 expireSec ++ (be16 expireMin ++ extra))
  | T01eq (bs : Bytes) : Holds prost (.T01eq bs) bs
  | T0d1Resp {proto : TlvQrCodeD1Resp} {bs : Bytes} (h : prost.qrCodeD1Resp bs = some proto) :
      Holds prost (.T0d1Resp proto) bs
  | T106 (bs : Bytes) : Holds prost (.T106 (.ofTemp bs)) bs
  | T10A (bs : Bytes) : Holds prost (.T10A bs) bs
  | T119 (bs : Bytes) : Holds prost (.T119 bs) bs
  | T143 (bs : Bytes) : Holds prost (.T143 bs) bs
  | T146 (state field0 : UInt32) {tag message : Bytes} (extra : Bytes) (htag : tag.length < 65536)
      (hmessage : message.length < 65536) :
      Holds prost (.T146 state (Utf8.fromUtf8Lossy tag) (Utf8.fromUtf8Lossy message) field0)
        (be32 state ++ (be16 (UInt16.ofNat tag.length) ++ (tag ++ (be16 (UInt16.ofNat message.length) ++
          (message ++ (be32 field0 ++ extra))))))
  | T305 (bs : Bytes) : Holds prost (.T305 bs) bs
  | T543 {uid : String} {bs : Bytes} (h : prost.tlv543 bs = some { layer1 := some { layer2 := some { uid } } }) :
      Holds prost (.T543 uid) bs
  | T11A (faceId : UInt16) (age gender : UInt8) {nickName : Bytes} (extra : Bytes) (h : nickName.length < 256) :
      Holds prost (.T11A faceId age gender (Utf8.fromUtf8Lossy nickName))
        (be16 faceId ++ (age :: gender :: UInt8.ofNat nickName.length :: (nickName ++ extra)))

theorem lengthValue_run {value : Bytes} (h : value.length < 65536) (f : Cursor ε α) (rest : Bytes) :
    (lengthValue f).run (be16 (UInt16.ofNat value.length) ++ (value ++ rest)) = (fun a => (a, rest)) <$> new value f := by
  have hlength : ((UInt16.ofNat value.length).toNat : Int) = value.length := by
    rw [UInt16.toNat_ofNat_of_lt' h]
  exact section16WithAddition_run (by omega) f rest

theorem boxed_run {value : Bytes} (h : value.length < 65536) {f : Cursor ε TlvDe} {tlv : TlvDe}
    (hf : new value f = .ok tlv) (rest : Bytes) :
    (boxed f).run (be16 (UInt16.ofNat value.length) ++ (value ++ rest)) = .ok (.ok tlv, rest) := by
  rw [boxed, StateT.run_map, lengthValue_run h, hf]
  rfl

/-- The deserializer of a TLV's type. -/
def TlvType.deserializer (prost : TlvProst) : TlvType → TlvDeserializer ε
  | T017q => Mania.T017q.deserialize
  | T018q => Mania.T018q.deserialize
  | T019q => Mania.T019q.deserialize
  | T01cq => Mania.T01cq.deserialize
  | T01eq => Mania.T01eq.deserialize
  | T0d1Resp => Mania.T0d1Resp.deserialize prost
  | T106 => Mania.T106.deserialize
  | T10A => Mania.T10A.deserialize
  | T119 => Mania.T119.deserialize
  | T143 => Mania.T143.deserialize
  | T146 => Mania.T146.deserialize
  | T305 => Mania.T305.deserialize
  | T543 => Mania.T543.deserialize prost
  | T11A => Mania.T11A.deserialize

theorem deserializer_run {prost : TlvProst} {tlv : TlvDe} {value : Bytes} (h : Holds prost tlv value)
    (hfits : value.length < 65536) (rest : Bytes) :
    (tlv.type.deserializer prost : TlvDeserializer ε).run (be16 (UInt16.ofNat value.length) ++ (value ++ rest)) =
      .ok (.ok tlv, rest) := by
  cases h with
  | T017q | T018q | T019q | T01eq | T106 | T10A | T119 | T143 | T305 => exact boxed_run hfits rfl rest
  | T01cq expireSec expireMin extra =>
    refine boxed_run hfits ?_ rest
    rw [new_eq_ok]
    refine ⟨extra, ?_⟩
    simp only [StateT.run_bind, u32_be32, u16_be16, Outcome.ok_bind]
    rfl
  | @T0d1Resp proto _ h =>
    show (Mania.T0d1Resp.deserialize prost).run _ = _
    have hproto : new value (PacketReader.proto prost.qrCodeD1Resp) =
        (.ok (.ok proto) : Outcome ε (Except TlvError TlvQrCodeD1Resp)) := by
      rw [new_eq_ok]
      refine ⟨[], ?_⟩
      simp only [PacketReader.proto, StateT.run_map, bytes_run, Outcome.map_ok, h]
      rfl
    rw [Mania.T0d1Resp.deserialize, StateT.run_bind, lengthValue_run hfits, hproto]
    rfl
  | T146 state field0 extra htag hmessage =>
    refine boxed_run hfits ?_ rest
    rw [new_eq_ok]
    refine ⟨extra, ?_⟩
    have hstring (bs : Bytes) (hbs : bs.length < 65536) (rest : Bytes) :
        (section16WithAddition 0 string : Cursor ε String).run (be16 (UInt16.ofNat bs.length) ++ (bs ++ rest)) =
          .ok (Utf8.fromUtf8Lossy bs, rest) := lengthValue_run hbs string rest
    simp only [StateT.run_bind, u32_be32, Outcome.ok_bind, hstring _ htag, hstring _ hmessage]
    rfl
  | T543 h =>
    refine boxed_run hfits ?_ rest
    rw [new_eq_ok]
    refine ⟨[], ?_⟩
    simp only [StateT.run_bind, bytes_run, Outcome.ok_bind, StateT.run_lift, h, Outcome.expect_some, Outcome.pure_eq]
    rfl
  | @T11A faceId age gender nickName extra h =>
    refine boxed_run hfits ?_ rest
    rw [new_eq_ok]
    refine ⟨extra, ?_⟩
    have hstring : (readWithLength (PREFIX_U8 ||| PREFIX_NONE) string : Cursor ε String).run
        (UInt8.ofNat nickName.length :: (nickName ++ extra)) = .ok (Utf8.fromUtf8Lossy nickName, extra) := by
      rw [← ofInt8_natCast]
      exact Wrap.readWithLength_run .one false ⟨Int.natCast_nonneg _, Int.ofNat_lt.mpr h⟩ string extra
    simp only [StateT.run_bind, u16_be16, u8_cons, Outcome.ok_bind, hstring]
    rfl

/-! ## One entry -/

/-- The tags of the two maps. -/
def TLV_QR_DE_TAGS : List UInt16 := [0x017, 0x018, 0x019, 0x01c, 0x01e, 0x0d1]

def TLV_DE_TAGS : List UInt16 := [0x106, 0x10A, 0x119, 0x143, 0x146, 0x305, 0x543, 0x11A]

/-- What a map of these tags makes of an entry: a TLV, or nothing for want
of the tag or because the protobuf does not decode. -/
inductive Reads (prost : TlvProst) (tags : List UInt16) (e : Entry) : Option TlvDe → Prop where
  | decoded {tlv : TlvDe} (hmem : e.tag ∈ tags) (htag : tlv.tag = e.tag) (h : Holds prost tlv e.value) :
      Reads prost tags e (some tlv)
  | unsupported (hmem : e.tag ∉ tags) : Reads prost tags e none
  | undecodable (hmem : e.tag ∈ tags) (htag : e.tag = 0x0d1) (h : prost.qrCodeD1Resp e.value = none) :
      Reads prost tags e none

theorem tagStatic_injective {t t' : TlvType} (h : t.tagStatic = t'.tagStatic) : t = t' := by
  cases t <;> cases t' <;> first | rfl | exact absurd h (by decide)

/-- The map has for these tags the deserializers of the types, and no others. -/
structure Tabled (prost : TlvProst) (tags : List UInt16) (map : TlvMap ε) : Prop where
  supported : ∀ t : TlvType, t.tagStatic ∈ tags → map.lookup t.tagStatic = some (t.deserializer prost)
  unsupported : ∀ tag, tag ∉ tags → map.lookup tag = none

theorem lookup_eq_none {tag : UInt16} {map : TlvMap ε} (h : tag ∉ map.map Prod.fst) : map.lookup tag = none := by
  rw [List.lookup_eq_none_iff]
  intro p hp
  rw [bne_iff_ne]
  rintro rfl
  exact h (List.mem_map_of_mem hp)

theorem tabled_qrcode (prost : TlvProst) : Tabled prost TLV_QR_DE_TAGS (TLV_QR_DE_MAP prost : TlvMap ε) where
  supported t h := by cases t <;> first | rfl | exact absurd h (by decide)
  unsupported _ h := lookup_eq_none h

theorem tabled (prost : TlvProst) : Tabled prost TLV_DE_TAGS (TLV_DE_MAP prost : TlvMap ε) where
  supported t h := by cases t <;> first | rfl | exact absurd h (by decide)
  unsupported _ h := lookup_eq_none h

/-- A decoder takes its own entry off the packet, and so does the skip. -/
theorem deserializeWith_run {prost : TlvProst} {tags : List UInt16} {map : TlvMap ε} (hmap : Tabled prost tags map)
    {e : Entry} {decoding : Option TlvDe} (h : Reads prost tags e decoding) (rest : Bytes) :
    ∃ result, (deserializeWith map).run (e.toBytes ++ rest) = .ok (result, rest) ∧ result.toOption = decoding := by
  have hrun : (deserializeWith map).run (e.toBytes ++ rest) =
      ((map.lookup e.tag).getD (skipValue e.tag)).run (be16 (UInt16.ofNat e.value.length) ++ (e.value ++ rest)) := by
    rw [deserializeWith, StateT.run_bind, Entry.toBytes, List.append_assoc, u16_be16, List.append_assoc,
      Outcome.ok_bind]
    cases map.lookup e.tag <;> rfl
  cases h with
  | @decoded tlv hmem htag h =>
    have hlookup : map.lookup e.tag = some (tlv.type.deserializer prost) := by
      rw [← htag] at hmem ⊢
      exact hmap.supported tlv.type hmem
    refine ⟨.ok tlv, ?_, rfl⟩
    rw [hrun, hlookup]
    exact deserializer_run h e.fits rest
  | unsupported hmem =>
    have hlength : (UInt16.ofNat e.value.length).toNat = e.value.length := UInt16.toNat_ofNat_of_lt' e.fits
    refine ⟨.error (.unsupportedTag e.tag), ?_, rfl⟩
    rw [hrun, hmap.unsupported e.tag hmem]
    simp only [Option.getD_none, skipValue, StateT.run_bind, u16_be16, Outcome.ok_bind, hlength, readPacket_append rfl]
    rfl
  | undecodable hmem htag h =>
    have hlookup : map.lookup e.tag = some (T0d1Resp.deserialize prost) := by
      rw [htag] at hmem ⊢
      exact hmap.supported .T0d1Resp hmem
    have hproto : new e.value (PacketReader.proto prost.qrCodeD1Resp) =
        (.ok (.error .protobufDecodeError) : Outcome ε (Except TlvError TlvQrCodeD1Resp)) := by
      rw [new_eq_ok]
      refine ⟨[], ?_⟩
      simp only [PacketReader.proto, StateT.run_map, bytes_run, Outcome.map_ok, h]
      rfl
    refine ⟨.error .protobufDecodeError, ?_, rfl⟩
    rw [hrun, hlookup]
    show (T0d1Resp.deserialize prost).run _ = _
    rw [T0d1Resp.deserialize, StateT.run_bind, lengthValue_run e.fits, hproto]
    rfl

namespace TlvSet

/-! ## The loop -/

/-- The entries that a list of TLVs makes in a map. -/
def tagged (tlvs : List TlvDe) : List (UInt16 × TlvDe) := tlvs.map fun tlv => (tlv.tag, tlv)

theorem readTlvs_run {prost : TlvProst} {tags : List UInt16} {map : TlvMap ε} (hmap : Tabled prost tags map)
    {entries : List Entry} {decoding : Entry → Option TlvDe} (h : ∀ e ∈ entries, Reads prost tags e (decoding e))
    (result : TlvSet) (rest : Bytes) :
    (readTlvs (deserializeWith map) entries.length result).run (entries.flatMap Entry.toBytes ++ rest) =
      .ok (DashMap.extend result (tagged (entries.filterMap decoding)), rest) := by
  induction entries generalizing result with
  | nil => rfl
  | cons e entries ih =>
    obtain ⟨tlv, hrun, htlv⟩ := deserializeWith_run hmap (h e List.mem_cons_self) (entries.flatMap Entry.toBytes ++ rest)
    have hrest := ih fun e' he' => h e' (List.mem_cons_of_mem e he')
    rw [List.length_cons, List.flatMap_cons, List.append_assoc, readTlvs, StateT.run_bind, hrun, Outcome.ok_bind]
    cases tlv with
    | ok tlv =>
      have hsome : decoding e = some tlv := htlv.symm
      rw [List.filterMap_cons_some hsome]
      exact hrest (result.insert tlv.tag tlv)
    | error err =>
      have hnone : decoding e = none := htlv.symm
      rw [List.filterMap_cons_none hnone]
      exact hrest result

theorem deserializeSet_toStream {prost : TlvProst} {tags : List UInt16} {map : TlvMap ε} (hmap : Tabled prost tags map)
    {entries : List Entry} {decoding : Entry → Option TlvDe} (h : ∀ e ∈ entries, Reads prost tags e (decoding e))
    (hcount : entries.length < 65536) :
    deserializeSet (deserializeWith map) (toStream entries) =
      .ok (DashMap.extend ∅ (tagged (entries.filterMap decoding))) := by
  have hlength : (UInt16.ofNat entries.length).toNat = entries.length := UInt16.toNat_ofNat_of_lt' hcount
  have hrun := readTlvs_run hmap h ∅ []
  rw [List.append_nil] at hrun
  rw [deserializeSet, new_eq_ok]
  refine ⟨[], ?_⟩
  rw [StateT.run_bind, toStream, u16_be16, Outcome.ok_bind, hlength, hrun]

/-- The last of the TLVs with the tag. -/
def lastOf (tag : UInt16) (tlvs : List TlvDe) : Option TlvDe := (tlvs.filter fun tlv => tlv.tag = tag).getLast?

theorem lookup_tagged (tlvs : List TlvDe) (tag : UInt16) :
    (DashMap.extend (∅ : TlvSet) (tagged tlvs)).lookup tag = lastOf tag tlvs := by
  have hfilter : (tagged tlvs).filter (fun kv => kv.1 = tag) = tagged (tlvs.filter fun tlv => tlv.tag = tag) := by
    simp only [tagged, List.filter_map]
    rfl
  rw [DashMap.lookup_extend, hfilter, AList.lookup_empty, Option.or_none, lastOf, tagged, List.getLast?_map,
    Option.map_map]
  exact Option.map_id'

/-- A map in which each TLV is under its own tag. -/
def Keyed (set : TlvSet) : Prop := ∀ tag tlv, set.lookup tag = some tlv → tlv.tag = tag

theorem get_eq {set : TlvSet} (h : set.Keyed) (type : TlvType) :
    set.get type = Outcome.okOr type.tagStatic (set.lookup type.tagStatic) := by
  rw [get]
  cases hlookup : set.lookup type.tagStatic with
  | none => rfl
  | some tlv =>
    have htype : tlv.type = type := tagStatic_injective (h _ _ hlookup)
    rw [Option.bind_some, if_pos htype]

theorem keyed_tagged (tlvs : List TlvDe) : Keyed (DashMap.extend (∅ : TlvSet) (tagged tlvs)) := by
  intro tag tlv hlookup
  rw [lookup_tagged, lastOf] at hlookup
  have hmem := List.mem_of_getLast? hlookup
  simpa using (List.mem_filter.mp hmem).2

/-- What is to be read of a stream of these entries. -/
def ReadAs (prost : TlvProst) (tags : List UInt16) (entries : List Entry) (result : Outcome Empty TlvSet) : Prop :=
  ∀ decoding : Entry → Option TlvDe, (∀ e ∈ entries, Reads prost tags e (decoding e)) →
    ∃ set, result = .ok set ∧ (∀ tag, set.lookup tag = lastOf tag (entries.filterMap decoding)) ∧
      ∀ type, set.get type = Outcome.okOr type.tagStatic (set.lookup type.tagStatic)

theorem readAs {prost : TlvProst} {tags : List UInt16} {map : TlvMap Empty} (hmap : Tabled prost tags map)
    {entries : List Entry} (hcount : entries.length < 65536) :
    ReadAs prost tags entries (deserializeSet (deserializeWith map) (toStream entries)) := by
  intro decoding h
  exact ⟨_, deserializeSet_toStream hmap h hcount, lookup_tagged _, get_eq (keyed_tagged _)⟩

/-- **A set is read as a map to the last entries.** Whatever is not
supported or does not decode is passed over; `get` finds a type exactly
when its tag is in the map. -/
theorem deserialize_toStream (prost : TlvProst) (entries : List Entry) (hcount : entries.length < 65536) :
    ReadAs prost TLV_DE_TAGS entries (deserialize prost (toStream entries)) ∧
      ReadAs prost TLV_QR_DE_TAGS entries (deserializeQrcode prost (toStream entries)) :=
  ⟨readAs (tabled prost) hcount, readAs (tabled_qrcode prost) hcount⟩

/-- An entry of one byte. -/
def byteEntry (tag : UInt16) (b : UInt8) : Entry := { tag, value := [b], fits := by simp }

/-- Messages that never decode. -/
def corruptProst : TlvProst where
  qrCodeD1Resp := fun _ => none
  tlv543 := fun _ => none

/-- A tag twice, an unsupported one and a corrupt protobuf between them. -/
theorem deserialize_toStream_mixed : ∃ set,
    deserializeQrcode corruptProst
      (toStream [byteEntry 0x018 1, byteEntry 0x999 5, byteEntry 0x0d1 7, byteEntry 0x018 2]) =
      (.ok set : Outcome Empty TlvSet) ∧
    set.lookup 0x018 = some (.T018q [2]) ∧ set.get .T018q = .ok (.T018q [2]) ∧ set.get .T0d1Resp = .err 0x0d1 := by
  let entries := [byteEntry 0x018 1, byteEntry 0x999 5, byteEntry 0x0d1 7, byteEntry 0x018 2]
  let decoding : Entry → Option TlvDe := fun e => if e.tag = 0x018 then some (.T018q e.value) else none
  have hreads : ∀ e ∈ entries, Reads corruptProst TLV_QR_DE_TAGS e (decoding e) := by
    intro e he
    simp only [entries, List.mem_cons, List.not_mem_nil, or_false] at he
    rcases he with rfl | rfl | rfl | rfl
    · exact .decoded (by decide) rfl (.T018q _)
    · exact .unsupported (by decide)
    · exact .undecodable (by decide) rfl rfl
    · exact .decoded (by decide) rfl (.T018q _)
  obtain ⟨set, hset, hlookup, hget⟩ := (deserialize_toStream corruptProst entries (by decide)).2 decoding hreads
  refine ⟨set, hset, ?_, ?_, ?_⟩
  · rw [hlookup]
    decide
  · rw [hget, hlookup]
    decide
  · rw [hget, hlookup]
    decide

end TlvSet

end Mania

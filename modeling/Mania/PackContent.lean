/-
The attribute macro `pack_content` of `mania-macros`, and how a message is
routed by what it derives.

Either argument of the macro derives a `need_pack` that says true
(`needPack_eq`). So any entity at all has a chain routed as one that needs
its content packed (`needPackContent_eq`), and only an empty chain, or one
with a file, is routed as its entities are declared
(`routedAsDeclared_iff`).
-/
import Mania.EntityPackFacts

namespace Mania

variable {ε : Type} {enc : Encoders}

/-- The body of the `need_pack` that `pack_content(needPack)` derives. -/
def derivedNeedPack : Bool → Bool
  | true => true
  | false => true

namespace Entity

/-- The argument of `pack_content` on the type of an entity. -/
def packContentArg : Entity → Bool
  | text _ | json _ | image _ | face _ | forward _ | marketFace _ | lightApp _ | multiMsg _ | mention _ => false
  | file _ => true
  | record _ | video _ | xml _ | longMsg _ => false
  | extraInfo _ | extraGeneralFlags _ => false

theorem needPack_eq (entity : Entity) : entity.needPack = derivedNeedPack entity.packContentArg := by
  cases entity <;> rfl

theorem packContentArg_eq_true {entity : Entity} : entity.packContentArg = true ↔ ∃ inner, entity = file inner := by
  cases entity <;> simp [packContentArg]

/-- Any entity has the content of its message packed. -/
theorem needPackContent_eq (entities : List Entity) : needPackContent entities = !entities.isEmpty := by
  cases entities with
  | nil => rfl
  | cons entity entities => rfl

/-- `pack_element` of the kind is written, and the content needs no packing. -/
structure DeclaredPlain (enc : Encoders) (entity : Entity) : Prop where
  arg : entity.packContentArg = false
  packs : ∃ elems, entity.packElement enc = (.ok elems : Outcome Empty _)

/-- No kind that packs its elements has content of its own. -/
theorem DeclaredPlain.packContent {entity : Entity} (h : DeclaredPlain enc entity) :
    entity.packContent = (.ok none : Outcome ε _) := by
  obtain ⟨harg, -⟩ := h
  cases entity with
  | file inner => cases harg
  | _ => rfl

theorem DeclaredPlain.packElement {entity : Entity} (h : DeclaredPlain enc entity) :
    ∃ elems, entity.packElement enc = (.ok elems : Outcome ε _) := by
  obtain ⟨-, elems, helems⟩ := h
  cases entity with
  | face | marketFace | multiMsg | file | longMsg | extraInfo | extraGeneralFlags => cases helems
  | _ => exact ⟨_, rfl⟩

end Entity

namespace MessagePacker

/-- A chain of plain entities is packed, under its routing head. -/
theorem build_declaredPlain (now : Int) {chain : MessageChain}
    (h : ∀ entity ∈ chain.entities, entity.DeclaredPlain enc) :
    ∃ message, build enc now chain = (.ok message : Outcome ε _) ∧ message.routingHead = some (routingHead chain) := by
  obtain ⟨elems, helems⟩ := Outcome.exists_mapM_ok fun entity hentity => (h entity hentity).packElement (ε := ε)
  have hcontent := firstContent_none fun entity hentity => (h entity hentity).packContent (ε := ε)
  rw [build, buildPacketBase, helems, Outcome.ok_bind, hcontent, Outcome.ok_bind]
  exact ⟨_, rfl, rfl⟩

/-- Any chain but an empty one goes out with no friend, by the user's uid. -/
theorem routingHead_of_ne_nil {chain : MessageChain} (h : chain.entities ≠ []) :
    (routingHead chain).c2c = none ∧ (routingHead chain).trans0x211 = some { ccCmd := some 4, uid := some chain.uid } := by
  have needed : Entity.needPackContent chain.entities = true := by simp [Entity.needPackContent_eq, h]
  constructor
  · simp only [routingHead, needed]
    cases chain.typ <;> rfl
  · simp [routingHead, needed]

/-- The routing its entities' declarations ask of a chain, and what asks it. -/
structure RoutedAsDeclared (enc : Encoders) (entities : List Entity) : Prop where
  needed : Entity.needPackContent entities = true ↔ ∃ entity ∈ entities, entity.packContentArg = true
  friend : ∀ (now : Int) (chain : MessageChain) (friend : FriendMessageUniqueElem),
    chain.entities = entities → chain.typ = .friend friend → (∀ entity ∈ entities, entity.DeclaredPlain enc) →
    ∃ message head, build enc now chain = (.ok message : Outcome Empty _) ∧ message.routingHead = some head ∧
      head.c2c = some { uin := some chain.friendUin, uid := friend.friendInfo.map (·.uid) } ∧
      head.grp = none ∧ head.trans0x211 = none
  group : ∀ (now : Int) (chain : MessageChain) (group : GroupMessageUniqueElem),
    chain.entities = entities → chain.typ = .group group → (∀ entity ∈ entities, entity.DeclaredPlain enc) →
    ∃ message head, build enc now chain = (.ok message : Outcome Empty _) ∧ message.routingHead = some head ∧
      head.grp = some { groupCode := some group.groupUin } ∧ head.c2c = none ∧ head.trans0x211 = none

/-- A plain chain is routed as its declarations ask if the derived
`need_pack`s agree with them. -/
theorem RoutedAsDeclared.of_needed {entities : List Entity}
    (h : Entity.needPackContent entities = true ↔ ∃ entity ∈ entities, entity.packContentArg = true) :
    RoutedAsDeclared enc entities := by
  have plain (hplain : ∀ entity ∈ entities, entity.DeclaredPlain enc) : Entity.needPackContent entities = false := by
    rw [← Bool.not_eq_true, h]
    rintro ⟨entity, hentity, harg⟩
    exact Bool.noConfusion ((hplain entity hentity).arg.symm.trans harg)
  refine { needed := h, friend := ?_, group := ?_ }
  · rintro now chain friend rfl htyp hplain
    obtain ⟨message, hmessage, hhead⟩ := build_declaredPlain (ε := Empty) now hplain
    refine ⟨message, _, hmessage, hhead, ?_⟩
    simp [routingHead, htyp, plain hplain]
  · rintro now chain group rfl htyp hplain
    obtain ⟨message, hmessage, hhead⟩ := build_declaredPlain (ε := Empty) now hplain
    refine ⟨message, _, hmessage, hhead, ?_⟩
    simp [routingHead, htyp, plain hplain]

/-- Only a chain of no entities, or one with a file, is routed as declared. -/
theorem routedAsDeclared_iff (enc : Encoders) (entities : List Entity) :
    RoutedAsDeclared enc entities ↔ entities = [] ∨ ∃ inner, .file inner ∈ entities := by
  have declared : (∃ entity ∈ entities, entity.packContentArg = true) ↔ ∃ inner, .file inner ∈ entities := by
    constructor
    · rintro ⟨entity, hentity, harg⟩
      obtain ⟨inner, rfl⟩ := Entity.packContentArg_eq_true.mp harg
      exact ⟨inner, hentity⟩
    · rintro ⟨inner, hinner⟩
      exact ⟨.file inner, hinner, rfl⟩
  constructor
  · intro h
    have needed := h.needed
    rw [declared, Entity.needPackContent_eq] at needed
    cases entities with
    | nil => exact .inl rfl
    | cons entity entities => exact .inr (needed.mp rfl)
  · intro h
    refine RoutedAsDeclared.of_needed ?_
    rw [declared, Entity.needPackContent_eq]
    rcases h with rfl | ⟨inner, hinner⟩
    · simp
    · have nonempty := List.ne_nil_of_mem hinner
      simp [nonempty, show ∃ inner, Entity.file inner ∈ entities from ⟨inner, hinner⟩]

/-- A chain of one text is not. -/
theorem text_not_routedAsDeclared : ¬ RoutedAsDeclared Entity.sampleEncoders [.text { text := "hello" }] := by
  intro h
  simpa [Entity.needPackContent, Entity.needPack, Entity.packContentArg] using h.needed

end MessagePacker

end Mania

import NodeAccess.Proofs.Json.Names
import NodeAccess.Variant.Json

/-!
# Values recovered

A value is recovered by the decoder of its tag, one level below the object of the tag; the items of
an array one level further below. So an array is refused as a whole when an item of it is nested too
deep. Floating-point numbers are left out: infinities are written as null, and the reader rounds
twice. So are leap seconds within a minute, whose texts are read for other times.
-/

set_option autoImplicit false

namespace NodeAccess.Variant

open Decoder

mutual

/-- No floating-point number occurs in a value. -/
def HasNoFloat : Variant → Prop
  | float _ => False
  | double _ => False
  | array items => HaveNoFloat items
  | _ => True

/-- No floating-point number occurs in several values. -/
def HaveNoFloat : List Variant → Prop
  | [] => True
  | item :: items => HasNoFloat item ∧ HaveNoFloat items

end

/-- A point in time stands somewhere in the value. -/
inductive HoldsTime (t : Timestamp) : Variant → Prop where
  | dateTime : HoldsTime t (.dateTime t)
  | array {items : List Variant} {item : Variant} :
      item ∈ items → HoldsTime t item → HoldsTime t (.array items)

/-- All leap seconds in the value stand at the end of a minute. -/
def IsRegular (v : Variant) : Prop :=
  ∀ t, v.HoldsTime t → t.IsRegular

theorem IsRegular.of_mem {items : List Variant} (h : IsRegular (.array items)) {item : Variant}
    (hmem : item ∈ items) : item.IsRegular :=
  fun t ht => h t (.array hmem ht)

/-- The object of a tag is opened for its content. -/
theorem recovers_tagged {name : String} (hname : name ≠ "Array") {content : Json} {v : Variant}
    (h : (decodeTagged name).Recovers content v) : decode.Recovers (tagged name content) v := by
  refine ⟨⟨h.texts, trivial⟩, ?_⟩
  intro depth
  cases depth with
  | zero => simp [tagged, decode, Json.nesting]
  | succ depth =>
    have hopen : decode (depth + 1) (tagged name content) = decodeTagged name depth content := by
      rw [tagged, decode.eq_3]
      simp [hname]
    rw [hopen, h.found depth]
    simp [tagged, Json.nesting, Json.nestingOfMembers]

/-- An array is opened twice for its items. -/
theorem recovers_array {items : List Json} {vs : List Variant}
    (h : List.Forall₂ decode.Recovers items vs) :
    decode.Recovers (tagged "Array" (.array items)) (.array vs) := by
  refine ⟨⟨itemsHoldTexts h, trivial⟩, ?_⟩
  intro depth
  -- no level opens nothing, one level the object but not the array in it
  match depth with
  | 0 => simp [tagged, decode, Json.nesting]
  | 1 =>
    have hnone : decodeTagged "Array" = fun _ _ => none := rfl
    simp [tagged, decode, hnone, Json.nesting, Json.nestingOfMembers]
  | depth + 2 =>
    rw [tagged, decode, collect_eq h depth]
    simp only [Json.nesting, Json.nestingOfMembers, Nat.max_zero, Nat.add_le_add_iff_right]
    split <;> rfl

mutual

/-- A regular value without floating-point numbers is recovered. The induction is on the value and
on the items of its arrays. -/
theorem recovers_toJson (v : Variant) (h : v.HasNoFloat) (htimes : v.IsRegular) :
    decode.Recovers v.toJson v := by
  match v with
  | null => exact ⟨trivial, fun depth => by simp [toJson, decode, Json.nesting]⟩
  | boolean b => exact recovers_tagged (by decide) ((recovers_boolean b).andThen rfl)
  | sbyte n =>
    have hn := recovers_integer ⟨n.le_toInt, n.toInt_le⟩
    exact recovers_tagged (by decide) (hn.andThen (by rw [Int8.ofInt_toInt]))
  | byte n =>
    have hn := recovers_natural n.toNat_lt
    exact recovers_tagged (by decide) (hn.andThen (by rw [UInt8.ofNat_toNat]))
  | int16 n =>
    have hn := recovers_integer ⟨n.le_toInt, n.toInt_le⟩
    exact recovers_tagged (by decide) (hn.andThen (by rw [Int16.ofInt_toInt]))
  | uint16 n =>
    have hn := recovers_natural n.toNat_lt
    exact recovers_tagged (by decide) (hn.andThen (by rw [UInt16.ofNat_toNat]))
  | int32 n =>
    have hn := recovers_integer ⟨n.le_toInt, n.toInt_le⟩
    exact recovers_tagged (by decide) (hn.andThen (by rw [Int32.ofInt_toInt]))
  | uint32 n =>
    have hn := recovers_natural n.toNat_lt
    exact recovers_tagged (by decide) (hn.andThen (by rw [UInt32.ofNat_toNat]))
  | int64 n =>
    have hn := recovers_integer ⟨n.le_toInt, n.toInt_le⟩
    exact recovers_tagged (by decide) (hn.andThen (by rw [Int64.ofInt_toInt]))
  | uint64 n =>
    have hn := recovers_natural n.toNat_lt
    exact recovers_tagged (by decide) (hn.andThen (by rw [UInt64.ofNat_toNat]))
  | float _ => exact h.elim
  | double _ => exact h.elim
  | string s => exact recovers_tagged (by decide) ((recovers_text s).andThen rfl)
  | dateTime t =>
    exact recovers_tagged (by decide) ((htimes t .dateTime).recovers_toJson.andThen rfl)
  | guid g => exact recovers_tagged (by decide) (g.recovers_toJson.andThen rfl)
  | byteString bs => exact recovers_tagged (by decide) ((recovers_octets bs).andThen rfl)
  | nodeId id => exact recovers_tagged (by decide) (id.recovers_toJson.andThen rfl)
  | statusCode s => exact recovers_tagged (by decide) (s.recovers_toJson.andThen rfl)
  | qualifiedName n => exact recovers_tagged (by decide) (n.recovers_toJson.andThen rfl)
  | localizedText t => exact recovers_tagged (by decide) (t.recovers_toJson.andThen rfl)
  | rolePermission e => exact recovers_tagged (by decide) (e.recovers_toJson.andThen rfl)
  | array items => exact recovers_array (forall₂_itemsToJson items h fun _ => htimes.of_mem)

theorem forall₂_itemsToJson (items : List Variant) (h : HaveNoFloat items)
    (htimes : ∀ item ∈ items, item.IsRegular) :
    List.Forall₂ decode.Recovers (itemsToJson items) items := by
  match items with
  | [] => exact .nil
  | item :: items =>
    obtain ⟨htime, hrest⟩ := List.forall_mem_cons.mp htimes
    exact .cons (recovers_toJson item h.1 htime) (forall₂_itemsToJson items h.2 hrest)

end

end NodeAccess.Variant

import NodeAccess.DataValue.Json
import NodeAccess.Proofs.Variant.Json

/-!
# Exchange loses nothing

Data values, references and requests are recovered field by field, from the values, times and
identifiers in them. With that every exchanged type is decoded from its own text to the value that
was written, as long as the text is not nested deeper than a reader opens it, and refused otherwise.
-/

set_option autoImplicit false

namespace NodeAccess

open Decoder

theorem Timestamp.recovers_option {t : Option Timestamp} (h : ∀ t' ∈ t, t'.IsRegular) :
    (option decode).Recovers (.ofOption (t.map toJson)) t :=
  Decoder.recovers_option toJson (by simp [toJson]) t fun t' ht' => (h t' ht').recovers_toJson

theorem recovers_option_text (s : Option String) :
    (option text).Recovers (.ofOption (s.map .string)) s :=
  recovers_option .string (by simp) s fun s' _ => recovers_text s'

/-- All leap seconds in the data value stand at the end of a minute. -/
structure DataValue.IsRegular (d : DataValue) : Prop where
  value : d.value.IsRegular
  source : ∀ t ∈ d.sourceTimestamp, t.IsRegular
  server : ∀ t ∈ d.serverTimestamp, t.IsRegular

theorem DataValue.IsRegular.ofValue {v : Variant} (h : v.IsRegular) :
    (DataValue.ofValue v).IsRegular :=
  ⟨h, fun _ ht => (nomatch ht), fun _ ht => (nomatch ht)⟩

theorem DataValue.recovers_toJson (d : DataValue) (h : d.value.HasNoFloat) (htimes : d.IsRegular) :
    DataValue.decode.Recovers d.toJson d := by
  have hvalue := Variant.recovers_toJson d.value h htimes.value
  have hsource := Timestamp.recovers_option htimes.source
  have hserver := Timestamp.recovers_option htimes.server
  refine Fields.recovers_object rfl (by decide)
    ⟨hvalue.texts, trivial, hsource.texts, hserver.texts, trivial⟩ ?_
  intro depth
  rw [Fields.required_eq rfl hvalue, Fields.required_eq rfl d.status.recovers_toJson,
    Fields.optional_eq rfl hsource, Fields.optional_eq rfl hserver]
  -- asking for the fields one by one asks for the greatest of their nestings
  simp only [Fields.bind_if, Json.nestingOfMembers, Nat.max_le, ite_and, Nat.zero_le, if_true]

theorem Reference.recovers_toJson (r : Reference) : Reference.decode.Recovers r.toJson r := by
  refine Fields.recovers_object rfl (by decide) ⟨trivial, trivial, trivial, trivial⟩ ?_
  intro depth
  rw [Fields.required_eq rfl r.referenceType.recovers_toJson,
    Fields.required_eq rfl (recovers_boolean r.isInverse),
    Fields.required_eq rfl r.target.recovers_toJson]
  simp only [Fields.bind_if, Json.nestingOfMembers, Nat.max_le, ite_and, Nat.zero_le, if_true]

theorem ReadRequest.recovers_toJson (r : ReadRequest) :
    ReadRequest.decode.Recovers r.toJson r := by
  have hattribute := recovers_natural r.attributeId.toNat_lt
  have hrange := recovers_option_text r.indexRange
  refine Fields.recovers_object rfl (by decide) ⟨trivial, trivial, hrange.texts, trivial⟩ ?_
  intro depth
  rw [Fields.required_eq rfl r.node.recovers_toJson, Fields.required_eq rfl hattribute,
    Fields.optional_eq rfl hrange]
  simp only [Fields.bind_if, UInt32.ofNat_toNat, Json.nestingOfMembers, Nat.max_le, ite_and,
    Nat.zero_le, if_true]

theorem WriteRequest.recovers_toJson (r : WriteRequest) (h : r.value.value.HasNoFloat)
    (htimes : r.value.IsRegular) :
    WriteRequest.decode.Recovers r.toJson r := by
  have hattribute := recovers_natural r.attributeId.toNat_lt
  have hrange := recovers_option_text r.indexRange
  have hvalue := r.value.recovers_toJson h htimes
  refine Fields.recovers_object rfl (by decide)
    ⟨trivial, trivial, hrange.texts, hvalue.texts, trivial⟩ ?_
  intro depth
  rw [Fields.required_eq rfl r.node.recovers_toJson, Fields.required_eq rfl hattribute,
    Fields.optional_eq rfl hrange, Fields.required_eq rfl hvalue]
  simp only [Fields.bind_if, UInt32.ofNat_toNat, Json.nestingOfMembers, Nat.max_le, ite_and,
    Nat.zero_le, if_true]

/-! ## Texts -/

/-- A value inside so many arrays. -/
def Variant.boxed (v : Variant) : Nat → Variant
  | 0 => v
  | n + 1 => .array [v.boxed n]

theorem Variant.hasNoFloat_boxed {v : Variant} (h : v.HasNoFloat) (n : Nat) :
    (v.boxed n).HasNoFloat := by
  induction n with
  | zero => exact h
  | succ n ih => exact ⟨ih, trivial⟩

theorem Variant.isRegular_boxed {v : Variant} (h : v.IsRegular) (n : Nat) :
    (v.boxed n).IsRegular := by
  induction n with
  | zero => exact h
  | succ n ih =>
    rintro t (_ | ⟨hmem, ht⟩)
    obtain rfl := List.mem_singleton.mp hmem
    exact ih t ht

/-- Each array opens two levels. -/
theorem Variant.nesting_boxed (n : Nat) (v : Variant) :
    (v.boxed n).toJson.nesting = v.toJson.nesting + 2 * n := by
  induction n with
  | zero => rfl
  | succ n ih =>
    simp only [boxed, toJson, itemsToJson, tagged, Json.nesting, Json.nestingOfMembers,
      Json.nestingOfItems, ih]
    omega

/-- The text of a value is decoded to that value, or refused if more than 127 arrays and objects are
open in it at once. -/
def RoundTrips {α : Type} (toJson : α → Json) (decode : Decoder α) (a : α) : Prop :=
  (Json.read? (toJson a).toText).bind decode.run =
    if (toJson a).nesting ≤ 127 then some a else none

/-- Every value of an exchanged type is given back by its text or, nested too deep, refused; it is
never taken for another one. Only floating-point numbers are left out, and leap seconds within a
minute. -/
theorem exchange_undone :
    (∀ v : Variant, v.HasNoFloat → v.IsRegular → RoundTrips Variant.toJson Variant.decode v) ∧
      (∀ d : DataValue, d.value.HasNoFloat → d.IsRegular →
        RoundTrips DataValue.toJson DataValue.decode d) ∧
      (∀ r : Reference, RoundTrips Reference.toJson Reference.decode r) ∧
      (∀ r : ReadRequest, RoundTrips ReadRequest.toJson ReadRequest.decode r) ∧
      (∀ r : WriteRequest, r.value.value.HasNoFloat → r.value.IsRegular →
        RoundTrips WriteRequest.toJson WriteRequest.decode r) ∧
      (∀ e : RolePermission, RoundTrips RolePermission.toJson RolePermission.decode e) ∧
      (∀ n : QualifiedName, RoundTrips QualifiedName.toJson QualifiedName.decode n) ∧
      (∀ t : LocalizedText, RoundTrips LocalizedText.toJson LocalizedText.decode t) ∧
      (∀ id : NodeId, RoundTrips NodeId.toJson NodeId.decode id) := by
  refine ⟨?_, ?_, ?_, ?_, ?_, ?_, ?_, ?_, ?_⟩
  · intro v hv htimes
    exact (v.recovers_toJson hv htimes).run_read?
  · intro d hd htimes
    exact (d.recovers_toJson hd htimes).run_read?
  · intro r
    exact r.recovers_toJson.run_read?
  · intro r
    exact r.recovers_toJson.run_read?
  · intro r hr htimes
    exact (r.recovers_toJson hr htimes).run_read?
  · intro e
    exact e.recovers_toJson.run_read?
  · intro n
    exact n.recovers_toJson.run_read?
  · intro t
    exact t.recovers_toJson.run_read?
  · intro id
    exact id.recovers_toJson.run_read?

/-- The least integer inside sixty-three arrays is given back. Inside one array more it is refused,
and so it is inside sixty-three in a data value; a request to write has room for sixty-two. -/
theorem exchange_undone_boxed :
    let least : Variant := .int64 Int64.minValue
    let request : WriteRequest :=
      { node := default, attributeId := 13, value := .ofValue (least.boxed 62) }
    (Json.read? (least.boxed 63).toJson.toText).bind Variant.decode.run = some (least.boxed 63) ∧
      (Json.read? (least.boxed 64).toJson.toText).bind Variant.decode.run = none ∧
      (Json.read? (DataValue.ofValue (least.boxed 63)).toJson.toText).bind DataValue.decode.run =
        none ∧
      (Json.read? request.toJson.toText).bind WriteRequest.decode.run = some request := by
  intro least request
  obtain ⟨hvariant, hdata, -, -, hwrite, -⟩ := exchange_undone
  have hfloats : ∀ n, (least.boxed n).HasNoFloat := Variant.hasNoFloat_boxed trivial
  have hleast : (Variant.int64 Int64.minValue).IsRegular := by
    rintro t ⟨⟩
  have htimes : ∀ n, (least.boxed n).IsRegular := Variant.isRegular_boxed hleast
  have hnesting : ∀ n, (least.boxed n).toJson.nesting = 1 + 2 * n := least.nesting_boxed
  have hdatum : ∀ n, (DataValue.ofValue (least.boxed n)).toJson.nesting = 2 + 2 * n := by
    intro n
    simp [DataValue.toJson, DataValue.ofValue, Json.nesting, Json.nestingOfMembers, hnesting,
      StatusCode.toJson, Json.ofNat, Json.ofOption]
    omega
  have hrequest : request.toJson.nesting = 127 := by
    simp [WriteRequest.toJson, request, Json.nesting, Json.nestingOfMembers, hdatum,
      NodeId.toJson, Json.ofNat, Json.ofOption]
  refine ⟨?_, ?_, ?_, ?_⟩
  · have h := hvariant _ (hfloats 63) (htimes 63)
    rwa [RoundTrips, hnesting, if_pos (by decide)] at h
  · have h := hvariant _ (hfloats 64) (htimes 64)
    rwa [RoundTrips, hnesting, if_neg (by decide)] at h
  · have h := hdata (.ofValue (least.boxed 63)) (hfloats 63) (.ofValue (htimes 63))
    rwa [RoundTrips, hdatum, if_neg (by decide)] at h
  · have h := hwrite request (hfloats 62) (.ofValue (htimes 62))
    rwa [RoundTrips, hrequest, if_pos (by decide)] at h

end NodeAccess

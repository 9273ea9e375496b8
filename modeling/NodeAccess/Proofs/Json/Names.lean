import NodeAccess.Json.Names
import NodeAccess.Proofs.Json.Decoding
import NodeAccess.Proofs.NodeId.Text
import NodeAccess.Proofs.Timestamp.Text

/-!
# Identifiers, names and masks recovered

Identifiers and regular points in time are recovered because their texts read back, masks and codes
because they are within the bounds of their numbers, and names and table entries field by field.
-/

set_option autoImplicit false

namespace NodeAccess

open Decoder

theorem NodeId.recovers_toJson (id : NodeId) : NodeId.decode.Recovers id.toJson id := by
  apply (recovers_text id.toText).andThen
  rw [read?, read, toText, String.toList_ofList, readChars_render]
  rfl

theorem Guid.recovers_toJson (g : Guid) : Guid.decode.Recovers g.toJson g := by
  apply (recovers_text g.toText).andThen
  rw [toText, String.toList_ofList, read?_render]

theorem Timestamp.IsRegular.recovers_toJson {t : Timestamp} (h : t.IsRegular) :
    Timestamp.decode.Recovers t.toJson t := by
  apply (recovers_text t.toText).andThen
  rw [toText, String.toList_ofList, h.read?_render]

theorem StatusCode.recovers_toJson (s : StatusCode) : StatusCode.decode.Recovers s.toJson s := by
  apply (recovers_natural s.bits.toNat_lt).andThen
  rw [UInt32.ofNat_toNat]

theorem PermissionMask.recovers_toJson (m : PermissionMask) :
    PermissionMask.decode.Recovers m.toJson m := by
  apply (recovers_natural m.bits.toNat_lt).andThen
  rw [UInt32.ofNat_toNat]

theorem QualifiedName.recovers_toJson (n : QualifiedName) :
    QualifiedName.decode.Recovers n.toJson n := by
  have hindex := recovers_natural n.namespaceIndex.toNat_lt
  refine Fields.recovers_object rfl (by decide) ⟨trivial, trivial, trivial⟩ ?_
  intro depth
  rw [Fields.required_eq rfl hindex, Fields.required_eq rfl (recovers_text n.name)]
  simp only [Fields.bind_if, UInt16.ofNat_toNat, Json.nestingOfMembers, Nat.max_le, ite_and,
    Nat.zero_le, if_true]

theorem LocalizedText.recovers_toJson (t : LocalizedText) :
    LocalizedText.decode.Recovers t.toJson t := by
  refine Fields.recovers_object rfl (by decide) ⟨trivial, trivial, trivial⟩ ?_
  intro depth
  rw [Fields.required_eq rfl (recovers_text t.locale),
    Fields.required_eq rfl (recovers_text t.text)]
  simp only [Fields.bind_if, Json.nestingOfMembers, Nat.max_le, ite_and, Nat.zero_le, if_true]

theorem RolePermission.recovers_toJson (e : RolePermission) :
    RolePermission.decode.Recovers e.toJson e := by
  refine Fields.recovers_object rfl (by decide) ⟨trivial, trivial, trivial⟩ ?_
  intro depth
  rw [Fields.required_eq rfl e.role.recovers_toJson,
    Fields.required_eq rfl e.permissions.recovers_toJson]
  simp only [Fields.bind_if, Json.nestingOfMembers, Nat.max_le, ite_and, Nat.zero_le, if_true]

end NodeAccess

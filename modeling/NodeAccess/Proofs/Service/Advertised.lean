import NodeAccess.Proofs.Service.Dispatch

/-!
# Access is enforced as it is advertised

A variable advertises what may be done with it: to everyone in its access level, and to a caller in
the user access level and in the entries of the table that the caller sees. The same caller can
work out from these three answers alone what becomes of every other request that depends on access:
a read or a write of the value, a read of the whole table, and a write of the flag for keeping a
history.

The two stages in which the value is checked, first for everyone and then for the caller, come down
to the user access level, because that is a part of the access level.
-/

set_option autoImplicit false

namespace NodeAccess

namespace Variable

variable {R W M : Type}

/-- A read reaches the value if the handler for reads answers it, or the stored value where there
is no handler, whatever is stored and whatever handlers do. -/
def ReadReaches (v : Variable R W) (now : Timestamp) (ctx : RequestContext) (r : ReadRequest) :
    Prop :=
  ∀ (M : Type) (h : Handlers R W M) (value : DataValue) (m : M),
    (v.setValue value).read h now ctx r m =
      match v.state.readHandler with
      | some handler => h.onRead handler ctx r (v.setValue value) m
      | none => (v.setValue value).answered m value

/-- A write reaches the value if the handler for writes takes it, or if it replaces the stored value
where there is no handler, whatever handlers do. -/
def WriteReaches (v : Variable R W) (ctx : RequestContext) (r : WriteRequest) : Prop :=
  ∀ (M : Type) (h : Handlers R W M) (m : M),
    v.write h ctx r m =
      match v.state.writeHandler with
      | some handler => h.onWrite handler ctx r v m
      | none => (v.setValue r.value).answered m .good

/-- A read of the value reaches it when nothing refuses the read. The other way round, a refusal is
told from the value by storing a value, or by a handler that answers one. -/
theorem readReaches_iff (v : Variable R W) (now : Timestamp) (ctx : RequestContext)
    (r : ReadRequest) (ht : v.target r.node r.attributeId = .ok .value) :
    v.ReadReaches now ctx r ↔ v.readRefusal? ctx = none := by
  -- neither the target nor the refusal depends on the stored value
  have htarget : ∀ value, (v.setValue value).target r.node r.attributeId = .ok .value :=
    fun _ => ht
  have hrefusal : ∀ value, (v.setValue value).readRefusal? ctx = v.readRefusal? ctx :=
    fun _ => rfl
  constructor
  · intro hreach
    cases hr : v.readRefusal? ctx with
    | none => rfl
    | some status =>
      have hsame := hreach Unit (.constant R W (.ofValue (.boolean true)) .good)
        (.ofValue (.boolean true)) ()
      rw [read_of_target_value _ _ _ _ _ _ (htarget _), hrefusal, hr] at hsame
      have hvalue := congrArg (fun o => o.answer.value) hsame
      cases hh : v.state.readHandler <;> rw [hh] at hvalue <;> cases hvalue
  · intro hr M h value m
    rw [read_of_target_value _ _ _ _ _ _ (htarget value), hrefusal, hr]
    rfl

/-- A write of the value reaches it when nothing refuses the write, since no refusal is good. -/
theorem writeReaches_iff (v : Variable R W) (ctx : RequestContext) (r : WriteRequest)
    (ht : v.target r.node r.attributeId = .ok .value) :
    v.WriteReaches ctx r ↔ v.writeRefusal? ctx = none := by
  constructor
  · intro hreach
    cases hr : v.writeRefusal? ctx with
    | none => rfl
    | some status =>
      have hsame := hreach Unit (.constant R W {} .good) ()
      rw [write_of_target_value _ _ _ _ _ ht, hr] at hsame
      have hstatus := congrArg Outcome.answer hsame
      refine absurd ?_ (ne_good_of_writeRefusal? hr)
      cases hh : v.state.writeHandler <;> rw [hh] at hstatus <;> exact hstatus
  · intro hr M h m
    rw [write_of_target_value _ _ _ _ _ ht, hr]
    rfl

/-- A read of the value reaches it when the caller's level has the bit for reading. -/
theorem readReaches_value_iff (v : Variable R W) (now : Timestamp) (ctx : RequestContext)
    (range : Option String) :
    v.ReadReaches now ctx (v.readOf .value range) ↔
      (v.userAccessLevel ctx).bits &&& 0x01 = 0x01 := by
  rw [v.readReaches_iff now ctx _ (v.target_readOf (by decide) range), readRefusal?_eq]
  split <;> simp_all

/-- Without that bit, the access level says how the read is refused. -/
theorem read_value_refused (h : Handlers R W M) (now : Timestamp) (ctx : RequestContext)
    (v : Variable R W) (range : Option String) (m : M)
    (hu : (v.userAccessLevel ctx).bits &&& 0x01 ≠ 0x01) :
    v.read h now ctx (v.readOf .value range) m = v.answered m (.ofStatus
      (if v.attributes.accessLevel.bits &&& 0x01 = 0x01 then .badUserAccessDenied
        else .badNotReadable)) := by
  rw [v.read_of_target_value h now ctx _ m (v.target_readOf (by decide) range), readRefusal?_eq,
    if_neg hu]

/-- A write of the value reaches it when the caller's level has the bit for writing. -/
theorem writeReaches_value_iff (v : Variable R W) (ctx : RequestContext) (range : Option String)
    (value : DataValue) :
    v.WriteReaches ctx (v.writeOf .value range value) ↔
      (v.userAccessLevel ctx).bits &&& 0x02 = 0x02 := by
  rw [v.writeReaches_iff ctx _ (v.target_writeOf (by decide) range value), writeRefusal?_eq]
  split <;> simp_all

/-- Without that bit, the access level says how the write is refused. -/
theorem write_value_refused (h : Handlers R W M) (ctx : RequestContext) (v : Variable R W)
    (range : Option String) (value : DataValue) (m : M)
    (hu : (v.userAccessLevel ctx).bits &&& 0x02 ≠ 0x02) :
    v.write h ctx (v.writeOf .value range value) m = v.answered m
      (if v.attributes.accessLevel.bits &&& 0x02 = 0x02 then .badUserAccessDenied
        else .badNotWritable) := by
  rw [v.write_of_target_value h ctx _ m (v.target_writeOf (by decide) range value),
    writeRefusal?_eq, if_neg hu]

/-- What is advertised to a caller decides every request of the caller that depends on access.

The first three parts read the access level, the user access level and the visible entries; `base`,
`user` and `entries` are what they answer. The other four say, in these terms, what becomes of
reads and writes of the value, of reads of the whole table and of writes of the flag. -/
theorem access_enforced_as_advertised (h : Handlers R W M) (now : Timestamp)
    (ctx : RequestContext) (v : Variable R W) :
    ∃ (base user : UInt8) (entries : RoleTable),
      (∀ range m, v.read h now ctx (v.readOf .accessLevel range) m =
        v.answered m (.stamped now (.byte base))) ∧
      (∀ range m, v.read h now ctx (v.readOf .userAccessLevel range) m =
        v.answered m (.stamped now (.byte user))) ∧
      (∀ range m, v.read h now ctx (v.readOf .userRolePermissions range) m =
        v.answered m (.stamped now (.array (entries.map .rolePermission)))) ∧
      (∀ range, (v.ReadReaches now ctx (v.readOf .value range) ↔ user &&& 0x01 = 0x01) ∧
        (user &&& 0x01 ≠ 0x01 → ∀ m, v.read h now ctx (v.readOf .value range) m =
          v.answered m (.ofStatus
            (if base &&& 0x01 = 0x01 then .badUserAccessDenied else .badNotReadable)))) ∧
      (∀ range value, (v.WriteReaches ctx (v.writeOf .value range value) ↔
          user &&& 0x02 = 0x02) ∧
        (user &&& 0x02 ≠ 0x02 → ∀ m, v.write h ctx (v.writeOf .value range value) m =
          v.answered m
            (if base &&& 0x02 = 0x02 then .badUserAccessDenied else .badNotWritable))) ∧
      (∀ range m, v.read h now ctx (v.readOf .rolePermissions range) m =
        v.answered m (if entries.union.contains Permission.readRolePermissions.mask then
          .stamped now (.array (v.attributes.rolePermissions.map .rolePermission))
        else .ofStatus .badUserAccessDenied)) ∧
      (∀ range value m, v.write h ctx (v.writeOf .historizing range value) m =
        if entries.union.contains Permission.writeHistorizing.mask then
          match value.value with
          | .boolean historizing => (v.setHistorizing historizing).answered m .good
          | _ => v.answered m .badTypeMismatch
        else v.answered m .badUserAccessDenied) := by
  have hother : ∀ (a : AttributeId) (x : Variant) (range : Option String) (m : M),
      a ∈ supportedAttributes → a ≠ .value → a ≠ .rolePermissions → v.attribute? ctx a = some x →
      v.read h now ctx (v.readOf a range) m = v.answered m (.stamped now x) :=
    fun a x range m ha hv hp hx =>
      v.read_of_target_other h now ctx _ m (v.target_readOf ha range) hv hp hx
  refine ⟨v.attributes.accessLevel.bits, (v.userAccessLevel ctx).bits, v.userRolePermissions ctx,
    ?_, ?_, ?_, ?_, ?_, ?_, ?_⟩
  · exact fun range m => hother .accessLevel _ range m (by decide) nofun nofun rfl
  · exact fun range m => hother .userAccessLevel _ range m (by decide) nofun nofun rfl
  · exact fun range m => hother .userRolePermissions _ range m (by decide) nofun nofun rfl
  · exact fun range => ⟨v.readReaches_value_iff now ctx range,
      fun hu m => v.read_value_refused h now ctx range m hu⟩
  · exact fun range value => ⟨v.writeReaches_value_iff ctx range value,
      fun hu m => v.write_value_refused h ctx range value m hu⟩
  · intro range m
    rw [v.read_of_target_rolePermissions h now ctx _ m (v.target_readOf (by decide) range),
      userPermissions_eq_union]
    split <;> rfl
  · intro range value m
    rw [v.write_of_target_historizing h ctx _ m (v.target_writeOf (by decide) range value),
      writeHistorizing, userPermissions_eq_union]
    rfl

end Variable

end NodeAccess

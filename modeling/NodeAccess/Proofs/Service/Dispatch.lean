import NodeAccess.Service
import NodeAccess.Proofs.Access.Visible

/-!
# What a request does, by the attribute that it is about

A request has a target, which is the attribute that it is about, or the reason why it is about
none. Reads and writes are decided by their target; there is one equation for each kind of target,
and everything that is said about requests elsewhere goes through these.
-/

set_option autoImplicit false

namespace NodeAccess

namespace AttributeId

/-- The list of all attributes has the attribute with number `i + 1` in place `i`. -/
theorem number_of_getElem?_all {i : Nat} {a : AttributeId} (h : all[i]? = some a) :
    a.number = UInt32.ofNat (i + 1) := by
  have hplaces : ∀ j : Fin all.length, (all[j]).number = UInt32.ofNat (j.val + 1) := by decide
  obtain ⟨hi, rfl⟩ := List.getElem?_eq_some_iff.mp h
  exact hplaces ⟨i, hi⟩

/-- A number makes an attribute exactly when it is the number of that attribute. -/
theorem ofNumber?_eq_some_iff (n : UInt32) (a : AttributeId) :
    ofNumber? n = some a ↔ n = a.number := by
  constructor
  · intro h
    unfold ofNumber? at h
    split at h
    · cases h
    · rename_i hn
      have hpos : n.toNat ≠ 0 := fun h0 => hn (UInt32.toNat_inj.mp h0)
      rw [number_of_getElem?_all h, Nat.sub_add_cancel (Nat.pos_of_ne_zero hpos),
        UInt32.ofNat_toNat]
  · rintro rfl
    exact ofNumber?_number a

/-- Different attributes have different numbers. -/
theorem number_inj {a b : AttributeId} : a.number = b.number ↔ a = b := by
  rw [← ofNumber?_eq_some_iff, ofNumber?_number, Option.some_inj]

end AttributeId

/-- Handlers that give the same answer to everyone and change nothing. -/
def Handlers.constant (R W : Type) (value : DataValue) (status : StatusCode) :
    Handlers R W Unit where
  onRead _ _ _ v m := v.answered m value
  onWrite _ _ _ v m := v.answered m status

namespace Variable

variable {R W M : Type}

/-- A request for an attribute of the variable itself. -/
def readOf (v : Variable R W) (a : AttributeId) (indexRange : Option String) : ReadRequest :=
  ⟨v.attributes.nodeId, a.number, indexRange⟩

/-- A request to write an attribute of the variable itself. -/
def writeOf (v : Variable R W) (a : AttributeId) (indexRange : Option String)
    (value : DataValue) : WriteRequest :=
  ⟨v.attributes.nodeId, a.number, indexRange, value⟩

/-! ## Targets -/

/-- The numbers that variables support are those of the attributes in their list. -/
theorem supports_eq_true_iff (n : UInt32) :
    supports n = true ↔ ∃ a ∈ supportedAttributes, n = a.number := by
  unfold supports
  cases h : AttributeId.ofNumber? n with
  | none =>
    simp only [Bool.false_eq_true, false_iff, not_exists, not_and]
    rintro a - rfl
    rw [AttributeId.ofNumber?_number] at h
    cases h
  | some a =>
    obtain rfl := (AttributeId.ofNumber?_eq_some_iff n a).mp h
    simp [AttributeId.number_inj]

/-- A request is about an attribute when it names the node and the number of an attribute that
variables support. -/
theorem target_eq_ok_iff (v : Variable R W) (node : NodeId) (n : UInt32) (a : AttributeId) :
    v.target node n = .ok a ↔
      node = v.attributes.nodeId ∧ a ∈ supportedAttributes ∧ n = a.number := by
  unfold target
  by_cases hnode : node = v.attributes.nodeId
  · subst hnode
    by_cases hn : supports n = true
    · obtain ⟨b, hb, rfl⟩ := (supports_eq_true_iff n).mp hn
      rw [if_neg (not_not_intro rfl), if_neg (by simp [hn]), AttributeId.ofNumber?_number]
      constructor
      · intro h
        cases h
        exact ⟨rfl, hb, rfl⟩
      · rintro ⟨-, -, h⟩
        rw [AttributeId.number_inj.mp h]
    · rw [if_neg (not_not_intro rfl), if_pos (by simpa using hn)]
      constructor
      · intro h
        cases h
      · rintro ⟨-, ha, rfl⟩
        exact absurd ((supports_eq_true_iff _).mpr ⟨a, ha, rfl⟩) hn
  · simp [hnode]

/-- A request for a supported attribute of the variable itself is about that attribute. -/
theorem target_readOf (v : Variable R W) {a : AttributeId} (ha : a ∈ supportedAttributes)
    (range : Option String) :
    v.target (v.readOf a range).node (v.readOf a range).attributeId = .ok a :=
  (v.target_eq_ok_iff _ _ a).mpr ⟨rfl, ha, rfl⟩

/-- A request to write a supported attribute of the variable itself is about that attribute. -/
theorem target_writeOf (v : Variable R W) {a : AttributeId} (ha : a ∈ supportedAttributes)
    (range : Option String) (value : DataValue) :
    v.target (v.writeOf a range value).node (v.writeOf a range value).attributeId = .ok a :=
  (v.target_eq_ok_iff _ _ a).mpr ⟨rfl, ha, rfl⟩

/-- A request about no attribute is answered by a status that is not good. -/
theorem ne_good_of_target_eq_error {v : Variable R W} {node : NodeId} {n : UInt32}
    {status : StatusCode} (h : v.target node n = .error status) : status ≠ .good := by
  unfold target at h
  split at h
  · cases h
    decide
  · split at h
    · cases h
      decide
    · split at h
      · cases h
      · cases h
        decide

/-! ## Refusals -/

/-- Two checks in a row, of which the second passes only where the first does, come down to the
second; the first only decides what the refusal is. -/
theorem refusal_eq {first second : Bool} (h : second = true → first = true)
    (status₁ status₂ : StatusCode) :
    (if !first then some status₁ else if !second then some status₂ else none) =
      if second then none else some (if first then status₂ else status₁) := by
  cases second with
  | true => simp [h rfl]
  | false => cases first <;> rfl

/-- Such a refusal is one of the two. -/
theorem eq_or_eq_of_refusal {first second : Bool} {status₁ status₂ status : StatusCode}
    (h : (if !first then some status₁ else if !second then some status₂ else none) = some status) :
    status = status₁ ∨ status = status₂ := by
  cases first with
  | false => exact .inl (Option.some.inj h).symm
  | true =>
    cases second with
    | false => exact .inr (Option.some.inj h).symm
    | true => cases h

/-- The access level only decides how a caller is refused who may not read the value. -/
theorem readRefusal?_eq (v : Variable R W) (ctx : RequestContext) :
    v.readRefusal? ctx =
      if (v.userAccessLevel ctx).bits &&& 0x01 = 0x01 then none
      else some (if v.attributes.accessLevel.bits &&& 0x01 = 0x01 then .badUserAccessDenied
        else .badNotReadable) := by
  simp only [← AccessLevel.contains_currentRead_iff]
  exact refusal_eq contains_of_contains_userAccessLevel _ _

/-- The access level only decides how a caller is refused who may not write the value. -/
theorem writeRefusal?_eq (v : Variable R W) (ctx : RequestContext) :
    v.writeRefusal? ctx =
      if (v.userAccessLevel ctx).bits &&& 0x02 = 0x02 then none
      else some (if v.attributes.accessLevel.bits &&& 0x02 = 0x02 then .badUserAccessDenied
        else .badNotWritable) := by
  simp only [← AccessLevel.contains_currentWrite_iff]
  exact refusal_eq contains_of_contains_userAccessLevel _ _

/-- A refusal to read the value is no good status. -/
theorem ne_good_of_readRefusal? {v : Variable R W} {ctx : RequestContext} {status : StatusCode}
    (h : v.readRefusal? ctx = some status) : status ≠ .good := by
  obtain rfl | rfl := eq_or_eq_of_refusal h <;> decide

/-- A refusal to write the value is no good status. -/
theorem ne_good_of_writeRefusal? {v : Variable R W} {ctx : RequestContext} {status : StatusCode}
    (h : v.writeRefusal? ctx = some status) : status ≠ .good := by
  obtain rfl | rfl := eq_or_eq_of_refusal h <;> decide

/-! ## Reads -/

section Read

variable (h : Handlers R W M) (now : Timestamp) (ctx : RequestContext) (v : Variable R W)
  (r : ReadRequest) (m : M)

/-- A read about no attribute is answered by the reason. -/
theorem read_of_target_error {status : StatusCode}
    (ht : v.target r.node r.attributeId = .error status) :
    v.read h now ctx r m = v.answered m (.ofStatus status) := by
  unfold read
  rw [ht]

/-- A read of the value is refused, or fetches it. -/
theorem read_of_target_value (ht : v.target r.node r.attributeId = .ok .value) :
    v.read h now ctx r m =
      match v.readRefusal? ctx with
      | some status => v.answered m (.ofStatus status)
      | none => v.fetch h ctx r m := by
  cases hrefusal : v.readRefusal? ctx <;> simp only [read, ht, hrefusal]

/-- Where a handler answers reads, it is asked. -/
theorem fetch_of_handler {handler : R} (hh : v.state.readHandler = some handler) :
    v.fetch h ctx r m = h.onRead handler ctx r v m := by
  simp only [fetch, hh]

/-- Where none does, the answer is the stored value as it is. -/
theorem fetch_of_no_handler (hh : v.state.readHandler = none) :
    v.fetch h ctx r m = v.answered m v.state.value := by
  simp only [fetch, hh]

/-- A read of the whole table needs the permission to do so. -/
theorem read_of_target_rolePermissions (ht : v.target r.node r.attributeId = .ok .rolePermissions) :
    v.read h now ctx r m =
      if (v.userPermissions ctx).contains Permission.readRolePermissions.mask then
        v.answered m
          (.stamped now (.array (v.attributes.rolePermissions.map .rolePermission)))
      else v.answered m (.ofStatus .badUserAccessDenied) := by
  unfold read
  rw [ht]
  cases (v.userPermissions ctx).contains Permission.readRolePermissions.mask <;> rfl

/-- Every other attribute that variables support is there for everyone. -/
theorem attribute?_isSome (a : AttributeId) (ha : a ∈ supportedAttributes) (hv : a ≠ .value) :
    ∃ x, v.attribute? ctx a = some x := by
  cases a <;> first | exact ⟨_, rfl⟩ | exact absurd rfl hv | exact absurd ha (by decide)

/-- A read of any other attribute is answered by the attribute as it is now. -/
theorem read_of_target_other {a : AttributeId} {x : Variant}
    (ht : v.target r.node r.attributeId = .ok a) (hv : a ≠ .value) (hp : a ≠ .rolePermissions)
    (hx : v.attribute? ctx a = some x) :
    v.read h now ctx r m = v.answered m (.stamped now x) := by
  unfold read
  rw [ht]
  split
  · contradiction
  · rename_i heq
    cases heq
    contradiction
  · rename_i b _ heq
    cases heq
    simp [hp, hx]

/-- The ways in which a read can end, each with what has to hold for it. -/
inductive ReadEnding : Outcome DataValue R W M → Prop where
  | refused (status : StatusCode) : status ≠ .good → ReadEnding (v.answered m (.ofStatus status))
  | handled (handler : R) : v.target r.node r.attributeId = .ok .value →
      v.readRefusal? ctx = none → v.state.readHandler = some handler →
      ReadEnding (h.onRead handler ctx r v m)
  | fetched : v.target r.node r.attributeId = .ok .value → v.readRefusal? ctx = none →
      v.state.readHandler = none → ReadEnding (v.answered m v.state.value)
  | stamped (a : AttributeId) (x : Variant) : v.target r.node r.attributeId = .ok a →
      a ≠ .value → v.attribute? ctx a = some x →
      (a = .rolePermissions →
        (v.userPermissions ctx).contains Permission.readRolePermissions.mask = true) →
      ReadEnding (v.answered m (.stamped now x))

/-- Every read ends in one of these ways. -/
theorem read_ending : ReadEnding h now ctx v r m (v.read h now ctx r m) := by
  cases ht : v.target r.node r.attributeId with
  | error status =>
    rw [v.read_of_target_error h now ctx r m ht]
    exact .refused status (ne_good_of_target_eq_error ht)
  | ok a =>
    by_cases hv : a = .value
    · subst hv
      rw [v.read_of_target_value h now ctx r m ht]
      cases hr : v.readRefusal? ctx with
      | some status => exact .refused status (ne_good_of_readRefusal? hr)
      | none =>
        cases hh : v.state.readHandler with
        | some handler =>
          simp only [v.fetch_of_handler h ctx r m hh]
          exact .handled handler ht hr hh
        | none =>
          simp only [v.fetch_of_no_handler h ctx r m hh]
          exact .fetched ht hr hh
    · obtain ⟨-, ha, -⟩ := (v.target_eq_ok_iff _ _ _).mp ht
      obtain ⟨x, hx⟩ := v.attribute?_isSome ctx a ha hv
      by_cases hp : a = .rolePermissions
      · subst hp
        rw [v.read_of_target_rolePermissions h now ctx r m ht]
        split
        · rename_i hheld
          exact .stamped .rolePermissions _ ht hv rfl fun _ => hheld
        · exact .refused _ (by decide)
      · rw [v.read_of_target_other h now ctx r m ht hv hp hx]
        exact .stamped a x ht hv hx fun h => absurd h hp

end Read

/-! ## Writes -/

section Write

variable (h : Handlers R W M) (ctx : RequestContext) (v : Variable R W) (r : WriteRequest) (m : M)

/-- A write about no attribute is answered by the reason. -/
theorem write_of_target_error {status : StatusCode}
    (ht : v.target r.node r.attributeId = .error status) :
    v.write h ctx r m = v.answered m status := by
  unfold write
  rw [ht]

/-- A write of the value is refused, or stores it. -/
theorem write_of_target_value (ht : v.target r.node r.attributeId = .ok .value) :
    v.write h ctx r m =
      match v.writeRefusal? ctx with
      | some status => v.answered m status
      | none => v.store h ctx r m := by
  cases hrefusal : v.writeRefusal? ctx <;> simp only [write, ht, hrefusal]

/-- Where a handler takes writes, it gets this one. -/
theorem store_of_handler {handler : W} (hh : v.state.writeHandler = some handler) :
    v.store h ctx r m = h.onWrite handler ctx r v m := by
  simp only [store, hh]

/-- Where none does, the value is stored as it is. -/
theorem store_of_no_handler (hh : v.state.writeHandler = none) :
    v.store h ctx r m = (v.setValue r.value).answered m .good := by
  simp only [store, hh]

/-- A write of the flag for keeping a history. -/
theorem write_of_target_historizing (ht : v.target r.node r.attributeId = .ok .historizing) :
    v.write h ctx r m = v.writeHistorizing ctx r m := by
  unfold write
  rw [ht]

/-- Nothing else can be written. -/
theorem write_of_target_other {a : AttributeId} (ht : v.target r.node r.attributeId = .ok a)
    (hv : a ≠ .value) (hh : a ≠ .historizing) :
    v.write h ctx r m = v.answered m .badNotWritable := by
  unfold write
  rw [ht]
  split <;> simp_all

/-- The ways in which a write can end, each with what has to hold for it. -/
inductive WriteEnding : Outcome StatusCode R W M → Prop where
  | refused (status : StatusCode) : status ≠ .good → WriteEnding (v.answered m status)
  | handled (handler : W) : v.target r.node r.attributeId = .ok .value →
      v.writeRefusal? ctx = none → v.state.writeHandler = some handler →
      WriteEnding (h.onWrite handler ctx r v m)
  | stored : v.target r.node r.attributeId = .ok .value → v.writeRefusal? ctx = none →
      v.state.writeHandler = none → WriteEnding ((v.setValue r.value).answered m .good)
  | flagged (historizing : Bool) : v.target r.node r.attributeId = .ok .historizing →
      (v.userPermissions ctx).contains Permission.writeHistorizing.mask = true →
      r.value.value = .boolean historizing →
      WriteEnding ((v.setHistorizing historizing).answered m .good)

/-- Every write ends in one of these ways. -/
theorem write_ending : WriteEnding h ctx v r m (v.write h ctx r m) := by
  cases ht : v.target r.node r.attributeId with
  | error status =>
    rw [v.write_of_target_error h ctx r m ht]
    exact .refused status (ne_good_of_target_eq_error ht)
  | ok a =>
    by_cases hv : a = .value
    · subst hv
      rw [v.write_of_target_value h ctx r m ht]
      cases hr : v.writeRefusal? ctx with
      | some status => exact .refused status (ne_good_of_writeRefusal? hr)
      | none =>
        cases hh : v.state.writeHandler with
        | some handler =>
          simp only [v.store_of_handler h ctx r m hh]
          exact .handled handler ht hr hh
        | none =>
          simp only [v.store_of_no_handler h ctx r m hh]
          exact .stored ht hr hh
    · by_cases hf : a = .historizing
      · subst hf
        rw [v.write_of_target_historizing h ctx r m ht, writeHistorizing]
        split
        · rename_i hheld
          split
          · rename_i historizing hb
            exact .flagged historizing ht hheld hb
          · exact .refused _ (by decide)
        · exact .refused _ (by decide)
      · rw [v.write_of_target_other h ctx r m ht hv hf]
        exact .refused _ (by decide)

end Write

end Variable

end NodeAccess

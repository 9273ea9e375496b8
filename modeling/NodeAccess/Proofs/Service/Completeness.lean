import NodeAccess.Proofs.Service.Run

/-!
# Every supported attribute is answered

A request that names another node is refused first, and one for a number that variables do not
support second; neither depends on who asks. What is left is a supported attribute. It can be read by
everyone, as the variable's own field, unless it is the value or the whole table; and it cannot be
written by anyone, unless it is the value or the flag for keeping a history.
-/

set_option autoImplicit false

namespace NodeAccess

namespace Variable

variable {R W M : Type}

/-- The value that stands for an attribute of a variable: the variable's own field, or what the caller
may do and see, in a value of the type of the attribute. Tables and dimensions are arrays with an item
for each entry, in order. -/
inductive Shows (v : Variable R W) (ctx : RequestContext) : AttributeId → Variant → Prop
  | nodeId : Shows v ctx .nodeId (.nodeId v.attributes.nodeId)
  | nodeClass : Shows v ctx .nodeClass (.int32 2)
  | browseName : Shows v ctx .browseName (.qualifiedName v.attributes.browseName)
  | displayName : Shows v ctx .displayName (.localizedText v.attributes.displayName)
  | description : Shows v ctx .description (.localizedText v.attributes.description)
  | userRolePermissions :
      Shows v ctx .userRolePermissions (.array ((v.userRolePermissions ctx).map .rolePermission))
  | dataType : Shows v ctx .dataType (.nodeId v.attributes.dataType)
  | valueRank : Shows v ctx .valueRank (.int32 v.attributes.valueRank)
  | arrayDimensions :
      Shows v ctx .arrayDimensions (.array (v.attributes.arrayDimensions.map .uint32))
  | accessLevel : Shows v ctx .accessLevel (.byte v.attributes.accessLevel.bits)
  | userAccessLevel : Shows v ctx .userAccessLevel (.byte (v.userAccessLevel ctx).bits)
  | minimumSamplingInterval :
      Shows v ctx .minimumSamplingInterval (.double v.attributes.minimumSamplingInterval)
  | historizing : Shows v ctx .historizing (.boolean v.state.historizing)

/-- What can be told about a variable from the attributes that everyone may read. -/
structure LooksLike (v v' : Variable R W) (ctx : RequestContext) : Prop where
  attributes : v'.attributes =
    { v.attributes with
      rolePermissions := v'.attributes.rolePermissions
      accessRestrictions := v'.attributes.accessRestrictions }
  userAccessLevel : v'.userAccessLevel ctx = v.userAccessLevel ctx
  userRolePermissions : v'.userRolePermissions ctx = v.userRolePermissions ctx
  historizing : v'.state.historizing = v.state.historizing

/-! ## Targets -/

theorem target_of_ne {v : Variable R W} {node : NodeId} (h : node ≠ v.attributes.nodeId)
    (n : UInt32) : v.target node n = .error .badNodeIdUnknown :=
  if_pos h

theorem target_of_unsupported (v : Variable R W) {n : UInt32} (h : supports n = false) :
    v.target v.attributes.nodeId n = .error .badAttributeIdInvalid := by
  unfold target
  rw [if_neg (not_not_intro rfl), if_pos (by rw [h]; rfl)]

/-! ## Reads -/

section Read

variable {v v' : Variable R W} {ctx : RequestContext} {a : AttributeId} {x : Variant}

theorem shows_of_attribute? (h : v.attribute? ctx a = some x) (hp : a ≠ .rolePermissions) :
    v.Shows ctx a x := by
  cases a <;> first | contradiction | (obtain rfl := Option.some.inj h; constructor)

theorem Shows.attribute?_eq (h : v.Shows ctx a x) : v.attribute? ctx a = some x := by
  cases h <;> rfl

/-- A supported attribute other than the value and the whole table shows in every read of it. -/
theorem read_shows (h : Handlers R W M) (now : Timestamp) (ctx : RequestContext)
    (v : Variable R W) (ha : a ∈ supportedAttributes) (hv : a ≠ .value) (hp : a ≠ .rolePermissions)
    (range : Option String) :
    ∃ x, v.Shows ctx a x ∧
      ∀ m : M, v.read h now ctx (v.readOf a range) m = v.answered m (.stamped now x) := by
  obtain ⟨x, hx⟩ := v.attribute?_isSome ctx a ha hv
  exact ⟨x, shows_of_attribute? hx hp, fun m =>
    v.read_of_target_other h now ctx _ m (v.target_readOf ha range) hv hp hx⟩

/-- No field is lost in the value that shows it, and no entry of an array. -/
theorem looksLike_of_attribute?_eq
    (h : ∀ a ∈ supportedAttributes, a ≠ .value → a ≠ .rolePermissions →
      v'.attribute? ctx a = v.attribute? ctx a) : v.LooksLike v' ctx := by
  -- each field is found under the constructor of its type, which is injective
  have hlevels : ∀ {b c : AccessLevel}, b.bits = c.bits → b = c := congrArg AccessLevel.mk
  have hid := Variant.nodeId.inj (Option.some.inj (h .nodeId (by decide) nofun nofun))
  have hname := Variant.qualifiedName.inj (Option.some.inj (h .browseName (by decide) nofun nofun))
  have hdisplay :=
    Variant.localizedText.inj (Option.some.inj (h .displayName (by decide) nofun nofun))
  have hdescription :=
    Variant.localizedText.inj (Option.some.inj (h .description (by decide) nofun nofun))
  have hdata := Variant.nodeId.inj (Option.some.inj (h .dataType (by decide) nofun nofun))
  have hrank := Variant.int32.inj (Option.some.inj (h .valueRank (by decide) nofun nofun))
  have hdimensions := (List.map_inj_right fun _ _ => Variant.uint32.inj).mp
    (Variant.array.inj (Option.some.inj (h .arrayDimensions (by decide) nofun nofun)))
  have hlevel :=
    hlevels (Variant.byte.inj (Option.some.inj (h .accessLevel (by decide) nofun nofun)))
  have hinterval :=
    Variant.double.inj (Option.some.inj (h .minimumSamplingInterval (by decide) nofun nofun))
  constructor
  · dsimp only
    rw [← hid, ← hname, ← hdisplay, ← hdescription, ← hdata, ← hrank, ← hdimensions, ← hlevel,
      ← hinterval]
  · exact hlevels
      (Variant.byte.inj (Option.some.inj (h .userAccessLevel (by decide) nofun nofun)))
  · exact (List.map_inj_right fun _ _ => Variant.rolePermission.inj).mp
      (Variant.array.inj (Option.some.inj (h .userRolePermissions (by decide) nofun nofun)))
  · exact Variant.boolean.inj (Option.some.inj (h .historizing (by decide) nofun nofun))

/-- No attribute other than the value is refused for its number, if variables support it. -/
theorem status_read_eq_badAttributeIdInvalid_iff (h : Handlers R W M) (now : Timestamp)
    (ctx : RequestContext) (v : Variable R W) (r : ReadRequest) (m : M)
    (hn : r.attributeId ≠ AttributeId.value.number) :
    (v.read h now ctx r m).answer.status = .badAttributeIdInvalid ↔
      r.node = v.attributes.nodeId ∧ supports r.attributeId = false := by
  constructor
  · intro hstatus
    apply Classical.byContradiction
    intro hno
    revert hstatus
    cases ht : v.target r.node r.attributeId with
    | error status =>
      -- of the two reasons for having no target, only that of another node is left
      have hnode : r.node ≠ v.attributes.nodeId := by
        intro hnode
        have hsupported : supports r.attributeId = true := by simpa [hnode] using hno
        obtain ⟨a, ha, hnumber⟩ := (supports_eq_true_iff _).mp hsupported
        rw [(v.target_eq_ok_iff _ _ a).mpr ⟨hnode, ha, hnumber⟩] at ht
        contradiction
      rw [v.read_of_target_error h now ctx r m (target_of_ne hnode _)]
      exact nofun
    | ok a =>
      obtain ⟨-, ha, hnumber⟩ := (v.target_eq_ok_iff _ _ a).mp ht
      have hv : a ≠ .value := by
        rintro rfl
        exact hn hnumber
      by_cases hp : a = .rolePermissions
      · subst hp
        rw [v.read_of_target_rolePermissions h now ctx r m ht]
        split <;> exact nofun
      · obtain ⟨x, hx⟩ := v.attribute?_isSome ctx a ha hv
        rw [v.read_of_target_other h now ctx r m ht hv hp hx]
        exact nofun
  · rintro ⟨hnode, hsupported⟩
    rw [v.read_of_target_error h now ctx r m (hnode ▸ v.target_of_unsupported hsupported)]
    rfl

end Read

/-- Reads and writes agree on what they take. A request that names another node is refused, whatever
the number; one for a number that variables do not support is refused next, whoever asks. What is left
is a supported attribute: but for the value and the whole table, everyone reads it as the variable's own
field, with the time of the server; but for the value and the flag for keeping a history, nobody writes
it. So no other read is refused for its number, and the fields can all be told from what is read. -/
theorem dispatch_complete (h : Handlers R W M) (now : Timestamp) (v : Variable R W) (m : M) :
    (∀ (node : NodeId) (n : UInt32) (ctx : RequestContext) (range : Option String)
        (value : DataValue),
      (node ≠ v.attributes.nodeId →
        v.read h now ctx ⟨node, n, range⟩ m = v.answered m (.ofStatus .badNodeIdUnknown) ∧
          v.write h ctx ⟨node, n, range, value⟩ m = v.answered m .badNodeIdUnknown) ∧
      (node = v.attributes.nodeId → supports n = false →
        v.read h now ctx ⟨node, n, range⟩ m = v.answered m (.ofStatus .badAttributeIdInvalid) ∧
          v.write h ctx ⟨node, n, range, value⟩ m = v.answered m .badAttributeIdInvalid) ∧
      (node = v.attributes.nodeId → supports n = true →
        ∃ a ∈ supportedAttributes, n = a.number ∧
          (a ≠ .value → a ≠ .rolePermissions → ∃ x, v.Shows ctx a x ∧
            v.read h now ctx ⟨node, n, range⟩ m = v.answered m
              { value := x
                status := .good
                sourceTimestamp := none
                serverTimestamp := some now }) ∧
          (a ≠ .value → a ≠ .historizing →
            v.write h ctx ⟨node, n, range, value⟩ m = v.answered m .badNotWritable)) ∧
      (n ≠ AttributeId.value.number →
        ((v.read h now ctx ⟨node, n, range⟩ m).answer.status = .badAttributeIdInvalid ↔
          node = v.attributes.nodeId ∧ supports n = false))) ∧
      (∀ ctx, ∀ a ∈ supportedAttributes, a ≠ .value → (v.attribute? ctx a).isSome = true) ∧
      ∀ (v' : Variable R W) (ctx : RequestContext),
        (∀ a ∈ supportedAttributes, a ≠ .value → a ≠ .rolePermissions →
          (v'.read h now ctx (v'.readOf a none) m).answer =
            (v.read h now ctx (v.readOf a none) m).answer) →
        v.LooksLike v' ctx := by
  refine ⟨fun node n ctx range value => ⟨?_, ?_, ?_, ?_⟩, ?_, ?_⟩
  · intro hnode
    have ht := target_of_ne hnode n
    exact ⟨v.read_of_target_error h now ctx _ m ht, v.write_of_target_error h ctx _ m ht⟩
  · rintro rfl hn
    have ht := v.target_of_unsupported hn
    exact ⟨v.read_of_target_error h now ctx _ m ht, v.write_of_target_error h ctx _ m ht⟩
  · rintro rfl hn
    obtain ⟨a, ha, rfl⟩ := (supports_eq_true_iff n).mp hn
    refine ⟨a, ha, rfl, ?_, ?_⟩
    · intro hv hp
      obtain ⟨x, hx, hread⟩ := v.read_shows h now ctx ha hv hp range
      exact ⟨x, hx, hread m⟩
    · intro hv hf
      exact v.write_of_target_other h ctx _ m (v.target_writeOf ha range value) hv hf
  · exact fun hn => status_read_eq_badAttributeIdInvalid_iff h now ctx v ⟨node, n, range⟩ m hn
  · exact fun ctx a ha hv => Option.isSome_iff_exists.mpr (v.attribute?_isSome ctx a ha hv)
  · intro v' ctx hsame
    apply looksLike_of_attribute?_eq
    intro a ha hv hp
    obtain ⟨x, hx, hread⟩ := v.read_shows h now ctx ha hv hp none
    obtain ⟨x', hx', hread'⟩ := v'.read_shows h now ctx ha hv hp none
    have hanswer := hsame a ha hv hp
    rw [hread m, hread' m] at hanswer
    rw [hx.attribute?_eq, hx'.attribute?_eq]
    exact congrArg (fun d => some d.value) hanswer

end Variable

/-- The level of a pump, to be read over a protected connection only. -/
def guardedLevel : Variable Unit Unit :=
  { pumpLevel with attributes := { pumpLevel.attributes with accessRestrictions := 1 } }

/-- Without a session, the name of the pump is read and cannot be written, under its own node only,
and nothing tells that the connection is restricted. -/
theorem dispatch_complete_pumpLevel :
    let h := Handlers.constant Unit Unit {} .good
    let ctx := RequestContext.background
    let valve : NodeId := .text 2 "Valve"
    pumpLevel.read h .year2000 ctx ⟨valve, AttributeId.browseName.number, none⟩ () =
        pumpLevel.answered () (.ofStatus .badNodeIdUnknown) ∧
      pumpLevel.read h .year2000 ctx ⟨pumpLevel.attributes.nodeId, 28, none⟩ () =
        pumpLevel.answered () (.ofStatus .badAttributeIdInvalid) ∧
      (∃ x, pumpLevel.Shows ctx .browseName x ∧
        (pumpLevel.read h .year2000 ctx (pumpLevel.readOf .browseName none) ()).answer.value = x) ∧
      pumpLevel.write h ctx (pumpLevel.writeOf .browseName none {}) () =
        pumpLevel.answered () .badNotWritable ∧
      pumpLevel.LooksLike guardedLevel ctx := by
  intro h ctx valve
  have hvalve : valve ≠ pumpLevel.attributes.nodeId := by decide
  obtain ⟨hrequests, -, hlooks⟩ := Variable.dispatch_complete h .year2000 pumpLevel ()
  obtain ⟨-, hunsupported, -⟩ := hrequests pumpLevel.attributes.nodeId 28 ctx none {}
  obtain ⟨-, -, hsupported, -⟩ := hrequests pumpLevel.attributes.nodeId
    AttributeId.browseName.number ctx none {}
  obtain ⟨a, -, hnumber, hread, hwrite⟩ := hsupported rfl (by decide)
  obtain rfl := AttributeId.number_inj.mp hnumber
  obtain ⟨x, hx, hgood⟩ := hread nofun nofun
  refine ⟨((hrequests valve AttributeId.browseName.number ctx none {}).1 hvalve).1,
    (hunsupported rfl (by decide)).1, ⟨x, hx, ?_⟩, hwrite nofun nofun, ?_⟩
  · exact congrArg (fun o => o.answer.value) hgood
  · apply hlooks
    intro a ha hv hp
    cases a <;> first | contradiction | rfl

end NodeAccess

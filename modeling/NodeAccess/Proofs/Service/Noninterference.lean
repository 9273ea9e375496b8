import NodeAccess.Proofs.Service.Run

/-!
# Callers learn nothing of entries that are not for them

Two callers with the same roles use two copies of a variable. The copies differ in the table of
the node, and the servers differ in their tables, but the callers see the same entries of the tables
that govern. Then no sequence of requests tells the two apart, except that a caller who may read the
whole table of the node reads it.

The proof runs both copies side by side. What carries it is that the copies stay in the same state:
one request finds the same target, the same refusal and the same permissions on both sides, so it
ends in the same way.
-/

set_option autoImplicit false

namespace NodeAccess

/-- A request of a caller. -/
inductive Request where
  | read (request : ReadRequest)
  | write (request : WriteRequest)

/-- A request as it is made in a session at a point in time. -/
def Request.operation {R W : Type} (now : Timestamp) (s : Session) : Request → Operation R W
  | .read r => .read now (.ofSession s) r
  | .write r => .write (.ofSession s) r

/-- Answers to the same request at two points in time that tell no more apart than these: the time
at which the server took the answer and, in answer to a permitted read of the whole table, that
table. -/
inductive Answer.Alike (now₁ now₂ : Timestamp) : Request → Answer → Answer → Prop where
  | same (q : Request) (a : Answer) : Alike now₁ now₂ q a a
  | stamped (r : ReadRequest) (value : Variant) :
      Alike now₁ now₂ (.read r) (.data (.stamped now₁ value)) (.data (.stamped now₂ value))
  | table (r : ReadRequest) (value₁ value₂ : Variant) :
      r.attributeId = AttributeId.rolePermissions.number →
      Alike now₁ now₂ (.read r) (.data (.stamped now₁ value₁)) (.data (.stamped now₂ value₂))

/-- The same requests, each at two points in time, that are answered alike in two runs and leave the
same states there. -/
inductive AnsweredAlike {R W : Type} :
    List (Timestamp × Timestamp × Request) → List (Event R W) → List (Event R W) → Prop where
  | nil : AnsweredAlike [] [] []
  | cons {now₁ now₂ : Timestamp} {q : Request} {e₁ e₂ : Event R W}
      {requests : List (Timestamp × Timestamp × Request)} {events₁ events₂ : List (Event R W)} :
      Answer.Alike now₁ now₂ q e₁.answer e₂.answer → e₁.after = e₂.after →
      AnsweredAlike requests events₁ events₂ →
      AnsweredAlike ((now₁, now₂, q) :: requests) (e₁ :: events₁) (e₂ :: events₂)

/-- Two variables that no sequence of requests tells apart in two sessions. -/
def Indistinguishable {R W M : Type} (h : Handlers R W M) (v₁ : Variable R W) (s₁ : Session)
    (v₂ : Variable R W) (s₂ : Session) : Prop :=
  ∀ (m₁ m₂ : M) (requests : List (Timestamp × Timestamp × Request)),
    let run₁ := v₁.run h m₁ (requests.map fun (now, _, q) => q.operation now s₁)
    let run₂ := v₂.run h m₂ (requests.map fun (_, now, q) => q.operation now s₂)
    AnsweredAlike requests run₁.events run₂.events ∧ run₁.final.state = run₂.final.state

/-- Callers with the same roles who see the same entries, where the tables of their nodes are
`table₁` and `table₂`. -/
structure SeeAlike (table₁ : RoleTable) (s₁ : Session) (table₂ : RoleTable) (s₂ : Session) :
    Prop where
  roles : s₁.roles = s₂.roles
  visible : (RoleTable.governing table₁ s₁.server.defaultTable).visible s₁.roles =
    (RoleTable.governing table₂ s₂.server.defaultTable).visible s₂.roles

namespace Variable

variable {R W M : Type}

/-- The variable with another table of its own. -/
def withTable (v : Variable R W) (table : RoleTable) : Variable R W :=
  { v with attributes := { v.attributes with rolePermissions := table } }

/-! ## Requests without handlers -/

/-- No read changes the state, if no handler answers reads. -/
theorem state_read_of_no_handler (h : Handlers R W M) (now : Timestamp) (ctx : RequestContext)
    (v : Variable R W) (hr : v.state.readHandler = none) (r : ReadRequest) (m : M) :
    (v.read h now ctx r m).state = v.state := by
  have hending := v.read_ending h now ctx r m
  generalize v.read h now ctx r m = o at hending
  cases hending with
  | refused | fetched | stamped => rfl
  | handled handler ht hrefusal hh => simp [hr] at hh

/-- No write installs a handler, if no handler takes writes. -/
theorem handlers_write_of_no_handler (h : Handlers R W M) (ctx : RequestContext)
    (v : Variable R W) (hw : v.state.writeHandler = none) (r : WriteRequest) (m : M) :
    (v.write h ctx r m).state.readHandler = v.state.readHandler ∧
      (v.write h ctx r m).state.writeHandler = none := by
  have hending := v.write_ending h ctx r m
  generalize v.write h ctx r m = o at hending
  cases hending with
  | refused | stored | flagged => exact ⟨rfl, hw⟩
  | handled handler ht hrefusal hh => simp [hw] at hh

/-! ## One request on both sides -/

section SeeAlike

variable {table₁ table₂ : RoleTable} {s₁ s₂ : Session} (hs : SeeAlike table₁ s₁ table₂ s₂)
  (v : Variable R W)

include hs

/-- Such callers see the same entries. -/
theorem userRolePermissions_alike :
    (v.withTable table₁).userRolePermissions (.ofSession s₁) =
      (v.withTable table₂).userRolePermissions (.ofSession s₂) :=
  hs.visible

/-- Such callers hold the same permissions. -/
theorem userPermissions_alike :
    (v.withTable table₁).userPermissions (.ofSession s₁) =
      (v.withTable table₂).userPermissions (.ofSession s₂) := by
  rw [userPermissions_eq_union, userPermissions_eq_union, v.userRolePermissions_alike hs]

/-- Such callers may do the same with the value. -/
theorem userAccessLevel_alike :
    (v.withTable table₁).userAccessLevel (.ofSession s₁) =
      (v.withTable table₂).userAccessLevel (.ofSession s₂) :=
  RoleTable.narrow_congr hs.visible v.attributes.accessLevel

/-- Such callers are refused to read the value for the same reason. -/
theorem readRefusal?_alike :
    (v.withTable table₁).readRefusal? (.ofSession s₁) =
      (v.withTable table₂).readRefusal? (.ofSession s₂) := by
  unfold readRefusal?
  rw [v.userAccessLevel_alike hs]
  rfl

/-- Such callers are refused to write the value for the same reason. -/
theorem writeRefusal?_alike :
    (v.withTable table₁).writeRefusal? (.ofSession s₁) =
      (v.withTable table₂).writeRefusal? (.ofSession s₂) := by
  unfold writeRefusal?
  rw [v.userAccessLevel_alike hs]
  rfl

/-- Such callers read the same for every attribute but the table of the node. -/
theorem attribute?_alike {a : AttributeId} (hp : a ≠ .rolePermissions) :
    (v.withTable table₁).attribute? (.ofSession s₁) a =
      (v.withTable table₂).attribute? (.ofSession s₂) a := by
  cases a with
  | rolePermissions => contradiction
  | userRolePermissions => simp only [attribute?, v.userRolePermissions_alike hs]
  | userAccessLevel => simp only [attribute?, v.userAccessLevel_alike hs]
  | _ => rfl

/-- Such callers get like answers to a read, if no handler answers reads. -/
theorem read_alike (h : Handlers R W M) (hr : v.state.readHandler = none)
    (now₁ now₂ : Timestamp) (r : ReadRequest) (m₁ m₂ : M) :
    Answer.Alike now₁ now₂ (.read r)
      (.data ((v.withTable table₁).read h now₁ (.ofSession s₁) r m₁).answer)
      (.data ((v.withTable table₂).read h now₂ (.ofSession s₂) r m₂).answer) := by
  let v₁ := v.withTable table₁
  let v₂ := v.withTable table₂
  -- neither the target nor the state depends on the table, so `ht` and `hr` hold on both sides
  cases ht : v.target r.node r.attributeId with
  | error status =>
    rw [v₁.read_of_target_error h now₁ _ r m₁ ht, v₂.read_of_target_error h now₂ _ r m₂ ht]
    exact .same _ _
  | ok a =>
    by_cases hv : a = .value
    · subst hv
      rw [v₁.read_of_target_value h now₁ _ r m₁ ht, v₂.read_of_target_value h now₂ _ r m₂ ht,
        v.readRefusal?_alike hs]
      cases v₂.readRefusal? (.ofSession s₂) with
      | some status => exact .same _ _
      | none =>
        simp only [v₁.fetch_of_no_handler h _ r m₁ hr, v₂.fetch_of_no_handler h _ r m₂ hr]
        exact .same _ _
    · by_cases hp : a = .rolePermissions
      · subst hp
        obtain ⟨-, -, hn⟩ := (v.target_eq_ok_iff _ _ _).mp ht
        rw [v₁.read_of_target_rolePermissions h now₁ _ r m₁ ht,
          v₂.read_of_target_rolePermissions h now₂ _ r m₂ ht, v.userPermissions_alike hs]
        split
        · exact .table r _ _ hn
        · exact .same _ _
      · obtain ⟨-, ha, -⟩ := (v.target_eq_ok_iff _ _ _).mp ht
        obtain ⟨x, hx⟩ := v₂.attribute?_isSome (.ofSession s₂) a ha hv
        rw [v₁.read_of_target_other h now₁ _ r m₁ ht hv hp ((v.attribute?_alike hs hp).trans hx),
          v₂.read_of_target_other h now₂ _ r m₂ ht hv hp hx]
        exact .stamped r x

/-- Such callers get the same answer to a write and leave the same state, if no handler takes
writes. -/
theorem write_alike (h : Handlers R W M) (hw : v.state.writeHandler = none) (r : WriteRequest)
    (m₁ m₂ : M) :
    ((v.withTable table₁).write h (.ofSession s₁) r m₁).answer =
        ((v.withTable table₂).write h (.ofSession s₂) r m₂).answer ∧
      ((v.withTable table₁).write h (.ofSession s₁) r m₁).state =
        ((v.withTable table₂).write h (.ofSession s₂) r m₂).state := by
  let v₁ := v.withTable table₁
  let v₂ := v.withTable table₂
  cases ht : v.target r.node r.attributeId with
  | error status =>
    rw [v₁.write_of_target_error h _ r m₁ ht, v₂.write_of_target_error h _ r m₂ ht]
    exact ⟨rfl, rfl⟩
  | ok a =>
    by_cases hv : a = .value
    · subst hv
      rw [v₁.write_of_target_value h _ r m₁ ht, v₂.write_of_target_value h _ r m₂ ht,
        v.writeRefusal?_alike hs]
      cases v₂.writeRefusal? (.ofSession s₂) with
      | some status => exact ⟨rfl, rfl⟩
      | none =>
        simp only [v₁.store_of_no_handler h _ r m₁ hw, v₂.store_of_no_handler h _ r m₂ hw]
        exact ⟨rfl, rfl⟩
    · by_cases hf : a = .historizing
      · subst hf
        rw [v₁.write_of_target_historizing h _ r m₁ ht, v₂.write_of_target_historizing h _ r m₂ ht,
          writeHistorizing, writeHistorizing, v.userPermissions_alike hs]
        split
        · split <;> exact ⟨rfl, rfl⟩
        · exact ⟨rfl, rfl⟩
      · rw [v₁.write_of_target_other h _ r m₁ ht hv hf, v₂.write_of_target_other h _ r m₂ ht hv hf]
        exact ⟨rfl, rfl⟩

/-- Such callers get like answers to any request and leave the same state, without handlers as
before. -/
theorem perform_alike (h : Handlers R W M) (hr : v.state.readHandler = none)
    (hw : v.state.writeHandler = none) (now₁ now₂ : Timestamp) (q : Request) (m₁ m₂ : M) :
    let o₁ := (v.withTable table₁).perform h m₁ (q.operation now₁ s₁)
    let o₂ := (v.withTable table₂).perform h m₂ (q.operation now₂ s₂)
    Answer.Alike now₁ now₂ q o₁.answer o₂.answer ∧ o₁.state = o₂.state ∧
      o₁.state.readHandler = none ∧ o₁.state.writeHandler = none := by
  intro o₁ o₂
  cases q with
  | read r =>
    have hstate₁ : o₁.state = v.state :=
      (v.withTable table₁).state_read_of_no_handler h now₁ _ hr r m₁
    have hstate₂ : o₂.state = v.state :=
      (v.withTable table₂).state_read_of_no_handler h now₂ _ hr r m₂
    rw [hstate₁, hstate₂]
    exact ⟨v.read_alike hs h hr now₁ now₂ r m₁ m₂, rfl, hr, hw⟩
  | write r =>
    obtain ⟨hanswer, hstate⟩ := v.write_alike hs h hw r m₁ m₂
    obtain ⟨hread, hwrite⟩ :=
      (v.withTable table₁).handlers_write_of_no_handler h (.ofSession s₁) hw r m₁
    have hsame : o₁.answer = o₂.answer := congrArg Answer.status hanswer
    rw [hsame]
    exact ⟨.same _ _, hstate, hread.trans hr, hwrite⟩

/-! ## Any sequence of requests -/

/-- Callers who see alike cannot tell the two copies apart. -/
theorem indistinguishable_of_seeAlike (h : Handlers R W M) (hr : v.state.readHandler = none)
    (hw : v.state.writeHandler = none) :
    Indistinguishable h (v.withTable table₁) s₁ (v.withTable table₂) s₂ := by
  intro m₁ m₂ requests
  induction requests generalizing v m₁ m₂ with
  | nil => exact ⟨.nil, rfl⟩
  | cons request requests ih =>
    obtain ⟨now₁, now₂, q⟩ := request
    let o₁ := (v.withTable table₁).perform h m₁ (q.operation now₁ s₁)
    let o₂ := (v.withTable table₂).perform h m₂ (q.operation now₂ s₂)
    obtain ⟨hanswer, hstate, hr', hw'⟩ := v.perform_alike hs h hr hw now₁ now₂ q m₁ m₂
    -- both sides go on with copies of the variable in the state that the first side has reached
    have hnext : (v.withTable table₂).withState o₂.state =
        (v.withState o₁.state).withTable table₂ := by
      rw [show o₁.state = o₂.state from hstate]
      rfl
    obtain ⟨hrest, hfinal⟩ := ih (v.withState o₁.state) hr' hw' o₁.memory o₂.memory
    rw [← hnext] at hrest hfinal
    exact ⟨.cons hanswer hstate hrest, hfinal⟩

end SeeAlike

/-- Nothing that a caller's roles do not see tells the caller anything: two copies of a variable
without handlers are indistinguishable wherever the visible entries of the governing tables are the
same.

In particular, the server's table does not matter to a node with entries of its own, and neither
does an entry for other roles in the table that governs, be that the node's or the server's. -/
theorem indistinguishable_of_visible_eq (h : Handlers R W M) (v : Variable R W)
    (hr : v.state.readHandler = none) (hw : v.state.writeHandler = none) (roles : List NodeId)
    (id₁ id₂ : Guid) (server₁ server₂ : Server) :
    (∀ table₁ table₂ : RoleTable,
      (RoleTable.governing table₁ server₁.defaultTable).visible roles =
        (RoleTable.governing table₂ server₂.defaultTable).visible roles →
      Indistinguishable h (v.withTable table₁) ⟨id₁, roles, server₁⟩
        (v.withTable table₂) ⟨id₂, roles, server₂⟩) ∧
    (∀ table : RoleTable, table ≠ [] →
      Indistinguishable h (v.withTable table) ⟨id₁, roles, server₁⟩
        (v.withTable table) ⟨id₂, roles, server₂⟩) ∧
    (∀ (before : RoleTable) (entry : RolePermission) (behind : RoleTable),
      entry.role ∉ roles → before ++ behind ≠ [] →
      Indistinguishable h (v.withTable (before ++ entry :: behind)) ⟨id₁, roles, server₁⟩
        (v.withTable (before ++ behind)) ⟨id₂, roles, server₂⟩) ∧
    (∀ (before : RoleTable) (entry : RolePermission) (behind : RoleTable),
      entry.role ∉ roles →
      Indistinguishable h
        (v.withTable []) ⟨id₁, roles, { server₁ with defaultTable := before ++ entry :: behind }⟩
        (v.withTable []) ⟨id₂, roles, { server₂ with defaultTable := before ++ behind }⟩) := by
  have hmain : ∀ (server₁ server₂ : Server) (table₁ table₂ : RoleTable),
      (RoleTable.governing table₁ server₁.defaultTable).visible roles =
        (RoleTable.governing table₂ server₂.defaultTable).visible roles →
      Indistinguishable h (v.withTable table₁) ⟨id₁, roles, server₁⟩
        (v.withTable table₂) ⟨id₂, roles, server₂⟩ := by
    intro server₁ server₂ table₁ table₂ hvisible
    have hs : SeeAlike table₁ ⟨id₁, roles, server₁⟩ table₂ ⟨id₂, roles, server₂⟩ :=
      ⟨rfl, hvisible⟩
    exact v.indistinguishable_of_seeAlike hs h hr hw
  refine ⟨hmain server₁ server₂, ?_, ?_, ?_⟩
  · intro table htable
    apply hmain
    rw [RoleTable.governing_of_ne_nil htable, RoleTable.governing_of_ne_nil htable]
  · intro before entry behind hentry hrest
    apply hmain
    rw [RoleTable.governing_of_ne_nil (by simp), RoleTable.governing_of_ne_nil hrest]
    exact RoleTable.visible_insert hentry before behind
  · intro before entry behind hentry
    apply hmain
    exact RoleTable.visible_insert hentry before behind

end Variable

/-- An operator cannot tell the standard table of a pump from a table with the operator's entries
alone, whatever the servers say. -/
theorem indistinguishable_pumpLevel :
    pumpLevel.state.readHandler = none ∧ pumpLevel.state.writeHandler = none ∧
      Indistinguishable (Handlers.constant Unit Unit {} .good)
        (pumpLevel.withTable .standard)
        ⟨Guid.ofNat 1, [WellKnownRole.operator.nodeId], .ofTable .standard⟩
        (pumpLevel.withTable (RoleTable.standard.visible [WellKnownRole.operator.nodeId]))
        ⟨Guid.ofNat 2, [WellKnownRole.operator.nodeId], .ofTable []⟩ := by
  have hr : pumpLevel.state.readHandler = none := rfl
  have hw : pumpLevel.state.writeHandler = none := rfl
  have hmain := Variable.indistinguishable_of_visible_eq (Handlers.constant Unit Unit {} .good)
    pumpLevel hr hw [WellKnownRole.operator.nodeId] (Guid.ofNat 1) (Guid.ofNat 2)
    (.ofTable .standard) (.ofTable [])
  refine ⟨hr, hw, hmain.1 _ _ ?_⟩
  decide

end NodeAccess

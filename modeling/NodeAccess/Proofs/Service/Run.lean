import NodeAccess.Proofs.Service.Dispatch

/-!
# What is left of a run

A variable is used by many callers, who read and write it, and by its owner, who sets what may
change about it and installs handlers. A run is any sequence of such operations; it leaves a record
of what each of them answered and changed.

The main statement says what the record leaves of the state: every field holds what the last
operation that gave it something gave it. It needs that handlers change nothing themselves. The
invariant behind it is the same statement for one operation, `state_perform`.
-/

set_option autoImplicit false

namespace NodeAccess

/-- Something that is done with a variable. -/
inductive Operation (R W : Type) where
  | read (now : Timestamp) (ctx : RequestContext) (request : ReadRequest)
  | write (ctx : RequestContext) (request : WriteRequest)
  | setValue (value : DataValue)
  | setHistorizing (historizing : Bool)
  | setReferences (references : List Reference)
  | setReadHandler (handler : Option R)
  | setWriteHandler (handler : Option W)

/-- What an operation answers. -/
inductive Answer where
  | data (value : DataValue)
  | status (code : StatusCode)
  | nothing

/-- An operation as it was carried out. -/
structure Event (R W : Type) where
  operation : Operation R W
  answer : Answer
  before : VariableState R W
  after : VariableState R W

namespace Event

variable {R W : Type}

/-- Was a write answered by the good status? -/
def isGood (e : Event R W) : Bool :=
  match e.answer with
  | .status code => code = .good
  | _ => false

/-- The value that an operation stores: one that is set, or one that is written without a handler
for writes and is accepted. -/
def value? (e : Event R W) : Option DataValue :=
  match e.operation with
  | .setValue value => some value
  | .write _ r =>
    if r.attributeId = AttributeId.value.number ∧ e.isGood ∧ e.before.writeHandler.isNone then
      some r.value
    else none
  | _ => none

/-- The flag that an operation leaves: one that is set, or one that is written and accepted. -/
def historizing? (e : Event R W) : Option Bool :=
  match e.operation with
  | .setHistorizing historizing => some historizing
  | .write _ r =>
    if r.attributeId = AttributeId.historizing.number ∧ e.isGood then
      match r.value.value with
      | .boolean historizing => some historizing
      | _ => none
    else none
  | _ => none

/-- The references that an operation sets. -/
def references? (e : Event R W) : Option (List Reference) :=
  match e.operation with
  | .setReferences references => some references
  | _ => none

/-- The handler for reads that an operation installs, or its removal. -/
def readHandler? (e : Event R W) : Option (Option R) :=
  match e.operation with
  | .setReadHandler handler => some handler
  | _ => none

/-- The handler for writes that an operation installs, or its removal. -/
def writeHandler? (e : Event R W) : Option (Option W) :=
  match e.operation with
  | .setWriteHandler handler => some handler
  | _ => none

/-- Requests that must not change the node `own`: every read, every write that is refused or has
the wrong type, every request for another node, and every write that a handler takes. -/
def IsIdle (own : NodeId) (e : Event R W) : Prop :=
  match e.operation with
  | .read .. => True
  | .write _ r =>
    e.isGood = false ∨ r.node ≠ own ∨
      r.attributeId = AttributeId.value.number ∧ e.before.writeHandler.isSome
  | _ => False

end Event

/-- The state with what an event gives it. -/
def VariableState.update {R W : Type} (s : VariableState R W) (e : Event R W) :
    VariableState R W where
  references := e.references?.getD s.references
  value := e.value?.getD s.value
  historizing := e.historizing?.getD s.historizing
  readHandler := e.readHandler?.getD s.readHandler
  writeHandler := e.writeHandler?.getD s.writeHandler

/-- The last of what events give, or `initial` where none of them gives anything. -/
def lastOf {R W α : Type} (f : Event R W → Option α) (events : List (Event R W)) (initial : α) :
    α :=
  (events.filterMap f).getLastD initial

/-- A record of a run, with the variable and the memory of handlers that it leaves. -/
structure Run (R W M : Type) where
  events : List (Event R W)
  final : Variable R W
  memory : M

/-- Handlers that leave the variable as it is. -/
structure Handlers.Quiet {R W M : Type} (h : Handlers R W M) : Prop where
  onRead_state : ∀ handler ctx r v m, (h.onRead handler ctx r v m).state = v.state
  onWrite_state : ∀ handler ctx r v m, (h.onWrite handler ctx r v m).state = v.state

namespace Variable

variable {R W M : Type}

/-- An operation carried out. -/
def perform (h : Handlers R W M) (v : Variable R W) (m : M) :
    Operation R W → Outcome Answer R W M
  | .read now ctx r =>
    let o := v.read h now ctx r m
    ⟨.data o.answer, o.state, o.memory⟩
  | .write ctx r =>
    let o := v.write h ctx r m
    ⟨.status o.answer, o.state, o.memory⟩
  | .setValue value => (v.setValue value).answered m .nothing
  | .setHistorizing historizing => (v.setHistorizing historizing).answered m .nothing
  | .setReferences references => (v.setReferences references).answered m .nothing
  | .setReadHandler handler => (v.setReadHandler handler).answered m .nothing
  | .setWriteHandler handler => (v.setWriteHandler handler).answered m .nothing

/-- The record of one operation. -/
def event (h : Handlers R W M) (v : Variable R W) (m : M) (op : Operation R W) : Event R W :=
  ⟨op, (v.perform h m op).answer, v.state, (v.perform h m op).state⟩

/-- Operations carried out one after the other. -/
def run (h : Handlers R W M) : Variable R W → M → List (Operation R W) → Run R W M
  | v, m, [] => ⟨[], v, m⟩
  | v, m, op :: ops =>
    let o := v.perform h m op
    let rest := run h (v.withState o.state) o.memory ops
    ⟨v.event h m op :: rest.events, rest.final, rest.memory⟩

/-! ## One operation -/

/-- No read changes the state, if handlers do not. -/
theorem state_read {h : Handlers R W M} (hq : h.Quiet) (now : Timestamp) (ctx : RequestContext)
    (v : Variable R W) (r : ReadRequest) (m : M) : (v.read h now ctx r m).state = v.state := by
  have hending := v.read_ending h now ctx r m
  generalize v.read h now ctx r m = o at hending
  cases hending with
  | refused | fetched | stamped => rfl
  | handled handler => exact hq.onRead_state handler ctx r v m

/-- A write gives the state a value and a flag at most. -/
theorem update_write (s : VariableState R W) {ctx : RequestContext} {r : WriteRequest}
    {answer : Answer} {before after : VariableState R W} (value : Option DataValue)
    (flag : Option Bool)
    (hvalue : (⟨.write ctx r, answer, before, after⟩ : Event R W).value? = value)
    (hflag : (⟨.write ctx r, answer, before, after⟩ : Event R W).historizing? = flag) :
    s.update ⟨.write ctx r, answer, before, after⟩ =
      { s with value := value.getD s.value, historizing := flag.getD s.historizing } := by
  subst hvalue hflag
  rfl

/-- A write changes the state by what it stores, or by the flag that it leaves. -/
theorem state_write {h : Handlers R W M} (hq : h.Quiet) (ctx : RequestContext)
    (v : Variable R W) (r : WriteRequest) (m : M) :
    (v.write h ctx r m).state = v.state.update (v.event h m (.write ctx r)) := by
  have hending := v.write_ending h ctx r m
  have hnumbers : AttributeId.value.number ≠ AttributeId.historizing.number := by decide
  simp only [event, perform]
  generalize v.write h ctx r m = o at hending ⊢
  cases hending with
  | refused status hbad =>
    rw [update_write v.state none none
      (by simp [Event.value?, Event.isGood, answered, hbad])
      (by simp [Event.historizing?, Event.isGood, answered, hbad])]
    rfl
  | handled handler ht hr hh =>
    obtain ⟨-, -, hn⟩ := (v.target_eq_ok_iff _ _ _).mp ht
    rw [hq.onWrite_state, update_write v.state none none
      (by simp [Event.value?, hh]) (by simp [Event.historizing?, hn, hnumbers])]
    rfl
  | stored ht hr hh =>
    obtain ⟨-, -, hn⟩ := (v.target_eq_ok_iff _ _ _).mp ht
    rw [update_write v.state (some r.value) none
      (by simp [Event.value?, Event.isGood, answered, hn, hh])
      (by simp [Event.historizing?, hn, hnumbers])]
    rfl
  | flagged historizing ht hheld hb =>
    obtain ⟨-, -, hn⟩ := (v.target_eq_ok_iff _ _ _).mp ht
    rw [update_write v.state none (some historizing)
      (by simp [Event.value?, hn, hnumbers.symm])
      (by simp [Event.historizing?, Event.isGood, answered, hn, hb])]
    rfl

/-- Every operation changes the state by what its event gives. -/
theorem state_perform {h : Handlers R W M} (hq : h.Quiet) (v : Variable R W) (m : M)
    (op : Operation R W) :
    (v.perform h m op).state = v.state.update (v.event h m op) := by
  cases op with
  | read now ctx r => exact state_read hq now ctx v r m
  | write ctx r => exact state_write hq ctx v r m
  | setValue | setHistorizing | setReferences | setReadHandler | setWriteHandler => rfl

/-- An idle request leaves the state as it is. -/
theorem state_eq_of_isIdle {h : Handlers R W M} (hq : h.Quiet) {v : Variable R W} {m : M}
    {op : Operation R W} (hidle : (v.event h m op).IsIdle v.attributes.nodeId) :
    (v.perform h m op).state = v.state := by
  cases op with
  | read now ctx r => exact state_read hq now ctx v r m
  | write ctx r =>
    have hending := v.write_ending h ctx r m
    simp only [event, perform, Event.IsIdle, Event.isGood] at hidle ⊢
    generalize v.write h ctx r m = o at hending hidle ⊢
    cases hending with
    | refused => rfl
    | handled handler => exact hq.onWrite_state handler ctx r v m
    | stored ht hr hh =>
      obtain ⟨hnode, -, -⟩ := (v.target_eq_ok_iff _ _ _).mp ht
      simp [answered, hnode, hh] at hidle
    | flagged historizing ht hheld hb =>
      obtain ⟨hnode, -, hn⟩ := (v.target_eq_ok_iff _ _ _).mp ht
      have hnumbers : AttributeId.historizing.number ≠ AttributeId.value.number := by decide
      simp [answered, hnode, hn, hnumbers] at hidle
  | setValue | setHistorizing | setReferences | setReadHandler | setWriteHandler =>
    exact hidle.elim

/-! ## Runs -/

/-- Every operation is carried out, in the order given. -/
theorem operations_run (h : Handlers R W M) (v : Variable R W) (m : M)
    (ops : List (Operation R W)) : (v.run h m ops).events.map Event.operation = ops := by
  induction ops generalizing v m with
  | nil => rfl
  | cons op ops ih =>
    simp only [run, List.map_cons, ih]
    rfl

/-- No run changes the attributes. -/
theorem attributes_run (h : Handlers R W M) (v : Variable R W) (m : M)
    (ops : List (Operation R W)) : (v.run h m ops).final.attributes = v.attributes := by
  induction ops generalizing v m with
  | nil => rfl
  | cons op ops ih => exact ih _ _

/-- Every event of a run is one of the variable in some state. -/
theorem exists_event_of_mem_run (h : Handlers R W M) (v : Variable R W) (m : M)
    (ops : List (Operation R W)) {e : Event R W} (he : e ∈ (v.run h m ops).events) :
    ∃ s m' op, e = (v.withState s).event h m' op := by
  induction ops generalizing v m with
  | nil => cases he
  | cons op ops ih =>
    rcases List.mem_cons.mp he with rfl | he
    · exact ⟨v.state, m, op, rfl⟩
    · exact ih (v.withState (v.perform h m op).state) _ he

end Variable

/-- The first of some events gives what is left where the later ones give nothing. -/
theorem lastOf_cons {R W α : Type} (f : Event R W → Option α) (e : Event R W)
    (events : List (Event R W)) (initial : α) :
    lastOf f (e :: events) initial = lastOf f events ((f e).getD initial) := by
  unfold lastOf
  cases hf : f e with
  | none => rw [List.filterMap_cons_none hf, Option.getD_none]
  | some a => rw [List.filterMap_cons_some hf, List.getLastD_cons, Option.getD_some]

/-- The state with the last of what events give it. -/
def VariableState.replay {R W : Type} (s : VariableState R W) (events : List (Event R W)) :
    VariableState R W where
  references := lastOf Event.references? events s.references
  value := lastOf Event.value? events s.value
  historizing := lastOf Event.historizing? events s.historizing
  readHandler := lastOf Event.readHandler? events s.readHandler
  writeHandler := lastOf Event.writeHandler? events s.writeHandler

/-- What the first event gives is given before what the later ones give. -/
theorem VariableState.replay_cons {R W : Type} (s : VariableState R W) (e : Event R W)
    (events : List (Event R W)) : s.replay (e :: events) = (s.update e).replay events := by
  simp only [replay, update, lastOf_cons]

namespace Variable

variable {R W M : Type}

/-- A run leaves the state that its events give, one after the other. -/
theorem state_run {h : Handlers R W M} (hq : h.Quiet) (v : Variable R W) (m : M)
    (ops : List (Operation R W)) :
    (v.run h m ops).final.state = v.state.replay (v.run h m ops).events := by
  induction ops generalizing v m with
  | nil => rfl
  | cons op ops ih =>
    let o := v.perform h m op
    let rest := (v.withState o.state).run h o.memory ops
    calc (v.run h m (op :: ops)).final.state
        = rest.final.state := rfl
      _ = o.state.replay rest.events := ih (v.withState o.state) o.memory
      _ = (v.state.update (v.event h m op)).replay rest.events :=
          congrArg (fun s => s.replay rest.events) (state_perform hq v m op)
      _ = v.state.replay (v.event h m op :: rest.events) :=
          (v.state.replay_cons _ _).symm

/-- A permitted read of the value without a handler answers what is stored. -/
theorem read_stored_value (h : Handlers R W M) (now : Timestamp) (ctx : RequestContext)
    (v : Variable R W) (range : Option String) (m : M) (hh : v.state.readHandler = none)
    (hu : (v.userAccessLevel ctx).contains .currentRead = true) :
    (v.read h now ctx (v.readOf .value range) m).answer = v.state.value := by
  have hbit := (AccessLevel.contains_currentRead_iff _).mp hu
  rw [v.read_of_target_value h now ctx _ m (v.target_readOf (by decide) range), readRefusal?_eq,
    if_pos hbit]
  simp only [v.fetch_of_no_handler h ctx _ m hh, answered]

/-- After any run, every field of the state holds the last that an operation gave it, what idle
requests leave is what they found, and readers who may read the value get the stored one. -/
theorem run_leaves_last {h : Handlers R W M} (hq : h.Quiet) (v : Variable R W) (m : M)
    (ops : List (Operation R W)) :
    let events := (v.run h m ops).events
    let final := (v.run h m ops).final
    events.map Event.operation = ops ∧
      final.attributes = v.attributes ∧
      final.state.value = lastOf Event.value? events v.state.value ∧
      final.state.historizing = lastOf Event.historizing? events v.state.historizing ∧
      final.state.references = lastOf Event.references? events v.state.references ∧
      final.state.readHandler = lastOf Event.readHandler? events v.state.readHandler ∧
      final.state.writeHandler = lastOf Event.writeHandler? events v.state.writeHandler ∧
      (∀ e ∈ events, e.IsIdle v.attributes.nodeId → e.after = e.before) ∧
      (∀ now ctx range m', final.state.readHandler = none →
        (final.userAccessLevel ctx).contains .currentRead = true →
        (final.read h now ctx (v.readOf .value range) m').answer =
          lastOf Event.value? events v.state.value) := by
  intro events final
  have hstate : final.state = v.state.replay events := state_run hq v m ops
  have hattributes : final.attributes = v.attributes := attributes_run h v m ops
  refine ⟨operations_run h v m ops, hattributes, ?_, ?_, ?_, ?_, ?_, ?_, ?_⟩
  · rw [hstate]; rfl
  · rw [hstate]; rfl
  · rw [hstate]; rfl
  · rw [hstate]; rfl
  · rw [hstate]; rfl
  · intro e he hidle
    obtain ⟨s, m', op, rfl⟩ := exists_event_of_mem_run h v m ops he
    exact state_eq_of_isIdle hq hidle
  · intro now ctx range m' hh hu
    have hrequest : v.readOf .value range = final.readOf .value range := by
      rw [readOf, readOf, hattributes]
    rw [hrequest, final.read_stored_value h now ctx range m' hh hu, hstate]
    rfl

end Variable

/-! ## A run of a pump -/

/-- Handlers that give the same answer to everyone are quiet. -/
theorem Handlers.quiet_constant (R W : Type) (value : DataValue) (status : StatusCode) :
    (constant R W value status).Quiet where
  onRead_state _ _ _ _ _ := rfl
  onWrite_state _ _ _ _ _ := rfl

/-- The start of the year 2000. -/
def Timestamp.year2000 : Timestamp :=
  ⟨⟨2000, 1, 1, by decide, by decide, by decide⟩,
    ⟨0, 0, 0, 0, by decide, by decide, by decide, by decide⟩⟩

/-- The level of a pump, which anyone may read and write whose roles permit it. -/
def pumpLevel : Variable Unit Unit where
  attributes :=
    { nodeId := .text 2 "Pump"
      browseName := ⟨2, "Pump"⟩
      accessLevel := .currentRead ||| .currentWrite
      dataType := .numeric 0 6 }
  state := {}

/-- An operator of a server with the standard table. -/
def operatorSession : Session :=
  ⟨Guid.ofNat 1, [WellKnownRole.operator.nodeId], .ofTable .standard⟩

/-- Someone sets the level, the operator writes it, someone without a session tries to, a handler
takes what the operator writes then and is removed, and the flag is set at last. -/
def pumpOperations : List (Operation Unit Unit) :=
  let operator := RequestContext.ofSession operatorSession
  let level (n : Int32) : DataValue := .ofValue (.int32 n)
  [.setValue (level 1),
    .write operator (pumpLevel.writeOf .value none (level 2)),
    .write .background (pumpLevel.writeOf .value none (level 3)),
    .setWriteHandler (some ()),
    .write operator (pumpLevel.writeOf .value none (level 4)),
    .setWriteHandler none,
    .setHistorizing true]

/-- These operations carried out. -/
def pumpRun : Run Unit Unit Unit :=
  pumpLevel.run (.constant Unit Unit {} .good) () pumpOperations

set_option maxRecDepth 10000 in
/-- The operator's first write is what is left, and what the operator reads. -/
theorem run_leaves_last_pumpLevel :
    (Handlers.constant Unit Unit {} .good).Quiet ∧
      pumpRun.final.state.value = .ofValue (.int32 2) ∧
      pumpRun.final.state.historizing = true ∧
      (pumpRun.final.read (.constant Unit Unit {} .good) .year2000 (.ofSession operatorSession)
        (pumpLevel.readOf .value none) ()).answer = .ofValue (.int32 2) := by
  have hq := Handlers.quiet_constant Unit Unit {} .good
  obtain ⟨-, -, hvalue, hflag, -, -, -, -, hread⟩ :=
    Variable.run_leaves_last hq pumpLevel () pumpOperations
  have hlast : lastOf Event.value? pumpRun.events pumpLevel.state.value = .ofValue (.int32 2) := by
    rfl
  have hmay : (pumpRun.final.userAccessLevel (.ofSession operatorSession)).contains
      .currentRead = true := by
    rfl
  exact ⟨hq, hvalue.trans hlast, hflag,
    (hread .year2000 (.ofSession operatorSession) none () rfl hmay).trans hlast⟩

end NodeAccess

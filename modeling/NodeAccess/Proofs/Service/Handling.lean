import NodeAccess.Proofs.Service.Run

/-!
# Handlers run behind the checks

Which handlers a request runs is seen by a journal that handlers keep of their calls, beside
whatever else they remember. A request is admitted to the value when it names the node and the value
and the caller's level has the operation. An admitted request is the handler's alone, if there is
one; of every other request the outcome is there already, whatever handlers would do.
-/

set_option autoImplicit false

namespace NodeAccess

/-- A call of a handler, with what the handler is given. -/
inductive HandlerCall (R W : Type) where
  | read (handler : R) (ctx : RequestContext) (request : ReadRequest)
  | write (handler : W) (ctx : RequestContext) (request : WriteRequest)

/-- What handlers remember, and which of them were called, the last one last. -/
structure Journal (R W M : Type) where
  memory : M
  calls : List (HandlerCall R W)

variable {R W M : Type}

/-- The same outcome, with the calls of handlers noted. -/
def Outcome.noted {α : Type} (o : Outcome α R W M) (calls : List (HandlerCall R W)) :
    Outcome α R W (Journal R W M) :=
  ⟨o.answer, o.state, ⟨o.memory, calls⟩⟩

/-- Handlers that do the same and note each of their calls. -/
def Handlers.noting (h : Handlers R W M) : Handlers R W (Journal R W M) where
  onRead handler ctx r v j :=
    (h.onRead handler ctx r v j.memory).noted (j.calls ++ [.read handler ctx r])
  onWrite handler ctx r v j :=
    (h.onWrite handler ctx r v j.memory).noted (j.calls ++ [.write handler ctx r])

/-- A request that ends in `o`, and in `noted` where calls are noted, calls its handler behind a
condition only: once if it is met, and not at all otherwise. Where the handler is called, the request
ends as the handler does. -/
structure CalledBehind {α H : Type} (condition : Prop) (handler? : Option H)
    (call : H → HandlerCall R W) (ending : H → Outcome α R W M) (j : Journal R W M)
    (o : Outcome α R W M) (noted : Outcome α R W (Journal R W M)) : Prop where
  noted_eq : noted = o.noted noted.memory.calls
  once_iff : ∀ handler, handler? = some handler →
    (noted.memory.calls = j.calls ++ [call handler] ↔ condition)
  handled : ∀ handler, handler? = some handler → condition → o = ending handler
  unhandled : handler? = none ∨ ¬ condition → noted.memory.calls = j.calls ∧ o.memory = j.memory

theorem CalledBehind.of_cases {α H : Type} {condition : Prop} {handler? : Option H}
    {call : H → HandlerCall R W} {ending : H → Outcome α R W M} {j : Journal R W M}
    {o : Outcome α R W M} {noted : Outcome α R W (Journal R W M)}
    (hcalled : ∀ handler, condition → handler? = some handler →
      o = ending handler ∧ noted = o.noted (j.calls ++ [call handler]))
    (hnone : handler? = none ∨ ¬ condition → o.memory = j.memory ∧ noted = o.noted j.calls) :
    CalledBehind condition handler? call ending j o noted := by
  constructor
  · by_cases hcase : handler? = none ∨ ¬ condition
    · rw [(hnone hcase).2]
      rfl
    · obtain ⟨hsome, hmet⟩ := not_or.mp hcase
      obtain ⟨handler, hh⟩ := Option.ne_none_iff_exists'.mp hsome
      rw [(hcalled handler (Classical.not_not.mp hmet) hh).2]
      rfl
  · intro handler hh
    constructor
    · intro hcalls
      apply Classical.byContradiction
      intro hno
      -- a journal that nothing was added to is not longer by one call
      rw [(hnone (.inr hno)).2] at hcalls
      exact List.cons_ne_nil _ _ (List.self_eq_append_right.mp hcalls)
    · intro hmet
      rw [(hcalled handler hmet hh).2]
      rfl
  · intro handler hh hmet
    exact (hcalled handler hmet hh).1
  · intro hcase
    obtain ⟨hmemory, hnoted⟩ := hnone hcase
    rw [hnoted]
    exact ⟨rfl, hmemory⟩

namespace Variable

/-- A request that names the node and the value, by a caller whose level has the operation. -/
structure Admits (v : Variable R W) (ctx : RequestContext) (operation : AccessLevel)
    (node : NodeId) (n : UInt32) : Prop where
  node_eq : node = v.attributes.nodeId
  number_eq : n = AttributeId.value.number
  level : (v.userAccessLevel ctx).contains operation = true

theorem admits_iff (v : Variable R W) (ctx : RequestContext) (operation : AccessLevel)
    (node : NodeId) (n : UInt32) :
    v.Admits ctx operation node n ↔
      v.target node n = .ok .value ∧ (v.userAccessLevel ctx).contains operation = true := by
  rw [v.target_eq_ok_iff]
  constructor
  · rintro ⟨hnode, hn, hlevel⟩
    exact ⟨⟨hnode, by decide, hn⟩, hlevel⟩
  · rintro ⟨⟨hnode, -, hn⟩, hlevel⟩
    exact ⟨hnode, hn, hlevel⟩

/-- Of the two checks of a read, the one of the variable's own level follows from the other. -/
theorem readRefusal?_eq_none_iff (v : Variable R W) (ctx : RequestContext) :
    v.readRefusal? ctx = none ↔ (v.userAccessLevel ctx).contains .currentRead = true := by
  rw [v.readRefusal?_eq, AccessLevel.contains_currentRead_iff]
  split <;> simp_all

theorem writeRefusal?_eq_none_iff (v : Variable R W) (ctx : RequestContext) :
    v.writeRefusal? ctx = none ↔ (v.userAccessLevel ctx).contains .currentWrite = true := by
  rw [v.writeRefusal?_eq, AccessLevel.contains_currentWrite_iff]
  split <;> simp_all

/-! ## Reads -/

section Read

variable {v : Variable R W} {ctx : RequestContext} {r : ReadRequest}

/-- An admitted read is the handler's. -/
theorem read_of_admits (ha : v.Admits ctx .currentRead r.node r.attributeId) {handler : R}
    (hh : v.state.readHandler = some handler) (h : Handlers R W M) (now : Timestamp) (m : M) :
    v.read h now ctx r m = h.onRead handler ctx r v m := by
  obtain ⟨ht, hlevel⟩ := (v.admits_iff _ _ _ _).mp ha
  rw [v.read_of_target_value h now ctx r m ht, (v.readRefusal?_eq_none_iff ctx).mpr hlevel]
  exact v.fetch_of_handler h ctx r m hh

/-- Any other read has the same answer whatever handlers do, and changes nothing. -/
theorem exists_read_eq_answered
    (hno : v.state.readHandler = none ∨ ¬ v.Admits ctx .currentRead r.node r.attributeId)
    (now : Timestamp) :
    ∃ answer, ∀ (M : Type) (h : Handlers R W M) (m : M),
      v.read h now ctx r m = v.answered m answer := by
  cases ht : v.target r.node r.attributeId with
  | error status => exact ⟨_, fun _ h m => v.read_of_target_error h now ctx r m ht⟩
  | ok a =>
    by_cases hv : a = .value
    · subst hv
      cases hr : v.readRefusal? ctx with
      | some status =>
        refine ⟨.ofStatus status, fun _ h m => ?_⟩
        rw [v.read_of_target_value h now ctx r m ht, hr]
      | none =>
        have ha : v.Admits ctx .currentRead r.node r.attributeId :=
          (v.admits_iff _ _ _ _).mpr ⟨ht, (v.readRefusal?_eq_none_iff ctx).mp hr⟩
        have hh : v.state.readHandler = none := hno.resolve_right (not_not_intro ha)
        refine ⟨v.state.value, fun _ h m => ?_⟩
        rw [v.read_of_target_value h now ctx r m ht, hr]
        exact v.fetch_of_no_handler h ctx r m hh
    · by_cases hp : a = .rolePermissions
      · subst hp
        -- who may see the whole table depends on the caller only
        have hread := fun (M : Type) (h : Handlers R W M) (m : M) =>
          v.read_of_target_rolePermissions h now ctx r m ht
        by_cases hheld : (v.userPermissions ctx).contains Permission.readRolePermissions.mask = true
        · exact ⟨_, fun M h m => (hread M h m).trans (if_pos hheld)⟩
        · exact ⟨_, fun M h m => (hread M h m).trans (if_neg hheld)⟩
      · obtain ⟨-, hmem, -⟩ := (v.target_eq_ok_iff _ _ _).mp ht
        obtain ⟨x, hx⟩ := v.attribute?_isSome ctx a hmem hv
        exact ⟨_, fun _ h m => v.read_of_target_other h now ctx r m ht hv hp hx⟩

end Read

/-! ## Writes -/

section Write

variable {v : Variable R W} {ctx : RequestContext} {r : WriteRequest}

/-- An admitted write is the handler's. -/
theorem write_of_admits (ha : v.Admits ctx .currentWrite r.node r.attributeId) {handler : W}
    (hh : v.state.writeHandler = some handler) (h : Handlers R W M) (m : M) :
    v.write h ctx r m = h.onWrite handler ctx r v m := by
  obtain ⟨ht, hlevel⟩ := (v.admits_iff _ _ _ _).mp ha
  rw [v.write_of_target_value h ctx r m ht, (v.writeRefusal?_eq_none_iff ctx).mpr hlevel]
  exact v.store_of_handler h ctx r m hh

/-- Any other write has the same outcome whatever handlers do. -/
theorem exists_write_eq
    (hno : v.state.writeHandler = none ∨ ¬ v.Admits ctx .currentWrite r.node r.attributeId) :
    ∃ status state, ∀ (M : Type) (h : Handlers R W M) (m : M),
      v.write h ctx r m = ⟨status, state, m⟩ := by
  cases ht : v.target r.node r.attributeId with
  | error status => exact ⟨status, v.state, fun _ h m => v.write_of_target_error h ctx r m ht⟩
  | ok a =>
    by_cases hv : a = .value
    · subst hv
      cases hr : v.writeRefusal? ctx with
      | some status =>
        refine ⟨status, v.state, fun _ h m => ?_⟩
        rw [v.write_of_target_value h ctx r m ht, hr]
        rfl
      | none =>
        have ha : v.Admits ctx .currentWrite r.node r.attributeId :=
          (v.admits_iff _ _ _ _).mpr ⟨ht, (v.writeRefusal?_eq_none_iff ctx).mp hr⟩
        have hh : v.state.writeHandler = none := hno.resolve_right (not_not_intro ha)
        refine ⟨.good, (v.setValue r.value).state, fun _ h m => ?_⟩
        rw [v.write_of_target_value h ctx r m ht, hr]
        exact v.store_of_no_handler h ctx r m hh
    · by_cases hf : a = .historizing
      · subst hf
        refine ⟨(v.writeHistorizing ctx r ()).answer, (v.writeHistorizing ctx r ()).state,
          fun _ h m => ?_⟩
        rw [v.write_of_target_historizing h ctx r m ht]
        unfold writeHistorizing
        split
        · split <;> rfl
        · rfl
      · exact ⟨_, _, fun _ h m => v.write_of_target_other h ctx r m ht hv hf⟩

/-- A write that is not admitted to the value changes nothing but the flag for keeping a history,
and that only where it is good. -/
theorem state_write_of_not_admits (hno : ¬ v.Admits ctx .currentWrite r.node r.attributeId)
    (h : Handlers R W M) (m : M) :
    (v.write h ctx r m).state = v.state ∨
      (v.write h ctx r m).answer = .good ∧ r.node = v.attributes.nodeId ∧
        r.attributeId = AttributeId.historizing.number ∧
        ∃ historizing, r.value.value = .boolean historizing ∧
          (v.write h ctx r m).state = (v.setHistorizing historizing).state := by
  have hending := v.write_ending h ctx r m
  generalize v.write h ctx r m = o at hending ⊢
  cases hending with
  | refused => exact .inl rfl
  | handled handler ht hr hh =>
    exact absurd ((v.admits_iff _ _ _ _).mpr ⟨ht, (v.writeRefusal?_eq_none_iff ctx).mp hr⟩) hno
  | stored ht hr hh =>
    exact absurd ((v.admits_iff _ _ _ _).mpr ⟨ht, (v.writeRefusal?_eq_none_iff ctx).mp hr⟩) hno
  | flagged historizing ht hheld hb =>
    obtain ⟨hnode, -, hn⟩ := (v.target_eq_ok_iff _ _ _).mp ht
    exact .inr ⟨rfl, hnode, hn, historizing, hb, rfl⟩

end Write

/-- Handlers run only behind the checks, and then in place of the store. Whatever handlers do, a read
or a write calls the handler of its kind, once and with the caller and the request as they came, if
and only if it is admitted to the value, and then ends as the handler ends in all respects. Any other
request calls no handler; a read leaves the state as it was then, and so does a write, but for a good
one of the flag for keeping a history. -/
theorem handlers_run_behind_checks (h : Handlers R W M) (now : Timestamp) (ctx : RequestContext)
    (v : Variable R W) (j : Journal R W M) :
    (∀ r : ReadRequest,
      CalledBehind (v.Admits ctx .currentRead r.node r.attributeId) v.state.readHandler
          (fun handler => .read handler ctx r) (fun handler => h.onRead handler ctx r v j.memory) j
          (v.read h now ctx r j.memory) (v.read h.noting now ctx r j) ∧
        (v.state.readHandler = none ∨ ¬ v.Admits ctx .currentRead r.node r.attributeId →
          (v.read h now ctx r j.memory).state = v.state)) ∧
      ∀ r : WriteRequest,
        CalledBehind (v.Admits ctx .currentWrite r.node r.attributeId) v.state.writeHandler
            (fun handler => .write handler ctx r) (fun handler => h.onWrite handler ctx r v j.memory)
            j (v.write h ctx r j.memory) (v.write h.noting ctx r j) ∧
          (¬ v.Admits ctx .currentWrite r.node r.attributeId →
            (v.write h ctx r j.memory).state = v.state ∨
              (v.write h ctx r j.memory).answer = .good ∧ r.node = v.attributes.nodeId ∧
                r.attributeId = AttributeId.historizing.number ∧
                ∃ historizing, r.value.value = .boolean historizing ∧
                  (v.write h ctx r j.memory).state = (v.setHistorizing historizing).state) := by
  refine ⟨fun r => ⟨.of_cases ?_ ?_, ?_⟩, fun r => ⟨.of_cases ?_ ?_, ?_⟩⟩
  · intro handler ha hh
    have hplain := read_of_admits ha hh h now j.memory
    refine ⟨hplain, ?_⟩
    rw [read_of_admits ha hh h.noting now j, hplain]
    rfl
  · intro hno
    obtain ⟨answer, hread⟩ := exists_read_eq_answered hno now
    rw [hread M h j.memory, hread _ h.noting j]
    exact ⟨rfl, rfl⟩
  · intro hno
    obtain ⟨answer, hread⟩ := exists_read_eq_answered hno now
    rw [hread M h j.memory]
    rfl
  · intro handler ha hh
    have hplain := write_of_admits ha hh h j.memory
    refine ⟨hplain, ?_⟩
    rw [write_of_admits ha hh h.noting j, hplain]
    rfl
  · intro hno
    obtain ⟨status, state, hwrite⟩ := exists_write_eq hno
    rw [hwrite M h j.memory, hwrite _ h.noting j]
    exact ⟨rfl, rfl⟩
  · exact fun hno => state_write_of_not_admits hno h j.memory

end Variable

/-- Handlers that change the variable themselves and count how often they run: a read answers the
stored value and switches the history, and a write is stored but called unsupported. -/
def meddlingHandlers : Handlers Unit Unit Nat where
  onRead _ _ _ v n := ⟨v.state.value, (v.setHistorizing !v.state.historizing).state, n + 1⟩
  onWrite _ _ r v n := ⟨.badWriteNotSupported, (v.setValue r.value).state, n + 1⟩

def handledLevel : Variable Unit Unit :=
  (pumpLevel.setReadHandler (some ())).setWriteHandler (some ())

/-- The operator's read is answered by the handler, which switches the history; a write without a
session runs no handler and changes nothing. -/
theorem handlers_run_behind_checks_pumpLevel :
    let operator := RequestContext.ofSession operatorSession
    let r := handledLevel.readOf .value (some "1:2")
    let w := handledLevel.writeOf .value none (.ofValue (.int32 7))
    handledLevel.Admits operator .currentRead r.node r.attributeId ∧
      ¬ handledLevel.Admits .background .currentWrite w.node w.attributeId ∧
      (handledLevel.read meddlingHandlers.noting .year2000 operator r ⟨0, []⟩).memory.calls =
        [.read () operator r] ∧
      (handledLevel.read meddlingHandlers .year2000 operator r 0).state =
        (handledLevel.setHistorizing true).state ∧
      (handledLevel.write meddlingHandlers.noting .background w ⟨0, []⟩).memory.calls = [] := by
  intro operator r w
  have hread : handledLevel.Admits operator .currentRead r.node r.attributeId :=
    ⟨rfl, rfl, by decide +kernel⟩
  have hwrite : ¬ handledLevel.Admits .background .currentWrite w.node w.attributeId := by
    intro h
    have hlevel := h.level
    contradiction
  obtain ⟨hreads, hwrites⟩ := Variable.handlers_run_behind_checks meddlingHandlers .year2000 operator
    handledLevel ⟨0, []⟩
  have hbackground := (Variable.handlers_run_behind_checks meddlingHandlers .year2000 .background
    handledLevel ⟨0, []⟩).2 w
  refine ⟨hread, hwrite, ((hreads r).1.once_iff () rfl).mpr hread, ?_,
    (hbackground.1.unhandled (.inr hwrite)).1⟩
  exact congrArg Outcome.state ((hreads r).1.handled () rfl hread)

end NodeAccess

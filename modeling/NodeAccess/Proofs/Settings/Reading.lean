import NodeAccess.Proofs.Settings.Shape
import NodeAccess.Proofs.Toml.Document

/-!
# Strict and lenient reading

Whatever a strict reading takes, a lenient one takes too, and for the same. It takes more only where
a number, a truth value or a date stands for a text, or where something stands beside the name of a
permission. Where a text is to be a node identifier, even that makes no difference: none of these
texts has the equals sign that every node identifier has.
-/

set_option autoImplicit false

namespace NodeAccess

/-! ## Texts without an equals sign -/

theorem Identifier.equals_mem_of_read {whole cs : List Char} {i : Identifier}
    (h : read whole cs = .ok i) : '=' ∈ cs := by
  unfold read at h
  split at h
  · contradiction
  · simp
  · simp
  · simp
  · simp
  · contradiction

/-- Every node identifier has an equals sign in its text. -/
theorem NodeId.equals_mem_of_read? {text : String} {id : NodeId} (h : read? text = some id) :
    '=' ∈ text.toList := by
  have hread : readChars text.toList = .ok id := by
    unfold read? read at h
    cases hchars : readChars text.toList with
    | error e => simp [hchars, Except.toOption] at h
    | ok i => simpa [hchars, Except.toOption] using h
  unfold readChars at hread
  split at hread
  · rename_i tail hcs
    rw [hcs]
    simp
  · cases hid : Identifier.read text.toList text.toList with
    | error e => simp [hid, Except.map] at hread
    | ok i => exact Identifier.equals_mem_of_read hid

theorem Decimal.equals_notMem_renderInt (i : Int) : '=' ∉ renderInt i := by
  cases i with
  | ofNat n => exact not_mem_render (by decide) n
  | negSucc n =>
    rw [renderInt, List.mem_cons]
    rintro (h | h)
    · contradiction
    · exact not_mem_render (by decide) _ h

theorem Numeral.equals_notMem_render (x : Numeral) : '=' ∉ x.render := by
  have hwhole : '=' ∉ Decimal.render x.whole := Decimal.not_mem_render (by decide) _
  have hdigit : ∀ d : Fin 10, digit d ≠ '=' := by decide
  unfold render
  simp only [List.mem_append, not_or]
  refine ⟨⟨⟨?_, hwhole⟩, ?_⟩, ?_⟩
  · split <;> decide
  · split <;> simp [hdigit]
  · split <;> simp [Decimal.equals_notMem_renderInt]

theorem Binary.equals_notMem_render {f : BinaryFormat} (style : FloatStyle) (x : Binary f) :
    '=' ∉ (x.render style).toList := by
  unfold render
  split
  · rw [String.toList_ofList]
    exact Numeral.equals_notMem_render _
  · split
    · decide
    · split <;> decide

namespace Tree

/-- What stands for a text, but is none, has no equals sign. -/
theorem equals_notMem_of_lenient {t : Tree} {text : String} (ht : t.WellFormed)
    (hstrict : strict.text? t = none) (h : lenient.text? t = some text) :
    '=' ∉ text.toList := by
  cases t with
  | boolean b =>
    cases h
    cases b <;> decide
  | integer i =>
    cases h
    rw [String.toList_ofList]
    exact Decimal.equals_notMem_renderInt i
  | float x =>
    cases h
    exact Binary.equals_notMem_render .text x
  | string s => contradiction
  | dateTime s =>
    cases h
    exact ht
  | _ => contradiction

/-- A node identifier is given as a text. -/
theorem text?_of_lenient_nodeId {t : Tree} {text : String} {id : NodeId} (ht : t.WellFormed)
    (h : lenient.text? t = some text) (hid : NodeId.read? text = some id) :
    strict.text? t = some text := by
  cases hstrict : strict.text? t with
  | none => exact absurd (NodeId.equals_mem_of_read? hid) (equals_notMem_of_lenient ht hstrict h)
  | some s =>
    cases t with
    | string s' =>
      cases hstrict
      exact h
    | _ => contradiction

theorem text?_of_strict {t : Tree} {text : String} (h : strict.text? t = some text) :
    lenient.text? t = some text := by
  cases t with
  | string s => exact h
  | _ => contradiction

theorem permission?_of_strict {t : Tree} {p : Permission} (h : permission? strict t = some p) :
    permission? lenient t = some p := by
  unfold permission? at h ⊢
  split at h
  · exact h
  · split at h
    · exact h
    · contradiction
  · contradiction

theorem permission?_of_lenient {t : Tree} {p : Permission} (ht : t.isTable = false)
    (h : permission? lenient t = some p) : permission? strict t = some p := by
  cases t with
  | table es => contradiction
  | string s => exact h
  | _ => contradiction

/-! ## What carries over from one reading to another -/

section

variable {α : Type} {f g : Tree → Option α}

theorem collect_carry {ts : List Tree} {as : List α}
    (h : ∀ t ∈ ts, ∀ a, f t = some a → g t = some a) (hts : collect f ts = some as) :
    collect g ts = some as := by
  induction ts generalizing as with
  | nil => exact hts
  | cons t ts ih =>
    rw [collect] at hts ⊢
    split at hts
    · rename_i a as' ha has'
      rw [h t List.mem_cons_self a ha,
        ih (fun t' ht' => h t' (List.mem_cons_of_mem t ht')) has']
      exact hts
    · contradiction

/-- A list carries over if its items do. -/
theorem withDefault_list?_carry {o : Option Tree} {as d : List α}
    (h : ∀ ts, o = some (array ts) → ∀ t ∈ ts, ∀ a, f t = some a → g t = some a)
    (ho : withDefault o (list? f) d = some as) : withDefault o (list? g) d = some as := by
  cases o with
  | none => exact ho
  | some t =>
    cases t with
    | array ts => exact collect_carry (h ts rfl) ho
    | _ => contradiction

theorem withDefault_carry {o : Option Tree} {a d : α}
    (h : ∀ t, o = some t → ∀ a, f t = some a → g t = some a) (ho : withDefault o f d = some a) :
    withDefault o g d = some a := by
  cases o with
  | none => exact ho
  | some t => exact h t rfl a ho

end

variable {r r' : Reading}

/-- Server information carries over if its texts do. -/
theorem serverInfo?_carry {t : Tree} {i : ServerInfo}
    (htexts : ∀ (f : ServerField) (v : Tree), t.field? f.key f.place = some v → ∀ text,
      r.text? v = some text → r'.text? v = some text)
    (h : serverInfo? r t = some i) : serverInfo? r' t = some i := by
  rw [serverInfo?_eq_some_iff] at h ⊢
  exact ⟨h.1, fun f => withDefault_carry (htexts f) (h.2 f)⟩

/-- A role setting carries over if the text of its role and the names of its permissions do. -/
theorem roleSetting?_carry {t : Tree} {x : RoleSetting}
    (hrole : ∀ role, t.field? "role" 0 = some role → ∀ text id, r.text? role = some text →
      NodeId.read? text = some id → r'.text? role = some text)
    (hnames : ∀ ps, t.field? "permissions" 1 = some (array ps) → ∀ item ∈ ps, ∀ p,
      permission? r item = some p → permission? r' item = some p)
    (h : roleSetting? r t = some x) : roleSetting? r' t = some x := by
  simp only [roleSetting?, Option.bind_eq_bind, Option.bind_eq_some_iff] at h ⊢
  obtain ⟨role, hfield, text, htext, id, hid, ps, hps, h⟩ := h
  refine ⟨role, hfield, text, hrole role hfield text id htext hid, id, hid, ps, ?_, h⟩
  exact withDefault_list?_carry hnames hps

theorem securitySettings?_carry {t : Tree} {x : SecuritySettings}
    (hroles : ∀ roles, t.field? "default_role_permissions" 0 = some (array roles) →
      ∀ role ∈ roles, ∀ y, roleSetting? r role = some y → roleSetting? r' role = some y)
    (h : securitySettings? r t = some x) : securitySettings? r' t = some x := by
  rw [securitySettings?_eq_some_iff] at h ⊢
  exact ⟨h.1, withDefault_list?_carry hroles h.2⟩

theorem roleSetting?_of_strict {t : Tree} {x : RoleSetting} (h : roleSetting? strict t = some x) :
    roleSetting? lenient t = some x :=
  roleSetting?_carry (fun _ _ _ _ htext _ => text?_of_strict htext)
    (fun _ _ _ _ _ hp => permission?_of_strict hp) h

theorem securitySettings?_of_strict {t : Tree} {x : SecuritySettings}
    (h : securitySettings? strict t = some x) : securitySettings? lenient t = some x :=
  securitySettings?_carry (fun _ _ _ _ _ hy => roleSetting?_of_strict hy) h

theorem WellFormed.of_field? {t v : Tree} (h : t.WellFormed) {name : String} {place : Nat}
    (hv : t.field? name place = some v) : v.WellFormed := by
  cases t with
  | table es => exact h.of_lookup hv
  | array ts => exact itemsWellFormed_iff.mp h v (List.mem_of_getElem? hv)
  | _ => contradiction

/-- No permission of a role is a table. -/
def PermissionsPlain (role : Tree) : Prop :=
  ∀ ps, role.field? "permissions" 1 = some (array ps) → ∀ p ∈ ps, p.isTable = false

theorem roleSetting?_of_lenient {t : Tree} {x : RoleSetting} (ht : t.WellFormed)
    (hplain : t.PermissionsPlain) (h : roleSetting? lenient t = some x) :
    roleSetting? strict t = some x := by
  refine roleSetting?_carry ?_ ?_ h
  · intro role hfield text id htext hid
    exact text?_of_lenient_nodeId (ht.of_field? hfield) htext hid
  · intro ps hps item hitem p hp
    exact permission?_of_lenient (hplain ps hps item hitem) hp

/-- No permission of a role of security settings is a table. -/
def RolesPlain (security : Tree) : Prop :=
  ∀ roles, security.field? "default_role_permissions" 0 = some (array roles) →
    ∀ role ∈ roles, role.PermissionsPlain

theorem securitySettings?_of_lenient {t : Tree} {x : SecuritySettings} (ht : t.WellFormed)
    (hplain : t.RolesPlain) (h : securitySettings? lenient t = some x) :
    securitySettings? strict t = some x := by
  refine securitySettings?_carry ?_ h
  intro roles hroles role hrole y hy
  have hformed : role.WellFormed := itemsWellFormed_iff.mp (ht.of_field? hroles) role hrole
  exact roleSetting?_of_lenient hformed (hplain roles hroles role hrole) hy

end Tree

end NodeAccess

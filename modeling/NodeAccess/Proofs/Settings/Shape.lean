import Mathlib.Data.Option.Basic
import NodeAccess.Proofs.Settings.Overriding

/-!
# The shape of settings

A tree gives settings unless something in it is not what settings have there: a part that is no
record, a text that cannot be taken for one, a list that is none, a role or a permission that is
unknown. Keys that settings do not have are never looked at. So trees that agree on what they hold
under the known keys give the same settings.
-/

set_option autoImplicit false

namespace NodeAccess

/-- A text that tells how a server presents itself. -/
inductive ServerField where
  | applicationName
  | applicationUri
  | productUri
deriving DecidableEq

namespace ServerField

/-- The key of the text in a table. -/
def key : ServerField → String
  | applicationName => "application_name"
  | applicationUri => "application_uri"
  | productUri => "product_uri"

/-- The place of the text in an array. -/
def place : ServerField → Nat
  | applicationName => 0
  | applicationUri => 1
  | productUri => 2

/-- The text itself. -/
def value (i : ServerInfo) : ServerField → String
  | applicationName => i.applicationName
  | applicationUri => i.applicationUri
  | productUri => i.productUri

/-- Server information is made of its texts. -/
theorem eq_of_value_eq {i j : ServerInfo} (h : ∀ f : ServerField, f.value i = f.value j) :
    i = j := by
  obtain ⟨name, uri, product⟩ := i
  have hname : name = j.applicationName := h applicationName
  have huri : uri = j.applicationUri := h applicationUri
  have hproduct : product = j.productUri := h productUri
  rw [hname, huri, hproduct]

end ServerField

theorem Permission.mem_all (p : Permission) : p ∈ all := by
  cases p <;> decide

theorem Permission.ofName?_eq_none_iff {s : String} :
    ofName? s = none ↔ ∀ p : Permission, s ≠ p.name := by
  rw [ofName?, List.find?_eq_none]
  constructor
  · intro h p hs
    exact h p p.mem_all (by simp [hs])
  · intro h p _ hp
    exact h p (of_decide_eq_true hp).symm

namespace Tree

variable (r : Reading)

/-! ## What has not the shape of settings -/

/-- The tree is the name of a permission, perhaps with something blank beside it. -/
def NamesPermission (p : Permission) (t : Tree) : Prop :=
  t = string p.name ∨ ∃ content, t = table [(p.name, content)] ∧ r.isBlankContent content = true

/-- Something in a tree is not what a role setting has there. -/
inductive MisfitRole (t : Tree) : Prop
  | roleMissing (h : t.field? "role" 0 = none)
  | roleNoText {role : Tree} (h : t.field? "role" 0 = some role) (htext : r.text? role = none)
  | roleNoNodeId {role : Tree} {text : String} (h : t.field? "role" 0 = some role)
      (htext : r.text? role = some text) (hid : ∀ id, NodeId.read text ≠ .ok id)
  | permissionsNoList {ps : Tree} (h : t.field? "permissions" 1 = some ps)
      (hlist : ∀ items, ps ≠ array items)
  | permissionUnknown {items : List Tree} {item : Tree}
      (h : t.field? "permissions" 1 = some (array items)) (hitem : item ∈ items)
      (hname : ∀ p, ¬ NamesPermission r p item)

/-- Something in a tree is not what settings have there. -/
inductive Misfit (root : Tree) : Prop
  | whole (h : root.isRecord = false)
  | server {t : Tree} (h : root.field? "server" 0 = some t) (ht : t.isRecord = false)
  | security {t : Tree} (h : root.field? "security" 1 = some t) (ht : t.isRecord = false)
  | serverText {t v : Tree} (f : ServerField) (h : root.field? "server" 0 = some t)
      (hv : t.field? f.key f.place = some v) (htext : r.text? v = none)
  | rolesNoList {t v : Tree} (h : root.field? "security" 1 = some t)
      (hv : t.field? "default_role_permissions" 0 = some v) (hlist : ∀ items, v ≠ array items)
  | role {t item : Tree} {items : List Tree} (h : root.field? "security" 1 = some t)
      (hv : t.field? "default_role_permissions" 0 = some (array items)) (hitem : item ∈ items)
      (hrole : MisfitRole r item)

section

variable {α : Type}

theorem withDefault_eq_none_iff {o : Option Tree} {f : Tree → Option α} {a : α} :
    withDefault o f a = none ↔ ∃ t, o = some t ∧ f t = none := by
  cases o <;> simp [withDefault]

theorem collect_eq_none_iff {f : Tree → Option α} {ts : List Tree} :
    collect f ts = none ↔ ∃ t ∈ ts, f t = none := by
  induction ts with
  | nil => simp [collect]
  | cons t ts ih =>
    rw [collect]
    cases ht : f t with
    | none => simp [ht]
    | some a =>
      cases hts : collect f ts with
      | none => simpa [hts, ht] using ih
      | some as => simpa [hts, ht] using ih

theorem list?_eq_none_iff {f : Tree → Option α} {t : Tree} :
    list? f t = none ↔
      (∀ items, t ≠ array items) ∨ ∃ items, t = array items ∧ ∃ item ∈ items, f item = none := by
  cases t <;> simp [list?, collect_eq_none_iff]

end

theorem permission?_eq_none_iff (t : Tree) :
    permission? r t = none ↔ ∀ p, ¬ NamesPermission r p t := by
  unfold permission? NamesPermission
  split
  · simp [Permission.ofName?_eq_none_iff]
  · rename_i name content
    split
    · rename_i hblank
      simp [Permission.ofName?_eq_none_iff, hblank]
    · rename_i hblank
      simp [hblank]
  · rename_i hstring htable
    refine ⟨fun _ p h => ?_, fun _ => rfl⟩
    obtain h | ⟨content, h, -⟩ := h
    · exact hstring _ h
    · exact htable _ _ h

theorem read?_eq_none_iff (text : String) :
    NodeId.read? text = none ↔ ∀ id, NodeId.read text ≠ .ok id := by
  unfold NodeId.read?
  cases NodeId.read text <;> simp [Except.toOption]

theorem roleSetting?_eq_none_iff (t : Tree) : roleSetting? r t = none ↔ MisfitRole r t := by
  unfold roleSetting?
  constructor
  · intro h
    cases hrole : t.field? "role" 0 with
    | none => exact .roleMissing hrole
    | some role =>
      cases htext : r.text? role with
      | none => exact .roleNoText hrole htext
      | some text =>
        cases hid : NodeId.read? text with
        | none => exact .roleNoNodeId hrole htext ((read?_eq_none_iff text).mp hid)
        | some id =>
          cases hgiven : withDefault (t.field? "permissions" 1) (list? (permission? r)) [] with
          | none =>
            obtain ⟨ps, hps, hlist⟩ := withDefault_eq_none_iff.mp hgiven
            obtain hlist | ⟨items, rfl, item, hitem, hname⟩ := list?_eq_none_iff.mp hlist
            · exact .permissionsNoList hps hlist
            · exact .permissionUnknown hps hitem ((permission?_eq_none_iff r item).mp hname)
          | some permissions => simp [hrole, htext, hid, hgiven] at h
  · intro h
    cases h with
    | roleMissing h => simp [h]
    | roleNoText h htext => simp [h, htext]
    | roleNoNodeId h htext hid => simp [h, htext, (read?_eq_none_iff _).mpr hid]
    | permissionsNoList h hlist =>
      have hnone := list?_eq_none_iff (f := permission? r).mpr (.inl hlist)
      simp [h, withDefault, hnone]
    | permissionUnknown h hitem hname =>
      have hnone := list?_eq_none_iff (f := permission? r).mpr
        (.inr ⟨_, rfl, _, hitem, (permission?_eq_none_iff r _).mpr hname⟩)
      simp [h, withDefault, hnone]

theorem serverInfo?_eq_some_iff (t : Tree) (i : ServerInfo) :
    serverInfo? r t = some i ↔ t.isRecord = true ∧ ∀ f : ServerField,
      withDefault (t.field? f.key f.place) r.text? (f.value .standard) = some (f.value i) := by
  have hfields : (∀ f : ServerField,
      withDefault (t.field? f.key f.place) r.text? (f.value .standard) = some (f.value i)) ↔
      withDefault (t.field? "application_name" 0) r.text? ServerInfo.standard.applicationName =
          some i.applicationName ∧
        withDefault (t.field? "application_uri" 1) r.text? ServerInfo.standard.applicationUri =
          some i.applicationUri ∧
        withDefault (t.field? "product_uri" 2) r.text? ServerInfo.standard.productUri =
          some i.productUri := by
    constructor
    · intro h
      exact ⟨h .applicationName, h .applicationUri, h .productUri⟩
    · rintro ⟨hname, huri, hproduct⟩ (_ | _ | _)
      · exact hname
      · exact huri
      · exact hproduct
  rw [hfields]
  unfold serverInfo?
  obtain ⟨name, uri, product⟩ := i
  simp only [Option.bind_eq_bind, Option.bind_eq_some_iff, Option.guard_eq_some', Option.some.injEq,
    ServerInfo.mk.injEq]
  constructor
  · rintro ⟨_, hrecord, _, hname, _, huri, _, hproduct, rfl, rfl, rfl⟩
    exact ⟨hrecord, hname, huri, hproduct⟩
  · rintro ⟨hrecord, hname, huri, hproduct⟩
    exact ⟨(), hrecord, _, hname, _, huri, _, hproduct, rfl, rfl, rfl⟩

theorem serverInfo?_eq_none_iff (t : Tree) :
    serverInfo? r t = none ↔ t.isRecord = false ∨
      ∃ (f : ServerField) (v : Tree), t.field? f.key f.place = some v ∧ r.text? v = none := by
  constructor
  · intro h
    cases hrecord : t.isRecord with
    | false => exact .inl rfl
    | true =>
      right
      cases hname : withDefault (t.field? "application_name" 0) r.text? _ with
      | none =>
        obtain ⟨v, hv, htext⟩ := withDefault_eq_none_iff.mp hname
        exact ⟨.applicationName, v, hv, htext⟩
      | some name =>
        cases huri : withDefault (t.field? "application_uri" 1) r.text? _ with
        | none =>
          obtain ⟨v, hv, htext⟩ := withDefault_eq_none_iff.mp huri
          exact ⟨.applicationUri, v, hv, htext⟩
        | some uri =>
          cases hproduct : withDefault (t.field? "product_uri" 2) r.text? _ with
          | none =>
            obtain ⟨v, hv, htext⟩ := withDefault_eq_none_iff.mp hproduct
            exact ⟨.productUri, v, hv, htext⟩
          | some product =>
            have hsome := (serverInfo?_eq_some_iff r t ⟨name, uri, product⟩).mpr
              ⟨hrecord, fun f => by cases f <;> assumption⟩
            rw [h] at hsome
            contradiction
  · intro h
    rw [Option.eq_none_iff_forall_ne_some]
    intro i hi
    obtain ⟨hrecord, htexts⟩ := (serverInfo?_eq_some_iff r t i).mp hi
    obtain hrecord' | ⟨f, v, hv, htext⟩ := h
    · rw [hrecord] at hrecord'
      contradiction
    · have hgiven := htexts f
      rw [hv, withDefault, htext] at hgiven
      contradiction

theorem securitySettings?_eq_some_iff (t : Tree) (s : SecuritySettings) :
    securitySettings? r t = some s ↔ t.isRecord = true ∧
      withDefault (t.field? "default_role_permissions" 0) (list? (roleSetting? r)) [] =
        some s.defaultRoles := by
  unfold securitySettings?
  obtain ⟨roles⟩ := s
  simp [Option.guard_eq_some', Option.bind_eq_some_iff]

theorem settings?_eq_some_iff (t : Tree) (c : Settings) :
    settings? r t = some c ↔ t.isRecord = true ∧
      withDefault (t.field? "server" 0) (serverInfo? r) .standard = some c.server ∧
      withDefault (t.field? "security" 1) (securitySettings? r) .standard = some c.security := by
  unfold settings?
  obtain ⟨server, security⟩ := c
  simp [Option.guard_eq_some', Option.bind_eq_some_iff]

theorem securitySettings?_eq_none_iff (t : Tree) :
    securitySettings? r t = none ↔ t.isRecord = false ∨
      ∃ v, t.field? "default_role_permissions" 0 = some v ∧ list? (roleSetting? r) v = none := by
  rw [← withDefault_eq_none_iff (a := []), Option.eq_none_iff_forall_ne_some,
    Option.eq_none_iff_forall_ne_some]
  constructor
  · intro h
    cases hrecord : t.isRecord with
    | false => exact .inl rfl
    | true =>
      right
      intro roles hroles
      exact h ⟨roles⟩ ((securitySettings?_eq_some_iff r t _).mpr ⟨hrecord, hroles⟩)
  · intro h s hs
    obtain ⟨hrecord, hroles⟩ := (securitySettings?_eq_some_iff r t s).mp hs
    obtain hrecord' | h := h
    · rw [hrecord] at hrecord'
      contradiction
    · exact h s.defaultRoles hroles

/-- A tree gives no settings exactly if something in it is not what settings have there. -/
theorem settings?_eq_none_iff (t : Tree) : settings? r t = none ↔ Misfit r t := by
  constructor
  · intro h
    cases hrecord : t.isRecord with
    | false => exact .whole hrecord
    | true =>
      cases hserver : withDefault (t.field? "server" 0) (serverInfo? r) .standard with
      | none =>
        obtain ⟨server, hfield, hserver⟩ := withDefault_eq_none_iff.mp hserver
        obtain hrecord | ⟨f, v, hv, htext⟩ := (serverInfo?_eq_none_iff r server).mp hserver
        · exact .server hfield hrecord
        · exact .serverText f hfield hv htext
      | some server =>
        cases hsecurity : withDefault (t.field? "security" 1) (securitySettings? r) .standard with
        | none =>
          obtain ⟨security, hfield, hsecurity⟩ := withDefault_eq_none_iff.mp hsecurity
          obtain hrecord | ⟨v, hv, hlist⟩ :=
            (securitySettings?_eq_none_iff r security).mp hsecurity
          · exact .security hfield hrecord
          · obtain hlist | ⟨items, rfl, item, hitem, hrole⟩ := list?_eq_none_iff.mp hlist
            · exact .rolesNoList hfield hv hlist
            · exact .role hfield hv hitem ((roleSetting?_eq_none_iff r item).mp hrole)
        | some security =>
          have hsome := (settings?_eq_some_iff r t ⟨server, security⟩).mpr
            ⟨hrecord, hserver, hsecurity⟩
          rw [h] at hsome
          contradiction
  · intro h
    rw [Option.eq_none_iff_forall_ne_some]
    intro c hc
    obtain ⟨hrecord, hserver, hsecurity⟩ := (settings?_eq_some_iff r t c).mp hc
    have hnoServer : ∀ {server}, t.field? "server" 0 = some server →
        serverInfo? r server ≠ none := by
      intro server hfield hnone
      rw [hfield, withDefault, hnone] at hserver
      contradiction
    have hnoSecurity : ∀ {security}, t.field? "security" 1 = some security →
        securitySettings? r security ≠ none := by
      intro security hfield hnone
      rw [hfield, withDefault, hnone] at hsecurity
      contradiction
    cases h with
    | whole h => simp [hrecord] at h
    | server h ht => exact hnoServer h ((serverInfo?_eq_none_iff r _).mpr (.inl ht))
    | security h ht => exact hnoSecurity h ((securitySettings?_eq_none_iff r _).mpr (.inl ht))
    | serverText f h hv htext =>
      exact hnoServer h ((serverInfo?_eq_none_iff r _).mpr (.inr ⟨f, _, hv, htext⟩))
    | rolesNoList h hv hlist =>
      have hnone := list?_eq_none_iff (f := roleSetting? r).mpr (.inl hlist)
      exact hnoSecurity h ((securitySettings?_eq_none_iff r _).mpr (.inr ⟨_, hv, hnone⟩))
    | role h hv hitem hrole =>
      have hnone := list?_eq_none_iff (f := roleSetting? r).mpr
        (.inr ⟨_, rfl, _, hitem, (roleSetting?_eq_none_iff r _).mpr hrole⟩)
      exact hnoSecurity h ((securitySettings?_eq_none_iff r _).mpr (.inr ⟨_, hv, hnone⟩))

/-! ## What settings depend on -/

/-- Tables that hold the same under all keys present a server in the same way. -/
theorem serverInfo?_congr {es es' : List (String × Tree)}
    (h : EntriesAgree (fun _ => True) es es') :
    serverInfo? r (table es) = serverInfo? r (table es') := by
  simp only [serverInfo?, isRecord, field?, h _ trivial]

theorem securitySettings?_congr {es es' : List (String × Tree)}
    (h : EntriesAgree (fun _ => True) es es') :
    securitySettings? r (table es) = securitySettings? r (table es') := by
  simp only [securitySettings?, isRecord, field?, h _ trivial]

theorem PartsAgree.withDefault_eq {α : Type} {o o' : Option Tree}
    (h : PartsAgree (fun _ => True) o o') {f : Tree → Option α}
    (hf : ∀ {es es'}, EntriesAgree (fun _ => True) es es' → f (table es) = f (table es')) (a : α) :
    withDefault o f a = withDefault o' f a := by
  obtain rfl | ⟨es, es', rfl, rfl, h⟩ := h
  · rfl
  · exact hf h

theorem AgreeOn.partsAgree {part : String} {root root' : Tree}
    (h : AgreeOn part (fun _ => True) root root') (k : String) :
    PartsAgree (fun _ => True) (root.entries.lookup k) (root'.entries.lookup k) := by
  by_cases hk : k = part
  · rw [hk]
    exact h.inPart
  · exact .inl (h.elsewhere k hk)

/-- Tables that agree on everything give the same settings. -/
theorem AgreeOn.settings?_eq {part : String} {root root' : Tree}
    (h : AgreeOn part (fun _ => True) root root') (hroot : root.isTable = true)
    (hroot' : root'.isTable = true) : settings? r root = settings? r root' := by
  obtain ⟨es, rfl⟩ := isTable_iff.mp hroot
  obtain ⟨es', rfl⟩ := isTable_iff.mp hroot'
  have hserver := (h.partsAgree "server").withDefault_eq (serverInfo?_congr r) .standard
  have hsecurity := (h.partsAgree "security").withDefault_eq (securitySettings?_congr r) .standard
  simp only [entries] at hserver hsecurity
  simp only [settings?, isRecord, field?, hserver, hsecurity]

theorem serverInfo_eq_some_iff {root : Tree} (h : HoldsTable "server" root) (i : ServerInfo) :
    withDefault (root.entries.lookup "server") (serverInfo? r) .standard = some i ↔
      ∀ f : ServerField, withDefault (root.find? "server" f.key) r.text? (f.value .standard) =
        some (f.value i) := by
  unfold find?
  cases hserver : root.entries.lookup "server" with
  | none =>
    simp only [withDefault, Option.bind_none, Option.some.injEq]
    constructor
    · rintro rfl f
      rfl
    · exact ServerField.eq_of_value_eq
  | some t =>
    obtain ⟨es, rfl⟩ := isTable_iff.mp (h t hserver)
    rw [withDefault, serverInfo?_eq_some_iff]
    simp [isRecord, field?, entries]

theorem securitySettings_eq_some_iff {root : Tree} (h : HoldsTable "security" root)
    (s : SecuritySettings) :
    withDefault (root.entries.lookup "security") (securitySettings? r) .standard = some s ↔
      withDefault (root.find? "security" "default_role_permissions") (list? (roleSetting? r)) [] =
        some s.defaultRoles := by
  obtain ⟨roles⟩ := s
  unfold find?
  cases hsecurity : root.entries.lookup "security" with
  | none => simp [withDefault, SecuritySettings.standard]
  | some t =>
    obtain ⟨es, rfl⟩ := isTable_iff.mp (h t hsecurity)
    rw [withDefault, securitySettings?_eq_some_iff]
    simp [isRecord, field?, entries]

/-- A table gives settings by its two parts. -/
theorem settings?_eq_some_iff_lookup {root : Tree} (hroot : root.isTable = true) (c : Settings) :
    settings? r root = some c ↔
      withDefault (root.entries.lookup "server") (serverInfo? r) .standard = some c.server ∧
        withDefault (root.entries.lookup "security") (securitySettings? r) .standard =
          some c.security := by
  obtain ⟨es, rfl⟩ := isTable_iff.mp hroot
  rw [settings?_eq_some_iff]
  simp [isRecord, field?, entries]

/-- Where the parts are tables, the settings are made of what stands under four pairs of keys. -/
theorem settings?_eq_some_iff_find? {root : Tree} (hroot : root.isTable = true)
    (hserver : HoldsTable "server" root) (hsecurity : HoldsTable "security" root) (c : Settings) :
    settings? r root = some c ↔
      (∀ f : ServerField, withDefault (root.find? "server" f.key) r.text? (f.value .standard) =
        some (f.value c.server)) ∧
      withDefault (root.find? "security" "default_role_permissions") (list? (roleSetting? r)) [] =
        some c.security.defaultRoles := by
  rw [settings?_eq_some_iff_lookup r hroot, serverInfo_eq_some_iff r hserver,
    securitySettings_eq_some_iff r hsecurity]

end Tree

end NodeAccess

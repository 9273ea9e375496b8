import NodeAccess.Proofs.Json.Names
import NodeAccess.Proofs.Json.Records
import NodeAccess.Proofs.Settings.Shape
import NodeAccess.Settings.Json

/-!
# Settings laid over the defaults

Settings in JSON give back the settings they were written from. What is left out of them has its
default and leaves every other part as it is; only the role of an entry may not be left out. How a
record is written, with its members in another order, with members of unknown names, or as the list
of its first fields, makes no difference in any of the four kinds of records.
-/

set_option autoImplicit false

namespace NodeAccess

open Decoder Json

/-! ## Settings recovered -/

/-- If every item is recovered from what it is written as, so is every list of items. -/
theorem Decoder.recovers_map {α : Type} {d : Decoder α} {toJson : α → Json}
    (h : ∀ a, d.Recovers (toJson a) a) (as : List α) :
    (list d).Recovers (.array (as.map toJson)) as := by
  apply recovers_list
  rw [List.forall₂_map_left_iff, List.forall₂_same]
  exact fun a _ => h a

theorem Permission.recovers_toJson (p : Permission) : Permission.decode.Recovers p.toJson p := by
  refine ⟨trivial, ?_⟩
  intro depth
  cases p <;> rfl

theorem RoleSetting.recovers_toJson (s : RoleSetting) : RoleSetting.decode.Recovers s.toJson s := by
  have hpermissions := recovers_map Permission.recovers_toJson s.permissions
  refine Fields.recovers_object rfl (by decide) ⟨trivial, hpermissions.texts, trivial⟩ ?_
  intro depth
  rw [Fields.required_eq rfl s.role.recovers_toJson, Fields.withDefault_eq rfl hpermissions]
  simp only [Fields.bind_if, Json.nestingOfMembers, Nat.max_le, ite_and, Nat.zero_le, if_true]

theorem SecuritySettings.recovers_toJson (s : SecuritySettings) :
    SecuritySettings.decode.Recovers s.toJson s := by
  have hroles := recovers_map RoleSetting.recovers_toJson s.defaultRoles
  refine Fields.recovers_object rfl (by decide) ⟨hroles.texts, trivial⟩ ?_
  intro depth
  rw [Fields.withDefault_eq rfl hroles]
  simp only [Fields.bind_if, Json.nestingOfMembers, Nat.max_le, ite_and, Nat.zero_le, if_true]

theorem ServerInfo.recovers_toJson (i : ServerInfo) : ServerInfo.decode.Recovers i.toJson i := by
  refine Fields.recovers_object rfl (by decide) ⟨trivial, trivial, trivial, trivial⟩ ?_
  intro depth
  rw [Fields.withDefault_eq rfl (recovers_text i.applicationName),
    Fields.withDefault_eq rfl (recovers_text i.applicationUri),
    Fields.withDefault_eq rfl (recovers_text i.productUri)]
  simp only [Fields.bind_if, Json.nestingOfMembers, Nat.max_le, ite_and, Nat.zero_le, if_true]

theorem Settings.recovers_toJson (s : Settings) : Settings.decode.Recovers s.toJson s := by
  have hserver := s.server.recovers_toJson
  have hsecurity := s.security.recovers_toJson
  refine Fields.recovers_object rfl (by decide) ⟨hserver.texts, hsecurity.texts, trivial⟩ ?_
  intro depth
  rw [Fields.withDefault_eq rfl hserver, Fields.withDefault_eq rfl hsecurity]
  simp only [Fields.bind_if, Json.nestingOfMembers, Nat.max_le, ite_and, Nat.zero_le, if_true]

theorem Json.nestingOfItems_map_le {α : Type} {toJson : α → Json} {n : Nat}
    (h : ∀ a, (toJson a).nesting ≤ n) (as : List α) : nestingOfItems (as.map toJson) ≤ n := by
  induction as with
  | nil => exact Nat.zero_le n
  | cons a as ih => exact Nat.max_le.mpr ⟨h a, ih⟩

theorem RoleSetting.nesting_toJson_le (s : RoleSetting) : s.toJson.nesting ≤ 2 := by
  have hpermissions : nestingOfItems (s.permissions.map Permission.toJson) ≤ 0 :=
    nestingOfItems_map_le (fun _ => Nat.le_refl 0) s.permissions
  have hrole : s.role.toJson.nesting = 0 := rfl
  simp only [toJson, nesting, nestingOfMembers, hrole]
  omega

/-- Settings are written with five arrays and objects open at most. -/
theorem Settings.nesting_toJson_le (s : Settings) : s.toJson.nesting ≤ 5 := by
  have hroles := nestingOfItems_map_le RoleSetting.nesting_toJson_le s.security.defaultRoles
  have hserver : s.server.toJson.nesting = 1 := rfl
  simp only [toJson, SecuritySettings.toJson, nesting, nestingOfMembers, hserver]
  omega

theorem Settings.run_toJson (s : Settings) : decode.run s.toJson = some s := by
  have hnesting := s.nesting_toJson_le
  rw [run, s.recovers_toJson.found greatestDepth, if_pos (by unfold greatestDepth; omega)]

/-- Settings are given back by the text they are written to. -/
theorem Settings.run_read?_toText (s : Settings) :
    (Json.read? s.toJson.toText).bind decode.run = some s := by
  rw [Json.read?_toText _ s.recovers_toJson.texts, Option.bind_some, s.run_toJson]

/-! ## The fields of each record -/

theorem ServerField.key_mem (field : ServerField) : field.key ∈ ServerInfo.fieldNames := by
  cases field <;> decide

theorem ServerField.key_inj {field other : ServerField} (h : field.key = other.key) :
    field = other := by
  revert h
  cases field <;> cases other <;> decide

theorem ServerInfo.readsFields : ReadsFields decode fieldNames fun f i =>
    ∀ field : ServerField,
      f.withDefault field.key text (field.value .standard) = some (field.value i) := by
  intro depth j i
  obtain ⟨name, uri, product⟩ := i
  simp only [decode, andThen, Option.bind_eq_bind, Option.bind_eq_some_iff, Option.some.injEq,
    ServerInfo.mk.injEq]
  constructor
  · rintro ⟨f, hf, _, hname, _, huri, _, hproduct, rfl, rfl, rfl⟩
    exact ⟨f, hf, fun field => by cases field <;> assumption⟩
  · rintro ⟨f, hf, h⟩
    exact ⟨f, hf, _, h .applicationName, _, h .applicationUri, _, h .productUri, rfl, rfl, rfl⟩

theorem RoleSetting.readsFields : ReadsFields decode fieldNames fun f s =>
    f.required "role" NodeId.decode = some s.role ∧
      f.withDefault "permissions" (list Permission.decode) [] = some s.permissions := by
  intro depth j s
  obtain ⟨role, permissions⟩ := s
  simp [decode, andThen, Option.bind_eq_some_iff]

theorem SecuritySettings.readsFields : ReadsFields decode fieldNames fun f s =>
    f.withDefault "default_role_permissions" (list RoleSetting.decode) standard.defaultRoles =
      some s.defaultRoles := by
  intro depth j s
  obtain ⟨roles⟩ := s
  simp [decode, andThen, Option.bind_eq_some_iff]

theorem Settings.readsFields : ReadsFields decode fieldNames fun f s =>
    f.withDefault "server" ServerInfo.decode standard.server = some s.server ∧
      f.withDefault "security" SecuritySettings.decode standard.security = some s.security := by
  intro depth j s
  obtain ⟨server, security⟩ := s
  simp [decode, andThen, Option.bind_eq_some_iff]

/-! ## How a record is written -/

theorem ServerInfo.ignores_rewrites : Ignores decode (Rewrites fieldNames) := by
  refine readsFields.ignores_rewrites (by decide) ?_
  intro f f' i hagree hi field
  rw [hagree.withDefault_eq field.key_mem, hi]

theorem RoleSetting.ignores_rewrites : Ignores decode (Rewrites fieldNames) := by
  refine readsFields.ignores_rewrites (by decide) ?_
  rintro f f' s hagree ⟨hrole, hpermissions⟩
  rw [hagree.required_eq (by decide), hagree.withDefault_eq (by decide)]
  exact ⟨hrole, hpermissions⟩

theorem SecuritySettings.ignores_rewrites : Ignores decode (Rewrites fieldNames) := by
  refine readsFields.ignores_rewrites (by decide) ?_
  intro f f' s hagree hs
  rw [hagree.withDefault_eq (by decide), hs]

theorem Settings.ignores_rewrites : Ignores decode (Rewrites fieldNames) := by
  refine readsFields.ignores_rewrites (by decide) ?_
  rintro f f' s hagree ⟨hserver, hsecurity⟩
  rw [hagree.withDefault_eq (by decide), hagree.withDefault_eq (by decide)]
  exact ⟨hserver, hsecurity⟩

/-! ## What is left out of a record -/

/-- Server information with one text as it is when nothing is configured. -/
def ServerField.reset : ServerField → ServerInfo → ServerInfo
  | applicationName, i => { i with applicationName := ServerInfo.standard.applicationName }
  | applicationUri, i => { i with applicationUri := ServerInfo.standard.applicationUri }
  | productUri, i => { i with productUri := ServerInfo.standard.productUri }

theorem ServerField.value_reset_self (field : ServerField) (i : ServerInfo) :
    field.value (field.reset i) = field.value .standard := by
  cases field <;> rfl

theorem ServerField.value_reset_of_ne {field other : ServerField} (h : other ≠ field)
    (i : ServerInfo) : other.value (field.reset i) = other.value i := by
  cases field <;> cases other <;> first | rfl | contradiction

theorem ServerInfo.carries_drops (field : ServerField) :
    Carries decode (Drops field.key) field.reset := by
  refine readsFields.carries_drops field.key_mem ?_
  intro f f' i hagree hmissing hi other
  by_cases hother : other = field
  · rw [hother, Fields.withDefault_of_none hmissing, field.value_reset_self]
  · have hkey : other.key ∈ fieldNames.filter (· ≠ field.key) := by
      simp [other.key_mem, mt ServerField.key_inj hother]
    rw [hagree.withDefault_eq hkey, hi, ServerField.value_reset_of_ne hother]

theorem RoleSetting.carries_drops :
    Carries decode (Drops "permissions") fun s => { s with permissions := [] } := by
  refine readsFields.carries_drops (by decide) ?_
  rintro f f' s hagree hmissing ⟨hrole, -⟩
  rw [hagree.required_eq (by decide), Fields.withDefault_of_none hmissing]
  exact ⟨hrole, rfl⟩

theorem RoleSetting.refuses_drops : Refuses decode (Drops "role") := by
  refine readsFields.refuses_drops (by decide) ?_
  rintro f s hmissing ⟨hrole, -⟩
  rw [Fields.required_of_none hmissing] at hrole
  contradiction

theorem SecuritySettings.carries_drops :
    Carries decode (Drops "default_role_permissions") fun _ => standard := by
  refine readsFields.carries_drops (by decide) ?_
  intro f f' s _ hmissing _
  exact Fields.withDefault_of_none hmissing

theorem Settings.carries_drops_server :
    Carries decode (Drops "server") fun s => { s with server := .standard } := by
  refine readsFields.carries_drops (by decide) ?_
  rintro f f' s hagree hmissing ⟨-, hsecurity⟩
  rw [Fields.withDefault_of_none hmissing, hagree.withDefault_eq (by decide)]
  exact ⟨rfl, hsecurity⟩

theorem Settings.carries_drops_security :
    Carries decode (Drops "security") fun s => { s with security := .standard } := by
  refine readsFields.carries_drops (by decide) ?_
  rintro f f' s hagree hmissing ⟨hserver, -⟩
  rw [hagree.withDefault_eq (by decide), Fields.withDefault_of_none hmissing]
  exact ⟨hserver, rfl⟩

/-! ## Edits inside a record -/

section

variable {Edit : Json → Json → Prop}

theorem Settings.carries_server {g : ServerInfo → ServerInfo}
    (h : Carries ServerInfo.decode Edit g) :
    Carries decode (AtField fieldNames "server" Edit) fun s => { s with server := g s.server } := by
  refine h.atField readsFields (by decide) (by decide) ?_
  rintro f f' s hagree hedited ⟨hserver, hsecurity⟩
  refine ⟨hedited _ _ hserver, ?_⟩
  rwa [hagree.withDefault_eq (by decide)]

theorem Settings.carries_security {g : SecuritySettings → SecuritySettings}
    (h : Carries SecuritySettings.decode Edit g) :
    Carries decode (AtField fieldNames "security" Edit) fun s =>
      { s with security := g s.security } := by
  refine h.atField readsFields (by decide) (by decide) ?_
  rintro f f' s hagree hedited ⟨hserver, hsecurity⟩
  refine ⟨?_, hedited _ _ hsecurity⟩
  rwa [hagree.withDefault_eq (by decide)]

theorem SecuritySettings.carries_roles {g : List RoleSetting → List RoleSetting}
    (h : Carries (list RoleSetting.decode) Edit g) :
    Carries decode (AtField fieldNames "default_role_permissions" Edit) fun s =>
      { s with defaultRoles := g s.defaultRoles } := by
  refine h.atField readsFields (by decide) (by decide) ?_
  intro f f' s _ hedited hs
  exact hedited _ _ hs

theorem Settings.refuses_security (h : Refuses SecuritySettings.decode Edit) :
    Refuses decode (AtField fieldNames "security" Edit) := by
  refine h.atField readsFields (by decide) (by decide) ?_
  exact fun f s hs => ⟨_, s.security, hs.2⟩

theorem SecuritySettings.refuses_roles (h : Refuses (list RoleSetting.decode) Edit) :
    Refuses decode (AtField fieldNames "default_role_permissions" Edit) := by
  refine h.atField readsFields (by decide) (by decide) ?_
  exact fun f s hs => ⟨_, s.defaultRoles, hs⟩

end

namespace Settings

/-! ## All records and all parts -/

/-- A record in settings. -/
inductive Record where
  | whole
  | server
  | security
  /-- The entry in this place of the table. -/
  | entry (place : Nat)

/-- The fields of a record, in order. -/
def Record.fieldNames : Record → List String
  | whole => Settings.fieldNames
  | server => ServerInfo.fieldNames
  | security => SecuritySettings.fieldNames
  | entry _ => RoleSetting.fieldNames

/-- An edit of a record, as an edit of the settings it is in. -/
def Record.Edits : Record → (Json → Json → Prop) → Json → Json → Prop
  | whole, Edit => Edit
  | server, Edit => AtField Settings.fieldNames "server" Edit
  | security, Edit => AtField Settings.fieldNames "security" Edit
  | entry place, Edit => AtField Settings.fieldNames "security"
      (AtField SecuritySettings.fieldNames "default_role_permissions" (AtItem place Edit))

/-- A part that settings can be given without. -/
inductive Part where
  | server
  | text (field : ServerField)
  | security
  | defaultRoles
  /-- The permissions of the entry in this place of the table. -/
  | permissions (place : Nat)

namespace Part

/-- The record that the part stands in. -/
def record : Part → Record
  | server => .whole
  | text _ => .server
  | security => .whole
  | defaultRoles => .security
  | permissions place => .entry place

/-- The name of the part in its record. -/
def name : Part → String
  | server => "server"
  | text field => field.key
  | security => "security"
  | defaultRoles => "default_role_permissions"
  | permissions _ => "permissions"

/-- The settings with the part as it is when nothing is configured. -/
def reset : Part → Settings → Settings
  | server, c => { c with server := .standard }
  | text field, c => { c with server := field.reset c.server }
  | security, c => { c with security := .standard }
  | defaultRoles, c => { c with security := { c.security with defaultRoles := [] } }
  | permissions place, c =>
    { c with security := { c.security with
        defaultRoles := c.security.defaultRoles.modify place fun entry =>
          { entry with permissions := [] } } }

theorem carries_drops (part : Part) :
    Carries decode (part.record.Edits (Drops part.name)) part.reset := by
  cases part with
  | server => exact carries_drops_server
  | text field => exact carries_server (ServerInfo.carries_drops field)
  | security => exact carries_drops_security
  | defaultRoles => exact carries_security SecuritySettings.carries_drops
  | permissions place =>
    exact carries_security
      (SecuritySettings.carries_roles (RoleSetting.carries_drops.atItem place))

end Part

/-- How any record in settings is written makes no difference. -/
theorem Record.ignores_rewrites (record : Record) :
    Ignores decode (record.Edits (Rewrites record.fieldNames)) := by
  cases record with
  | whole => exact Settings.ignores_rewrites
  | server => exact ServerInfo.ignores_rewrites.lift carries_server AtField.flip
  | security => exact SecuritySettings.ignores_rewrites.lift carries_security AtField.flip
  | entry place =>
    have hroles := (RoleSetting.ignores_rewrites.atItem place).lift
      SecuritySettings.carries_roles AtField.flip
    exact hroles.lift carries_security AtField.flip

/-- Settings are refused with an entry of the table that has no role. -/
theorem refuses_drops_role (place : Nat) :
    Refuses decode ((Record.entry place).Edits (Drops "role")) :=
  refuses_security (SecuritySettings.refuses_roles (RoleSetting.refuses_drops.atItem place))

/-- Every field is a part that may be left out, or the role of an entry. -/
theorem Record.fields_covered (record : Record) {name : String} (h : name ∈ record.fieldNames) :
    (∃ part : Part, part.record = record ∧ part.name = name) ∨
      ∃ place, record = .entry place ∧ name = "role" := by
  cases record with
  | whole =>
    obtain rfl | rfl : name = "server" ∨ name = "security" := by
      simpa [Record.fieldNames, Settings.fieldNames] using h
    · exact .inl ⟨.server, rfl, rfl⟩
    · exact .inl ⟨.security, rfl, rfl⟩
  | server =>
    left
    obtain rfl | rfl | rfl :
      name = "application_name" ∨ name = "application_uri" ∨ name = "product_uri" := by
        simpa [Record.fieldNames, ServerInfo.fieldNames] using h
    · exact ⟨.text .applicationName, rfl, rfl⟩
    · exact ⟨.text .applicationUri, rfl, rfl⟩
    · exact ⟨.text .productUri, rfl, rfl⟩
  | security =>
    obtain rfl : name = "default_role_permissions" := by
      simpa [Record.fieldNames, SecuritySettings.fieldNames] using h
    exact .inl ⟨.defaultRoles, rfl, rfl⟩
  | entry place =>
    obtain rfl | rfl : name = "role" ∨ name = "permissions" := by
      simpa [Record.fieldNames, RoleSetting.fieldNames] using h
    · exact .inr ⟨place, rfl, rfl⟩
    · exact .inl ⟨.permissions place, rfl, rfl⟩

/-- Settings in JSON are laid over the defaults. What is written is read back; a part that is left
out is as it is when nothing is configured, and nothing else changes; how a record is written makes
no difference. Of all fields only the role of an entry may not be left out. -/
theorem laid_over_defaults :
    (∀ c : Settings, (Json.read? c.toJson.toText).bind decode.run = some c) ∧
      (∀ (part : Part) (j j' : Json) (c : Settings), decode.run j = some c →
        part.record.Edits (Drops part.name) j j' → decode.run j' = some (part.reset c)) ∧
      (∀ (record : Record) (j j' : Json), record.Edits (Rewrites record.fieldNames) j j' →
        decode.run j = decode.run j') ∧
      (∀ (place : Nat) (j j' : Json) (c : Settings), decode.run j = some c →
        (Record.entry place).Edits (Drops "role") j j' → decode.run j' = none) ∧
      ∀ (record : Record), ∀ name ∈ record.fieldNames,
        (∃ part : Part, part.record = record ∧ part.name = name) ∨
          ∃ place, record = .entry place ∧ name = "role" := by
  refine ⟨run_read?_toText, ?_, ?_, ?_, ?_⟩
  · intro part j j' c hc hedit
    exact part.carries_drops greatestDepth j j' c hedit hc
  · intro record j j' hedit
    exact record.ignores_rewrites greatestDepth j j' hedit
  · intro place j j' c hc hedit
    exact refuses_drops_role place greatestDepth j j' c hedit hc
  · exact fun record name hname => record.fields_covered hname

/-- Of the settings of a kettle the permissions of the only entry are left out, then the role of the
entry is listed without its name and the server comes last. Without its role, the entry is
refused. -/
theorem laid_over_defaults_kettle :
    let role : NodeId := WellKnownRole.operator.nodeId
    let kettle : Settings :=
      { server := { applicationName := "kettle" }
        security := { defaultRoles := [{ role, permissions := [.browse, .read] }] } }
    let security (entry : Json) : String × Json :=
      ("security", .object [("default_role_permissions", .array [entry])])
    let server : String × Json := ("server", kettle.server.toJson)
    decode.run (.object [security (.array [role.toJson]), server]) =
        some { kettle with security := { defaultRoles := [{ role }] } } ∧
      decode.run (.object [server,
        security (.object [("permissions", .array [.string "browse", .string "read"])])]) =
        none := by
  intro role kettle security server
  obtain ⟨-, hdrops, hrewrites, hrefuses, -⟩ := laid_over_defaults
  -- an edit of the entry, in the settings around it
  have hinside : ∀ {Edit : Json → Json → Prop} {v v' : Json}, Edit v v' →
      (Record.entry 0).Edits Edit (.object [server, security v])
        (.object [server, security v']) := by
    intro Edit v v' hedit
    exact @AtField.member _ _ _ [server] [] _ _
      (@AtField.member _ _ _ [] [] _ _ (@AtItem.mk 0 _ [] [] _ _ rfl hedit))
  have hkettle : decode.run kettle.toJson = some kettle := kettle.run_toJson
  constructor
  · have hbare : decode.run (.object [server, security (.object [("role", role.toJson)])]) =
        some { kettle with security := { defaultRoles := [{ role }] } } :=
      hdrops (.permissions 0) _ _ kettle hkettle
        (hinside (@Drops.mk "permissions" [("role", role.toJson)] [] _))
    have hlisted : decode.run (.object [server, security (.object [("role", role.toJson)])]) =
        decode.run (.object [server, security (.array [role.toJson])]) :=
      hrewrites (.entry 0) _ _ (hinside (@Rewrites.list _ [role.toJson] (Nat.le_succ 1)))
    rw [← hrewrites .whole _ _ (.reorder (.swap _ _ _)), ← hlisted, hbare]
  · exact hrefuses 0 _ _ kettle hkettle (hinside (@Drops.mk "role" [] _ _))

end Settings

end NodeAccess

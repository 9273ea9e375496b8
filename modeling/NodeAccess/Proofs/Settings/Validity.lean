import Mathlib
import NodeAccess.Server

/-!
# What loading guarantees

Settings are checked after everything has been merged and before a server is made of them. So every
server that comes out of a loader has a name, and a table with entries, none of them for the null
node identifier and none with a bit that names no permission. A loader that falls back on the
settings for nothing configured always gives valid ones.
-/

set_option autoImplicit false

namespace NodeAccess

namespace PermissionMask

/-- No bit is set beside those of the seventeen permissions. -/
def IsNamed (m : PermissionMask) : Prop :=
  m.bits &&& ~~~0x1ffff = 0

instance (m : PermissionMask) : Decidable m.IsNamed :=
  inferInstanceAs (Decidable (_ = _))

theorem IsNamed.or {m n : PermissionMask} (hm : m.IsNamed) (hn : n.IsNamed) :
    (m ||| n).IsNamed := by
  have hsplit : ∀ a b c : UInt32, (a ||| b) &&& c = (a &&& c) ||| (b &&& c) := by
    intro a b c
    apply UInt32.toBitVec_inj.mp
    apply BitVec.eq_of_getLsbD_eq
    intro i _
    simp [Bool.and_or_distrib_right]
  have hbits : (m ||| n).bits = m.bits ||| n.bits := rfl
  rw [IsNamed] at hm hn ⊢
  rw [hbits, hsplit, hm, hn]
  rfl

end PermissionMask

theorem Permission.isNamed_mask (p : Permission) : p.mask.IsNamed := by
  cases p <;> decide

theorem Permission.isNamed_maskOf (ps : List Permission) : (maskOf ps).IsNamed := by
  have hfold : ∀ m : PermissionMask, m.IsNamed →
      (ps.foldl (fun m p => m ||| p.mask) m).IsNamed := by
    induction ps with
    | nil => exact fun _ h => h
    | cons p ps ih => exact fun m h => ih _ (h.or p.isNamed_mask)
  exact hfold .empty rfl

namespace Settings

/-- Settings have no problem exactly if the name is not blank and no entry is for the null role. -/
theorem problem?_eq_none_iff (c : Settings) :
    c.problem? = none ↔ (∃ ch ∈ c.server.applicationName.toList, Text.isBlank ch = false) ∧
      ∀ entry ∈ c.security.defaultRoles, entry.role ≠ .null := by
  have hblank : Text.allBlank c.server.applicationName = true ↔
      ¬ ∃ ch ∈ c.server.applicationName.toList, Text.isBlank ch = false := by
    simp [Text.allBlank]
  have hroles : ((c.security.defaultRoles.find? fun entry => entry.role.isNull).map
      InvalidSettings.nullRole) = none ↔ ∀ entry ∈ c.security.defaultRoles, entry.role ≠ .null := by
    simp [List.find?_eq_none, NodeId.isNull_iff]
  unfold problem?
  split
  · rename_i h
    simp only [reduceCtorEq, false_iff, not_and]
    exact fun hname => absurd hname (hblank.mp h)
  · rename_i h
    have hname := Classical.not_not.mp fun hname => h (hblank.mpr hname)
    rw [hroles]
    exact ⟨fun hroles => ⟨hname, hroles⟩, fun h => h.2⟩

theorem validate_eq_ok_iff (c d : Settings) : c.validate = .ok d ↔ c.problem? = none ∧ d = c := by
  unfold validate
  cases c.problem? <;> simp [eq_comm]

end Settings

namespace Server

/-- A server that can present itself and govern nodes. -/
structure WellFormed (server : Server) : Prop where
  named : ∃ ch ∈ server.info.applicationName.toList, Text.isBlank ch = false
  table_ne_nil : server.defaultTable ≠ []
  roles : ∀ e ∈ server.defaultTable, e.role ≠ .null
  permissions : ∀ e ∈ server.defaultTable, e.permissions.IsNamed

theorem standard_wellFormed :
    RoleTable.standard ≠ [] ∧ (∀ e ∈ RoleTable.standard, e.role ≠ .null) ∧
      ∀ e ∈ RoleTable.standard, e.permissions.IsNamed := by
  decide

/-- Valid settings describe a well-formed server. -/
theorem wellFormed_ofSettings {c : Settings} (h : c.problem? = none) :
    (ofSettings c).WellFormed := by
  obtain ⟨hname, hroles⟩ := c.problem?_eq_none_iff.mp h
  obtain ⟨hne, hstandard, hnamed⟩ := standard_wellFormed
  cases hempty : c.table.isEmpty with
  | true =>
    have htable : (ofSettings c).defaultTable = .standard := if_pos hempty
    exact ⟨hname, htable ▸ hne, htable ▸ hstandard, htable ▸ hnamed⟩
  | false =>
    have htable : (ofSettings c).defaultTable = c.table :=
      if_neg (by rw [hempty]; exact Bool.false_ne_true)
    refine ⟨hname, ?_, ?_, ?_⟩
    · rw [htable]
      exact List.isEmpty_eq_false_iff.mp hempty
    · rw [htable]
      intro e he
      obtain ⟨entry, hentry, rfl⟩ := List.mem_map.mp he
      exact hroles entry hentry
    · rw [htable]
      intro e he
      obtain ⟨entry, hentry, rfl⟩ := List.mem_map.mp he
      exact Permission.isNamed_maskOf entry.permissions

end Server

theorem mapError_eq_ok_iff {ε ε' α : Type} {f : ε → ε'} {x : Except ε α} {a : α} :
    x.mapError f = .ok a ↔ x = .ok a := by
  cases x <;> simp [Except.mapError]

theorem map_eq_ok_iff {ε α β : Type} {f : α → β} {x : Except ε α} {b : β} :
    x.map f = .ok b ↔ ∃ a, x = .ok a ∧ f a = b := by
  cases x <;> simp [Except.map]

/-- Settings that one file gives are valid. -/
theorem Settings.problem?_of_ofFile {file : Option String} {c : Settings}
    (h : ofFile file = .ok c) : c.problem? = none := by
  unfold ofFile at h
  split at h
  · contradiction
  · split at h
    · contradiction
    · rename_i d _
      obtain ⟨hvalid, rfl⟩ := (validate_eq_ok_iff d c).mp (mapError_eq_ok_iff.mp h)
      exact hvalid

/-- Settings that layers give are valid. -/
theorem Loader.problem?_of_load {l : Loader} {s : Sources} {c : Settings}
    (h : l.load s = .ok c) : c.problem? = none := by
  unfold load at h
  split at h
  · contradiction
  · split at h
    · contradiction
    · rename_i d _
      obtain ⟨hvalid, rfl⟩ := (Settings.validate_eq_ok_iff d c).mp (mapError_eq_ok_iff.mp h)
      exact hvalid

/-- Every server that a file or the layers of a project describe is well formed, and a loader that
falls back gives valid settings: those of the layers where they give any, and else exactly those for
nothing configured. A file that cannot be read counts as missing. -/
theorem loaded_wellFormed :
    (∀ (file : Option String) (server : Server), Server.ofFile file = .ok server →
        server.WellFormed) ∧
      (∀ (s : Sources) (server : Server), Server.load s = .ok server → server.WellFormed) ∧
      ∀ (l : Loader) (s : Sources), (l.loadOrStandard s).validate = .ok (l.loadOrStandard s) ∧
        (∀ c, l.load s = .ok c → l.loadOrStandard s = c) ∧
        ((∀ c, l.load s ≠ .ok c) → l.loadOrStandard s = .standard) := by
  refine ⟨?_, ?_, ?_⟩
  · intro file server h
    obtain ⟨c, hc, rfl⟩ := map_eq_ok_iff.mp h
    exact Server.wellFormed_ofSettings (Settings.problem?_of_ofFile hc)
  · intro s server h
    obtain ⟨c, hc, rfl⟩ := map_eq_ok_iff.mp h
    exact Server.wellFormed_ofSettings (Loader.problem?_of_load hc)
  · intro l s
    unfold Loader.loadOrStandard
    cases hload : l.load s with
    | ok c =>
      refine ⟨?_, ?_, ?_⟩
      · exact (c.validate_eq_ok_iff c).mpr ⟨Loader.problem?_of_load hload, rfl⟩
      · rintro d ⟨⟩
        rfl
      · intro h
        exact absurd rfl (h c)
    | error e =>
      refine ⟨?_, ?_, ?_⟩
      · exact (Settings.validate_eq_ok_iff _ _).mpr ⟨Settings.problem?_standard, rfl⟩
      · intro c h
        contradiction
      · exact fun _ => rfl

/-- A file that names a server, and one role with a permission. -/
def boilerFile : String :=
  "[server]\napplication_name = \"Boiler\"\n\n[[security.default_role_permissions]]\n" ++
    "role = \"i=15656\"\npermissions = [\"read\"]\n"

/-- What the file describes. -/
def boilerServer : Server where
  info := { applicationName := "Boiler" }
  defaultTable := [⟨WellKnownRole.authenticatedUser.nodeId, Permission.read.mask⟩]

/-- The file gives the same server by itself and as the file of a project, and a loader that finds
no document beside it falls back on the standard settings. -/
theorem loaded_wellFormed_boiler :
    Server.ofFile (some boilerFile) = .ok boilerServer ∧
      Server.load { projectFile := some boilerFile } = .ok boilerServer ∧
      boilerServer.WellFormed ∧
      Loader.loadOrStandard {} { projectFile := some boilerFile, localFile := some "role" } =
        .standard := by
  have hfile : Server.ofFile (some boilerFile) = .ok boilerServer := by decide +kernel
  have hload : Server.load { projectFile := some boilerFile } = .ok boilerServer := by
    decide +kernel
  have hfails : Loader.load {} { projectFile := some boilerFile, localFile := some "role" } =
      .error .malformedSource := by
    decide +kernel
  obtain ⟨hofFile, hofLayers, hfallback⟩ := loaded_wellFormed
  refine ⟨hfile, hload, hofFile _ _ hfile, (hfallback _ _).2.2 ?_⟩
  intro c hc
  cases hfails.symm.trans hc

end NodeAccess

import NodeAccess.Proofs.NodeId.Null
import NodeAccess.Proofs.Settings.Json
import NodeAccess.Proofs.Settings.Validity
import NodeAccess.Settings.Load

/-!
# What validation rejects

Whether settings are valid shows in the text they were decoded from: the name of the server is not
blank, and no role of the table is a spelling of the null identifier. This holds for settings in
JSON, in one file and in layers alike. Of several such roles the first is reported, and neither what
stands behind it nor any list of permissions plays a part in that.
-/

set_option autoImplicit false

namespace NodeAccess

open Decoder

/-! ## The texts of the roles -/

/-- The field of a record: by its name in an object, by its place in an array. -/
def Json.field? (j : Json) (name : String) (place : Nat) : Option Json :=
  match j with
  | .object members => members.lookup name
  | .array items => items[place]?
  | _ => none

/-- The text of the role of an entry. -/
def Json.roleText? (entry : Json) : Option String :=
  match entry.field? "role" 0 with
  | some (.string text) => some text
  | _ => none

/-- The texts of the roles in settings, in the order of the table. -/
def Json.roleTexts (j : Json) : List String :=
  match (j.field? "security" 1).bind fun s => s.field? "default_role_permissions" 0 with
  | some (.array entries) => entries.filterMap roleText?
  | _ => []

/-- The text of the role of an entry. -/
def Tree.roleText? (r : Reading) (entry : Tree) : Option String :=
  (entry.field? "role" 0).bind r.text?

/-- The texts of the roles in settings, in the order of the table. -/
def Tree.roleTexts (r : Reading) (t : Tree) : List String :=
  match (t.field? "security" 1).bind fun s => s.field? "default_role_permissions" 0 with
  | some (.array entries) => entries.filterMap (roleText? r)
  | _ => []

/-- Settings decoded from text, together with the texts of the roles in it. -/
inductive Settings.DecodedFrom : List String → Settings → Prop where
  | json {source : String} {j : Json} {c : Settings} :
      Json.read? source = some j → decode.run j = some c → DecodedFrom j.roleTexts c
  | file {source : String} {es : List (String × Tree)} {c : Settings} :
      Toml.read? source = some es → ofText? source = some c →
        DecodedFrom ((Tree.table es).roleTexts Tree.strict) c
  | layers {l : Loader} {s : Sources} {layers : List (List (String × Tree))} {c : Settings} :
      l.layers? s = some layers →
        Tree.settings? Tree.lenient (Tree.ofLayers layers) = some c →
          DecodedFrom ((Tree.ofLayers layers).roleTexts Tree.lenient) c

/-- The texts are read as the roles of the entries, one by one. -/
def RolesRead (texts : List String) (entries : List RoleSetting) : Prop :=
  List.Forall₂ (fun text entry => NodeId.read text = .ok entry.role) texts entries

theorem forall₂_filterMap {α β γ : Type} {R : β → γ → Prop} {f : α → Option β} {as : List α}
    {cs : List γ} (h : List.Forall₂ (fun a c => ∃ b, f a = some b ∧ R b c) as cs) :
    List.Forall₂ R (as.filterMap f) cs := by
  induction h with
  | nil => exact .nil
  | cons hfirst _ ih =>
    obtain ⟨b, hb, hR⟩ := hfirst
    rw [List.filterMap_cons_some hb]
    exact .cons hR ih

theorem NodeId.read_eq_ok_of_read? {text : String} {id : NodeId} (h : read? text = some id) :
    read text = .ok id := by
  unfold read? at h
  cases hread : read text with
  | ok other =>
    rw [hread] at h
    cases h
    rfl
  | error e =>
    rw [hread] at h
    cases h

/-! ## Roles in JSON -/

theorem Decoder.forall₂_of_collect {α : Type} {f : Json → Option α} {items : List Json}
    {as : List α} (h : collect f items = some as) :
    List.Forall₂ (fun item a => f item = some a) items as := by
  induction items generalizing as with
  | nil =>
    cases h
    exact .nil
  | cons item items ih =>
    obtain ⟨a, as', rfl, hitem, hitems⟩ := collect_cons_eq_some_iff.mp h
    exact .cons hitem (ih hitems)

theorem Fields.lookup_of_find? {names : List String} (hnames : names.Nodup) {name : String}
    {place : Nat} (hplace : names[place]? = some name) {depth : Nat} {j : Json} {f : Fields}
    (hf : find? names depth j = some f) : f.members.lookup name = j.field? name place := by
  unfold find? at hf
  split at hf
  · obtain ⟨-, hf⟩ := Option.ite_none_right_eq_some.mp hf
    cases hf
    rfl
  · obtain ⟨-, hf⟩ := Option.ite_none_right_eq_some.mp hf
    cases hf
    exact lookup_zip hnames hplace _
  · contradiction

theorem RoleSetting.roleText?_of_decode {depth : Nat} {j : Json} {s : RoleSetting}
    (h : decode depth j = some s) :
    ∃ text, j.roleText? = some text ∧ NodeId.read text = .ok s.role := by
  obtain ⟨f, hf, hrole, -⟩ := (readsFields depth j s).mp h
  have hlookup : f.members.lookup "role" = j.field? "role" 0 :=
    Fields.lookup_of_find? (by decide) rfl hf
  rw [Fields.required, hlookup] at hrole
  split at hrole
  · rename_i value hvalue
    obtain ⟨text, htext, hread⟩ := Option.bind_eq_some_iff.mp hrole
    unfold Decoder.text at htext
    split at htext
    · cases htext
      exact ⟨text, by rw [Json.roleText?, hvalue], NodeId.read_eq_ok_of_read? hread⟩
    · contradiction
  · contradiction

theorem Settings.rolesRead_of_decode {depth : Nat} {j : Json} {c : Settings}
    (h : decode depth j = some c) : RolesRead j.roleTexts c.security.defaultRoles := by
  obtain ⟨f, hf, -, hsecurity⟩ := (readsFields depth j c).mp h
  have hlookup : f.members.lookup "security" = j.field? "security" 1 :=
    Fields.lookup_of_find? (by decide) rfl hf
  rw [Fields.withDefault, hlookup] at hsecurity
  unfold Json.roleTexts
  split at hsecurity
  · rename_i security hfield
    obtain ⟨g, hg, hroles⟩ := (SecuritySettings.readsFields _ _ _).mp hsecurity
    have hlookup : g.members.lookup "default_role_permissions" =
        security.field? "default_role_permissions" 0 :=
      Fields.lookup_of_find? (by decide) rfl hg
    rw [Fields.withDefault, hlookup] at hroles
    rw [hfield, Option.bind_some]
    split at hroles
    · rename_i table htable
      -- only an array is decoded as a list, item by item
      unfold Decoder.list at hroles
      split at hroles
      · rw [htable]
        exact forall₂_filterMap ((forall₂_of_collect hroles).imp fun _ _ hentry =>
          RoleSetting.roleText?_of_decode hentry)
      · contradiction
    · rename_i htable
      rw [htable, ← Option.some.inj hroles]
      exact .nil
  · rename_i hfield
    rw [hfield, ← Option.some.inj hsecurity]
    exact .nil

/-! ## Roles in trees -/

namespace Tree

variable {r : Reading}

theorem forall₂_of_collect {α : Type} {f : Tree → Option α} {ts : List Tree} {as : List α}
    (h : collect f ts = some as) : List.Forall₂ (fun t a => f t = some a) ts as := by
  induction ts generalizing as with
  | nil =>
    cases h
    exact .nil
  | cons t ts ih =>
    rw [collect] at h
    split at h
    · rename_i a as' ht hts
      cases h
      exact .cons ht (ih hts)
    · contradiction

theorem roleText?_of_roleSetting? {t : Tree} {s : RoleSetting} (h : roleSetting? r t = some s) :
    ∃ text, t.roleText? r = some text ∧ NodeId.read text = .ok s.role := by
  unfold roleSetting? at h
  simp only [Option.bind_eq_bind, Option.bind_eq_some_iff, Option.some.injEq] at h
  obtain ⟨field, hfield, text, htext, role, hrole, permissions, -, rfl⟩ := h
  refine ⟨text, ?_, NodeId.read_eq_ok_of_read? hrole⟩
  rw [roleText?, hfield, Option.bind_some, htext]

theorem rolesRead_of_settings? {t : Tree} {c : Settings} (h : settings? r t = some c) :
    RolesRead (t.roleTexts r) c.security.defaultRoles := by
  obtain ⟨-, -, hsecurity⟩ := (settings?_eq_some_iff r t c).mp h
  unfold roleTexts
  cases hfield : t.field? "security" 1 with
  | none =>
    rw [hfield] at hsecurity
    rw [← Option.some.inj hsecurity]
    exact .nil
  | some security =>
    rw [hfield] at hsecurity
    obtain ⟨-, hroles⟩ := (securitySettings?_eq_some_iff r security _).mp hsecurity
    rw [Option.bind_some]
    cases htable : security.field? "default_role_permissions" 0 with
    | none =>
      rw [htable] at hroles
      rw [← Option.some.inj hroles]
      exact .nil
    | some table =>
      rw [htable, withDefault] at hroles
      unfold list? at hroles
      split at hroles
      · exact forall₂_filterMap ((forall₂_of_collect hroles).imp fun _ _ hentry =>
          roleText?_of_roleSetting? hentry)
      · contradiction

end Tree

namespace Settings

/-- The roles of decoded settings are those that their texts spell. -/
theorem DecodedFrom.rolesRead {texts : List String} {c : Settings} (h : DecodedFrom texts c) :
    RolesRead texts c.security.defaultRoles := by
  cases h with
  | json _ hdecode => exact rolesRead_of_decode hdecode
  | file hread hsettings =>
    rw [ofText?, hread] at hsettings
    exact Tree.rolesRead_of_settings? (Option.ite_none_right_eq_some.mp hsettings).2
  | layers _ hsettings => exact Tree.rolesRead_of_settings? hsettings

/-! ## The verdict -/

/-- The name of the server is not blank. -/
def IsNamed (c : Settings) : Prop :=
  ∃ ch ∈ c.server.applicationName.toList, Text.isBlank ch = false

/-- The text in this place spells the null identifier, and no text before it does. -/
structure FirstNull (texts : List String) (place : Nat) : Prop where
  here : ∃ text, texts[place]? = some text ∧ NodeId.SpellsNull text.toList
  before : ∀ earlier < place, ∀ text, texts[earlier]? = some text →
    ¬ NodeId.SpellsNull text.toList

theorem FirstNull.of_take_eq {texts texts' : List String} {place : Nat}
    (h : FirstNull texts place) (hsame : texts'.take (place + 1) = texts.take (place + 1)) :
    FirstNull texts' place := by
  have hget : ∀ i ≤ place, texts'[i]? = texts[i]? := by
    intro i hi
    rw [← List.getElem?_take_of_lt (Nat.lt_succ_of_le hi), hsame,
      List.getElem?_take_of_lt (Nat.lt_succ_of_le hi)]
  obtain ⟨text, htext, hnull⟩ := h.here
  refine ⟨⟨text, (hget place le_rfl).trans htext, hnull⟩, ?_⟩
  intro earlier hearlier text htext
  exact h.before earlier hearlier text ((hget earlier hearlier.le).symm.trans htext)

section

variable {texts : List String} {entries : List RoleSetting} {place : Nat}

/-- In every place the text and the entry both stand or are both missing. -/
theorem rel_getElem? (h : RolesRead texts entries) (place : Nat) :
    Option.Rel (fun text entry => NodeId.read text = .ok entry.role) texts[place]?
      entries[place]? := by
  induction h generalizing place with
  | nil => exact .none
  | cons hfirst _ ih =>
    cases place with
    | zero => exact .some hfirst
    | succ place => exact ih place

theorem exists_null_entry_iff (h : RolesRead texts entries) :
    (∃ text, texts[place]? = some text ∧ NodeId.SpellsNull text.toList) ↔
      ∃ entry, entries[place]? = some entry ∧ entry.role.isNull = true := by
  have hrel := rel_getElem? h place
  generalize texts[place]? = text at hrel ⊢
  generalize entries[place]? = entry at hrel ⊢
  cases hrel with
  | none => simp
  | some hread => simp [NodeId.isNull_iff_spellsNull hread]

/-- The first text that spells the null identifier is that of the first entry for it. -/
theorem firstNull_iff (h : RolesRead texts entries) :
    FirstNull texts place ↔
      (∃ entry, entries[place]? = some entry ∧ entry.role.isNull = true) ∧
        ∀ earlier < place,
          ¬ ∃ entry, entries[earlier]? = some entry ∧ entry.role.isNull = true := by
  rw [← exists_null_entry_iff h]
  simp only [← exists_null_entry_iff h, not_exists, not_and]
  exact ⟨fun hfirst => ⟨hfirst.here, hfirst.before⟩, fun hfirst => ⟨hfirst.1, hfirst.2⟩⟩

end

theorem validate_eq_error_iff_problem? {c : Settings} {e : InvalidSettings} :
    c.validate = .error e ↔ c.problem? = some e := by
  unfold validate
  cases c.problem? <;> simp

theorem not_isNamed_iff {c : Settings} :
    ¬ c.IsNamed ↔ Text.allBlank c.server.applicationName = true := by
  simp [IsNamed, Text.allBlank]

theorem problem?_eq_blank_iff {c : Settings} :
    c.problem? = some .blankApplicationName ↔ ¬ c.IsNamed := by
  rw [not_isNamed_iff, problem?]
  split
  · rename_i hblank
    simp [hblank]
  · rename_i hblank
    simp [hblank]

theorem problem?_eq_nullRole_iff {texts : List String} {c : Settings}
    (h : RolesRead texts c.security.defaultRoles) (entry : RoleSetting) :
    c.problem? = some (.nullRole entry) ↔
      c.IsNamed ∧ ∃ place, FirstNull texts place ∧
        c.security.defaultRoles[place]? = some entry := by
  have hfind : c.problem? = some (.nullRole entry) ↔
      c.IsNamed ∧ c.security.defaultRoles.find? (fun e => e.role.isNull) = some entry := by
    rw [← Classical.not_not (a := c.IsNamed), not_isNamed_iff, problem?]
    split
    · rename_i hblank
      simp [hblank]
    · rename_i hblank
      simp [hblank]
  rw [hfind, List.find?_eq_some_iff_getElem]
  refine and_congr_right fun _ => ?_
  simp only [firstNull_iff h]
  constructor
  · rintro ⟨hnull, place, hplace, hentry, hbefore⟩
    have hget : c.security.defaultRoles[place]? = some entry := by
      rw [List.getElem?_eq_getElem hplace, hentry]
    refine ⟨place, ⟨⟨entry, hget, hnull⟩, ?_⟩, hget⟩
    rintro earlier hearlier ⟨e, he, hrole⟩
    obtain ⟨_, rfl⟩ := List.getElem?_eq_some_iff.mp he
    simpa [hrole] using hbefore earlier hearlier
  · rintro ⟨place, ⟨⟨e, he, hnull⟩, hbefore⟩, hget⟩
    rw [hget] at he
    cases he
    obtain ⟨hplace, hentry⟩ := List.getElem?_eq_some_iff.mp hget
    refine ⟨hnull, place, hplace, hentry, ?_⟩
    intro earlier hearlier
    have hnone := hbefore earlier hearlier
    simpa [List.getElem?_eq_getElem (hearlier.trans hplace)] using hnone

theorem problem?_eq_none_iff_texts {texts : List String} {c : Settings}
    (h : RolesRead texts c.security.defaultRoles) :
    c.problem? = none ↔ c.IsNamed ∧ ∀ text ∈ texts, ¬ NodeId.SpellsNull text.toList := by
  have hroles : (∀ entry ∈ c.security.defaultRoles, entry.role ≠ .null) ↔
      ∀ text ∈ texts, ¬ NodeId.SpellsNull text.toList := by
    generalize c.security.defaultRoles = entries at h
    induction h with
    | nil => simp
    | cons hread _ ih =>
      rw [List.forall_mem_cons, List.forall_mem_cons, ih, Ne, ← NodeId.isNull_iff,
        NodeId.isNull_iff_spellsNull hread]
  rw [problem?_eq_none_iff, hroles]
  rfl

/-- Settings decoded from text are valid just if their name is not blank and no text of a role
spells the null identifier. A blank name is reported before any role, and then the entry in the
place of the first text that spells it, whatever the entries behind it are and whatever is
permitted. A text that is read spells the null identifier just if it has zeros and nothing else in
both places, so the empty text, the empty octets and the identifier of zeros are not null. -/
theorem rejects_exactly {texts : List String} {c : Settings} (h : DecodedFrom texts c) :
    (c.validate = .ok c ↔ c.IsNamed ∧ ∀ text ∈ texts, ¬ NodeId.SpellsNull text.toList) ∧
      (c.validate = .error .blankApplicationName ↔ ¬ c.IsNamed) ∧
      (∀ entry, c.validate = .error (.nullRole entry) ↔
        c.IsNamed ∧ ∃ place, FirstNull texts place ∧
          c.security.defaultRoles[place]? = some entry) ∧
      (∀ (texts' : List String) (d : Settings) (place : Nat), DecodedFrom texts' d → d.IsNamed →
        FirstNull texts place → texts'.take (place + 1) = texts.take (place + 1) →
          ∃ entry, d.security.defaultRoles[place]? = some entry ∧
            d.validate = .error (.nullRole entry)) ∧
      RolesRead texts c.security.defaultRoles ∧
      (∀ (text : String) (id : NodeId), NodeId.read text = .ok id →
        (id.isNull = true ↔ NodeId.SpellsNull text.toList)) ∧
      ∀ text ∈ ["s=", "b=", "g=00000000-0000-0000-0000-000000000000"],
        ∃ id, NodeId.read text = .ok id ∧ id.isNull = false := by
  refine ⟨?_, ?_, ?_, ?_, h.rolesRead, ?_, ?_⟩
  · rw [validate_eq_ok_iff, problem?_eq_none_iff_texts h.rolesRead, and_iff_left rfl]
  · rw [validate_eq_error_iff_problem?, problem?_eq_blank_iff]
  · intro entry
    rw [validate_eq_error_iff_problem?, problem?_eq_nullRole_iff h.rolesRead]
  · intro texts' d place hd hnamed hfirst hsame
    have hfirst' := hfirst.of_take_eq hsame
    obtain ⟨entry, hentry, -⟩ := ((firstNull_iff hd.rolesRead).mp hfirst').1
    refine ⟨entry, hentry, ?_⟩
    rw [validate_eq_error_iff_problem?, problem?_eq_nullRole_iff hd.rolesRead]
    exact ⟨hnamed, place, hfirst', hentry⟩
  · exact fun text id hread => NodeId.isNull_iff_spellsNull hread
  · simp only [List.forall_mem_cons, List.not_mem_nil, false_implies, implies_true, and_true]
    exact ⟨⟨_, rfl, rfl⟩, ⟨_, rfl, rfl⟩, ⟨_, rfl, rfl⟩⟩

/-- A file with an empty text and two spellings of the null identifier for roles. -/
def nullRolesFile : String :=
  "[security]\ndefault_role_permissions=[[\"s=\"],[\"ns=+00;i=+000\"],[\"i=0\"]]"

/-- The settings in the file. -/
def nullRoles : Settings where
  security := { defaultRoles := [{ role := .text 0 "" }, { role := .null }, { role := .null }] }

/-- The second of the three roles is reported: the one with the namespace. -/
theorem rejects_exactly_nullRolesFile :
    ofText? nullRolesFile = some nullRoles ∧
      DecodedFrom ["s=", "ns=+00;i=+000", "i=0"] nullRoles ∧
      FirstNull ["s=", "ns=+00;i=+000", "i=0"] 1 ∧
      nullRoles.validate = .error (.nullRole { role := .null }) := by
  have hread : Toml.read? nullRolesFile = some
      [("security", .table [("default_role_permissions", .array
        [.array [.string "s="], .array [.string "ns=+00;i=+000"], .array [.string "i=0"]])])] := by
    cbv
  have hsettings : ofText? nullRolesFile = some nullRoles := by
    rw [ofText?, hread]
    decide +kernel
  have hdecoded : DecodedFrom ["s=", "ns=+00;i=+000", "i=0"] nullRoles := .file hread hsettings
  have hfirst : FirstNull ["s=", "ns=+00;i=+000", "i=0"] 1 := by
    refine ⟨⟨_, rfl, .inNamespace (.plus 1) (.plus 2)⟩, ?_⟩
    intro earlier hearlier text htext
    obtain rfl : earlier = 0 := by omega
    cases htext
    rw [← NodeId.read_eq_null_iff]
    intro hnull
    cases hnull
  have hnamed : nullRoles.IsNamed := ⟨'u', by decide, by decide⟩
  obtain ⟨-, -, hnullRole, -⟩ := rejects_exactly hdecoded
  exact ⟨hsettings, hdecoded, hfirst, (hnullRole _).mpr ⟨hnamed, 1, hfirst, rfl⟩⟩

end Settings

end NodeAccess

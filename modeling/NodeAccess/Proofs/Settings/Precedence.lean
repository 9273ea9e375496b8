import NodeAccess.Proofs.Settings.Layers

/-!
# Which layer decides

Each text of the server, and the list of roles as a whole, is what the highest layer gives that
gives it at all: the environment, the local file, the file of the project, that of the user, and
last what holds when nothing is configured. Keys that settings do not have play no part, and a file
that is not read plays none either.

This is so for files that speak of the parts of settings in the tables of these names. A quoted key
at the top of a file can be a path into a part, and then acts as one.
-/

set_option autoImplicit false

namespace NodeAccess

namespace Tree

variable {α : Type} {f : Tree → Option α} {a x : α}

/-- What a layer gives is what comes out, or else what stood there before it. -/
theorem withDefault_laid (hf : ∀ es, f (table es) = none) {old v : Option Tree}
    (h : withDefault (laid old v) f a = some x) : withDefault (v.or old) f a = some x := by
  cases v with
  | none => exact h
  | some t =>
    cases t with
    | table es =>
      rw [laid, overlay, withDefault, hf] at h
      contradiction
    | _ => exact h

/-- The same below layers that may give something already. -/
theorem withDefault_or_laid (hf : ∀ es, f (table es) = none) {above old v : Option Tree}
    (h : withDefault (above.or (laid old v)) f a = some x) :
    withDefault ((above.or v).or old) f a = some x := by
  cases above with
  | none => exact withDefault_laid hf h
  | some t => exact h

/-- Of four layers over something the highest counts that gives something. -/
theorem withDefault_highest (hf : ∀ es, f (table es) = none) {old v₁ v₂ v₃ v₄ : Option Tree}
    (h : withDefault (laid (laid (laid (laid old v₁) v₂) v₃) v₄) f a = some x) :
    withDefault ((v₄.or (v₃.or (v₂.or v₁))).or old) f a = some x := by
  have h₄ := withDefault_laid hf h
  have h₃ := withDefault_or_laid hf h₄
  have h₂ := withDefault_or_laid hf h₃
  have h₁ := withDefault_or_laid hf h₂
  simpa only [Option.or_assoc] using h₁

/-- What stands below everything makes no difference if it gives the default. -/
theorem withDefault_of_or {above : Option Tree} {t : Tree} (ht : f t = some a)
    (h : withDefault (above.or (some t)) f a = some x) : withDefault above f a = some x := by
  cases above with
  | none => exact ht.symm.trans h
  | some t => exact h

theorem list?_of_isRecord_eq_false {t : Tree} (h : t.isRecord = false) : list? f t = none := by
  cases t with
  | array ts => contradiction
  | _ => rfl

/-! ## Keys that settings do not have -/

/-- A role setting without the keys that role settings do not have. -/
def knownRole : Tree → Tree
  | table es => table (es.filter fun e => e.1 = "role" || e.1 = "permissions")
  | t => t

/-- Role settings without the keys that role settings do not have. -/
def knownRoles : Tree → Tree
  | array ts => array (ts.map knownRole)
  | t => t

theorem lookup_filter {p : String × Tree → Bool} {key : String} (hp : ∀ t, p (key, t) = true)
    (es : List (String × Tree)) : (es.filter p).lookup key = es.lookup key := by
  induction es with
  | nil => rfl
  | cons e es ih =>
    obtain ⟨name, t⟩ := e
    by_cases hname : key = name
    · subst hname
      rw [List.filter_cons_of_pos (hp t), List.lookup_cons_self, List.lookup_cons_self]
    · by_cases hkeep : p (name, t) = true
      · rw [List.filter_cons_of_pos hkeep, lookup_cons_of_ne hname, lookup_cons_of_ne hname, ih]
      · rw [List.filter_cons_of_neg hkeep, lookup_cons_of_ne hname, ih]

theorem roleSetting?_knownRole (r : Reading) (t : Tree) :
    roleSetting? r (knownRole t) = roleSetting? r t := by
  cases t with
  | table es =>
    have hrole : (knownRole (table es)).field? "role" 0 = (table es).field? "role" 0 :=
      lookup_filter (fun _ => rfl) es
    have hpermissions : (knownRole (table es)).field? "permissions" 1 =
        (table es).field? "permissions" 1 :=
      lookup_filter (fun _ => rfl) es
    simp only [roleSetting?, hrole, hpermissions]
  | _ => rfl

theorem list?_roleSetting?_knownRoles (r : Reading) (t : Tree) :
    list? (roleSetting? r) (knownRoles t) = list? (roleSetting? r) t := by
  cases t with
  | array ts =>
    rw [knownRoles, list?, list?]
    induction ts with
    | nil => rfl
    | cons t ts ih => rw [List.map_cons, collect, collect, ih, roleSetting?_knownRole]
  | _ => rfl

/-- Trees that are the same but for unknown keys of role settings are arrays, or just the same. -/
theorem eq_or_array_of_knownRoles {t t' : Tree} (h : knownRoles t = knownRoles t') :
    t = t' ∨ ∃ ts ts', t = array ts ∧ t' = array ts' := by
  cases t with
  | array ts =>
    cases t' with
    | array ts' => exact .inr ⟨ts, ts', rfl, rfl⟩
    | _ => simp [knownRoles] at h
  | _ =>
    cases t' with
    | array ts' => simp [knownRoles] at h
    | _ => exact .inl h

theorem knownRoles_overlay {old old' : Option Tree}
    (hold : old.map knownRoles = old'.map knownRoles) (t : Tree) :
    knownRoles (overlay old t) = knownRoles (overlay old' t) := by
  cases hcase : t.isTable with
  | false => rw [overlay_eq_self hcase, overlay_eq_self hcase]
  | true =>
    obtain ⟨es, rfl⟩ := isTable_iff.mp hcase
    cases old with
    | none =>
      cases old' with
      | none => rfl
      | some t' => simp at hold
    | some t =>
      cases old' with
      | none => simp at hold
      | some t' =>
        have hknown : knownRoles t = knownRoles t' := by simpa using hold
        -- an array has no entries, so a table replaces either one by the same
        obtain rfl | ⟨ts, ts', rfl, rfl⟩ := eq_or_array_of_knownRoles hknown
        all_goals rfl

theorem map_knownRoles_laid {old old' v v' : Option Tree}
    (hold : old.map knownRoles = old'.map knownRoles) (hv : v.map knownRoles = v'.map knownRoles) :
    (laid old v).map knownRoles = (laid old' v').map knownRoles := by
  cases v with
  | none =>
    cases v' with
    | none => exact hold
    | some t' => simp at hv
  | some t =>
    cases v' with
    | none => simp at hv
    | some t' =>
      have hknown : knownRoles t = knownRoles t' := by simpa using hv
      obtain rfl | ⟨ts, ts', rfl, rfl⟩ := eq_or_array_of_knownRoles hknown
      · exact congrArg some (knownRoles_overlay hold t)
      · simpa [laid, overlay] using hknown

theorem withDefault_roles_congr (r : Reading) {o o' : Option Tree}
    (h : o.map knownRoles = o'.map knownRoles) :
    withDefault o (list? (roleSetting? r)) [] = withDefault o' (list? (roleSetting? r)) [] := by
  cases o with
  | none =>
    cases o' with
    | none => rfl
    | some t' => simp at h
  | some t =>
    cases o' with
    | none => simp at h
    | some t' =>
      have hknown : knownRoles t = knownRoles t' := by simpa using h
      rw [withDefault, withDefault, ← list?_roleSetting?_knownRoles, hknown,
        list?_roleSetting?_knownRoles]

end Tree

/-! ## The highest layer that gives something -/

namespace Loader

variable {l : Loader} {s s' : Sources} {user project top user' project' top' : List (String × Tree)}

/-- The files speak of all parts of settings plainly, and variables name keys of the parts. -/
def AllPlain (l : Loader) (s : Sources) : Prop :=
  ∀ part ∈ Settings.parts, l.Plain s part

/-- What a file gives under a key of a part. -/
def gives (file : Option String) (part key : String) : Option Tree :=
  (layer? file).bind fun layer => (Tree.table layer).find? part key

/-- What the highest of the files gives that gives anything under a key of a part. -/
def highest (l : Loader) (s : Sources) (part key : String) : Option Tree :=
  (gives s.localFile part key).or
    ((gives s.projectFile part key).or (gives (l.userFile s) part key))

theorem ReadsAs.highest_eq (h : l.ReadsAs s user project top) (part key : String) :
    l.highest s part key = ((Tree.table top).find? part key).or
      (((Tree.table project).find? part key).or ((Tree.table user).find? part key)) := by
  simp only [highest, gives, h.userFile, h.projectFile, h.localFile, Option.bind_some]

/-- What is read from under a key of a part is what the highest layer gives there. -/
theorem Plain.withDefault_merge {part : String} (h : l.Plain s part)
    (hpart : part ∈ Settings.parts) (hreads : l.ReadsAs s user project top) (key : String)
    {α : Type} {f : Tree → Option α} {a x : α} (hf : ∀ es, f (.table es) = none)
    (hx : Tree.withDefault ((l.merge s user project top).find? part key) f a = some x) :
    Tree.withDefault (((Tree.lastAt part (l.environment s) key).or (l.highest s part key)).or
      (Tree.laid none ((Tree.table Settings.standardEntries).find? part key))) f a = some x := by
  rw [(h.merge hpart hreads).2] at hx
  have hhighest := Tree.withDefault_highest hf hx
  rwa [← hreads.highest_eq] at hhighest

/-- Each text of the server is that of the highest layer that gives it, and the roles are those of
the highest file that lists any. -/
theorem AllPlain.highest_decides (h : l.AllPlain s) {c : Settings} (hload : l.load s = .ok c) :
    (∀ f : ServerField, Tree.withDefault
        ((Tree.lastAt "server" (l.environment s) f.key).or (l.highest s "server" f.key))
        Tree.lenient.text? (f.value .standard) = some (f.value c.server)) ∧
      Tree.withDefault (l.highest s "security" "default_role_permissions")
        (Tree.list? (Tree.roleSetting? Tree.lenient)) [] = some c.security.defaultRoles := by
  obtain ⟨root, hroot, hc⟩ := settings?_of_load hload
  obtain ⟨user, project, top, hreads, rfl⟩ := merged?_eq_some_iff.mp hroot
  have hserver := Settings.server_mem_parts
  have hsecurity := Settings.security_mem_parts
  obtain ⟨htexts, hlist⟩ := (Tree.settings?_eq_some_iff_find? _ isTable_merge
    ((h _ hserver).merge hserver hreads).1 ((h _ hsecurity).merge hsecurity hreads).1 c).mp hc
  constructor
  · intro f
    have htext := (h _ hserver).withDefault_merge hserver hreads f.key (fun _ => rfl) (htexts f)
    have hstandard : Tree.laid none ((Tree.table Settings.standardEntries).find? "server" f.key) =
        some (.string (f.value .standard)) := by
      cases f <;> rfl
    rw [hstandard] at htext
    exact Tree.withDefault_of_or rfl htext
  · have hroles := (h _ hsecurity).withDefault_merge hsecurity hreads _ (fun _ => rfl) hlist
    have hstandard : Tree.laid none
        ((Tree.table Settings.standardEntries).find? "security" "default_role_permissions") =
        none := rfl
    rw [hstandard, Option.or_none] at hroles
    -- a variable gives no list, so there is none for the roles
    cases hgiven : Tree.lastAt "security" (l.environment s) "default_role_permissions" with
    | none =>
      rw [hgiven] at hroles
      exact hroles
    | some t =>
      have hno : t.isRecord = false := isRecord_of_lastAt_environment hgiven
      rw [hgiven, Option.some_or, Tree.withDefault, Tree.list?_of_isRecord_eq_false hno] at hroles
      contradiction

/-! ## What plays no part -/

/-- Two layers give the same under the keys that settings have. -/
structure SameKnown (layer layer' : List (String × Tree)) : Prop where
  server : ∀ f : ServerField,
    (Tree.table layer).find? "server" f.key = (Tree.table layer').find? "server" f.key
  security : ((Tree.table layer).find? "security" "default_role_permissions").map Tree.knownRoles =
    ((Tree.table layer').find? "security" "default_role_permissions").map Tree.knownRoles

/-- Two choices of sources differ in keys only that settings do not have, and both or neither have a
variable for a setting whose value is not Unicode. -/
structure SameKnownSources (l : Loader) (s s' : Sources) : Prop where
  userFile : Option.Rel SameKnown (layer? (l.userFile s)) (layer? (l.userFile s'))
  projectFile : Option.Rel SameKnown (layer? s.projectFile) (layer? s'.projectFile)
  localFile : Option.Rel SameKnown (layer? s.localFile) (layer? s'.localFile)
  server : ∀ f : ServerField,
    Tree.lastAt "server" (l.environment s) f.key = Tree.lastAt "server" (l.environment s') f.key
  security : Tree.lastAt "security" (l.environment s) "default_role_permissions" =
    Tree.lastAt "security" (l.environment s') "default_role_permissions"
  illegible : l.environmentLayer? s = none ↔ l.environmentLayer? s' = none

theorem merged?_eq_none_iff : l.merged? s = none ↔
    layer? (l.userFile s) = none ∨ layer? s.projectFile = none ∨ layer? s.localFile = none ∨
      l.environmentLayer? s = none := by
  unfold merged?
  cases layer? (l.userFile s) <;> cases layer? s.projectFile <;> cases layer? s.localFile <;> simp

theorem SameKnownSources.merged?_eq_none_iff (h : SameKnownSources l s s') :
    l.merged? s = none ↔ l.merged? s' = none := by
  have hrel : ∀ {o o' : Option (List (String × Tree))}, Option.Rel SameKnown o o' →
      (o = none ↔ o' = none) := by
    rintro _ _ (_ | _)
    all_goals simp
  rw [Loader.merged?_eq_none_iff, Loader.merged?_eq_none_iff, hrel h.userFile, hrel h.projectFile,
    hrel h.localFile, h.illegible]

/-- Layers that give the same under the keys that settings have give the same settings. -/
theorem SameKnownSources.settings?_merge (h : SameKnownSources l s s') (hs : l.AllPlain s)
    (hs' : l.AllPlain s') (hreads : l.ReadsAs s user project top)
    (hreads' : l.ReadsAs s' user' project' top') :
    Tree.settings? Tree.lenient (l.merge s user project top) =
      Tree.settings? Tree.lenient (l.merge s' user' project' top') := by
  have hserver := Settings.server_mem_parts
  have hsecurity := Settings.security_mem_parts
  obtain ⟨hserverTable, hfields⟩ := (hs _ hserver).merge hserver hreads
  obtain ⟨hserverTable', hfields'⟩ := (hs' _ hserver).merge hserver hreads'
  obtain ⟨hsecurityTable, hroles⟩ := (hs _ hsecurity).merge hsecurity hreads
  obtain ⟨hsecurityTable', hroles'⟩ := (hs' _ hsecurity).merge hsecurity hreads'
  obtain ⟨huser, hproject, htop, hvariables, hvariables', -⟩ := h
  rw [hreads.userFile, hreads'.userFile, Option.rel_some_some] at huser
  rw [hreads.projectFile, hreads'.projectFile, Option.rel_some_some] at hproject
  rw [hreads.localFile, hreads'.localFile, Option.rel_some_some] at htop
  have htexts : ∀ f : ServerField, (l.merge s user project top).find? "server" f.key =
      (l.merge s' user' project' top').find? "server" f.key := by
    intro f
    rw [hfields, hfields', huser.server, hproject.server, htop.server, hvariables]
  have hlist : ((l.merge s user project top).find? "security" "default_role_permissions").map
      Tree.knownRoles =
        ((l.merge s' user' project' top').find? "security" "default_role_permissions").map
          Tree.knownRoles := by
    rw [hroles, hroles', hvariables']
    refine Tree.map_knownRoles_laid ?_ rfl
    refine Tree.map_knownRoles_laid ?_ htop.security
    refine Tree.map_knownRoles_laid ?_ hproject.security
    exact Tree.map_knownRoles_laid rfl huser.security
  apply Option.ext
  intro c
  rw [Tree.settings?_eq_some_iff_find? _ isTable_merge hserverTable hsecurityTable,
    Tree.settings?_eq_some_iff_find? _ isTable_merge hserverTable' hsecurityTable',
    Tree.withDefault_roles_congr _ hlist]
  simp only [htexts]

/-- Keys that settings do not have make no difference. -/
theorem SameKnownSources.load_eq (h : SameKnownSources l s s') (hs : l.AllPlain s)
    (hs' : l.AllPlain s') : l.load s = l.load s' := by
  rw [load_eq_merged?, load_eq_merged?]
  cases hroot : l.merged? s with
  | none => rw [h.merged?_eq_none_iff.mp hroot]
  | some root =>
    cases hroot' : l.merged? s' with
    | none =>
      rw [h.merged?_eq_none_iff.mpr hroot'] at hroot
      contradiction
    | some root' =>
      obtain ⟨user, project, top, hreads, rfl⟩ := merged?_eq_some_iff.mp hroot
      obtain ⟨user', project', top', hreads', rfl⟩ := merged?_eq_some_iff.mp hroot'
      simp only [h.settings?_merge hs hs' hreads hreads']

/-- Sources of the same layers load alike. -/
theorem load_congr (huser : layer? (l.userFile s) = layer? (l.userFile s'))
    (hproject : layer? s.projectFile = layer? s'.projectFile)
    (hlocal : layer? s.localFile = layer? s'.localFile)
    (hvariables : s.environment = s'.environment) (hillegible : s.illegible = s'.illegible) :
    l.load s = l.load s' := by
  simp only [load_eq_merged?, merged?, merge, environment, environmentLayer?, huser, hproject,
    hlocal, hvariables, hillegible]

end Loader

/-- A file whose only key is a path in quotes. -/
def pathFile : String := "\"server.application_name\" = \"Pump\"\n"

/-- A file of a user. -/
def pumpFile : String :=
  "[server]\napplication_name = \"Pump\"\napplication_uri = \"urn:pump\"\n"

/-- The same with a key that settings do not have. -/
def redPumpFile : String :=
  "[server]\napplication_name = \"Pump\"\napplication_uri = \"urn:pump\"\ncolor = \"red\"\n"

/-- The file of a user, and a variable that names the server. -/
def pumpSources (file : String) : Sources where
  userFile := some file
  environment := [("uanode_server__application_name", "7")]

/-- A file with nothing but a table for the server, and the variable, speak plainly. -/
theorem plain_pumpSources {file : String} {es : List (String × Tree)}
    (h : Loader.fileLayer? file = some [("server", .table es)]) :
    Loader.AllPlain {} (pumpSources file) := by
  intro part hpart
  constructor
  · intro source hsource layer hlayer
    simp only [pumpSources, Loader.userFile, if_true, List.mem_cons, List.not_mem_nil, or_false]
      at hsource
    obtain rfl | rfl | rfl := hsource
    · rw [Loader.layer?, h] at hlayer
      cases hlayer
      exact Tree.speaksPlainly_server hpart es
    all_goals
      cases hlayer
      exact Tree.speaksPlainly_nil part
  · intro e he hkey
    have hsettings : Environment.settings "UANODE" [("uanode_server__application_name", "7")] =
        [("server.application_name", .integer 7)] := by
      cbv
    have hplace : Tree.Place.ofText "server.application_name" =
        ⟨"server", [.key "application_name"]⟩ := by
      decide +kernel
    rw [Loader.environment, pumpSources, hsettings] at he
    obtain rfl := List.mem_singleton.mp he
    rw [hplace] at hkey
    obtain rfl : "server" = part := hkey
    exact ⟨"application_name", hplace⟩

end NodeAccess

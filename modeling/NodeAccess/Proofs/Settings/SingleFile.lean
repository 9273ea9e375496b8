import NodeAccess.Proofs.Settings.Failure
import NodeAccess.Proofs.Settings.Reading

/-!
# One file by itself and as a layer

A file gives the same settings by itself and as the only file of a project, up to what the lenient
reading of layers forgives: a number, a truth value or a date for a text. And layers hold integers
of 64 bits only, whereas a file by itself may have greater ones in keys that settings do not have.
-/

set_option autoImplicit false

namespace NodeAccess

namespace Tree

/-! ## Bounds of integers -/

section

variable {low high low' high' : Int}

mutual

theorem integersWithin_mono (hlow : low' ≤ low) (hhigh : high ≤ high') :
    ∀ {t : Tree}, t.integersWithin low high = true → t.integersWithin low' high' = true
  | unset, _ => rfl
  | boolean _, _ => rfl
  | integer i, h => by
    simp only [integersWithin, Bool.and_eq_true, decide_eq_true_eq] at h ⊢
    omega
  | float _, _ => rfl
  | string _, _ => rfl
  | dateTime _, _ => rfl
  | array ts, h => by
    rw [integersWithin] at h ⊢
    exact itemsWithin_mono hlow hhigh h
  | table es, h => by
    rw [integersWithin] at h ⊢
    exact entriesWithin_mono hlow hhigh h

theorem itemsWithin_mono (hlow : low' ≤ low) (hhigh : high ≤ high') :
    ∀ {ts : List Tree}, itemsWithin low high ts = true → itemsWithin low' high' ts = true
  | [], _ => rfl
  | t :: ts, h => by
    simp only [itemsWithin, Bool.and_eq_true] at h ⊢
    exact ⟨integersWithin_mono hlow hhigh h.1, itemsWithin_mono hlow hhigh h.2⟩

theorem entriesWithin_mono (hlow : low' ≤ low) (hhigh : high ≤ high') :
    ∀ {es : List (String × Tree)}, entriesWithin low high es = true →
      entriesWithin low' high' es = true
  | [], _ => rfl
  | (_, t) :: es, h => by
    simp only [entriesWithin, Bool.and_eq_true] at h ⊢
    exact ⟨integersWithin_mono hlow hhigh h.1, entriesWithin_mono hlow hhigh h.2⟩

end

end

/-! ## Texts that a layer gives loosely -/

/-- Something that is no text, and that a layer may give for one. -/
def isLoose : Tree → Bool
  | boolean _ => true
  | integer _ => true
  | float _ => true
  | dateTime _ => true
  | _ => false

theorem text?_of_isLoose {t : Tree} (h : t.isLoose = true) : strict.text? t = none := by
  cases t with
  | string s => contradiction
  | _ => rfl

theorem text?_of_lenient {t : Tree} {text : String} (ht : t.isLoose = false)
    (h : lenient.text? t = some text) : strict.text? t = some text := by
  cases t with
  | string s => exact h
  | _ => contradiction

/-- A text of one file is laid over the standard one. -/
theorem withDefault_laid_of_strict {o : Option Tree} {d text : String}
    (h : withDefault o strict.text? d = some text) :
    withDefault (laid (some (string d)) o) lenient.text? d = some text := by
  cases o with
  | none => exact h
  | some t =>
    cases t with
    | string s =>
      rw [laid, overlay_eq_self rfl]
      exact h
    | _ => contradiction

theorem withDefault_strict_of_laid {o : Option Tree} {d text : String}
    (ho : ∀ t ∈ o, t.isLoose = false)
    (h : withDefault (laid (some (string d)) o) lenient.text? d = some text) :
    withDefault o strict.text? d = some text := by
  cases o with
  | none => exact h
  | some t =>
    have ht : t.isLoose = false := ho t rfl
    cases t with
    | table es =>
      -- a table makes a table of the text, which gives no text
      rw [laid, overlay] at h
      contradiction
    | string s =>
      rw [laid, overlay_eq_self rfl] at h
      exact h
    | _ =>
      rw [laid, overlay_eq_self rfl] at h
      exact text?_of_lenient ht h

/-- A list that a layer gives is the same over nothing. -/
theorem withDefault_laid_none {α : Type} (f : Tree → Option α) (o : Option Tree) (d : List α) :
    withDefault (laid none o) (list? f) d = withDefault o (list? f) d := by
  cases o with
  | none => rfl
  | some t =>
    cases ht : t.isTable with
    | false => rw [laid, overlay_eq_self ht]
    | true =>
      obtain ⟨es, rfl⟩ := isTable_iff.mp ht
      rw [laid, overlay]
      rfl

/-! ## Keys without quotes -/

/-- A key that can stand without quotes is no path, but names a place at the top. -/
theorem Place.ofText_of_isBareName {text : String} (h : Toml.isBareName text.toList = true) :
    ofText text = { key := text } := by
  simp only [Toml.isBareName, Bool.and_eq_true, Bool.not_eq_true', List.isEmpty_eq_false_iff,
    List.all_eq_true] at h
  obtain ⟨hne, hbare⟩ := h
  have hchars : ∀ c ∈ text.toList, isKeyChar c = true := hbare
  have htake : text.toList.takeWhile isKeyChar = text.toList := by
    simpa using @List.takeWhile_append_of_pos _ isKeyChar text.toList [] hchars
  have hdrop : text.toList.dropWhile isKeyChar = [] := by
    simpa using @List.dropWhile_append_of_pos _ isKeyChar text.toList [] hchars
  have hread : readKey? text.toList = some (text, []) := by
    simp [readKey?, htake, hdrop, hne, String.ofList_toList]
  simp [ofText, read?, hread, readSteps?]

end Tree

namespace Toml

/-- No key in a header or in front of an equals sign is quoted. -/
def Unquoted (text : String) : Prop :=
  ∀ ss, statements? text = some ss → ∀ s ∈ ss, ∀ k ∈ s.path.keys, k.isQuoted = false

instance (text : String) : Decidable (Unquoted text) :=
  inferInstanceAs (Decidable (∀ ss ∈ statements? text, ∀ s ∈ ss, ∀ k ∈ s.path.keys,
    k.isQuoted = false))

/-- Without quoted keys no key of a document is a path. -/
theorem Unquoted.plainAt {text : String} (h : Unquoted text) {es : List (String × Tree)}
    (hread : read? text = some es) (part : String) : Tree.PlainAt part es := by
  obtain ⟨ss, hss, -⟩ := Option.bind_eq_some_iff.mp hread
  have hkeys : ∀ s ∈ ss, ∀ k ∈ s.path.keys, Tree.Place.ofText k.text = { key := k.text } := by
    intro s hs k hk
    exact Tree.Place.ofText_of_isBareName (k.isBareName_of_not_quoted (h ss hss s hs k hk))
  obtain ⟨hformed, hplaces⟩ :=
    read?_sound (P := fun k => Tree.Place.ofText k = { key := k }) hss hread hkeys
  refine ⟨hformed.1, ?_⟩
  intro e he hplace
  rwa [hplaces e he] at hplace

end Toml

/-! ## The only file of a project -/

namespace Tree

variable {es : List (String × Tree)} {part : String}

/-- The tree of one file over what holds when nothing is configured. -/
def ofFile (es : List (String × Tree)) : Tree :=
  (ofLayers [Settings.standardEntries]).withLayer es

/-- A part of a file is laid key by key over what holds when nothing is configured, unless it is no
table and replaces that. -/
theorem ofFile_cases (hplain : PlainAt part es) (hformed : (table es).WellFormed)
    (hpart : part ∈ Settings.parts) :
    (HoldsTable part (table es) ∧ HoldsTable part (ofFile es) ∧ ∀ key,
      (ofFile es).find? part key =
        laid (laid none ((table Settings.standardEntries).find? part key))
          ((table es).find? part key)) ∨
      ∃ t, t.isTable = false ∧ es.lookup part = some t ∧
        (ofFile es).entries.lookup part = some t := by
  have htable : HoldsTable part (table es) ∨ ∃ t, t.isTable = false ∧ es.lookup part = some t := by
    cases hes : es.lookup part with
    | none =>
      left
      intro t ht
      rw [entries, hes] at ht
      contradiction
    | some t =>
      cases ht : t.isTable with
      | false => exact .inr ⟨t, ht, rfl⟩
      | true =>
        left
        intro t' ht'
        rw [entries, hes] at ht'
        cases ht'
        exact ht
  obtain hholds | ⟨t, ht, hes⟩ := htable
  · have hstandard := Settings.lays_standardEntries hpart
    have hlays : Lays part es ((table es).find? part) :=
      SpeaksPlainly.lays ⟨hholds, hplain.plain⟩ hformed hpart
    refine .inl ⟨hholds, ?_, ?_⟩
    · apply hlays.holdsTable
      exact hstandard.holdsTable (speaksPlainly_nil part).holdsTable
    · intro key
      rw [ofFile, hlays.find?, ofLayers, List.foldl_cons, List.foldl_nil, hstandard.find?]
      rfl
  · refine .inr ⟨t, ht, hes, ?_⟩
    rw [ofFile, hplain.lookup_withLayer (Place.ofText_of_mem_parts hpart), hes, laid,
      overlay_eq_self ht]

/-- A text of the server is given loosely. -/
def GivesLoosely (es : List (String × Tree)) : Prop :=
  ∃ (server : Tree) (f : ServerField) (v : Tree), es.lookup "server" = some server ∧
    server.field? f.key f.place = some v ∧ v.isLoose = true

theorem laid_none_standard (f : ServerField) :
    laid none ((table Settings.standardEntries).find? "server" f.key) =
      some (string (f.value .standard)) := by
  cases f <;> rfl

theorem serverInfo?_ofFile_of_strict (hplain : PlainAt "server" es)
    (hformed : (table es).WellFormed) {i : ServerInfo}
    (h : withDefault (es.lookup "server") (serverInfo? strict) .standard = some i) :
    withDefault ((ofFile es).entries.lookup "server") (serverInfo? lenient) .standard = some i := by
  obtain ⟨hholds, hfile, hfind⟩ | ⟨t, -, hes, hfile⟩ := ofFile_cases hplain hformed
    Settings.server_mem_parts
  · rw [serverInfo_eq_some_iff lenient hfile]
    intro f
    have htext := (serverInfo_eq_some_iff strict hholds i).mp h f
    rw [hfind, laid_none_standard]
    exact withDefault_laid_of_strict htext
  · rw [hfile]
    rw [hes] at h
    exact serverInfo?_carry (fun _ _ _ _ => text?_of_strict) h

theorem serverInfo?_of_ofFile (hplain : PlainAt "server" es) (hformed : (table es).WellFormed)
    (htight : ¬ GivesLoosely es) {i : ServerInfo}
    (h : withDefault ((ofFile es).entries.lookup "server") (serverInfo? lenient) .standard =
      some i) : withDefault (es.lookup "server") (serverInfo? strict) .standard = some i := by
  obtain ⟨hholds, hfile, hfind⟩ | ⟨t, -, hes, hfile⟩ := ofFile_cases hplain hformed
    Settings.server_mem_parts
  · apply (serverInfo_eq_some_iff strict hholds i).mpr
    intro f
    have htext := (serverInfo_eq_some_iff lenient hfile i).mp h f
    rw [hfind, laid_none_standard] at htext
    refine withDefault_strict_of_laid ?_ htext
    intro v hv
    obtain ⟨server, hserver, hfield⟩ := Option.bind_eq_some_iff.mp hv
    obtain ⟨fields, rfl⟩ := isTable_iff.mp (hholds server hserver)
    exact Bool.eq_false_iff.mpr fun hloose => htight ⟨_, f, v, hserver, hfield, hloose⟩
  · rw [hfile] at h
    rw [hes]
    refine serverInfo?_carry ?_ h
    intro f v hfield text
    refine text?_of_lenient (Bool.eq_false_iff.mpr ?_)
    exact fun hloose => htight ⟨t, f, v, hes, hfield, hloose⟩

theorem GivesLoosely.serverInfo?_eq_none (h : GivesLoosely es) :
    withDefault (es.lookup "server") (serverInfo? strict) .standard = none := by
  obtain ⟨server, f, v, hserver, hfield, hloose⟩ := h
  rw [hserver]
  exact (serverInfo?_eq_none_iff strict server).mpr (.inr ⟨f, v, hfield, text?_of_isLoose hloose⟩)

theorem securitySettings?_ofFile (hplain : PlainAt "security" es)
    (hformed : (table es).WellFormed) :
    withDefault ((ofFile es).entries.lookup "security") (securitySettings? lenient) .standard =
      withDefault (es.lookup "security") (securitySettings? lenient) .standard := by
  obtain ⟨hholds, hfile, hfind⟩ | ⟨t, -, hes, hfile⟩ := ofFile_cases hplain hformed
    Settings.security_mem_parts
  · apply Option.ext
    intro x
    have hlist := securitySettings_eq_some_iff lenient hholds x
    rw [entries] at hlist
    rw [hlist, securitySettings_eq_some_iff lenient hfile, hfind]
    have hstandard : laid none
        ((table Settings.standardEntries).find? "security" "default_role_permissions") = none := rfl
    rw [hstandard, withDefault_laid_none]
  · rw [hfile, hes]

/-- No permission in the security settings of a file is a table. -/
def FilePlain (es : List (String × Tree)) : Prop :=
  ∀ security, es.lookup "security" = some security → security.RolesPlain

theorem isTable_ofFile (es : List (String × Tree)) : (ofFile es).isTable = true :=
  isTable_withLayer (isTable_ofLayers _) es

/-- What a file gives by itself it gives as a layer. -/
theorem settings?_ofFile_of_strict (hplain : ∀ part, PlainAt part es)
    (hformed : (table es).WellFormed) {c : Settings} (h : settings? strict (table es) = some c) :
    settings? lenient (ofFile es) = some c := by
  rw [settings?_eq_some_iff_lookup strict rfl] at h
  rw [settings?_eq_some_iff_lookup lenient (isTable_ofFile es),
    securitySettings?_ofFile (hplain _) hformed]
  exact ⟨serverInfo?_ofFile_of_strict (hplain _) hformed h.1,
    withDefault_carry (fun _ _ _ => securitySettings?_of_strict) h.2⟩

/-- What a file gives as a layer it gives by itself, unless it gives a text loosely. -/
theorem settings?_of_ofFile (hplain : ∀ part, PlainAt part es) (hformed : (table es).WellFormed)
    (hpermissions : FilePlain es) (htight : ¬ GivesLoosely es) {c : Settings}
    (h : settings? lenient (ofFile es) = some c) : settings? strict (table es) = some c := by
  rw [settings?_eq_some_iff_lookup lenient (isTable_ofFile es),
    securitySettings?_ofFile (hplain _) hformed] at h
  rw [settings?_eq_some_iff_lookup strict rfl]
  refine ⟨serverInfo?_of_ofFile (hplain _) hformed htight h.1, withDefault_carry ?_ h.2⟩
  intro security hsecurity x
  exact securitySettings?_of_lenient (hformed.of_lookup hsecurity) (hpermissions security hsecurity)

theorem GivesLoosely.settings?_eq_none (h : GivesLoosely es) :
    settings? strict (table es) = none := by
  rw [Option.eq_none_iff_forall_ne_some]
  intro c hc
  have hserver := ((settings?_eq_some_iff_lookup strict rfl c).mp hc).1
  rw [entries, h.serverInfo?_eq_none] at hserver
  contradiction

end Tree

namespace Loader

variable {l : Loader} {s : Sources} {text : String}

/-- The loader reads one file of a project only, and no variable gives a setting. -/
structure ReadsOnly (l : Loader) (s : Sources) (text : String) : Prop where
  userFile : l.userFile s = none
  projectFile : s.projectFile = some text
  localFile : s.localFile = none
  environment : ∀ e ∈ s.environment, Environment.givesSetting l.word e.1 = false
  illegible : ∀ name ∈ s.illegible, Environment.givesSetting l.word name = false

theorem ReadsOnly.environmentLayer?_eq (h : l.ReadsOnly s text) :
    l.environmentLayer? s = some [] := by
  have hlegible : l.environmentLayer? s ≠ none := by
    rw [Ne, environmentLayer?_eq_none_iff]
    rintro ⟨name, hname, hgives⟩
    rw [h.illegible name hname] at hgives
    contradiction
  have hnothing : l.environment s = [] := by
    apply List.filterMap_eq_nil_iff.mpr
    intro e he
    simp [Environment.givesSetting_eq_false_iff.mp (h.environment e he)]
  obtain ⟨given, hgiven⟩ := Option.ne_none_iff_exists'.mp hlegible
  rw [hgiven, eq_environment_of_environmentLayer? l s hgiven, hnothing]

/-- The tree of all layers if there is one file only. -/
theorem ReadsOnly.merged?_eq (h : l.ReadsOnly s text) :
    l.merged? s = (fileLayer? text).map Tree.ofFile := by
  have hvariables := h.environmentLayer?_eq
  have hnothing := eq_environment_of_environmentLayer? l s hvariables
  unfold merged? merge
  rw [h.userFile, h.projectFile, h.localFile, hvariables, ← hnothing]
  cases hlayer : fileLayer? text with
  | none => simp [layer?, hlayer]
  | some es =>
    simp only [layer?, hlayer]
    rfl

end Loader

namespace Toml

/-- No permission that a document lists is a table. -/
def PermissionsPlain (text : String) : Prop :=
  ∀ es, read? text = some es → Tree.FilePlain es

/-- A document gives a text of the server loosely. -/
def GivesLoosely (text : String) : Prop :=
  ∃ es, read? text = some es ∧ Tree.GivesLoosely es

end Toml

namespace Settings

variable {text : String} {c : Settings}

theorem ofText?_eq_some_iff : ofText? text = some c ↔ ∃ es, Toml.read? text = some es ∧
    (Tree.table es).integersWithin (-(twoPow 127 : Int)) (twoPow 128 - 1) = true ∧
      Tree.settings? Tree.strict (.table es) = some c := by
  unfold ofText?
  cases Toml.read? text <;> simp

theorem ofFile_of_ofText? (h : ofText? text = some c) :
    ofFile (some text) = c.validate.mapError .invalid := by
  simp only [ofFile, h]

theorem ofFile_eq_malformed (h : ofText? text = none) : ofFile (some text) = .error .malformed := by
  simp only [ofFile, h]

/-- What is not malformed comes from settings, valid or not. -/
theorem exists_ofText? {x : Except FileError Settings} (h : ofFile (some text) = x)
    (hx : x ≠ .error .malformed) :
    ∃ d, ofText? text = some d ∧ d.validate.mapError .invalid = x := by
  cases hd : ofText? text with
  | none => exact absurd (h.symm.trans (ofFile_eq_malformed hd)) hx
  | some d => exact ⟨d, rfl, (ofFile_of_ofText? hd).symm.trans h⟩

end Settings

namespace Loader

variable {l : Loader} {s : Sources} {text : String}

/-- What a file gives by itself, valid or not, the only file of a project gives too, as long as its
integers have 64 bits. -/
theorem ReadsOnly.load_eq (h : l.ReadsOnly s text) (hquoted : Toml.Unquoted text) {c : Settings}
    (hc : Settings.ofText? text = some c) :
    (IsDocument text → l.load s = c.validate.mapError .invalid) ∧
      (¬ IsDocument text → l.load s = .error .malformedSource) := by
  obtain ⟨es, hread, -, hc⟩ := Settings.ofText?_eq_some_iff.mp hc
  constructor
  · rintro ⟨es', hread', hwithin⟩
    obtain rfl : es = es' := Option.some.inj (hread.symm.trans hread')
    have hlayer : fileLayer? text = some es := (fileLayer?_eq_some_iff text es).mpr ⟨hread, hwithin⟩
    have hshape : Tree.settings? Tree.lenient (Tree.ofFile es) = some c :=
      Tree.settings?_ofFile_of_strict (hquoted.plainAt hread) (Toml.wellFormed_of_read? hread) hc
    rw [load_eq_merged?, h.merged?_eq, hlayer]
    simp only [Option.map_some, hshape]
  · intro hno
    rw [load_eq_merged?, h.merged?_eq, (fileLayer?_eq_none_iff text).mpr hno]
    rfl

/-- What the only file of a project gives, it gives by itself, unless it gives a text loosely. -/
theorem ReadsOnly.ofText?_eq (h : l.ReadsOnly s text) (hquoted : Toml.Unquoted text)
    (hpermissions : Toml.PermissionsPlain text) {c : Settings} (hload : l.load s = .ok c) :
    (Toml.GivesLoosely text → Settings.ofText? text = none) ∧
      (¬ Toml.GivesLoosely text → Settings.ofText? text = some c) := by
  obtain ⟨root, hroot, hc⟩ := settings?_of_load hload
  rw [h.merged?_eq] at hroot
  obtain ⟨es, hlayer, rfl⟩ := Option.map_eq_some_iff.mp hroot
  obtain ⟨hread, hwithin⟩ := (fileLayer?_eq_some_iff text es).mp hlayer
  constructor
  · rintro ⟨es', hread', hloose⟩
    obtain rfl : es = es' := Option.some.inj (hread.symm.trans hread')
    rw [Option.eq_none_iff_forall_ne_some]
    intro d hd
    obtain ⟨es', hread', -, hd⟩ := Settings.ofText?_eq_some_iff.mp hd
    obtain rfl : es = es' := Option.some.inj (hread.symm.trans hread')
    rw [hloose.settings?_eq_none] at hd
    contradiction
  · intro htight
    refine Settings.ofText?_eq_some_iff.mpr ⟨es, hread, ?_, ?_⟩
    · exact Tree.integersWithin_mono (by decide +kernel) (by decide +kernel) hwithin
    · exact Tree.settings?_of_ofFile (hquoted.plainAt hread) (Toml.wellFormed_of_read? hread)
        (hpermissions es hread) (fun hloose => htight ⟨es, hread, hloose⟩) hc

end Loader

/-- A file that gives a date for the name of the server. -/
def dateNameFile : String := "[server]\napplication_name = 1979-05-27\n"

/-- The settings in the file for a boiler. -/
def boilerSettings : Settings where
  server := { applicationName := "Boiler" }
  security := { defaultRoles := [⟨WellKnownRole.authenticatedUser.nodeId, [.read]⟩] }

/-- Nothing but the file for a boiler, beside variables for other things. -/
def boilerSources : Sources where
  projectFile := some boilerFile
  environment := [("HOME", "/root")]
  illegible := ["PS1"]

end NodeAccess

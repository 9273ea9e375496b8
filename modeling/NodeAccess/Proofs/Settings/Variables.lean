import NodeAccess.Proofs.Settings.Layers
import NodeAccess.Proofs.Settings.VariableText

/-!
# A variable for a text of the server

Each text of the server has an environment variable. The environment is the highest layer, so what
the variable gives is there in the merged tree unless another variable leads to the same place, and
everything beside it is as it would be without the variable. If the other layers load, be it without
the variable or with some value of it, they load with every value that makes valid settings, and the
text is what arrives for the value.
-/

set_option autoImplicit false

namespace NodeAccess

namespace ServerField

/-- The variable for the text, behind the word with which all variables begin. -/
def path : ServerField → String
  | applicationName => "SERVER__APPLICATION_NAME"
  | applicationUri => "SERVER__APPLICATION_URI"
  | productUri => "SERVER__PRODUCT_URI"

def variableName (word : String) (f : ServerField) : String :=
  word ++ "_" ++ f.path

def settingName (f : ServerField) : String :=
  "server." ++ f.key

theorem ofText_settingName (f : ServerField) :
    Tree.Place.ofText f.settingName = ⟨"server", [.key f.key]⟩ := by
  cases f <;> decide +kernel

theorem key_ne {f g : ServerField} (h : g ≠ f) : g.key ≠ f.key := by
  cases f <;> cases g <;> first | contradiction | decide

/-- What some text satisfies for each field, some server information satisfies. -/
theorem exists_info {P : ServerField → String → Prop} (h : ∀ f, ∃ text, P f text) :
    ∃ i : ServerInfo, ∀ f, P f (f.value i) := by
  obtain ⟨name, hname⟩ := h applicationName
  obtain ⟨uri, huri⟩ := h applicationUri
  obtain ⟨product, hproduct⟩ := h productUri
  exact ⟨⟨name, uri, product⟩, fun f => by cases f <;> assumption⟩

end ServerField

/-! ## The setting that a variable gives -/

namespace Environment

theorem after?_append (front back : List Char) : after? front (front ++ back) = some back := by
  induction front with
  | nil => rfl
  | cons c front ih => rw [List.cons_append, after?, if_pos rfl, ih]

theorem settingName?_variableName (word : String) (f : ServerField) :
    settingName? word (f.variableName word) = some f.settingName := by
  have hpath : String.ofList (dotted (Text.lower f.path.toList)) = f.settingName := by
    cases f <;> decide +kernel
  have hlower : Text.lower (f.variableName word).toList =
      Text.lower (word.toList ++ ['_']) ++ Text.lower f.path.toList := by
    simp [ServerField.variableName, Text.lower]
  rw [settingName?, hlower, after?_append, Option.map_some, hpath]

/-- The settings that variables give, one of which may be for a text of the server. -/
theorem settings_variables (word : String) (f : ServerField) (front back : List (String × String))
    (value : Option String) :
    settings word (front ++ (value.toList.map fun v => (f.variableName word, v)) ++ back) =
      settings word front ++ (value.toList.map fun v => (f.settingName, Tree.ofVariable v)) ++
        settings word back := by
  have hvariable : settings word (value.toList.map fun v => (f.variableName word, v)) =
      value.toList.map fun v => (f.settingName, Tree.ofVariable v) := by
    cases value with
    | none => rfl
    | some v => simp [settings, settingName?_variableName]
  rw [← hvariable]
  simp only [settings, List.filterMap_append]

end Environment

/-! ## Overridden trees -/

namespace Tree

variable {part key : String} {t t' root root' root'' : Tree}

/-- A path that comes into a part leads to something under another key of the part. -/
def LeadsElsewhere (part key name : String) : Prop :=
  (Place.ofText name).key = part →
    ∃ other steps, Place.ofText name = ⟨part, .key other :: steps⟩ ∧ other ≠ key

/-- The second tree has something under a key of a part, which is a table in it, and is like the
first one beside that. -/
structure Overridden (part key : String) (t root root' : Tree) : Prop where
  elsewhere : ∀ k, k ≠ part → root'.entries.lookup k = root.entries.lookup k
  beside : ∀ k, k ≠ key → root'.find? part k = root.find? part k
  here : root'.find? part key = some t
  holdsTable : HoldsTable part root'

theorem overridden_set {name : String} (ht : t.isTable = false)
    (hname : Place.ofText name = ⟨part, [.key key]⟩) (root : Tree) :
    Overridden part key t root (root.set name t) := by
  refine ⟨?_, ?_, ?_, holdsTable_set_key hname root t⟩
  · intro k hk
    apply lookup_set_of_ne
    rw [hname]
    exact hk.symm
  · intro k hk
    rw [find?_set_path ht hname, if_neg hk]
  · rw [find?_set_path ht hname, if_pos rfl]

/-- An entry that leads elsewhere leaves what overrides in its place. -/
theorem Overridden.set (h : Overridden part key t root root') {name : String}
    (hname : LeadsElsewhere part key name) (u : Tree) :
    Overridden part key t (root.set name u) (root'.set name u) := by
  by_cases hplace : (Place.ofText name).key = part
  · obtain ⟨other, steps, hpath, hother⟩ := hname hplace
    refine ⟨?_, ?_, ?_, holdsTable_set_key hpath root' u⟩
    · intro k hk
      rw [lookup_set_of_ne (by rw [hplace]; exact hk.symm),
        lookup_set_of_ne (by rw [hplace]; exact hk.symm), h.elsewhere k hk]
    · intro k hk
      rw [find?_set_key hpath, find?_set_key hpath, h.beside k hk, h.beside other hother]
    · rw [find?_set_key hpath, if_neg hother.symm, h.here]
  · have hfind : ∀ (r : Tree) (k : String), (r.set name u).find? part k = r.find? part k := by
      intro r k
      rw [find?, lookup_set_of_ne hplace, find?]
    refine ⟨?_, ?_, ?_, ?_⟩
    · intro k hk
      rw [lookup_set, lookup_set, h.elsewhere k hk, h.elsewhere _ hplace]
    · intro k hk
      rw [hfind, hfind, h.beside k hk]
    · rw [hfind, h.here]
    · intro new hnew
      rw [lookup_set_of_ne hplace] at hnew
      exact h.holdsTable new hnew

theorem Overridden.withLayer (h : Overridden part key t root root')
    {layer : List (String × Tree)} (hlayer : ∀ e ∈ layer, LeadsElsewhere part key e.1) :
    Overridden part key t (root.withLayer layer) (root'.withLayer layer) := by
  -- the same entries are set in both trees, one after the other
  induction layer generalizing root root' with
  | nil => exact h
  | cons e layer ih =>
    rw [withLayer_cons, withLayer_cons]
    exact ih (h.set (hlayer e List.mem_cons_self) e.2)
      fun e he => hlayer e (List.mem_cons_of_mem _ he)

/-- An entry of a layer overrides what is below it if all later entries lead elsewhere. -/
theorem overridden_withLayer {name : String} (ht : t.isTable = false)
    (hname : Place.ofText name = ⟨part, [.key key]⟩) {front back : List (String × Tree)}
    (hback : ∀ e ∈ back, LeadsElsewhere part key e.1) (root : Tree) :
    Overridden part key t (root.withLayer (front ++ back))
      (root.withLayer (front ++ (name, t) :: back)) := by
  have hsplit : ∀ behind, root.withLayer (front ++ behind) =
      (root.withLayer front).withLayer behind := fun behind => List.foldl_append
  rw [hsplit, hsplit, withLayer_cons]
  exact (overridden_set ht hname _).withLayer hback

/-- Two trees that override the same place of a third one override it in each other. -/
theorem Overridden.replaced (h : Overridden part key t root root')
    (h' : Overridden part key t' root root'') : Overridden part key t' root' root'' := by
  refine ⟨?_, ?_, h'.here, h'.holdsTable⟩
  · intro k hk
    rw [h.elsewhere k hk, h'.elsewhere k hk]
  · intro k hk
    rw [h.beside k hk, h'.beside k hk]

variable (r : Reading)

/-- Where a tree gives server information, each text can be read from the table of the server. Where
that is no table, this gives what holds when nothing is configured. -/
theorem text_of_serverInfo {i : ServerInfo}
    (h : withDefault (root.entries.lookup "server") (serverInfo? r) .standard = some i)
    (f : ServerField) :
    ∃ text, withDefault (root.find? "server" f.key) r.text? (f.value .standard) = some text ∧
      (text = f.value i ∨ ¬ HoldsTable "server" root ∧ text = f.value .standard) := by
  by_cases htable : HoldsTable "server" root
  · exact ⟨_, (serverInfo_eq_some_iff r htable i).mp h f, .inl rfl⟩
  · refine ⟨f.value .standard, ?_, .inr ⟨htable, rfl⟩⟩
    have hnone : root.find? "server" f.key = none := by
      rw [find?]
      cases hserver : root.entries.lookup "server" with
      | none => rfl
      | some t =>
        cases t with
        | table es =>
          apply absurd _ htable
          intro t ht
          rw [hserver] at ht
          obtain rfl := Option.some.inj ht
          rfl
        | _ => rfl
    rw [hnone, withDefault]

/-- A tree that gives settings does so when a text of the server is overridden by another one. The
other texts stay as they are, unless they were not in a table. -/
theorem Overridden.settings? {f : ServerField} {text : String} {c : Settings}
    (h : Overridden "server" f.key t root root') (hroot : root.isTable = true)
    (hroot' : root'.isTable = true) (ht : r.text? t = some text)
    (hc : Tree.settings? r root = some c) :
    ∃ c', Tree.settings? r root' = some c' ∧ f.value c'.server = text ∧
      c'.security = c.security ∧ ∀ g, g ≠ f → g.value c'.server = g.value c.server ∨
        ¬ HoldsTable "server" root ∧ g.value c'.server = g.value .standard := by
  obtain ⟨hserver, hsecurity⟩ := (settings?_eq_some_iff_lookup r hroot c).mp hc
  have htexts : ∀ g : ServerField, ∃ x,
      withDefault (root'.find? "server" g.key) r.text? (g.value .standard) = some x ∧
        (g = f → x = text) ∧ (g ≠ f → x = g.value c.server ∨
          ¬ HoldsTable "server" root ∧ x = g.value .standard) := by
    intro g
    by_cases hg : g = f
    · subst hg
      rw [h.here, withDefault]
      exact ⟨text, ht, fun _ => rfl, fun hne => absurd rfl hne⟩
    · obtain ⟨x, hx, hvalue⟩ := text_of_serverInfo r hserver g
      rw [h.beside _ (ServerField.key_ne hg)]
      exact ⟨x, hx, fun heq => absurd heq hg, fun _ => hvalue⟩
  obtain ⟨i, hi⟩ := ServerField.exists_info htexts
  refine ⟨⟨i, c.security⟩, ?_, (hi f).2.1 rfl, rfl, fun g => (hi g).2.2⟩
  rw [settings?_eq_some_iff_lookup r hroot', serverInfo_eq_some_iff r h.holdsTable,
    h.elsewhere "security" (by decide)]
  exact ⟨fun g => (hi g).1, hsecurity⟩

end Tree

/-! ## Loading with a variable -/

/-- Settings stay valid when a text of the server is replaced, by a name that is not blank if it is
the name. -/
theorem Settings.problem?_of_replaced {c c' : Settings} {f : ServerField} (h : c.problem? = none)
    (hname : f = .applicationName → Text.allBlank (f.value c'.server) = false)
    (hsecurity : c'.security = c.security)
    (hothers : ∀ g, g ≠ f → g.value c'.server = g.value c.server ∨
      g.value c'.server = g.value .standard) : c'.problem? = none := by
  obtain ⟨hblank, hroles⟩ := c.problem?_eq_none_iff.mp h
  have hnamed : Text.allBlank (ServerField.applicationName.value c'.server) = false := by
    by_cases hf : ServerField.applicationName = f
    · rw [hf]
      exact hname hf.symm
    · -- the name is another text here: an old one, or the standard one
      obtain hvalue | hvalue := hothers .applicationName hf
      · rw [hvalue]
        exact (Text.allBlank_eq_false_iff _).mpr hblank
      · rw [hvalue]
        decide
  rw [problem?_eq_none_iff, hsecurity]
  exact ⟨(Text.allBlank_eq_false_iff _).mp hnamed, hroles⟩

namespace Loader

variable {l : Loader} {s : Sources} {f : ServerField} {front back : List (String × String)}
  {root root' : Tree} {c : Settings}

/-- The sources with the variable for a text of the server, or without it, between others. -/
def withVariable (l : Loader) (s : Sources) (f : ServerField) (front back : List (String × String))
    (value : Option String) : Sources :=
  { s with environment := front ++ (value.toList.map fun v => (f.variableName l.word, v)) ++ back }

/-- Other variables leave the text of the server alone. This is asked of all of them, since settings
of different names are laid in no particular order. -/
def LeavesAlone (l : Loader) (f : ServerField) (others : List (String × String)) : Prop :=
  ∀ e ∈ Environment.settings l.word others, Tree.LeadsElsewhere "server" f.key e.1

theorem LeavesAlone.of_append (h : l.LeavesAlone f (front ++ back)) : l.LeavesAlone f back := by
  intro e he
  refine h e ?_
  rw [Environment.settings, List.filterMap_append]
  exact List.mem_append_right _ he

theorem leavesAlone_variable {g : ServerField} (hg : g ≠ f) (value : String) :
    l.LeavesAlone f [(g.variableName l.word, value)] := by
  intro e he
  have hsettings : Environment.settings l.word [(g.variableName l.word, value)] =
      [(g.settingName, Tree.ofVariable value)] :=
    Environment.settings_variables l.word g [] [] (some value)
  rw [hsettings] at he
  obtain rfl := List.mem_singleton.mp he
  exact fun _ => ⟨g.key, [], g.ofText_settingName, ServerField.key_ne hg⟩

/-- With the variable and without it, the files lie below the other variables in the same way. -/
theorem exists_merged?_withVariable {old : Option String}
    (h : l.merged? (l.withVariable s f front back old) = some root) :
    ∃ files : Tree, files.isTable = true ∧
      ∀ value, l.merged? (l.withVariable s f front back value) = some (files.withLayer
        (Environment.settings l.word front ++
          (value.toList.map fun v => (f.settingName, Tree.ofVariable v)) ++
            Environment.settings l.word back)) := by
  obtain ⟨user, project, top, hreads, -⟩ := merged?_eq_some_iff.mp h
  refine ⟨Tree.ofLayers [Settings.standardEntries, user, project, top],
    Tree.isTable_ofLayers _, ?_⟩
  intro value
  have hlegible : l.environmentLayer? (l.withVariable s f front back value) =
      some (l.environment (l.withVariable s f front back value)) := by
    have hold := hreads.environment
    unfold environmentLayer? at hold ⊢
    split at hold
    · contradiction
    · exact if_neg ‹_›
  refine merged?_eq_some_iff.mpr
    ⟨user, project, top, ⟨hreads.userFile, hreads.projectFile, hreads.localFile, hlegible⟩, ?_⟩
  rw [merge, environment, withVariable, Environment.settings_variables]
  rfl

/-- The tree with the variable overrides the one without it, or with another value, in its place. -/
theorem exists_overridden {old : Option String} (hback : l.LeavesAlone f back)
    (h : l.merged? (l.withVariable s f front back old) = some root) (value : String) :
    ∃ root', l.merged? (l.withVariable s f front back (some value)) = some root' ∧
      root.isTable = true ∧ root'.isTable = true ∧
      Tree.Overridden "server" f.key (Tree.ofVariable value) root root' ∧
      (old ≠ none → Tree.HoldsTable "server" root) := by
  obtain ⟨files, hfiles, hmerged⟩ := exists_merged?_withVariable h
  have hoverridden : ∀ v, Tree.Overridden "server" f.key (Tree.ofVariable v)
      (files.withLayer (Environment.settings l.word front ++ Environment.settings l.word back))
      (files.withLayer (Environment.settings l.word front ++
        (f.settingName, Tree.ofVariable v) :: Environment.settings l.word back)) := by
    intro v
    have hplain := Tree.isTable_of_isRecord_eq_false (Tree.isRecord_ofVariable v)
    exact Tree.overridden_withLayer hplain f.ofText_settingName hback files
  obtain rfl := Option.some.inj (h.symm.trans (hmerged old))
  refine ⟨_, hmerged (some value), Tree.isTable_withLayer hfiles _, Tree.isTable_withLayer hfiles _,
    ?_⟩
  rw [Option.toList_some, List.map_singleton, List.append_assoc _ [_], List.singleton_append]
  -- with another value before, both trees override the one without the variable
  cases old with
  | none =>
    rw [Option.toList_none, List.map_nil, List.append_nil]
    exact ⟨hoverridden value, fun hnone => absurd rfl hnone⟩
  | some w =>
    rw [Option.toList_some, List.map_singleton, List.append_assoc _ [_], List.singleton_append]
    exact ⟨(hoverridden w).replaced (hoverridden value), fun _ => (hoverridden w).holdsTable⟩

/-- A value of the variable for a text of the server arrives, and exactly one text for each value:
in lower case for a truth value, plainly written for an integer of 64 bits, as the number for any
other number, and as it is for the rest; so texts with a mark and plain integers arrive as they
are. All it takes is that the layers load without the variable or with some value of it, that other
variables leave the text alone, and that the name does not become blank. Roles stay as they are, and
between one value and another so do the other texts. -/
theorem load_withVariable (l : Loader) (s : Sources) (f : ServerField)
    (front back : List (String × String)) (hothers : l.LeavesAlone f (front ++ back))
    (old : Option String) (c : Settings)
    (hload : l.load (l.withVariable s f front back old) = .ok c) (value : String)
    (hvalue : f = .applicationName → Text.allBlank value = false) :
    ∃ c', l.load (l.withVariable s f front back (some value)) = .ok c' ∧
      (∀ text, f.value c'.server = text ↔ Environment.ArrivesAs value text) ∧
      ((∃ mark ∈ value.toList, IsMark mark) → f.value c'.server = value) ∧
      (∀ i : Int, Int64.minValue.toInt ≤ i ∧ i ≤ Int64.maxValue.toInt →
        value = String.ofList (Decimal.renderInt i) → f.value c'.server = value) ∧
      c'.security = c.security ∧
      (old ≠ none → ∀ g, g ≠ f → g.value c'.server = g.value c.server) := by
  obtain ⟨root, hroot, hc⟩ := settings?_of_load hload
  obtain ⟨root', hroot', htable, htable', hoverridden, hold⟩ :=
    exists_overridden hothers.of_append hroot value
  obtain ⟨text, htext, harrives⟩ := Environment.exists_arrivesAs value
  obtain ⟨c', hc', hnew, hsecurity, hothers⟩ :=
    hoverridden.settings? Tree.lenient htable htable' htext hc
  have hvalid : c'.problem? = none := by
    refine Settings.problem?_of_replaced (f := f) (problem?_of_load hload) ?_ hsecurity ?_
    · intro hf
      rw [hnew]
      exact harrives.allBlank_eq_false (hvalue hf)
    · exact fun g hg => (hothers g hg).imp_right And.right
  have hunique : ∀ t, f.value c'.server = t ↔ Environment.ArrivesAs value t := by
    intro t
    rw [hnew]
    constructor
    · rintro rfl
      exact harrives
    · exact harrives.unique
  refine ⟨c', load_of_merged? hroot' hc' hvalid, hunique, ?_, ?_, hsecurity, ?_⟩
  · rintro ⟨mark, hmem, hmark⟩
    exact (hunique value).mpr (Environment.arrivesAs_of_isMark hmark hmem)
  · rintro i hi rfl
    exact (hunique _).mpr (Environment.arrivesAs_renderInt hi)
  · intro hsome g hg
    exact (hothers g hg).resolve_right fun h => h.1 (hold hsome)

/-- Texts that read as something else do not arrive as they are, though all layers are fine; nor does
a text arrive if a later variable is for the same setting. -/
theorem variable_not_verbatim :
    load {} {} = .ok .standard ∧ Text.allBlank "007" = false ∧
      load {} { environment := [("UANODE_SERVER__APPLICATION_NAME", "007")] } =
        .ok { server := { applicationName := "7" } } ∧
      load {} { environment := [("UANODE_SERVER__APPLICATION_NAME", "TRUE")] } =
        .ok { server := { applicationName := "true" } } ∧
      load {} { environment := [("UANODE_SERVER__PRODUCT_URI", "1.50")] } =
        .ok { server := { productUri := "1.5" } } ∧
      load {} { environment := [("UANODE_SERVER__APPLICATION_NAME", "Pump"),
        ("uanode_server__application_name", "Tank")] } =
          .ok { server := { applicationName := "Tank" } } := by
  decide +kernel

def kettleFile : String := "[server]\napplication_name = \"Kettle\"\n"

def productVariable : List (String × String) :=
  [(ServerField.productUri.variableName "UANODE", "urn:kettle")]

/-- A name of three digits arrives without its zeros, over that of the file; a URI arrives as it is,
also behind another variable. -/
theorem load_withVariable_kettle :
    let s : Sources := { projectFile := some kettleFile }
    let kettle : Settings := { server := { applicationName := "Kettle", productUri := "urn:kettle" } }
    (LeavesAlone {} .applicationName productVariable ∧
        load {} (withVariable {} s .applicationName [] productVariable none) = .ok kettle ∧
        Text.allBlank "007" = false ∧
        ∃ c, load {} (withVariable {} s .applicationName [] productVariable (some "007")) = .ok c ∧
          c.server.applicationName = "7") ∧
      LeavesAlone {} .applicationUri productVariable ∧
        ∃ c, load {} (withVariable {} s .applicationUri productVariable [] (some "urn:007")) =
          .ok c ∧ c.server.applicationUri = "urn:007" := by
  intro s kettle
  have hname : LeavesAlone {} .applicationName productVariable :=
    leavesAlone_variable (by decide) "urn:kettle"
  have huri : LeavesAlone {} .applicationUri productVariable :=
    leavesAlone_variable (by decide) "urn:kettle"
  have hload : load {} (withVariable {} s .applicationName [] productVariable none) =
      .ok kettle := by
    decide +kernel
  have hseven : Environment.ArrivesAs "007" "7" := by
    have htext : String.ofList (Decimal.renderInt 7) = "7" := by decide
    rw [← htext]
    exact .integer (by decide +kernel) ((Decimal.readInt?_eq_some_iff _ 7).mp (by decide))
      (by decide)
  refine ⟨⟨hname, hload, by decide, ?_⟩, huri, ?_⟩
  · obtain ⟨c, hc, hvalue, -⟩ := load_withVariable {} s .applicationName [] productVariable hname
      none kettle hload "007" fun _ => by decide
    exact ⟨c, hc, (hvalue "7").mpr hseven⟩
  · obtain ⟨c, hc, -, hmarked, -⟩ := load_withVariable {} s .applicationUri productVariable [] huri
      none kettle hload "urn:007" nofun
    exact ⟨c, hc, hmarked ⟨':', by decide, ⟨by decide, by decide⟩⟩⟩

end Loader

end NodeAccess

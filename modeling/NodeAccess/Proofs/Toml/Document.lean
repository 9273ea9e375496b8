import NodeAccess.Proofs.Settings.Merging
import NodeAccess.Proofs.Toml.Value

/-!
# The trees of documents

However a document is put together from headers, dotted keys and values, no key of any of its tables
occurs twice, and its dates are texts without an equals sign. What a statement changes, it changes
under one key of each table on its way, so every step keeps this. A key at the top of a document is
a key of some statement.
-/

set_option autoImplicit false

namespace NodeAccess

namespace Tree

mutual

/-- The keys of every table differ from each other, and no date holds an equals sign. -/
def WellFormed : Tree → Prop
  | dateTime text => '=' ∉ text.toList
  | array ts => ItemsWellFormed ts
  | table es => DistinctKeys es ∧ EntriesWellFormed es
  | _ => True

def ItemsWellFormed : List Tree → Prop
  | [] => True
  | t :: ts => WellFormed t ∧ ItemsWellFormed ts

def EntriesWellFormed : List (String × Tree) → Prop
  | [] => True
  | (_, t) :: es => WellFormed t ∧ EntriesWellFormed es

end

theorem itemsWellFormed_iff {ts : List Tree} : ItemsWellFormed ts ↔ ∀ t ∈ ts, t.WellFormed := by
  induction ts with
  | nil => simp [ItemsWellFormed]
  | cons t ts ih => simp [ItemsWellFormed, ih]

theorem entriesWellFormed_iff {es : List (String × Tree)} :
    EntriesWellFormed es ↔ ∀ e ∈ es, e.2.WellFormed := by
  induction es with
  | nil => simp [EntriesWellFormed]
  | cons e es ih => simp [EntriesWellFormed, ih]

/-- What a well-formed table holds is well formed. -/
theorem WellFormed.of_lookup {es : List (String × Tree)} (h : (table es).WellFormed) {key : String}
    {t : Tree} (ht : es.lookup key = some t) : t.WellFormed := by
  obtain ⟨front, back, rfl, -⟩ := List.lookup_eq_some_iff.mp ht
  exact entriesWellFormed_iff.mp h.2 (key, t) (by simp)

end Tree

namespace Toml

/-- The finished table of some entries is well formed. -/
def Entries.WellFormed (es : Entries) : Prop :=
  (Tree.table (Node.entriesToTree es)).WellFormed

/-- The finished part, if there is one, is well formed. -/
def Node.WellFormed (n : Option Node) : Prop :=
  ∀ node ∈ n, node.toTree.WellFormed

/-- A change of entries keeps them well formed. -/
def Entries.Keeps (f : Entries → Option Entries) : Prop :=
  ∀ {es es'}, f es = some es' → es.WellFormed → es'.WellFormed

/-- A change of a part, or of none, gives a well-formed one. -/
def Node.Keeps (f : Option Node → Option Node) : Prop :=
  ∀ {n n'}, f n = some n' → Node.WellFormed n → n'.toTree.WellFormed

theorem Node.keys_entriesToTree (es : Entries) :
    (Node.entriesToTree es).map Prod.fst = es.map Prod.fst := by
  induction es with
  | nil => rfl
  | cons e es ih => simp [Node.entriesToTree, ih]

theorem Entries.wellFormed_nil : Entries.WellFormed [] :=
  ⟨List.nodup_nil, trivial⟩

theorem Entries.wellFormed_cons {k : String} {n : Node} {es : Entries} :
    Entries.WellFormed ((k, n) :: es) ↔
      k ∉ es.map Prod.fst ∧ n.toTree.WellFormed ∧ es.WellFormed := by
  simp only [Entries.WellFormed, Tree.WellFormed, Tree.DistinctKeys, Node.entriesToTree,
    List.map_cons, List.nodup_cons, Node.keys_entriesToTree, Tree.EntriesWellFormed]
  constructor
  · rintro ⟨⟨hk, hdistinct⟩, hn, hes⟩
    exact ⟨hk, hn, hdistinct, hes⟩
  · rintro ⟨hk, hn, hdistinct, hes⟩
    exact ⟨⟨hk, hdistinct⟩, hn, hes⟩

/-! ## Changes under one key -/

/-- A change under a key adds no other key. -/
theorem Entries.mem_keys_change? {f : Option Node → Option Node} {key k : String}
    {es es' : Entries} (h : es.change? f key = some es') (hk : k ∈ es'.map Prod.fst) :
    k = key ∨ k ∈ es.map Prod.fst := by
  induction es generalizing es' with
  | nil =>
    obtain ⟨n, _, rfl⟩ := Option.map_eq_some_iff.mp h
    left
    simpa using hk
  | cons e es ih =>
    obtain ⟨name, node⟩ := e
    rw [Entries.change?] at h
    split at h
    · obtain ⟨n, _, rfl⟩ := Option.map_eq_some_iff.mp h
      right
      simpa using hk
    · obtain ⟨rest, hrest, rfl⟩ := Option.map_eq_some_iff.mp h
      obtain rfl | hk := List.mem_cons.mp hk
      · exact .inr (by simp)
      · exact (ih hrest hk).imp id (List.mem_cons_of_mem _)

theorem Entries.keeps_change? {f : Option Node → Option Node} (hf : Node.Keeps f) (key : String) :
    Entries.Keeps (Entries.change? f key) := by
  intro es es' h hes
  induction es generalizing es' with
  | nil =>
    obtain ⟨n, hn, rfl⟩ := Option.map_eq_some_iff.mp h
    rw [Entries.wellFormed_cons]
    exact ⟨List.not_mem_nil, hf hn (by simp [Node.WellFormed]), Entries.wellFormed_nil⟩
  | cons e es ih =>
    obtain ⟨name, node⟩ := e
    obtain ⟨hfresh, hnode, hrest⟩ := Entries.wellFormed_cons.mp hes
    rw [Entries.change?] at h
    split at h
    · obtain ⟨n, hn, rfl⟩ := Option.map_eq_some_iff.mp h
      rw [Entries.wellFormed_cons]
      exact ⟨hfresh, hf hn (by simpa [Node.WellFormed] using hnode), hrest⟩
    · rename_i hname
      obtain ⟨rest, hchange, rfl⟩ := Option.map_eq_some_iff.mp h
      rw [Entries.wellFormed_cons]
      refine ⟨?_, hnode, ih hchange hrest⟩
      intro hmem
      obtain hkey | hold := Entries.mem_keys_change? hchange hmem
      · exact hname hkey
      · exact hfresh hold

namespace Node

theorem wellFormed_tables {earlier : List Entries} {last : Entries} :
    (tables earlier last).toTree.WellFormed ↔
      (∀ t ∈ elementsToTree earlier, t.WellFormed) ∧ last.WellFormed := by
  simp only [toTree, Tree.WellFormed, Tree.itemsWellFormed_iff, List.mem_append, List.mem_reverse,
    List.mem_singleton, or_imp, forall_and, forall_eq]
  rfl

/-- A change in the last of some tables concerns that one only. -/
theorem keeps_tables {f : Entries → Option Entries} (hf : Entries.Keeps f)
    {earlier : List Entries} {last : Entries} {n : Node}
    (h : (f last).map (tables earlier) = some n) (hn : (tables earlier last).toTree.WellFormed) :
    n.toTree.WellFormed := by
  obtain ⟨es, hes, rfl⟩ := Option.map_eq_some_iff.mp h
  obtain ⟨hearlier, hlast⟩ := wellFormed_tables.mp hn
  exact wellFormed_tables.mpr ⟨hearlier, hf hes hlast⟩

theorem keeps_table {f : Entries → Option Entries} (hf : Entries.Keeps f) {o o' : Origin}
    {es : Entries} {n : Node} (h : (f es).map (table o) = some n)
    (hn : (table o' es).toTree.WellFormed) : n.toTree.WellFormed := by
  obtain ⟨es', hes', rfl⟩ := Option.map_eq_some_iff.mp h
  exact hf hes' hn

theorem keeps_within? {f : Entries → Option Entries} (hf : Entries.Keeps f) :
    Node.Keeps (within? f) := by
  intro n n' h hn
  unfold within? at h
  split at h
  · exact @keeps_table _ hf _ .stated _ _ h Entries.wellFormed_nil
  · exact keeps_table hf h (hn _ rfl)
  · exact keeps_tables hf h (hn _ rfl)
  · contradiction

theorem keeps_along? {f : Entries → Option Entries} (hf : Entries.Keeps f) (isLast : Bool) :
    Node.Keeps (along? isLast f) := by
  intro n n' h hn
  unfold along? at h
  split at h
  · exact @keeps_table _ hf _ .stated _ _ h Entries.wellFormed_nil
  · exact keeps_table hf h (hn _ rfl)
  · split at h
    · contradiction
    · exact keeps_table hf h (hn _ rfl)
  · contradiction
  · split at h
    · contradiction
    · exact keeps_tables hf h (hn _ rfl)
  · contradiction

theorem keeps_openTable? : Node.Keeps openTable? := by
  intro n n' h hn
  unfold openTable? at h
  split at h
  · cases h
    exact Entries.wellFormed_nil
  · rename_i es
    cases h
    exact hn (table .implied es) rfl
  · contradiction

theorem keeps_openElement? : Node.Keeps openElement? := by
  intro n n' h hn
  unfold openElement? at h
  split at h
  · cases h
    exact wellFormed_tables.mpr ⟨by simp [elementsToTree], Entries.wellFormed_nil⟩
  · rename_i earlier last
    cases h
    obtain ⟨hearlier, hlast⟩ := wellFormed_tables.mp (hn _ rfl)
    refine wellFormed_tables.mpr ⟨?_, Entries.wellFormed_nil⟩
    intro t ht
    obtain rfl | ht := List.mem_cons.mp ht
    · exact hlast
    · exact hearlier t ht
  · contradiction

theorem keeps_place? {t : Tree} (ht : t.WellFormed) : Node.Keeps (place? t) := by
  intro n n' h _
  unfold place? at h
  split at h
  · cases h
    exact ht
  · contradiction

end Node

namespace Entries

theorem keeps_under? {f : Entries → Option Entries} (hf : Entries.Keeps f) (keys : List String) :
    Entries.Keeps (under? f keys) := by
  induction keys with
  | nil => exact hf
  | cons k ks ih => exact keeps_change? (Node.keeps_within? ih) k

theorem keeps_assign? {t : Tree} (ht : t.WellFormed) (key : String) (keys : List String) :
    Entries.Keeps (assign? t key keys) := by
  induction keys with
  | nil => exact keeps_change? (Node.keeps_place? ht) key
  | cons k ks ih => exact keeps_change? (Node.keeps_along? ih _) k

/-- A change on the way of some keys adds no other key at the top than the first of them, or what
the change itself adds where the way is empty. -/
theorem mem_keys_under? {f : Entries → Option Entries} {keys : List String} {k : String}
    {es es' : Entries} (h : under? f keys es = some es') (hk : k ∈ es'.map Prod.fst) :
    k ∈ keys ∨ k ∈ es.map Prod.fst ∨ keys = [] ∧ f es = some es' := by
  cases keys with
  | nil => exact .inr (.inr ⟨rfl, h⟩)
  | cons name names =>
    obtain rfl | hk := mem_keys_change? h hk
    · exact .inl List.mem_cons_self
    · exact .inr (.inl hk)

theorem mem_keys_assign? {t : Tree} {key : String} {keys : List String} {k : String}
    {es es' : Entries} (h : assign? t key keys es = some es') (hk : k ∈ es'.map Prod.fst) :
    k ∈ keys ++ [key] ∨ k ∈ es.map Prod.fst := by
  cases keys with
  | nil => exact (mem_keys_change? h hk).imp (by simp) id
  | cons name names => exact (mem_keys_change? h hk).imp (by simp +contextual) id

end Entries

namespace Value

mutual

theorem wellFormed_of_toTree? : ∀ {v : Value} {t : Tree}, v.PlainDates → v.toTree? = some t →
    t.WellFormed
  | boolean b, t, _, h => by
    cases h
    trivial
  | integer i, t, _, h => by
    cases h
    trivial
  | float x, t, _, h => by
    cases h
    trivial
  | string s, t, _, h => by
    cases h
    trivial
  | dateTime s, t, hplain, h => by
    cases h
    exact hplain
  | array items, t, hplain, h => by
    rw [toTree?] at h
    obtain ⟨ts, hts, rfl⟩ := Option.map_eq_some_iff.mp h
    exact wellFormed_of_itemsToTree? hplain hts
  | table assignments, t, hplain, h => by
    rw [toTree?] at h
    obtain ⟨es, hes, rfl⟩ := Option.map_eq_some_iff.mp h
    exact wellFormed_of_assignmentsToEntries? hplain hes Entries.wellFormed_nil

theorem wellFormed_of_itemsToTree? : ∀ {vs : List Value} {ts : List Tree}, ItemsPlainDates vs →
    itemsToTree? vs = some ts → Tree.ItemsWellFormed ts
  | [], ts, _, h => by
    cases h
    trivial
  | v :: vs, ts, hplain, h => by
    rw [itemsToTree?] at h
    split at h
    · rename_i t ts' ht hts
      cases h
      exact ⟨wellFormed_of_toTree? hplain.1 ht, wellFormed_of_itemsToTree? hplain.2 hts⟩
    · contradiction

theorem wellFormed_of_assignmentsToEntries? : ∀ {as : List (KeyPath × Value)} {es es' : Entries},
    AssignmentsPlainDates as → assignmentsToEntries? as es = some es' → es.WellFormed →
    es'.WellFormed
  | [], es, es', _, h, hes => by
    cases h
    exact hes
  | (path, v) :: as, es, es', hplain, h, hes => by
    rw [assignmentsToEntries?] at h
    split at h
    · rename_i t ht
      split at h
      · rename_i es₁ hassign
        have hvalue : t.WellFormed := wellFormed_of_toTree? hplain.1 ht
        exact wellFormed_of_assignmentsToEntries? hplain.2 h
          (Entries.keeps_assign? hvalue _ _ hassign hes)
      · contradiction
    · contradiction

end

end Value

/-! ## Whole documents -/

variable {P : String → Prop}

/-- What holds of a draft whose statements have keys that the predicate admits. -/
structure Draft.Sound (P : String → Prop) (d : Draft) : Prop where
  wellFormed : d.entries.WellFormed
  keys : ∀ k ∈ d.entries.map Prod.fst, P k
  opened : ∀ k ∈ d.opened, P k

/-- The predicate admits the keys of a statement, and no date in it holds an equals sign. -/
structure Statement.Sound (P : String → Prop) (s : Statement) : Prop where
  plainDates : s.PlainDates
  keys : ∀ k ∈ keyTexts s.path.keys, P k

/-- A header opens its table with one change on its way. -/
theorem Draft.Sound.header {d : Draft} (hd : d.Sound P) {f : Option Node → Option Node}
    (hf : Node.Keeps f) {path : KeyPath} (hpath : ∀ k ∈ keyTexts path.keys, P k) {es : Entries}
    (h : d.entries.under? (Entries.change? f path.last.text) (keyTexts path.tables) = some es) :
    Draft.Sound P { entries := es, opened := keyTexts path.keys } := by
  refine ⟨Entries.keeps_under? (Entries.keeps_change? hf _) _ h hd.wellFormed, ?_, hpath⟩
  intro k hk
  have hkeys : keyTexts path.keys = keyTexts path.tables ++ [path.last.text] := by
    simp [keyTexts, KeyPath.keys]
  obtain hk | hk | ⟨-, hchange⟩ := Entries.mem_keys_under? h hk
  · exact hpath k (by simp [hkeys, hk])
  · exact hd.keys k hk
  · obtain rfl | hk := Entries.mem_keys_change? hchange hk
    · exact hpath _ (by simp [hkeys])
    · exact hd.keys k hk

theorem Draft.Sound.step {d d' : Draft} {s : Statement} (hd : d.Sound P) (hs : s.Sound P)
    (h : d.step? s = some d') : d'.Sound P := by
  cases s with
  | table path =>
    obtain ⟨es, hes, h⟩ := Option.bind_eq_some_iff.mp h
    cases h
    exact hd.header Node.keeps_openTable? hs.keys hes
  | element path =>
    obtain ⟨es, hes, h⟩ := Option.bind_eq_some_iff.mp h
    cases h
    exact hd.header Node.keeps_openElement? hs.keys hes
  | assignment path v =>
    obtain ⟨t, ht, h⟩ := Option.bind_eq_some_iff.mp h
    obtain ⟨es, hes, h⟩ := Option.bind_eq_some_iff.mp h
    cases h
    have hvalue : t.WellFormed := Value.wellFormed_of_toTree? hs.plainDates ht
    refine ⟨Entries.keeps_under? (Entries.keeps_assign? hvalue _ _) _ hes hd.wellFormed, ?_,
      hd.opened⟩
    intro k hk
    obtain hk | hk | ⟨-, hassign⟩ := Entries.mem_keys_under? hes hk
    · exact hd.opened k hk
    · exact hd.keys k hk
    · obtain hk | hk := Entries.mem_keys_assign? hassign hk
      · refine hs.keys k ?_
        simpa [keyTexts, KeyPath.keys, Statement.path] using hk
      · exact hd.keys k hk

theorem Draft.Sound.run {d d' : Draft} {ss : List Statement} (hd : d.Sound P)
    (hss : ∀ s ∈ ss, s.Sound P) (h : d.run? ss = some d') : d'.Sound P := by
  induction ss generalizing d with
  | nil =>
    cases h
    exact hd
  | cons s ss ih =>
    obtain ⟨d₁, hstep, hrun⟩ := Option.bind_eq_some_iff.mp h
    exact ih (hd.step (hss s List.mem_cons_self) hstep)
      (fun s' hs' => hss s' (List.mem_cons_of_mem s hs')) hrun

/-- The tree of a document is well formed, and each of its keys at the top is a key of a
statement. -/
theorem read?_sound {text : String} {es : List (String × Tree)} {ss : List Statement}
    (hss : statements? text = some ss) (h : read? text = some es)
    (hkeys : ∀ s ∈ ss, ∀ k ∈ s.path.keys, P k.text) :
    (Tree.table es).WellFormed ∧ ∀ e ∈ es, P e.1 := by
  rw [read?, hss, Option.bind_some, build?] at h
  obtain ⟨d, hd, rfl⟩ := Option.map_eq_some_iff.mp h
  have hsound : d.Sound P := by
    refine Draft.Sound.run ⟨Entries.wellFormed_nil, by simp, by simp⟩ ?_ hd
    intro s hs
    refine ⟨plainDates_of_statements? hss s hs, ?_⟩
    intro k hk
    obtain ⟨key, hkey, rfl⟩ := List.mem_map.mp hk
    exact hkeys s hs key hkey
  refine ⟨hsound.wellFormed, ?_⟩
  intro e he
  refine hsound.keys e.1 ?_
  rw [← Node.keys_entriesToTree]
  exact List.mem_map_of_mem he

theorem wellFormed_of_read? {text : String} {es : List (String × Tree)}
    (h : read? text = some es) : (Tree.table es).WellFormed := by
  obtain ⟨ss, hss, _⟩ := Option.bind_eq_some_iff.mp h
  exact (read?_sound (P := fun _ => True) hss h (fun _ _ _ _ => trivial)).1

end Toml

end NodeAccess

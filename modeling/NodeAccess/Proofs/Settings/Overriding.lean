import NodeAccess.Proofs.Settings.Merging

/-!
# Overridden values leave no trace

Two merged trees that are the same outside a part of the settings stay so under every layer,
whatever it says and by whatever paths, and a relation between what stands in the part stays too if
it is kept by laying. There are two such relations. Trees agree on some keys of the part when they
hold the same under these keys; a layer that lays anything but a table over one further key makes
them agree on that key too. And trees without entries in the part are alike; a layer that lays
anything over the part, or over a key of it, makes the same of both. So once a value is overridden,
nothing depends on it any more.
-/

set_option autoImplicit false

namespace NodeAccess.Tree

variable {P : String → Prop} {R S : Option Tree → Option Tree → Prop} {part key : String}
  {root root' : Tree}

/-! ## Trees that are related in one part -/

/-- Two trees are related in one part, and the same outside it. -/
structure RelatedIn (part : String) (R : Option Tree → Option Tree → Prop) (root root' : Tree) :
    Prop where
  elsewhere : ∀ k, k ≠ part → root.entries.lookup k = root'.entries.lookup k
  inPart : R (root.entries.lookup part) (root'.entries.lookup part)

/-- The relation is kept by what is laid over both trees, or somewhere into them. -/
def KeptByLaying (R : Option Tree → Option Tree → Prop) : Prop :=
  ∀ o o', R o o' → ∀ (t : Tree) (steps : List Step),
    R (some (overlayAt t steps o)) (some (overlayAt t steps o'))

/-- What is laid somewhere into the part of both trees turns the one relation into the other. -/
theorem RelatedIn.set_inPart {name : String} (hplace : (Place.ofText name).key = part) {t t' : Tree}
    (h : RelatedIn part R root root')
    (hset : ∀ o o', R o o' → S (some (overlayAt t (Place.ofText name).steps o))
      (some (overlayAt t' (Place.ofText name).steps o'))) :
    RelatedIn part S (root.set name t) (root'.set name t') := by
  subst hplace
  refine ⟨?_, ?_⟩
  · intro k hk
    rw [lookup_set, lookup_set, if_neg hk, if_neg hk, h.elsewhere k hk]
  · rw [lookup_set, lookup_set, if_pos rfl, if_pos rfl]
    exact hset _ _ h.inPart

theorem RelatedIn.set (hR : KeptByLaying R) (h : RelatedIn part R root root') (name : String)
    (t : Tree) : RelatedIn part R (root.set name t) (root'.set name t) := by
  by_cases hplace : (Place.ofText name).key = part
  · exact h.set_inPart hplace fun o o' ho => hR o o' ho t _
  · refine ⟨?_, ?_⟩
    · intro k hk
      rw [lookup_set, lookup_set, h.elsewhere k hk, h.elsewhere _ hplace]
    · rw [lookup_set_of_ne hplace, lookup_set_of_ne hplace]
      exact h.inPart

theorem RelatedIn.withLayer (hR : KeptByLaying R) (h : RelatedIn part R root root')
    (layer : List (String × Tree)) :
    RelatedIn part R (root.withLayer layer) (root'.withLayer layer) := by
  induction layer generalizing root root' with
  | nil => exact h
  | cons e layer ih =>
    rw [withLayer_cons, withLayer_cons]
    exact ih (h.set hR e.1 e.2)

theorem RelatedIn.withLayers (hR : KeptByLaying R) (h : RelatedIn part R root root')
    (layers : List (List (String × Tree))) :
    RelatedIn part R (layers.foldl Tree.withLayer root) (layers.foldl Tree.withLayer root') := by
  induction layers generalizing root root' with
  | nil => exact h
  | cons layer layers ih => exact ih (h.withLayer hR layer)

theorem withLayer_append_cons (root : Tree) (front back : List (String × Tree))
    (e : String × Tree) :
    root.withLayer (front ++ e :: back) = ((root.withLayer front).set e.1 e.2).withLayer back := by
  rw [withLayer, List.foldl_append]
  exact withLayer_cons _ e back

/-- An entry that turns the one relation into the other does so within its layer. -/
theorem RelatedIn.withLayer_of_mem (hR : KeptByLaying R) (hS : KeptByLaying S)
    {layer : List (String × Tree)} {e : String × Tree} (he : e ∈ layer)
    (hset : ∀ {root root' : Tree}, RelatedIn part R root root' →
      RelatedIn part S (root.set e.1 e.2) (root'.set e.1 e.2))
    (h : RelatedIn part R root root') :
    RelatedIn part S (root.withLayer layer) (root'.withLayer layer) := by
  obtain ⟨front, back, rfl⟩ := List.append_of_mem he
  rw [withLayer_append_cons, withLayer_append_cons]
  exact (hset (h.withLayer hR front)).withLayer hS back

/-- Layers that differ in one entry of a part make trees that are related as what the entry makes of
the part. -/
theorem relatedIn_withLayer (hR : KeptByLaying R) {name : String}
    (hplace : (Place.ofText name).key = part) {t t' : Tree}
    (h : ∀ old, R (some (overlayAt t (Place.ofText name).steps old))
      (some (overlayAt t' (Place.ofText name).steps old)))
    (front back : List (String × Tree)) (root : Tree) :
    RelatedIn part R (root.withLayer (front ++ (name, t) :: back))
      (root.withLayer (front ++ (name, t') :: back)) := by
  have hsame : RelatedIn part Eq (root.withLayer front) (root.withLayer front) :=
    ⟨fun _ _ => rfl, rfl⟩
  rw [withLayer_append_cons, withLayer_append_cons]
  apply RelatedIn.withLayer hR
  refine hsame.set_inPart hplace ?_
  rintro o _ rfl
  exact h o

/-- Two layers make trees that are related in one way, and an entry of a higher layer turns this
into another: then all layers together make trees that are related in that other way. -/
theorem relatedIn_ofLayers (hR : KeptByLaying R) (hS : KeptByLaying S)
    {lower upper : List (List (String × Tree))} {layer layer' above : List (String × Tree)}
    {e : String × Tree}
    (hlayer : ∀ root : Tree, RelatedIn part R (root.withLayer layer) (root.withLayer layer'))
    (habove : above ∈ upper) (he : e ∈ above)
    (hset : ∀ {root root' : Tree}, RelatedIn part R root root' →
      RelatedIn part S (root.set e.1 e.2) (root'.set e.1 e.2)) :
    RelatedIn part S (ofLayers (lower ++ layer :: upper))
      (ofLayers (lower ++ layer' :: upper)) := by
  obtain ⟨front, back, rfl⟩ := List.append_of_mem habove
  simp only [ofLayers, List.foldl_append, List.foldl_cons]
  apply RelatedIn.withLayers hS
  exact ((hlayer _).withLayers hR front).withLayer_of_mem hR hS he hset

/-! ## Trees that agree on keys -/

/-- Entries hold the same under every key that the predicate admits. -/
def EntriesAgree (P : String → Prop) (es es' : List (String × Tree)) : Prop :=
  ∀ k, P k → es.lookup k = es'.lookup k

/-- Two trees, if there are any, are the same or are tables that agree. -/
def PartsAgree (P : String → Prop) (t t' : Option Tree) : Prop :=
  t = t' ∨ ∃ es es', t = some (table es) ∧ t' = some (table es') ∧ EntriesAgree P es es'

/-- Two trees agree on keys of a part, and on everything outside it. -/
def AgreeOn (part : String) (P : String → Prop) (root root' : Tree) : Prop :=
  RelatedIn part (PartsAgree P) root root'

theorem EntriesAgree.change {es es' : List (String × Tree)} (h : EntriesAgree P es es')
    (f : Option Tree → Tree) (name : String) :
    EntriesAgree P (change f name es) (change f name es') := by
  intro k hk
  rw [lookup_change, lookup_change, h k hk]
  by_cases hname : k = name
  · rw [if_pos hname, if_pos hname, ← hname, h k hk]
  · rw [if_neg hname, if_neg hname]

/-- What is put under the last key in doubt settles it. -/
theorem EntriesAgree.settle {es es' : List (String × Tree)} (h : EntriesAgree (· ≠ key) es es')
    (t : Tree) :
    EntriesAgree (fun _ => True) (Tree.change (fun _ => t) key es)
      (Tree.change (fun _ => t) key es') := by
  intro k _
  rw [lookup_change, lookup_change]
  by_cases hname : k = key
  · rw [if_pos hname, if_pos hname]
  · rw [if_neg hname, if_neg hname, h k hname]

theorem EntriesAgree.overlayEntries {es es' : List (String × Tree)} (h : EntriesAgree P es es')
    (layer : List (String × Tree)) :
    EntriesAgree P (overlayEntries es layer) (overlayEntries es' layer) := by
  induction layer generalizing es es' with
  | nil => simpa only [Tree.overlayEntries] using h
  | cons e layer ih =>
    rw [Tree.overlayEntries, Tree.overlayEntries]
    exact ih (h.change _ e.1)

theorem keptByLaying_partsAgree (P : String → Prop) : KeptByLaying (PartsAgree P) := by
  intro o o' h t steps
  obtain rfl | ⟨es, es', rfl, rfl, h⟩ := h
  · exact .inl rfl
  · cases steps with
    | nil =>
      cases t with
      | table layer => exact .inr ⟨_, _, rfl, rfl, h.overlayEntries layer⟩
      | _ => exact .inl rfl
    | cons step steps =>
      cases step with
      | key name => exact .inr ⟨_, _, rfl, rfl, h.change _ name⟩
      | index i => exact .inl rfl

/-- The entry of a layer lays something other than a table over a key of a part: in the table of the
part, by a path of two keys, or over the whole part. -/
inductive Settles (part key : String) : String × Tree → Prop
  | inTable {es : List (String × Tree)} {t : Tree} (hmem : (key, t) ∈ es)
      (ht : t.isTable = false) : Settles part key (part, .table es)
  | byPath {name : String} {t : Tree} (hname : Place.ofText name = ⟨part, [.key key]⟩)
      (ht : t.isTable = false) : Settles part key (name, t)
  | whole {t : Tree} (ht : t.isTable = false) : Settles part key (part, t)

theorem EntriesAgree.overlayEntries_settle {es es' : List (String × Tree)}
    (h : EntriesAgree (· ≠ key) es es') {layer : List (String × Tree)} {t : Tree}
    (hmem : (key, t) ∈ layer) (ht : t.isTable = false) :
    EntriesAgree (fun _ => True) (Tree.overlayEntries es layer)
      (Tree.overlayEntries es' layer) := by
  -- entries in front of the settling one keep the doubt about the key, those behind keep agreement
  induction layer generalizing es es' with
  | nil => exact absurd hmem List.not_mem_nil
  | cons e layer ih =>
    rw [Tree.overlayEntries, Tree.overlayEntries]
    obtain rfl | hmem := List.mem_cons.mp hmem
    · have hconst : (fun old => overlay old t) = fun _ => t := funext (overlay_eq_self ht)
      rw [hconst]
      exact (h.settle t).overlayEntries layer
    · exact ih (h.change _ e.1) hmem

theorem Settles.key_eq {e : String × Tree} (h : Settles part key e)
    (hpart : Place.ofText part = { key := part }) : (Place.ofText e.1).key = part := by
  cases h with
  | byPath hname ht => rw [hname]
  | _ => rw [hpart]

theorem Settles.agreeOn_set {e : String × Tree} (h : Settles part key e)
    (hpart : Place.ofText part = { key := part }) (hroot : AgreeOn part (· ≠ key) root root') :
    AgreeOn part (fun _ => True) (root.set e.1 e.2) (root'.set e.1 e.2) := by
  refine hroot.set_inPart (h.key_eq hpart) ?_
  rintro o o' (rfl | ⟨es, es', rfl, rfl, hagree⟩)
  · exact .inl rfl
  · cases h with
    | inTable hmem ht =>
      rw [hpart]
      exact .inr ⟨_, _, rfl, rfl, hagree.overlayEntries_settle hmem ht⟩
    | byPath hname ht =>
      rw [hname]
      refine .inr ⟨_, _, rfl, rfl, ?_⟩
      have hconst : overlayAt _ [] = fun _ => _ := funext (overlay_eq_self ht)
      rw [hconst]
      exact hagree.settle _
    | whole ht =>
      rw [hpart]
      simp only [overlayAt, overlay_eq_self ht]
      exact .inl rfl

/-- Two layers say the same but for what they say, if anything, under one key of a part: in the
table of the part, or by a path that leads there or further. -/
inductive DifferAt (part key : String) :
    List (String × Tree) → List (String × Tree) → Prop
  | inTable (front back : List (String × Tree)) {es es' : List (String × Tree)}
      (hdistinct : DistinctKeys es) (hdistinct' : DistinctKeys es')
      (hagree : EntriesAgree (· ≠ key) es es') :
      DifferAt part key (front ++ (part, .table es) :: back) (front ++ (part, .table es') :: back)
  | byPath (front back : List (String × Tree)) {name : String} {steps : List Step}
      (hname : Place.ofText name = ⟨part, .key key :: steps⟩) (t t' : Tree) :
      DifferAt part key (front ++ (name, t) :: back) (front ++ (name, t') :: back)

theorem DifferAt.agreeOn {layer layer' : List (String × Tree)} (h : DifferAt part key layer layer')
    (hpart : Place.ofText part = { key := part }) (root : Tree) :
    AgreeOn part (· ≠ key) (root.withLayer layer) (root.withLayer layer') := by
  cases h with
  | inTable front back hdistinct hdistinct' hagree =>
    refine relatedIn_withLayer (keptByLaying_partsAgree _) (by rw [hpart]) ?_ front back root
    intro old
    rw [hpart]
    refine .inr ⟨_, _, rfl, rfl, ?_⟩
    intro k hk
    rw [lookup_overlayEntries hdistinct, lookup_overlayEntries hdistinct', hagree k hk]
  | byPath front back hname t t' =>
    refine relatedIn_withLayer (keptByLaying_partsAgree _) (by rw [hname]) ?_ front back root
    intro old
    rw [hname]
    refine .inr ⟨_, _, rfl, rfl, ?_⟩
    intro k hk
    rw [lookup_change, lookup_change, if_neg hk, if_neg hk]

/-- What one layer says in a place does not matter if a higher one settles that place: the merged
trees agree on everything. -/
theorem DifferAt.agreeOn_ofLayers {lower upper : List (List (String × Tree))}
    {layer layer' settling : List (String × Tree)} {e : String × Tree}
    (hlayer : DifferAt part key layer layer') (hpart : Place.ofText part = { key := part })
    (hsettling : settling ∈ upper) (he : e ∈ settling) (h : Settles part key e) :
    AgreeOn part (fun _ => True) (ofLayers (lower ++ layer :: upper))
      (ofLayers (lower ++ layer' :: upper)) :=
  relatedIn_ofLayers (keptByLaying_partsAgree _) (keptByLaying_partsAgree _)
    (hlayer.agreeOn hpart) hsettling he (h.agreeOn_set hpart)

/-! ## Parts without entries -/

/-- Two trees, if there are any, are the same or have no entries. -/
def SameOrBare (t t' : Option Tree) : Prop :=
  t = t' ∨ (t.getD unset).entries = [] ∧ (t'.getD unset).entries = []

theorem keptByLaying_sameOrBare : KeptByLaying SameOrBare := by
  intro o o' h t steps
  obtain rfl | ⟨ho, ho'⟩ := h
  · exact .inl rfl
  · cases steps with
    | nil =>
      cases t with
      | table layer => exact .inl (by simp only [overlayAt, overlay, ho, ho'])
      | _ => exact .inl rfl
    | cons step steps =>
      cases step with
      | key name => exact .inl (by simp only [overlayAt, ho, ho'])
      | index i => exact .inr ⟨rfl, rfl⟩

/-- The entry of a layer lays something over a whole part, or by a path over a key of it or further
within. -/
inductive Covers (part : String) : String × Tree → Prop
  | whole (t : Tree) : Covers part (part, t)
  | byPath {name key : String} {steps : List Step}
      (hname : Place.ofText name = ⟨part, .key key :: steps⟩) (t : Tree) : Covers part (name, t)

theorem Covers.key_eq {e : String × Tree} (h : Covers part e)
    (hpart : Place.ofText part = { key := part }) : (Place.ofText e.1).key = part := by
  cases h with
  | whole t => rw [hpart]
  | byPath hname t => rw [hname]

theorem Covers.agreeOn_set {e : String × Tree} (h : Covers part e)
    (hpart : Place.ofText part = { key := part }) (hroot : RelatedIn part SameOrBare root root') :
    AgreeOn part (fun _ => True) (root.set e.1 e.2) (root'.set e.1 e.2) := by
  refine hroot.set_inPart (h.key_eq hpart) ?_
  rintro o o' (rfl | ⟨ho, ho'⟩)
  · exact .inl rfl
  · left
    cases h with
    | whole t =>
      rw [hpart]
      cases t <;> simp only [overlayAt, overlay, ho, ho']
    | byPath hname t =>
      rw [hname]
      simp only [overlayAt, ho, ho']

/-- Two layers say the same but for what they say for a whole part, where neither has a table. -/
inductive DifferWithoutTable (part : String) :
    List (String × Tree) → List (String × Tree) → Prop
  | mk (front back : List (String × Tree)) {t t' : Tree} (ht : t.isTable = false)
      (ht' : t'.isTable = false) :
      DifferWithoutTable part (front ++ (part, t) :: back) (front ++ (part, t') :: back)

theorem DifferWithoutTable.relatedIn {layer layer' : List (String × Tree)}
    (h : DifferWithoutTable part layer layer') (hpart : Place.ofText part = { key := part })
    (root : Tree) : RelatedIn part SameOrBare (root.withLayer layer) (root.withLayer layer') := by
  obtain ⟨front, back, ht, ht'⟩ := h
  refine relatedIn_withLayer keptByLaying_sameOrBare (by rw [hpart]) ?_ front back root
  intro old
  rw [hpart, overlayAt, overlayAt, overlay_eq_self ht, overlay_eq_self ht']
  have hbare : ∀ {t : Tree}, t.isTable = false → t.entries = [] := by
    intro t h
    cases t with
    | table es => contradiction
    | _ => rfl
  exact .inr ⟨hbare ht, hbare ht'⟩

/-- What a layer has in place of the table of a part does not matter if a higher one covers the
part. -/
theorem DifferWithoutTable.agreeOn_ofLayers {lower upper : List (List (String × Tree))}
    {layer layer' covering : List (String × Tree)} {e : String × Tree}
    (hlayer : DifferWithoutTable part layer layer') (hpart : Place.ofText part = { key := part })
    (hcovering : covering ∈ upper) (he : e ∈ covering) (h : Covers part e) :
    AgreeOn part (fun _ => True) (ofLayers (lower ++ layer :: upper))
      (ofLayers (lower ++ layer' :: upper)) :=
  relatedIn_ofLayers keptByLaying_sameOrBare (keptByLaying_partsAgree _)
    (hlayer.relatedIn hpart) hcovering he (h.agreeOn_set hpart)

end NodeAccess.Tree

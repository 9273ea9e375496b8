import Mathlib.Data.List.Forall2
import NodeAccess.Proofs.Json.Decoding

/-!
# Records, member by member

What a decoder finds in a record depends on what stands under the names of its fields and on nothing
else. So the order of members does not matter, nor do members of other names, nor whether the fields
are named or listed in order; and an edit inside a field changes the result in that field alone.

Edits are relations between a JSON value and the edited one. They are stated for a record first and
then carried to the records and lists around it.
-/

set_option autoImplicit false

namespace NodeAccess

namespace Json

/-- The same record written in another way: with its members in another order, with one member more
whose name is not known, or as the list of its first fields. The value of the further member may be
anything that is JSON; what bars it is only a control character that stands unescaped in a string,
where JSON has none. -/
inductive Rewrites (names : List String) : Json → Json → Prop where
  | reorder {members members' : List (String × Json)} :
      members.Perm members' → Rewrites names (.object members) (.object members')
  | extend {front behind : List (String × Json)} {name : String} {value : Json} :
      name ∉ names → value.isSkippable = true →
        Rewrites names (.object (front ++ behind)) (.object (front ++ (name, value) :: behind))
  | list {items : List Json} :
      items.length ≤ names.length → Rewrites names (.object (names.zip items)) (.array items)

/-- A member is left out of an object. -/
inductive Drops (name : String) : Json → Json → Prop where
  | mk {front behind : List (String × Json)} (value : Json) :
      Drops name (.object (front ++ (name, value) :: behind)) (.object (front ++ behind))

/-- An edit of one item of an array. -/
inductive AtItem (place : Nat) (Edit : Json → Json → Prop) : Json → Json → Prop where
  | mk {front behind : List Json} {value value' : Json} :
      front.length = place → Edit value value' →
        AtItem place Edit (.array (front ++ value :: behind)) (.array (front ++ value' :: behind))

/-- An edit of one field of a record, whether fields are named or listed. -/
inductive AtField (names : List String) (name : String) (Edit : Json → Json → Prop) :
    Json → Json → Prop where
  | member {front behind : List (String × Json)} {value value' : Json} :
      Edit value value' →
        AtField names name Edit (.object (front ++ (name, value) :: behind))
          (.object (front ++ (name, value') :: behind))
  | item {place : Nat} {j j' : Json} :
      names[place]? = some name → AtItem place Edit j j' → AtField names name Edit j j'

theorem AtItem.flip {place : Nat} {Edit : Json → Json → Prop} {j j' : Json}
    (h : AtItem place Edit j j') : AtItem place (fun v v' => Edit v' v) j' j := by
  cases h with
  | mk hplace hedit => exact .mk hplace hedit

theorem AtField.flip {names : List String} {name : String} {Edit : Json → Json → Prop}
    {j j' : Json} (h : AtField names name Edit j j') :
    AtField names name (fun v v' => Edit v' v) j' j := by
  cases h with
  | member hedit => exact .member hedit
  | item hplace hitem => exact .item hplace hitem.flip

end Json

namespace Fields

open Json

variable {α : Type} {names : List String}

/-! ## Members in another order -/

theorem areReadable_perm {members members' : List (String × Json)} (h : members.Perm members') :
    areReadable names members = areReadable names members' := by
  induction h with
  | nil => rfl
  | cons m hperm ih => rw [areReadable, areReadable, ih, hperm.all_eq]
  | swap a b members =>
    obtain ⟨name, value⟩ := a
    obtain ⟨name', value'⟩ := b
    -- the two are compared with each other only if both names are known
    cases hknown : names.contains name <;> cases hknown' : names.contains name' <;>
      simp only [areReadable, List.all_cons, hknown, hknown'] <;> grind
  | trans _ _ ih ih' => rw [ih, ih']

/-- In a record that can be read, a known name stands once, so its place does not matter. -/
theorem lookup_perm {members members' : List (String × Json)} (h : members.Perm members')
    (hreadable : areReadable names members = true) {name : String} (hname : name ∈ names) :
    members.lookup name = members'.lookup name := by
  induction h with
  | nil => rfl
  | cons m _ ih =>
    rw [areReadable, Bool.and_eq_true] at hreadable
    rw [List.lookup_cons, List.lookup_cons, ih hreadable.2]
  | swap a b members =>
    -- only members of one name would find something else when they are swapped
    by_cases hboth : b.1 = name ∧ a.1 = name
    · obtain ⟨hb, ha⟩ := hboth
      simp [areReadable, hb, ha, hname] at hreadable
    · obtain ⟨first, value⟩ := a
      obtain ⟨second, value'⟩ := b
      simp only [List.lookup_cons]
      grind
  | trans hperm _ ih ih' =>
    rw [ih hreadable, ih' (by rwa [← areReadable_perm hperm])]

/-! ## A member among others -/

section

variable {front behind : List (String × Json)} {name : String} {value : Json}

theorem areReadable_middle : areReadable names (front ++ (name, value) :: behind) =
    areReadable names ((name, value) :: (front ++ behind)) :=
  areReadable_perm List.perm_middle

/-- A member is found by its own name, and every other known name finds what it finds without it. -/
theorem lookup_middle (hreadable : areReadable names (front ++ (name, value) :: behind) = true)
    {other : String} (hother : other ∈ names) :
    (front ++ (name, value) :: behind).lookup other =
      if other = name then some value else (front ++ behind).lookup other := by
  rw [lookup_perm List.perm_middle hreadable hother, List.lookup_cons]
  by_cases h : other = name
  · simp [h]
  · rw [beq_false_of_ne h, if_neg h]

end

/-! ## Listed fields -/

theorem mem_of_mem_map_fst_zip {items : List Json} {name : String}
    (h : name ∈ (names.zip items).map Prod.fst) : name ∈ names := by
  obtain ⟨m, hm, rfl⟩ := List.mem_map.mp h
  exact (List.of_mem_zip hm).1

theorem nodup_map_fst_zip (hnames : names.Nodup) (items : List Json) :
    ((names.zip items).map Prod.fst).Nodup := by
  induction names generalizing items with
  | nil => simp
  | cons name names ih =>
    cases items with
    | nil => simp
    | cons item items =>
      obtain ⟨hname, hnames⟩ := List.nodup_cons.mp hnames
      rw [List.zip_cons_cons, List.map_cons, List.nodup_cons]
      exact ⟨fun hmem => hname (mem_of_mem_map_fst_zip hmem), ih hnames items⟩

/-- Under the name of a field stands the item in the place of the field. -/
theorem lookup_zip (hnames : names.Nodup) {name : String} {place : Nat}
    (hplace : names[place]? = some name) (items : List Json) :
    (names.zip items).lookup name = items[place]? := by
  induction names generalizing place items with
  | nil => simp at hplace
  | cons first names ih =>
    obtain ⟨hfirst, hnames⟩ := List.nodup_cons.mp hnames
    cases items with
    | nil => simp
    | cons item items =>
      rw [List.zip_cons_cons, List.lookup_cons]
      cases place with
      | zero =>
        cases hplace
        simp
      | succ place =>
        rw [List.getElem?_cons_succ] at hplace
        have hne : (name == first) = false := by
          rw [beq_eq_false_iff_ne]
          rintro rfl
          exact hfirst (List.mem_of_getElem? hplace)
        rw [hne, List.getElem?_cons_succ]
        exact ih hnames hplace items

/-! ## What fields agree on -/

/-- The same stands under the given names, as deep. -/
structure Agree (known : List String) (f f' : Fields) : Prop where
  depth : f'.depth = f.depth
  lookup : ∀ name ∈ known, f'.members.lookup name = f.members.lookup name

section

variable {known : List String} {f f' : Fields} {name : String} {d : Decoder α} {a : α}

theorem Agree.symm (h : Agree known f f') : Agree known f' f :=
  ⟨h.depth.symm, fun name hname => (h.lookup name hname).symm⟩

theorem Agree.withDefault_eq (h : Agree known f f') (hname : name ∈ known) :
    f'.withDefault name d a = f.withDefault name d a := by
  rw [withDefault, withDefault, h.depth, h.lookup name hname]

theorem Agree.required_eq (h : Agree known f f') (hname : name ∈ known) :
    f'.required name d = f.required name d := by
  rw [required, required, h.depth, h.lookup name hname]

theorem withDefault_of_none (h : f.members.lookup name = none) :
    f.withDefault name d a = some a := by
  rw [withDefault, h]

theorem withDefault_of_some {j : Json} (h : f.members.lookup name = some j) :
    f.withDefault name d a = d f.depth j := by
  rw [withDefault, h]

theorem required_of_none (h : f.members.lookup name = none) : f.required name d = none := by
  rw [required, h]

end

/-- However a record is written, the fields that are found agree. -/
theorem find?_of_rewrites (hnames : names.Nodup) {j j' : Json} (h : Rewrites names j j')
    (depth : Nat) : Option.Rel (Agree names) (find? names depth j) (find? names depth j') := by
  cases depth with
  | zero => cases h <;> exact .none
  | succ depth =>
    cases h with
    | @reorder members members' hperm =>
      simp only [find?, ← areReadable_perm hperm]
      split
      · rename_i hreadable
        exact .some ⟨rfl, fun name hname => (lookup_perm hperm hreadable hname).symm⟩
      · exact .none
    | @extend front behind name value hunknown hskippable =>
      have hreadable : areReadable names (front ++ (name, value) :: behind) =
          areReadable names (front ++ behind) := by
        rw [areReadable_middle, areReadable]
        simp [hunknown, hskippable]
      simp only [find?, hreadable]
      split
      · rename_i hfound
        refine .some ⟨rfl, ?_⟩
        intro known hknown
        have hne : known ≠ name := ne_of_mem_of_not_mem hknown hunknown
        rw [lookup_middle (hreadable.trans hfound) hknown, if_neg hne]
      · exact .none
    | @list items hlength =>
      have hreadable : areReadable names (names.zip items) = true :=
        areReadable_of_nodup
          (fun m hm => mem_of_mem_map_fst_zip (List.mem_map_of_mem hm))
          (nodup_map_fst_zip hnames items)
      simp only [find?, hreadable, if_pos hlength]
      exact .some ⟨rfl, fun _ _ => rfl⟩

/-! ## Edits of one field -/

/-- Where a member is left out, the other fields are as they were, and its own is missing. -/
theorem find?_of_drops {name : String} (hname : name ∈ names) {j j' : Json}
    (h : Drops name j j') {depth : Nat} {f : Fields} (hf : find? names depth j = some f) :
    ∃ f', find? names depth j' = some f' ∧ Agree (names.filter (· ≠ name)) f f' ∧
      f'.members.lookup name = none := by
  obtain ⟨value⟩ := h
  rename_i front behind
  cases depth with
  | zero => contradiction
  | succ depth =>
    simp only [find?, Option.ite_none_right_eq_some, Option.some.injEq] at hf
    obtain ⟨hreadable, rfl⟩ := hf
    -- the name is known, so it stands once and the others can be read without it
    have hfirst := hreadable
    rw [areReadable_middle, areReadable] at hfirst
    simp only [List.contains_eq_mem, hname, decide_true, if_true, Bool.and_eq_true,
      List.all_eq_true, bne_iff_ne] at hfirst
    refine ⟨⟨depth, front ++ behind, false⟩, by rw [find?, if_pos hfirst.2], ⟨rfl, ?_⟩, ?_⟩
    · intro other hother
      obtain ⟨hknown, hne⟩ := List.mem_filter.mp hother
      rw [lookup_middle hreadable hknown, if_neg (of_decide_eq_true hne)]
    · rw [List.lookup_eq_none_iff]
      intro m hm
      rw [bne_iff_ne]
      exact (hfirst.1 m hm).symm

section

variable {name : String} {Edit : Json → Json → Prop} {depth : Nat} {f : Fields}

/-- An edit of a member is an edit of the field of its name. -/
theorem find?_of_member (hname : name ∈ names) {front behind : List (String × Json)}
    {value : Json} (value' : Json)
    (hf : find? names depth (.object (front ++ (name, value) :: behind)) = some f) :
    ∃ f', find? names depth (.object (front ++ (name, value') :: behind)) = some f' ∧
      Agree (names.filter (· ≠ name)) f f' ∧ f.members.lookup name = some value ∧
      f'.members.lookup name = some value' := by
  cases depth with
  | zero => contradiction
  | succ depth =>
    simp only [find?, Option.ite_none_right_eq_some, Option.some.injEq] at hf
    obtain ⟨hreadable, rfl⟩ := hf
    have hreadable' : areReadable names (front ++ (name, value') :: behind) = true := by
      rw [areReadable_middle, areReadable] at hreadable ⊢
      simpa [hname] using hreadable
    refine ⟨⟨depth, front ++ (name, value') :: behind, false⟩, by rw [find?, if_pos hreadable'],
      ⟨rfl, ?_⟩, ?_, ?_⟩
    · intro other hother
      obtain ⟨hknown, hne⟩ := List.mem_filter.mp hother
      have hne := of_decide_eq_true hne
      rw [lookup_middle hreadable hknown, lookup_middle hreadable' hknown, if_neg hne, if_neg hne]
    · rw [lookup_middle hreadable hname, if_pos rfl]
    · rw [lookup_middle hreadable' hname, if_pos rfl]

/-- An edit of a listed item is an edit of the field in its place. -/
theorem find?_of_item (hnames : names.Nodup) {front behind : List Json} {value : Json}
    (value' : Json) (hplace : names[front.length]? = some name)
    (hf : find? names depth (.array (front ++ value :: behind)) = some f) :
    ∃ f', find? names depth (.array (front ++ value' :: behind)) = some f' ∧
      Agree (names.filter (· ≠ name)) f f' ∧ f.members.lookup name = some value ∧
      f'.members.lookup name = some value' := by
  cases depth with
  | zero => contradiction
  | succ depth =>
    simp only [find?, Option.ite_none_right_eq_some, Option.some.injEq] at hf
    obtain ⟨hlength, rfl⟩ := hf
    have hlength' : (front ++ value' :: behind).length ≤ names.length := by
      simpa using hlength
    refine ⟨⟨depth, names.zip (front ++ value' :: behind), true⟩,
      by rw [find?, if_pos hlength'], ⟨rfl, ?_⟩, ?_, ?_⟩
    · intro other hother
      obtain ⟨hknown, hne⟩ := List.mem_filter.mp hother
      obtain ⟨i, hi⟩ := List.getElem?_of_mem hknown
      have hapart : i ≠ front.length := by
        rintro rfl
        exact of_decide_eq_true hne (Option.some.inj (hi.symm.trans hplace))
      simp only [lookup_zip hnames hi]
      grind
    · simp [lookup_zip hnames hplace]
    · simp [lookup_zip hnames hplace]

/-- Where the value of a field is edited, the other fields are as they were. -/
theorem find?_of_atField (hnames : names.Nodup) (hname : name ∈ names) {j j' : Json}
    (h : AtField names name Edit j j') (hf : find? names depth j = some f) :
    ∃ f' value value', Edit value value' ∧ find? names depth j' = some f' ∧
      Agree (names.filter (· ≠ name)) f f' ∧ f.members.lookup name = some value ∧
      f'.members.lookup name = some value' := by
  cases h with
  | @member front behind value value' hedit =>
    obtain ⟨f', hf'⟩ := find?_of_member hname value' hf
    exact ⟨f', value, value', hedit, hf'⟩
  | @item place _ _ hplace hitem =>
    cases hitem with
    | @mk front behind value value' hfront hedit =>
      subst hfront
      obtain ⟨f', hf'⟩ := find?_of_item hnames value' hplace hf
      exact ⟨f', value, value', hedit, hf'⟩

end

end Fields

namespace Decoder

open Json Fields

variable {α : Type} {Edit : Json → Json → Prop} {names : List String} {name : String}

/-- What the decoder finds before the edit, it finds the image of after it. -/
def Carries (d : Decoder α) (Edit : Json → Json → Prop) (g : α → α) : Prop :=
  ∀ (depth : Nat) (j j' : Json) (a : α), Edit j j' → d depth j = some a → d depth j' = some (g a)

/-- The decoder finds nothing after the edit, where it found something before it. -/
def Refuses (d : Decoder α) (Edit : Json → Json → Prop) : Prop :=
  ∀ (depth : Nat) (j j' : Json) (a : α), Edit j j' → d depth j = some a → d depth j' = none

/-- The decoder finds the same before and after the edit. -/
def Ignores (d : Decoder α) (Edit : Json → Json → Prop) : Prop :=
  ∀ (depth : Nat) (j j' : Json), Edit j j' → d depth j = d depth j'

theorem Ignores.carries {d : Decoder α} (h : Ignores d Edit) : Carries d Edit id := by
  intro depth j j' a hedit ha
  rw [← h depth j j' hedit, ha]
  rfl

/-- Edits that are ignored in a part are ignored in the whole, if the whole is carried with the part
and the edits can be taken back. -/
theorem Ignores.lift {β : Type} {d : Decoder α} {whole : Decoder β}
    {Lift : (Json → Json → Prop) → Json → Json → Prop} (h : Ignores d Edit)
    (hlift : ∀ {Edit}, Carries d Edit id → Carries whole (Lift Edit) id)
    (hflip : ∀ {j j'}, Lift Edit j j' → Lift (fun v v' => Edit v' v) j' j) :
    Ignores whole (Lift Edit) := by
  have hback : Ignores d fun v v' => Edit v' v :=
    fun depth v v' hedit => (h depth v' v hedit).symm
  intro depth j j' hedit
  ext b
  exact ⟨hlift h.carries depth j j' b hedit, hlift hback.carries depth j' j b (hflip hedit)⟩

/-! ## Edits of one item -/

theorem collect_cons_eq_some_iff {f : Json → Option α} {item : Json} {items : List Json}
    {as : List α} : collect f (item :: items) = some as ↔
      ∃ a as', as = a :: as' ∧ f item = some a ∧ collect f items = some as' := by
  rw [collect]
  cases f item <;> cases collect f items <;> simp [eq_comm]

/-- What is collected around an item is what is collected before it, its own, and what is collected
behind it. -/
theorem collect_middle_eq_some_iff {f : Json → Option α} {front behind : List Json} {item : Json}
    {as : List α} : collect f (front ++ item :: behind) = some as ↔
      ∃ before a after, as = before ++ a :: after ∧ before.length = front.length ∧
        collect f front = some before ∧ f item = some a ∧ collect f behind = some after := by
  induction front generalizing as with
  | nil =>
    rw [List.nil_append, collect_cons_eq_some_iff]
    constructor
    · rintro ⟨a, after, rfl, ha, hafter⟩
      exact ⟨[], a, after, rfl, rfl, rfl, ha, hafter⟩
    · rintro ⟨before, a, after, rfl, hlength, -, ha, hafter⟩
      obtain rfl := List.eq_nil_of_length_eq_zero hlength
      exact ⟨a, after, rfl, ha, hafter⟩
  | cons first front ih =>
    rw [List.cons_append, collect_cons_eq_some_iff]
    constructor
    · rintro ⟨b, _, rfl, hb, hrest⟩
      obtain ⟨before, a, after, rfl, hlength, hbefore, ha, hafter⟩ := ih.mp hrest
      exact ⟨b :: before, a, after, rfl, by simp [hlength],
        collect_cons_eq_some_iff.mpr ⟨b, before, rfl, hb, hbefore⟩, ha, hafter⟩
    · rintro ⟨_, a, after, rfl, hlength, hfront, ha, hafter⟩
      obtain ⟨b, before, rfl, hb, hbefore⟩ := collect_cons_eq_some_iff.mp hfront
      have hlength : before.length = front.length := by simpa using hlength
      exact ⟨b, _, rfl, hb, ih.mpr ⟨before, a, after, rfl, hlength, hbefore, ha, hafter⟩⟩

/-- An edit of one item changes the list in the place of the item. -/
theorem Carries.atItem {d : Decoder α} {g : α → α} (h : Carries d Edit g) (place : Nat) :
    Carries (list d) (AtItem place Edit) fun as => as.modify place g := by
  rintro depth _ _ as ⟨hplace, hedit⟩ hfound
  cases depth with
  | zero => contradiction
  | succ depth =>
    obtain ⟨before, a, after, rfl, hlength, hbefore, ha, hafter⟩ :=
      collect_middle_eq_some_iff.mp hfound
    refine collect_middle_eq_some_iff.mpr
      ⟨before, g a, after, ?_, hlength, hbefore, h depth _ _ a hedit ha, hafter⟩
    change (before ++ a :: after).modify place g = before ++ g a :: after
    rw [← hplace, ← hlength, List.modify_eq_take_cons_drop (by simp)]
    simp

theorem Ignores.atItem {d : Decoder α} (h : Ignores d Edit) (place : Nat) :
    Ignores (list d) (AtItem place Edit) := by
  refine h.lift ?_ AtItem.flip
  intro Edit hcarries
  have hid : (fun as : List α => as.modify place id) = id := by
    funext as
    exact List.modify_id place as
  rw [← hid]
  exact hcarries.atItem place

/-- A list is refused with any of its items. -/
theorem Refuses.atItem {d : Decoder α} (h : Refuses d Edit) (place : Nat) :
    Refuses (list d) (AtItem place Edit) := by
  rintro depth _ _ as ⟨-, hedit⟩ hfound
  cases depth with
  | zero => rfl
  | succ depth =>
    obtain ⟨_, a, _, -, -, -, ha, -⟩ := collect_middle_eq_some_iff.mp hfound
    rw [Option.eq_none_iff_forall_ne_some]
    intro as' hfound'
    obtain ⟨_, a', _, -, -, -, ha', -⟩ := collect_middle_eq_some_iff.mp hfound'
    rw [h depth _ _ a hedit ha] at ha'
    contradiction

/-! ## Edits of one record -/

/-- The decoder finds what is related to the fields of a record. -/
def ReadsFields (d : Decoder α) (names : List String) (Holds : Fields → α → Prop) : Prop :=
  ∀ (depth : Nat) (j : Json) (a : α),
    d depth j = some a ↔ ∃ f, find? names depth j = some f ∧ Holds f a

section

variable {β : Type} {record : Decoder β} {Holds : Fields → β → Prop} {G : β → β}

/-- It does not matter how a record is written. -/
theorem ReadsFields.ignores_rewrites (hrecord : record.ReadsFields names Holds)
    (hnames : names.Nodup)
    (hholds : ∀ f f' b, Agree names f f' → Holds f b → Holds f' b) :
    Ignores record (Rewrites names) := by
  intro depth j j' hedit
  have hfound := Fields.find?_of_rewrites hnames hedit depth
  ext b
  rw [hrecord, hrecord]
  generalize find? names depth j = found at hfound
  generalize find? names depth j' = found' at hfound
  cases hfound with
  | none => rfl
  | @some f f' hagree =>
    simp only [Option.some.injEq, exists_eq_left']
    exact ⟨hholds f f' b hagree, hholds f' f b hagree.symm⟩

/-- What a member left out does to the record it is left out of. -/
theorem ReadsFields.carries_drops (hrecord : record.ReadsFields names Holds) (hname : name ∈ names)
    (hholds : ∀ f f' b, Agree (names.filter (· ≠ name)) f f' → f'.members.lookup name = none →
      Holds f b → Holds f' (G b)) :
    Carries record (Drops name) G := by
  intro depth j j' b hedit hb
  obtain ⟨f, hf, hb⟩ := (hrecord depth j b).mp hb
  obtain ⟨f', hf', hagree, hmissing⟩ := find?_of_drops hname hedit hf
  exact (hrecord depth j' (G b)).mpr ⟨f', hf', hholds f f' b hagree hmissing hb⟩

/-- A record is refused without a member it may not miss. -/
theorem ReadsFields.refuses_drops (hrecord : record.ReadsFields names Holds) (hname : name ∈ names)
    (hholds : ∀ f b, f.members.lookup name = none → ¬ Holds f b) :
    Refuses record (Drops name) := by
  intro depth j j' b hedit hb
  obtain ⟨f, hf, -⟩ := (hrecord depth j b).mp hb
  obtain ⟨f', hf', -, hmissing⟩ := find?_of_drops hname hedit hf
  rw [Option.eq_none_iff_forall_ne_some]
  intro b' hb'
  obtain ⟨_, hfound, hb'⟩ := (hrecord depth j' b').mp hb'
  cases hf'.symm.trans hfound
  exact hholds f' b' hmissing hb'

variable {d : Decoder α} {g : α → α}

/-- What an edit of a field with a default does to the record around it. -/
theorem Carries.atField (h : Carries d Edit g) (hrecord : record.ReadsFields names Holds)
    (hnames : names.Nodup) (hname : name ∈ names)
    (hholds : ∀ f f' b, Agree (names.filter (· ≠ name)) f f' →
      (∀ standard a, f.withDefault name d standard = some a →
        f'.withDefault name d standard = some (g a)) →
      Holds f b → Holds f' (G b)) :
    Carries record (AtField names name Edit) G := by
  intro depth j j' b hedit hb
  obtain ⟨f, hf, hb⟩ := (hrecord depth j b).mp hb
  obtain ⟨f', value, value', hvalue, hf', hagree, hbefore, hafter⟩ :=
    find?_of_atField hnames hname hedit hf
  refine (hrecord depth j' (G b)).mpr ⟨f', hf', hholds f f' b hagree ?_ hb⟩
  intro standard a ha
  rw [withDefault_of_some hbefore] at ha
  rw [withDefault_of_some hafter, hagree.depth]
  exact h f.depth value value' a hvalue ha

/-- A record is refused with its field. -/
theorem Refuses.atField (h : Refuses d Edit) (hrecord : record.ReadsFields names Holds)
    (hnames : names.Nodup) (hname : name ∈ names)
    (hholds : ∀ f b, Holds f b → ∃ standard a, f.withDefault name d standard = some a) :
    Refuses record (AtField names name Edit) := by
  intro depth j j' b hedit hb
  obtain ⟨f, hf, hb⟩ := (hrecord depth j b).mp hb
  obtain ⟨f', value, value', hvalue, hf', hagree, hbefore, hafter⟩ :=
    find?_of_atField hnames hname hedit hf
  obtain ⟨_, a, ha⟩ := hholds f b hb
  rw [withDefault_of_some hbefore] at ha
  rw [Option.eq_none_iff_forall_ne_some]
  intro b' hb'
  obtain ⟨_, hfound, hb'⟩ := (hrecord depth j' b').mp hb'
  cases hf'.symm.trans hfound
  obtain ⟨_, a', ha'⟩ := hholds f' b' hb'
  rw [withDefault_of_some hafter, hagree.depth, h f.depth value value' a hvalue ha] at ha'
  contradiction

end

end Decoder

end NodeAccess

import NodeAccess.Proofs.Variant.Json

/-!
# When values are equal

What a value is equal to shows in its form: floating-point numbers are compared as numbers, arrays
item by item, and everything else has to be identical. So equality is symmetric and transitive, but
a value is equal to itself only if no number in it, at any depth, is a NaN. Without floating-point
numbers equal values are identical and have the same text; values of the same text are equal as long
as no leap second in them is shown like the second after it.
-/

set_option autoImplicit false

namespace NodeAccess

/-- Equality of numbers is transitive: all numbers that are equal to one that is zero are zero. -/
theorem Binary.same_trans {f : BinaryFormat} {x y z : Binary f} (h : x.same y = true)
    (h' : y.same z = true) : x.same z = true := by
  simp only [same, Bool.and_eq_true, Bool.or_eq_true, decide_eq_true_eq] at h h' ⊢
  obtain ⟨⟨hx, -⟩, hxy⟩ := h
  obtain ⟨⟨-, hz⟩, hyz⟩ := h'
  refine ⟨⟨hx, hz⟩, ?_⟩
  have hzero : ∀ {u v : Binary f}, u.bits = v.bits → u.isZero = v.isZero := by
    intro u v huv
    rw [isZero, isZero, below, below, huv]
  obtain hxy | ⟨hx, hy⟩ := hxy
  · obtain hyz | ⟨hy, hz⟩ := hyz
    · exact .inl (hxy.trans hyz)
    · exact .inr ⟨(hzero hxy).trans hy, hz⟩
  · obtain hyz | ⟨-, hz⟩ := hyz
    · exact .inr ⟨hx, (hzero hyz).symm.trans hy⟩
    · exact .inr ⟨hx, hz⟩

namespace Variant

/-! ## The forms of values -/

/-- Is the value neither a floating-point number nor an array? -/
def isPlain : Variant → Bool
  | float _ => false
  | double _ => false
  | array _ => false
  | _ => true

/-- What holds of all plain values, of all floating-point numbers, and of an array when it holds of
its items, holds of every value. -/
@[elab_as_elim]
theorem induction_on_form {motive : Variant → Prop}
    (plain : ∀ v, v.isPlain = true → motive v) (float : ∀ x, motive (.float x))
    (double : ∀ x, motive (.double x))
    (array : ∀ items, (∀ item ∈ items, motive item) → motive (.array items)) (v : Variant) :
    motive v := by
  cases v with
  | float x => exact float x
  | double x => exact double x
  | array items =>
    exact array items fun item _ => induction_on_form plain float double array item
  | _ => exact plain _ rfl
termination_by v

/-- A NaN stands somewhere in the value. -/
inductive HoldsNaN : Variant → Prop where
  | float {x : Binary32} : x.isNaN = true → HoldsNaN (.float x)
  | double {x : Binary64} : x.isNaN = true → HoldsNaN (.double x)
  | array {items : List Variant} {item : Variant} :
      item ∈ items → HoldsNaN item → HoldsNaN (.array items)

/-! ## What a value is equal to -/

theorem same_plain_iff {u : Variant} (h : u.isPlain = true) (v : Variant) :
    u.same v = true ↔ u = v := by
  cases u <;> first | contradiction | (cases v <;> simp [same])

theorem same_float_iff (x : Binary32) (v : Variant) :
    (float x).same v = true ↔ ∃ y, v = float y ∧ x.same y = true := by
  cases v <;> simp [same]

theorem same_double_iff (x : Binary64) (v : Variant) :
    (double x).same v = true ↔ ∃ y, v = double y ∧ x.same y = true := by
  cases v <;> simp [same]

theorem sameItems_iff (us vs : List Variant) :
    sameItems us vs = true ↔ List.Forall₂ (fun u v => u.same v = true) us vs := by
  induction us generalizing vs with
  | nil => cases vs <;> simp [sameItems]
  | cons u us ih => cases vs <;> simp [sameItems, ih]

theorem same_array_iff (us : List Variant) (v : Variant) :
    (array us).same v = true ↔
      ∃ vs, v = array vs ∧ List.Forall₂ (fun u v => u.same v = true) us vs := by
  cases v <;> simp [same, sameItems_iff]

/-! ## Equality -/

theorem same_symm {u v : Variant} (h : u.same v = true) : v.same u = true := by
  induction u using induction_on_form generalizing v with
  | plain u hplain =>
    obtain rfl := (same_plain_iff hplain v).mp h
    exact h
  | float x =>
    obtain ⟨y, rfl, hxy⟩ := (same_float_iff x v).mp h
    exact (same_float_iff y _).mpr ⟨x, rfl, by rw [Binary.same_comm, hxy]⟩
  | double x =>
    obtain ⟨y, rfl, hxy⟩ := (same_double_iff x v).mp h
    exact (same_double_iff y _).mpr ⟨x, rfl, by rw [Binary.same_comm, hxy]⟩
  | array us ih =>
    obtain ⟨vs, rfl, hitems⟩ := (same_array_iff us v).mp h
    have hback := (List.forall₂_and_left us vs).mpr ⟨ih, hitems⟩
    exact (same_array_iff vs _).mpr ⟨us, rfl, (hback.imp fun _ _ h => h.1 h.2).flip⟩

theorem same_trans {u v w : Variant} (h : u.same v = true) (h' : v.same w = true) :
    u.same w = true := by
  induction u using induction_on_form generalizing v w with
  | plain u hplain =>
    obtain rfl := (same_plain_iff hplain v).mp h
    exact h'
  | float x =>
    obtain ⟨y, rfl, hxy⟩ := (same_float_iff x v).mp h
    obtain ⟨z, rfl, hyz⟩ := (same_float_iff y w).mp h'
    exact (same_float_iff x _).mpr ⟨z, rfl, Binary.same_trans hxy hyz⟩
  | double x =>
    obtain ⟨y, rfl, hxy⟩ := (same_double_iff x v).mp h
    obtain ⟨z, rfl, hyz⟩ := (same_double_iff y w).mp h'
    exact (same_double_iff x _).mpr ⟨z, rfl, Binary.same_trans hxy hyz⟩
  | array us ih =>
    obtain ⟨vs, rfl, hitems⟩ := (same_array_iff us v).mp h
    obtain ⟨ws, rfl, hitems'⟩ := (same_array_iff vs w).mp h'
    refine (same_array_iff us _).mpr ⟨ws, rfl, ?_⟩
    clear h h'
    -- along the first two lists, the third one following
    induction hitems generalizing ws with
    | nil => exact hitems'
    | cons hfirst _ ihitems =>
      cases hitems' with
      | cons hfirst' hrest' =>
        obtain ⟨ihfirst, ihrest⟩ := List.forall_mem_cons.mp ih
        exact .cons (ihfirst hfirst hfirst') (ihitems ihrest _ hrest')

/-- A value is equal to itself unless a NaN stands in it. -/
theorem same_self_iff (v : Variant) : v.same v = true ↔ ¬ v.HoldsNaN := by
  induction v using induction_on_form with
  | plain v hplain =>
    refine iff_of_true ((same_plain_iff hplain v).mpr rfl) ?_
    intro hnan
    cases hnan <;> contradiction
  | float x =>
    have hnan : (float x).HoldsNaN ↔ x.isNaN = true :=
      ⟨fun | .float h => h, .float⟩
    rw [hnan, same, Binary.same_self]
    simp
  | double x =>
    have hnan : (double x).HoldsNaN ↔ x.isNaN = true :=
      ⟨fun | .double h => h, .double⟩
    rw [hnan, same, Binary.same_self]
    simp
  | array items ih =>
    have hnan : (array items).HoldsNaN ↔ ∃ item ∈ items, item.HoldsNaN :=
      ⟨fun | .array hmem h => ⟨_, hmem, h⟩, fun ⟨_, hmem, h⟩ => .array hmem h⟩
    rw [hnan, same, sameItems_iff, List.forall₂_same]
    simp only [not_exists, not_and]
    exact forall₂_congr ih

theorem type_eq_of_same {u v : Variant} (h : u.same v = true) : u.type = v.type := by
  induction u using induction_on_form generalizing v with
  | plain u hplain => rw [(same_plain_iff hplain v).mp h]
  | float x =>
    obtain ⟨y, rfl, -⟩ := (same_float_iff x v).mp h
    rfl
  | double x =>
    obtain ⟨y, rfl, -⟩ := (same_double_iff x v).mp h
    rfl
  | array us ih =>
    obtain ⟨vs, rfl, hitems⟩ := (same_array_iff us v).mp h
    -- the first items decide, if there are any
    cases hitems with
    | nil => rfl
    | cons hfirst _ =>
      simp only [type, firstType]
      exact ih _ List.mem_cons_self hfirst

theorem haveNoFloat_iff (items : List Variant) :
    HaveNoFloat items ↔ ∀ item ∈ items, item.HasNoFloat := by
  induction items with
  | nil => simp [HaveNoFloat]
  | cons item items ih => rw [HaveNoFloat, ih, List.forall_mem_cons]

/-- Without floating-point numbers only identical values are equal. -/
theorem same_iff_eq {u v : Variant} (hu : u.HasNoFloat) : u.same v = true ↔ u = v := by
  induction u using induction_on_form generalizing v with
  | plain u hplain => exact same_plain_iff hplain v
  | float x => exact hu.elim
  | double x => exact hu.elim
  | array us ih =>
    rw [HasNoFloat, haveNoFloat_iff] at hu
    have hitem : ∀ item ∈ us, ∀ v, item.same v = true ↔ item = v :=
      fun item hmem v => ih item hmem (hu item hmem)
    rw [same_array_iff]
    constructor
    · rintro ⟨vs, rfl, hitems⟩
      have hboth := (List.forall₂_and_left us vs).mpr ⟨hitem, hitems⟩
      have hequal : List.Forall₂ (· = ·) us vs := hboth.imp fun _ v h => (h.1 v).mp h.2
      rw [List.forall₂_eq_eq_eq] at hequal
      rw [hequal]
    · rintro rfl
      exact ⟨us, rfl, List.forall₂_same.mpr fun item hmem => (hitem item hmem item).mpr rfl⟩

/-- Equal values without floating-point numbers have the same text. -/
theorem toText_eq_of_same {u v : Variant} (hu : u.HasNoFloat) (h : u.same v = true) :
    u.toJson.toText = v.toJson.toText := by
  rw [(same_iff_eq hu).mp h]

/-- Regular values of the same text are equal, if they are without floating-point numbers. -/
theorem same_of_toText_eq {u v : Variant} (hu : u.HasNoFloat) (hv : v.HasNoFloat)
    (hutimes : u.IsRegular) (hvtimes : v.IsRegular)
    (h : u.toJson.toText = v.toJson.toText) : u.same v = true := by
  rw [same_iff_eq hu]
  exact (recovers_toJson u hu hutimes).eq_of_toText_eq (recovers_toJson v hv hvtimes) h

end Variant

end NodeAccess

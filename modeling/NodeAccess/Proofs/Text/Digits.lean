import NodeAccess.Number.Power
import NodeAccess.Text.Blank
import NodeAccess.Text.Decimal
import NodeAccess.Text.Hex

/-!
# Digits read back

Rendered numbers consist of digits alone. So they begin with no sign and hold no separator, and the
readers of bounded numbers give back what was written as long as it is within the bound. Lists of
hexadecimal digits read back too.
-/

set_option autoImplicit false

namespace NodeAccess

namespace Decimal

theorem toNat_of_isDigit {c : Char} (h : c.isDigit = true) : 48 ≤ c.toNat ∧ c.toNat ≤ 57 := by
  simpa [Char.isDigit, UInt32.le_iff_toNat_le] using h

/-- No character but digits occurs in a rendered number. -/
theorem not_mem_render {c : Char} (hc : c.isDigit = false) (n : Nat) : c ∉ render n := by
  intro hmem
  have hdigit : c.isDigit = true := List.all_eq_true.mp (all_isDigit_render n) c hmem
  rw [hc] at hdigit
  contradiction

/-- A rendered number is read as it is where a plus sign may stand in front. -/
theorem readUnsigned?_render (n : Nat) : readUnsigned? (render n) = some n := by
  have hsign : ∀ cs, render n ≠ '+' :: cs := by
    intro cs hcs
    have hmem : '+' ∈ render n := by simp [hcs]
    exact not_mem_render (by decide) n hmem
  rw [readUnsigned?.eq_2 _ hsign, read?_render]

/-- A rendered integer reads back. -/
theorem readInt?_renderInt (i : Int) : readInt? (renderInt i) = some i := by
  cases i with
  | ofNat n =>
    have hminus : ∀ cs, render n ≠ '-' :: cs := by
      intro cs hcs
      have hmem : '-' ∈ render n := by simp [hcs]
      exact not_mem_render (by decide) n hmem
    rw [renderInt, readInt?.eq_2 _ hminus, readUnsigned?_render]
    rfl
  | negSucc n =>
    rw [renderInt, readInt?, read?_render]
    rfl

theorem exists_isDigit_render (n : Nat) : ∃ c ∈ render n, c.isDigit = true := by
  obtain ⟨c, hc⟩ := List.exists_mem_of_ne_nil _ (render_ne_nil n)
  exact ⟨c, hc, List.all_eq_true.mp (all_isDigit_render n) c hc⟩

theorem exists_isDigit_renderInt (i : Int) : ∃ c ∈ renderInt i, c.isDigit = true := by
  cases i with
  | ofNat n => exact exists_isDigit_render n
  | negSucc n =>
    obtain ⟨c, hc, hdigit⟩ := exists_isDigit_render (n + 1)
    exact ⟨c, List.mem_cons_of_mem _ hc, hdigit⟩

/-- A rendered number within the limit reads back. -/
theorem readUpTo?_render {limit n : Nat} (h : n ≤ limit) :
    readUpTo? limit (render n) = some n := by
  simp only [readUpTo?, readUnsigned?_render, if_pos h]

/-- A text does not begin with a digit. -/
def StartsApart (rest : List Char) : Prop :=
  ∀ c ∈ rest.head?, c.isDigit = false

/-- A run of digits ends where the text behind it starts apart. -/
theorem spanDigits_append {ds rest : List Char} (hds : ∀ c ∈ ds, c.isDigit = true)
    (hrest : StartsApart rest) : spanDigits (ds ++ rest) = (ds, rest) := by
  have hstop : rest.takeWhile Char.isDigit = [] ∧ rest.dropWhile Char.isDigit = rest := by
    cases rest with
    | nil => exact ⟨rfl, rfl⟩
    | cons c rest =>
      have hc : c.isDigit = false := hrest c rfl
      simp [hc]
  unfold spanDigits
  rw [List.takeWhile_append_of_pos hds, List.dropWhile_append_of_pos hds, hstop.1, hstop.2,
    List.append_nil]

theorem startsApart_cons {c : Char} (hc : c.isDigit = false) (rest : List Char) :
    StartsApart (c :: rest) := by
  intro d hd
  cases hd
  exact hc

theorem append_ne_cons_of_isDigit {ds : List Char} (hds : ∀ d ∈ ds, d.isDigit = true)
    (hne : ds ≠ []) (rest : List Char) {c : Char} (hc : c.isDigit = false) (cs : List Char) :
    ds ++ rest ≠ c :: cs := by
  intro h
  cases ds with
  | nil => exact absurd rfl hne
  | cons d ds =>
    have hdigit : d.isDigit = true := hds d List.mem_cons_self
    cases h
    rw [hdigit] at hc
    cases hc

/-! ## Digits filled up to a width -/

/-- A number of few enough digits is filled up to the whole width. -/
theorem length_renderPadded {width n : Nat} (hwidth : 0 < width) (hn : n < tenPow width) :
    (renderPadded width n).length = width := by
  have hshort : (render n).length ≤ width :=
    (Nat.length_toDigits_le_iff (by decide) hwidth).mpr hn
  rw [renderPadded, List.length_append, List.length_replicate, Nat.sub_add_cancel hshort]

theorem isDigit_of_mem_renderPadded (width n : Nat) {c : Char} (hc : c ∈ renderPadded width n) :
    c.isDigit = true := by
  rcases List.mem_append.mp hc with hzero | hdigit
  · rw [List.eq_of_mem_replicate hzero]
    rfl
  · exact List.all_eq_true.mp (all_isDigit_render n) c hdigit

theorem renderPadded_ne_nil (width n : Nat) : renderPadded width n ≠ [] := by
  intro h
  exact render_ne_nil n (List.append_eq_nil_iff.mp h).2

/-- Zeros in front do not change the number. -/
theorem ofDigitChars_renderPadded (width n : Nat) :
    Nat.ofDigitChars 10 (renderPadded width n) 0 = n := by
  rw [renderPadded, Nat.ofDigitChars_append, Nat.ofDigitChars_replicate_zero, Nat.mul_zero]
  exact Nat.ofDigitChars_ten_toDigits

end Decimal

namespace Hex

/-- A list of digits reads back as their values. -/
theorem digits?_map_digit (ds : List (Fin 16)) : digits? (ds.map digit) = some ds := by
  induction ds with
  | nil => rfl
  | cons d ds ih => simp only [List.map_cons, digits?, value?_digit, ih]

end Hex

theorem Text.isBlank_eq_false_of_isDigit {c : Char} (h : c.isDigit = true) : isBlank c = false := by
  have hrange := Decimal.toNat_of_isDigit h
  simp only [isBlank, Bool.or_eq_false_iff, Bool.and_eq_false_iff, decide_eq_false_iff_not,
    beq_eq_false_iff_ne]
  omega

end NodeAccess

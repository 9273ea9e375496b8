import Mathlib.Data.Option.Basic
import NodeAccess.Proofs.Text.Digits
import NodeAccess.Toml.Document

/-!
# Dates in documents

The normal text of a date or a time is made of digits and of the marks between them. None of these
is an equals sign, which every node identifier has. Whatever a document says, its dates are of this
kind.
-/

set_option autoImplicit false

namespace NodeAccess

theorem Decimal.notMem_renderPadded {c : Char} (hc : c.isDigit = false) (width n : Nat) :
    c ∉ renderPadded width n := by
  intro hmem
  rw [isDigit_of_mem_renderPadded width n hmem] at hc
  contradiction

theorem Date.equals_notMem_render (d : Date) : '=' ∉ d.render := by
  have hpadded : ∀ width n, '=' ∉ Decimal.renderPadded width n :=
    Decimal.notMem_renderPadded (by decide)
  have hyear : '=' ∉ renderYear d.year := by
    unfold renderYear
    split
    · exact hpadded 4 _
    · split <;> simp [hpadded]
  simp [render, hyear, hpadded]

namespace Toml

theorem equals_notMem_renderTime (t : ClockTime) : '=' ∉ renderTime t := by
  have hpadded : ∀ width n, '=' ∉ Decimal.renderPadded width n :=
    Decimal.notMem_renderPadded (by decide)
  have hfraction : '=' ∉ (Decimal.renderPadded 9 t.nanosecond).reverse.dropWhile (· = '0') := by
    intro hmem
    have hmem' := (List.dropWhile_suffix _).subset hmem
    exact hpadded 9 _ (List.mem_reverse.mp hmem')
  unfold renderTime
  split <;> simp [hpadded, hfraction]

theorem equals_notMem_of_readOffset? {cs offset : List Char} (h : readOffset? cs = some offset) :
    '=' ∉ offset := by
  have hpadded : ∀ width n, '=' ∉ Decimal.renderPadded width n :=
    Decimal.notMem_renderPadded (by decide)
  unfold readOffset? at h
  split at h
  · cases h
    decide
  · cases h
    decide
  · rename_i sign cs _ _
    simp only [Option.bind_eq_bind, Option.bind_eq_some_iff, Option.guard_eq_some'] at h
    obtain ⟨_, hsign, _, _, _, _, _, _, _, _, h⟩ := h
    cases h
    have hsign' : '=' ≠ sign := by
      rintro rfl
      simp at hsign
    simp [hpadded, hsign']
  · contradiction

theorem equals_notMem_of_readAfterDate? {cs after : List Char}
    (h : readAfterDate? cs = some after) : '=' ∉ after := by
  unfold readAfterDate? at h
  split at h
  · cases h
    exact List.not_mem_nil
  · simp only [Option.bind_eq_bind, Option.bind_eq_some_iff] at h
    obtain ⟨_, _, ⟨time, rest⟩, _, h⟩ := h
    split at h
    · cases h
      simp [equals_notMem_renderTime]
    · obtain ⟨offset, hoffset, h⟩ := Option.bind_eq_some_iff.mp h
      cases h
      simp [equals_notMem_renderTime, equals_notMem_of_readOffset? hoffset]

theorem equals_notMem_of_readDateTime? {cs : List Char} {text : String}
    (h : readDateTime? cs = some text) : '=' ∉ text.toList := by
  unfold readDateTime? at h
  split at h
  · obtain ⟨after, hafter, rfl⟩ := Option.map_eq_some_iff.mp h
    simp [Date.equals_notMem_render, equals_notMem_of_readAfterDate? hafter]
  · split at h
    · cases h
      simp [equals_notMem_renderTime]
    · contradiction

namespace Value

mutual

/-- No date in a value holds an equals sign. -/
def PlainDates : Value → Prop
  | dateTime text => '=' ∉ text.toList
  | array items => ItemsPlainDates items
  | table assignments => AssignmentsPlainDates assignments
  | _ => True

/-- No date in several values holds an equals sign. -/
def ItemsPlainDates : List Value → Prop
  | [] => True
  | v :: vs => PlainDates v ∧ ItemsPlainDates vs

/-- No date in the values of several assignments holds an equals sign. -/
def AssignmentsPlainDates : List (KeyPath × Value) → Prop
  | [] => True
  | (_, v) :: rest => PlainDates v ∧ AssignmentsPlainDates rest

end

end Value

theorem plainDates_of_readWord? {cs : List Char} {v : Value} (h : readWord? cs = some v) :
    v.PlainDates := by
  unfold readWord? at h
  split at h
  · cases h
    trivial
  · split at h
    · cases h
      trivial
    · split at h
      · cases h
        trivial
      · split at h
        · cases h
          trivial
        · obtain ⟨text, htext, rfl⟩ := Option.map_eq_some_iff.mp h
          exact equals_notMem_of_readDateTime? htext

/-- What the four readers that call each other read with some fuel has plain dates only. -/
structure ReadersPlain (fuel : Nat) : Prop where
  value : ∀ {cs v rest}, readValueFrom fuel cs = some (v, rest) → v.PlainDates
  items : ∀ {cs vs rest}, readItems fuel cs = some (vs, rest) → Value.ItemsPlainDates vs
  entries : ∀ {cs es rest}, readEntries fuel cs = some (es, rest) → Value.AssignmentsPlainDates es
  entry : ∀ {cs e rest}, readEntry fuel cs = some (e, rest) → e.2.PlainDates

theorem readersPlain (fuel : Nat) : ReadersPlain fuel := by
  induction fuel with
  | zero =>
    constructor
    all_goals
      intro _ _ _ h
      simp [readValueFrom, readItems, readEntries, readEntry] at h
  | succ fuel ih =>
    constructor
    · intro cs v rest h
      unfold readValueFrom at h
      split at h
      · obtain ⟨⟨vs, _⟩, hvs, h⟩ := Option.map_eq_some_iff.mp h
        cases h
        exact ih.items hvs
      · obtain ⟨⟨es, _⟩, hes, h⟩ := Option.map_eq_some_iff.mp h
        cases h
        exact ih.entries hes
      · obtain ⟨⟨text, _⟩, _, h⟩ := Option.map_eq_some_iff.mp h
        cases h
        trivial
      · obtain ⟨⟨text, _⟩, _, h⟩ := Option.map_eq_some_iff.mp h
        cases h
        trivial
      · obtain ⟨v, hv, h⟩ := Option.map_eq_some_iff.mp h
        cases h
        exact plainDates_of_readWord? hv
    · intro cs vs rest h
      unfold readItems at h
      split at h
      · cases h
        trivial
      · split at h
        · contradiction
        · rename_i v behind hv
          have hplain : v.PlainDates := ih.value hv
          split at h
          · obtain ⟨⟨more, _⟩, hmore, h⟩ := Option.map_eq_some_iff.mp h
            cases h
            exact ⟨hplain, ih.items hmore⟩
          · cases h
            exact ⟨hplain, trivial⟩
          · contradiction
    · intro cs es rest h
      unfold readEntries at h
      split at h
      · cases h
        trivial
      · split at h
        · contradiction
        · rename_i e behind he
          have hplain : e.2.PlainDates := ih.entry he
          split at h
          · obtain ⟨⟨more, _⟩, hmore, h⟩ := Option.map_eq_some_iff.mp h
            cases h
            exact ⟨hplain, ih.entries hmore⟩
          · cases h
            exact ⟨hplain, trivial⟩
          · contradiction
    · intro cs e rest h
      unfold readEntry at h
      split at h
      · obtain ⟨⟨v, _⟩, hv, h⟩ := Option.map_eq_some_iff.mp h
        cases h
        exact ih.value hv
      · contradiction

namespace Statement

/-- The dotted key of a statement. -/
def path : Statement → KeyPath
  | table path => path
  | element path => path
  | assignment path _ => path

/-- No date that a statement assigns holds an equals sign. -/
def PlainDates : Statement → Prop
  | assignment _ v => v.PlainDates
  | _ => True

end Statement

theorem plainDates_of_readStatement? {cs rest : List Char} {s : Statement}
    (h : readStatement? cs = some (s, rest)) : s.PlainDates := by
  unfold readStatement? at h
  split at h
  · unfold readElement? at h
    split at h
    · cases h
      trivial
    · contradiction
  · unfold readTable? at h
    split at h
    · cases h
      trivial
    · contradiction
  · obtain ⟨⟨⟨path, v⟩, _⟩, hv, h⟩ := Option.map_eq_some_iff.mp h
    cases h
    unfold readAssignment? at hv
    split at hv
    · rename_i path v rest hentry
      split at hv
      · cases hv
        exact (readersPlain _).entry hentry
      · contradiction
    · contradiction

theorem plainDates_of_readLine? {cs rest : List Char} {s : Statement}
    (h : readLine? cs = some (some s, rest)) : s.PlainDates := by
  unfold readLine? at h
  split at h
  · split at h
    · rename_i statement behind hs
      obtain ⟨_, _, h⟩ := Option.map_eq_some_iff.mp h
      cases h
      exact plainDates_of_readStatement? hs
    · contradiction
  · obtain ⟨_, _, h⟩ := Option.map_eq_some_iff.mp h
    cases h

theorem plainDates_of_readLines {fuel : Nat} {cs : List Char} {ss : List Statement}
    (h : readLines fuel cs = some ss) : ∀ s ∈ ss, s.PlainDates := by
  induction fuel generalizing cs ss with
  | zero =>
    cases cs with
    | nil =>
      cases h
      exact fun _ hs => absurd hs List.not_mem_nil
    | cons c cs => simp [readLines] at h
  | succ fuel ih =>
    cases cs with
    | nil =>
      cases h
      exact fun _ hs => absurd hs List.not_mem_nil
    | cons c cs =>
      rw [readLines] at h
      · split at h
        · rename_i statement rest hline
          obtain ⟨more, hmore, rfl⟩ := Option.map_eq_some_iff.mp h
          intro s hs
          obtain hs | hs := List.mem_append.mp hs
          · obtain rfl := Option.mem_toList.mp hs
            exact plainDates_of_readLine? hline
          · exact ih hmore s hs
        · contradiction
      · simp

/-- No date in a document holds an equals sign. -/
theorem plainDates_of_statements? {text : String} {ss : List Statement}
    (h : statements? text = some ss) : ∀ s ∈ ss, s.PlainDates :=
  plainDates_of_readLines h

end Toml

end NodeAccess

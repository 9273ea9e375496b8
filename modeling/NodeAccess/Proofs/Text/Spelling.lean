import Mathlib.Data.List.Forall2
import Mathlib.Data.List.Induction
import NodeAccess.Proofs.Text.Base64
import NodeAccess.Proofs.Text.Digits

/-!
# What numbers, digits and octets look like

Small grammars, each with the value that a text stands for: decimal numbers with leading zeros and a
sign, hexadecimal digits in either case, and octets in base64. Digits and symbols are given by their
place in an alphabet. The readers accept what the grammars describe and nothing else, and find the
values that these give.
-/

set_option autoImplicit false

namespace NodeAccess

theorem eq_ofNat_of_toNat_eq {c : Char} {n : Nat} (h : c.toNat = n) : c = Char.ofNat n := by
  rw [← h, Char.ofNat_toNat]

/-- What holds of every entry of a table at its place holds of a character that is found in it. -/
theorem of_getElem?_eq_some {P : Nat → Char → Prop} {table : List Char}
    (hall : ∀ i : Fin table.length, P i.val (table.getD i.val ' ')) {i : Nat} {c : Char}
    (h : table[i]? = some c) : P i c := by
  have hi : i < table.length := (List.getElem?_eq_some_iff.mp h).1
  have hc : table.getD i ' ' = c := by
    rw [List.getD_eq_getElem?_getD, h, Option.getD_some]
  rw [← hc]
  exact hall ⟨i, hi⟩

namespace Decimal

/-- The character is the digit of a value below ten. -/
def IsDigit (c : Char) (d : Nat) : Prop :=
  "0123456789".toList[d]? = some c

/-- A run of digits and its value: each further digit makes what stands before it ten times as
much. -/
inductive Digits : List Char → Nat → Prop where
  | one {c : Char} {d : Nat} : IsDigit c d → Digits [c] d
  | snoc {cs : List Char} {n : Nat} {c : Char} {d : Nat} :
      Digits cs n → IsDigit c d → Digits (cs ++ [c]) (10 * n + d)

/-- A number within a limit: a run of digits, alone or behind a plus sign. -/
inductive Spells (limit : Nat) : List Char → Nat → Prop where
  | plain {cs : List Char} {n : Nat} : Digits cs n → n ≤ limit → Spells limit cs n
  | plus {cs : List Char} {n : Nat} : Digits cs n → n ≤ limit → Spells limit ('+' :: cs) n

/-- An integer: a run of digits, alone or behind a sign. -/
inductive SpellsInt : List Char → Int → Prop where
  | plain {cs : List Char} {n : Nat} : Digits cs n → SpellsInt cs n
  | plus {cs : List Char} {n : Nat} : Digits cs n → SpellsInt ('+' :: cs) n
  | minus {cs : List Char} {n : Nat} : Digits cs n → SpellsInt ('-' :: cs) (-n)

theorem isDigit_iff (c : Char) (d : Nat) :
    IsDigit c d ↔ c.isDigit = true ∧ c.toNat - '0'.toNat = d := by
  constructor
  · intro h
    exact of_getElem?_eq_some (P := fun d c => c.isDigit = true ∧ c.toNat - '0'.toNat = d)
      (by decide) h
  · rintro ⟨hdigit, rfl⟩
    have hall : ∀ d : Fin 10, IsDigit (Char.ofNat (d.val + 48)) d.val := by
      unfold IsDigit
      decide
    have hrange := toNat_of_isDigit hdigit
    have hc : c = Char.ofNat (c.toNat - 48 + 48) := eq_ofNat_of_toNat_eq (by omega)
    have hplace := hall ⟨c.toNat - 48, by omega⟩
    rw [← hc] at hplace
    exact hplace

theorem Digits.ne_nil {cs : List Char} {n : Nat} (h : Digits cs n) : cs ≠ [] := by
  cases h <;> simp

theorem Digits.isDigit_of_mem {cs : List Char} {n : Nat} (h : Digits cs n) {c : Char}
    (hc : c ∈ cs) : c.isDigit = true := by
  induction h with
  | one hd =>
    rw [List.mem_singleton.mp hc]
    exact ((isDigit_iff _ _).mp hd).1
  | snoc _ hd ih =>
    rcases List.mem_append.mp hc with hfront | hlast
    · exact ih hfront
    · rw [List.mem_singleton.mp hlast]
      exact ((isDigit_iff _ _).mp hd).1

theorem Digits.ofDigitChars_eq {cs : List Char} {n : Nat} (h : Digits cs n) :
    Nat.ofDigitChars 10 cs 0 = n := by
  induction h with
  | one hd => simpa [Nat.ofDigitChars_cons, Nat.ofDigitChars_nil] using ((isDigit_iff _ _).mp hd).2
  | snoc _ hd ih =>
    rw [Nat.ofDigitChars_append, ih, Nat.ofDigitChars_cons, Nat.ofDigitChars_nil,
      ((isDigit_iff _ _).mp hd).2]

theorem digits_of_all_isDigit {cs : List Char} (hne : cs ≠ []) (h : ∀ c ∈ cs, c.isDigit = true) :
    ∃ n, Digits cs n := by
  -- from the last digit backwards, as runs are built
  induction cs using List.reverseRecOn with
  | nil => contradiction
  | append_singleton front c ih =>
    have hc : IsDigit c (c.toNat - '0'.toNat) :=
      (isDigit_iff _ _).mpr ⟨h c (by simp), rfl⟩
    by_cases hfront : front = []
    · subst hfront
      exact ⟨_, .one hc⟩
    · obtain ⟨n, hn⟩ := ih hfront fun d hd => h d (by simp [hd])
      exact ⟨_, .snoc hn hc⟩

theorem read?_eq_some_iff (cs : List Char) (n : Nat) : read? cs = some n ↔ Digits cs n := by
  constructor
  · intro h
    unfold read? at h
    split at h
    · cases h
    · rename_i hne
      split at h
      · rename_i hall
        obtain ⟨m, hm⟩ := digits_of_all_isDigit (by simpa using hne) (List.all_eq_true.mp hall)
        rw [hm.ofDigitChars_eq] at h
        cases h
        exact hm
      · cases h
  · intro h
    have hne : cs.isEmpty = false := by simpa using h.ne_nil
    have hall : cs.all Char.isDigit = true :=
      List.all_eq_true.mpr fun c hc => h.isDigit_of_mem hc
    simp [read?, hne, hall, h.ofDigitChars_eq]

theorem Digits.ne_cons {cs : List Char} {n : Nat} (h : Digits cs n) {c : Char}
    (hc : c.isDigit = false) (rest : List Char) : cs ≠ c :: rest := by
  rintro rfl
  rw [h.isDigit_of_mem List.mem_cons_self] at hc
  contradiction

theorem readUnsigned?_eq_some_iff (cs : List Char) (n : Nat) :
    readUnsigned? cs = some n ↔ Digits cs n ∨ ∃ ds, cs = '+' :: ds ∧ Digits ds n := by
  constructor
  · intro h
    unfold readUnsigned? at h
    split at h
    · exact .inr ⟨_, rfl, (read?_eq_some_iff _ _).mp h⟩
    · exact .inl ((read?_eq_some_iff _ _).mp h)
  · rintro (h | ⟨ds, rfl, h⟩)
    · rw [readUnsigned?.eq_2 cs (h.ne_cons (by decide))]
      exact (read?_eq_some_iff _ _).mpr h
    · exact (read?_eq_some_iff _ _).mpr h

/-- Numbers within a limit are read by their grammar. -/
theorem readUpTo?_eq_some_iff (limit : Nat) (cs : List Char) (n : Nat) :
    readUpTo? limit cs = some n ↔ Spells limit cs n := by
  have hlimit : readUpTo? limit cs = some n ↔ readUnsigned? cs = some n ∧ n ≤ limit := by
    unfold readUpTo?
    cases readUnsigned? cs with
    | none => simp
    | some m => grind
  rw [hlimit, readUnsigned?_eq_some_iff]
  constructor
  · rintro ⟨h | ⟨ds, rfl, h⟩, hn⟩
    · exact .plain h hn
    · exact .plus h hn
  · intro h
    cases h with
    | plain hdigits hn => exact ⟨.inl hdigits, hn⟩
    | plus hdigits hn => exact ⟨.inr ⟨_, rfl, hdigits⟩, hn⟩

/-- Integers are read by their grammar. -/
theorem readInt?_eq_some_iff (cs : List Char) (i : Int) :
    readInt? cs = some i ↔ SpellsInt cs i := by
  constructor
  · intro h
    unfold readInt? at h
    split at h
    · obtain ⟨_, hread, rfl⟩ := Option.map_eq_some_iff.mp h
      obtain ⟨n, hn, hcast⟩ := Option.bind_eq_some_iff.mp hread
      obtain rfl := Option.some.inj hcast
      exact .minus ((read?_eq_some_iff _ _).mp hn)
    · obtain ⟨_, hread, rfl⟩ := Option.map_eq_some_iff.mp h
      obtain ⟨n, hn, hcast⟩ := Option.bind_eq_some_iff.mp hread
      obtain rfl := Option.some.inj hcast
      obtain hdigits | ⟨ds, rfl, hdigits⟩ := (readUnsigned?_eq_some_iff _ _).mp hn
      · exact .plain hdigits
      · exact .plus hdigits
  · intro h
    cases h with
    | plain hdigits =>
      rw [readInt?.eq_2 cs (hdigits.ne_cons (by decide)),
        (readUnsigned?_eq_some_iff _ _).mpr (.inl hdigits)]
      rfl
    | @plus ds n hdigits =>
      have hminus : ∀ rest, '+' :: ds ≠ '-' :: rest := by simp
      rw [readInt?.eq_2 _ hminus, (readUnsigned?_eq_some_iff _ _).mpr (.inr ⟨_, rfl, hdigits⟩)]
      rfl
    | minus hdigits =>
      rw [readInt?, (read?_eq_some_iff _ _).mpr hdigits]
      rfl

theorem SpellsInt.unique {cs : List Char} {i j : Int} (h : SpellsInt cs i) (h' : SpellsInt cs j) :
    i = j := by
  have hread := (readInt?_eq_some_iff cs i).mpr h
  rw [(readInt?_eq_some_iff cs j).mpr h'] at hread
  exact (Option.some.inj hread).symm

end Decimal

namespace Hex

/-- The character is the hexadecimal digit of a value, in either case. -/
def IsDigit (c : Char) (v : Fin 16) : Prop :=
  "0123456789abcdef".toList[v.val]? = some c ∨ "0123456789ABCDEF".toList[v.val]? = some c

/-- What holds of all digits in lower and in upper case holds of a digit. -/
theorem IsDigit.of_forall {P : Char → Fin 16 → Prop}
    (hlower : ∀ v : Fin 16, P ("0123456789abcdef".toList.getD v.val ' ') v)
    (hupper : ∀ v : Fin 16, P ("0123456789ABCDEF".toList.getD v.val ' ') v) {c : Char} {v : Fin 16}
    (h : IsDigit c v) : P c v := by
  rcases h with h | h
  · exact of_getElem?_eq_some (P := fun i c => ∀ hi : i < 16, P c ⟨i, hi⟩)
      (fun i hi => hlower ⟨i.val, hi⟩) h v.isLt
  · exact of_getElem?_eq_some (P := fun i c => ∀ hi : i < 16, P c ⟨i, hi⟩)
      (fun i hi => hupper ⟨i.val, hi⟩) h v.isLt

/-- The code of a hexadecimal digit tells its value, by one of three ranges. -/
theorem toNat_of_value? {c : Char} {v : Fin 16} (h : value? c = some v) :
    (c.toNat = v.val + 48 ∧ v.val < 10) ∨ (c.toNat = v.val + 87 ∧ 10 ≤ v.val) ∨
      (c.toNat = v.val + 55 ∧ 10 ≤ v.val) := by
  simp only [value?] at h
  split at h
  · cases h
    left
    simp only
    omega
  · split at h
    · cases h
      right; left
      simp only
      omega
    · split at h
      · cases h
        right; right
        simp only
        omega
      · cases h

theorem value?_eq_some_iff (c : Char) (v : Fin 16) : value? c = some v ↔ IsDigit c v := by
  constructor
  · intro h
    have hdigit : ∀ v : Fin 16, v.val < 10 → IsDigit (Char.ofNat (v.val + 48)) v := by
      unfold IsDigit
      decide
    have hletter : ∀ v : Fin 16, 10 ≤ v.val →
        IsDigit (Char.ofNat (v.val + 87)) v ∧ IsDigit (Char.ofNat (v.val + 55)) v := by
      unfold IsDigit
      decide
    rcases toNat_of_value? h with ⟨hc, hv⟩ | ⟨hc, hv⟩ | ⟨hc, hv⟩
    · rw [eq_ofNat_of_toNat_eq hc]
      exact hdigit v hv
    · rw [eq_ofNat_of_toNat_eq hc]
      exact (hletter v hv).1
    · rw [eq_ofNat_of_toNat_eq hc]
      exact (hletter v hv).2
  · intro h
    exact h.of_forall (P := fun c v => value? c = some v) (by decide) (by decide)

theorem digits?_eq_some_iff (cs : List Char) (vs : List (Fin 16)) :
    digits? cs = some vs ↔ List.Forall₂ IsDigit cs vs := by
  induction cs generalizing vs with
  | nil => simp [digits?, eq_comm]
  | cons c cs ih =>
    unfold digits?
    constructor
    · intro h
      split at h
      · rename_i v rest hv hrest
        cases h
        exact .cons ((value?_eq_some_iff c v).mp hv) ((ih rest).mp hrest)
      · cases h
    · intro h
      cases h with
      | cons hv hrest => rw [(value?_eq_some_iff c _).mpr hv, (ih _).mpr hrest]

end Hex

namespace Base64

/-- The symbols, in the order of their values. -/
def alphabet : String :=
  "ABCDEFGHIJKLMNOPQRSTUVWXYZabcdefghijklmnopqrstuvwxyz0123456789+/"

/-- The character is the symbol of a value below sixty-four. -/
def IsSymbol (c : Char) (v : Nat) : Prop :=
  alphabet.toList[v]? = some c

/-- Octets in groups of four symbols. A group holds the same number in base sixty-four as its octets
do in base two hundred and fifty-six; in a last group that padding fills up, the bits that are left
over are zero. -/
inductive Spells : List Char → List UInt8 → Prop where
  | nil : Spells [] []
  | one {p q : Char} {v w : Nat} {a : UInt8} :
      IsSymbol p v → IsSymbol q w → 64 * v + w = 16 * a.toNat → Spells [p, q, '=', '='] [a]
  | two {p q r : Char} {v w x : Nat} {a b : UInt8} :
      IsSymbol p v → IsSymbol q w → IsSymbol r x →
      64 * (64 * v + w) + x = 4 * (256 * a.toNat + b.toNat) → Spells [p, q, r, '='] [a, b]
  | more {p q r s : Char} {v w x y : Nat} {a b c : UInt8} {rest : List Char}
      {octets : List UInt8} :
      IsSymbol p v → IsSymbol q w → IsSymbol r x → IsSymbol s y →
      64 * (64 * (64 * v + w) + x) + y = 256 * (256 * a.toNat + b.toNat) + c.toNat →
      Spells rest octets → Spells (p :: q :: r :: s :: rest) (a :: b :: c :: octets)

theorem IsSymbol.lt {c : Char} {v : Nat} (h : IsSymbol c v) : v < 64 :=
  (List.getElem?_eq_some_iff.mp h).1

theorem eq_symbol_of_value? {c : Char} {v : Nat} (h : value? c = some v) :
    c = symbol v ∧ v < 64 := by
  simp only [value?] at h
  split at h
  · cases h
    rw [symbol, if_pos (by omega)]
    exact ⟨eq_ofNat_of_toNat_eq (by omega), by omega⟩
  · split at h
    · cases h
      rw [symbol, if_neg (by omega), if_pos (by omega)]
      exact ⟨eq_ofNat_of_toNat_eq (by omega), by omega⟩
    · split at h
      · cases h
        rw [symbol, if_neg (by omega), if_neg (by omega), if_pos (by omega)]
        exact ⟨eq_ofNat_of_toNat_eq (by omega), by omega⟩
      · split at h
        · cases h
          exact ⟨‹c = '+'›, by decide⟩
        · split at h
          · cases h
            exact ⟨‹c = '/'›, by decide⟩
          · cases h

set_option maxRecDepth 2000 in
theorem value?_eq_some_iff (c : Char) (v : Nat) : value? c = some v ↔ IsSymbol c v := by
  constructor
  · intro h
    have hall : ∀ v : Fin 64, IsSymbol (symbol v.val) v.val := by
      unfold IsSymbol
      decide
    obtain ⟨rfl, hv⟩ := eq_symbol_of_value? h
    exact hall ⟨v, hv⟩
  · intro h
    exact of_getElem?_eq_some (P := fun v c => value? c = some v) (by decide) h

theorem IsSymbol.ne_padding {c : Char} {v : Nat} (h : IsSymbol c v) : c ≠ '=' := by
  rintro rfl
  have hnone : value? '=' = none := by decide
  rw [(value?_eq_some_iff '=' v).mpr h] at hnone
  cases hnone

theorem toNat_ofNat_of_lt {n : Nat} (h : n < 256) : (UInt8.ofNat n).toNat = n := by
  simp [Nat.mod_eq_of_lt h]

theorem spells_of_decode? {cs : List Char} {octets : List UInt8} (h : decode? cs = some octets) :
    Spells cs octets := by
  fun_induction decode? cs generalizing octets with
  | case1 =>
    cases h
    exact .nil
  | case2 p q =>
    simp only [Option.bind_eq_bind, Option.bind_eq_some_iff] at h
    obtain ⟨v, hv, w, hw, h⟩ := h
    split at h
    · cases h
      have hp := (value?_eq_some_iff p v).mp hv
      have hq := (value?_eq_some_iff q w).mp hw
      have hp64 := hp.lt
      have hq64 := hq.lt
      refine .one hp hq ?_
      rw [toNat_ofNat_of_lt (by omega)]
      omega
    · cases h
  | case3 p q r =>
    simp only [Option.bind_eq_bind, Option.bind_eq_some_iff] at h
    obtain ⟨v, hv, w, hw, x, hx, h⟩ := h
    split at h
    · cases h
      have hp := (value?_eq_some_iff p v).mp hv
      have hq := (value?_eq_some_iff q w).mp hw
      have hr := (value?_eq_some_iff r x).mp hx
      have hp64 := hp.lt
      have hq64 := hq.lt
      have hr64 := hr.lt
      refine .two hp hq hr ?_
      rw [toNat_ofNat_of_lt (by omega), toNat_ofNat_of_lt (by omega)]
      omega
    · cases h
  | case4 p q r s rest _ _ ih =>
    simp only [Option.bind_eq_bind, Option.bind_eq_some_iff] at h
    obtain ⟨v, hv, w, hw, x, hx, y, hy, octets, hrest, h⟩ := h
    cases h
    have hp := (value?_eq_some_iff p v).mp hv
    have hq := (value?_eq_some_iff q w).mp hw
    have hr := (value?_eq_some_iff r x).mp hx
    have hs := (value?_eq_some_iff s y).mp hy
    have hp64 := hp.lt
    have hq64 := hq.lt
    have hr64 := hr.lt
    have hs64 := hs.lt
    refine .more hp hq hr hs ?_ (ih hrest)
    rw [toNat_ofNat_of_lt (by omega), toNat_ofNat_of_lt (by omega), toNat_ofNat_of_lt (by omega)]
    omega
  | case5 => cases h

theorem Spells.decode?_eq {cs : List Char} {octets : List UInt8} (h : Spells cs octets) :
    decode? cs = some octets := by
  induction h with
  | nil => rfl
  | @one p q v w a hp hq hbits =>
    have hq64 := hq.lt
    rw [decode?_one ((value?_eq_some_iff p v).mpr hp) ((value?_eq_some_iff q w).mpr hq) (by omega),
      ofNat_eq (a := a) (by omega)]
  | @two p q r v w x a b hp hq hr hbits =>
    have hb := b.toNat_lt
    have hq64 := hq.lt
    have hr64 := hr.lt
    rw [decode?_two hr.ne_padding ((value?_eq_some_iff p v).mpr hp)
      ((value?_eq_some_iff q w).mpr hq) ((value?_eq_some_iff r x).mpr hr) (by omega),
      ofNat_eq (a := a) (by omega), ofNat_eq (a := b) (by omega)]
  | @more p q r s v w x y a b c rest octets hp hq hr hs hbits _ ih =>
    have hb := b.toNat_lt
    have hc := c.toNat_lt
    have hq64 := hq.lt
    have hr64 := hr.lt
    have hs64 := hs.lt
    rw [decode?_three hs.ne_padding ((value?_eq_some_iff p v).mpr hp)
      ((value?_eq_some_iff q w).mpr hq) ((value?_eq_some_iff r x).mpr hr)
      ((value?_eq_some_iff s y).mpr hs) ih, ofNat_eq (a := a) (by omega),
      ofNat_eq (a := b) (by omega), ofNat_eq (a := c) (by omega)]

theorem IsSymbol.eq_symbol {c : Char} {v : Nat} (h : IsSymbol c v) : c = symbol v :=
  (eq_symbol_of_value? ((value?_eq_some_iff c v).mpr h)).1

/-- Octets have no other text than the one that is written for them. -/
theorem Spells.encode_eq {cs : List Char} {octets : List UInt8} (h : Spells cs octets) :
    encode octets = cs := by
  induction h with
  | nil => rfl
  | @one p q v w a hp hq hbits =>
    have hq64 := hq.lt
    rw [encode, hp.eq_symbol, hq.eq_symbol, show a.toNat / 4 = v by omega,
      show a.toNat % 4 * 16 = w by omega]
  | @two p q r v w x a b hp hq hr hbits =>
    have hb := b.toNat_lt
    have hq64 := hq.lt
    have hr64 := hr.lt
    rw [encode, hp.eq_symbol, hq.eq_symbol, hr.eq_symbol, show a.toNat / 4 = v by omega,
      show a.toNat % 4 * 16 + b.toNat / 16 = w by omega, show b.toNat % 16 * 4 = x by omega]
  | @more p q r s v w x y a b c rest octets hp hq hr hs hbits _ ih =>
    have hb := b.toNat_lt
    have hc := c.toNat_lt
    have hq64 := hq.lt
    have hr64 := hr.lt
    have hs64 := hs.lt
    rw [encode, ih, hp.eq_symbol, hq.eq_symbol, hr.eq_symbol, hs.eq_symbol,
      show a.toNat / 4 = v by omega, show a.toNat % 4 * 16 + b.toNat / 16 = w by omega,
      show b.toNat % 16 * 4 + c.toNat / 64 = x by omega, show c.toNat % 64 = y by omega]

/-- Octets are read by their grammar. -/
theorem decode?_eq_some_iff (cs : List Char) (octets : List UInt8) :
    decode? cs = some octets ↔ Spells cs octets :=
  ⟨spells_of_decode?, Spells.decode?_eq⟩

end Base64

end NodeAccess

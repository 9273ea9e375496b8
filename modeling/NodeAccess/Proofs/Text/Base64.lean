import NodeAccess.Text.Base64

/-!
# Octets read back from base64

Three octets make four symbols, and two or one left over make a group that ends in padding. No
symbol is the padding, so the reader tells the three endings apart, and each puts together what the
writer took apart.
-/

set_option autoImplicit false

namespace NodeAccess.Base64

/-! ## Symbols -/

/-- A symbol reads back as its value. -/
theorem value?_symbol {v : Nat} (h : v < 64) : value? (symbol v) = some v := by
  have hall : ∀ v : Fin 64, value? (symbol v.val) = some v.val := by decide
  exact hall ⟨v, h⟩

/-- No symbol is the padding. -/
theorem symbol_ne_padding {v : Nat} (h : v < 64) : symbol v ≠ '=' := by
  have hall : ∀ v : Fin 64, symbol v.val ≠ '=' := by decide
  exact hall ⟨v, h⟩

/-! ## Groups of symbols -/

/-- A last group with two paddings holds one octet. -/
theorem decode?_one {p q : Char} {v w : Nat} (hp : value? p = some v) (hq : value? q = some w)
    (hunused : w % 16 = 0) : decode? [p, q, '=', '='] = some [UInt8.ofNat (v * 4 + w / 16)] := by
  simp [decode?, hp, hq, hunused]

/-- A last group with one padding holds two octets. -/
theorem decode?_two {p q r : Char} (hr : r ≠ '=') {v w x : Nat} (hp : value? p = some v)
    (hq : value? q = some w) (hx : value? r = some x) (hunused : x % 4 = 0) :
    decode? [p, q, r, '='] =
      some [UInt8.ofNat (v * 4 + w / 16), UInt8.ofNat (w % 16 * 16 + x / 4)] := by
  rw [decode?.eq_3 p q r hr]
  simp [hp, hq, hx, hunused]

/-- A group that does not end in padding holds three octets. -/
theorem decode?_three {p q r s : Char} (hs : s ≠ '=') {v w x y : Nat} (hp : value? p = some v)
    (hq : value? q = some w) (hr : value? r = some x) (hy : value? s = some y)
    {rest : List Char} {more : List UInt8} (hrest : decode? rest = some more) :
    decode? (p :: q :: r :: s :: rest) =
      some (UInt8.ofNat (v * 4 + w / 16) :: UInt8.ofNat (w % 16 * 16 + x / 4) ::
        UInt8.ofNat (x % 4 * 64 + y) :: more) := by
  rw [decode?.eq_4 p q r s rest (fun _ h _ => hs h) (fun h _ => hs h)]
  simp [hp, hq, hr, hy, hrest]

/-! ## Lists of octets -/

/-- A number that is the value of an octet makes that octet. -/
theorem ofNat_eq {n : Nat} {a : UInt8} (h : n = a.toNat) : UInt8.ofNat n = a := by
  rw [h, UInt8.ofNat_toNat]

/-- Writing octets and reading them again changes nothing. -/
theorem decode?_encode (octets : List UInt8) : decode? (encode octets) = some octets := by
  induction octets using encode.induct with
  | case1 => rfl
  | case2 a =>
    have ha : a.toNat < 256 := a.toNat_lt
    have hv := value?_symbol (v := a.toNat / 4) (by omega)
    have hw := value?_symbol (v := a.toNat % 4 * 16) (by omega)
    rw [encode, decode?_one hv hw (by omega), ofNat_eq (a := a) (by omega)]
  | case3 a b =>
    have ha : a.toNat < 256 := a.toNat_lt
    have hb : b.toNat < 256 := b.toNat_lt
    have hv := value?_symbol (v := a.toNat / 4) (by omega)
    have hw := value?_symbol (v := a.toNat % 4 * 16 + b.toNat / 16) (by omega)
    have hx := value?_symbol (v := b.toNat % 16 * 4) (by omega)
    have hpadding := symbol_ne_padding (v := b.toNat % 16 * 4) (by omega)
    rw [encode, decode?_two hpadding hv hw hx (by omega), ofNat_eq (a := a) (by omega),
      ofNat_eq (a := b) (by omega)]
  | case4 a b c rest ih =>
    have ha : a.toNat < 256 := a.toNat_lt
    have hb : b.toNat < 256 := b.toNat_lt
    have hc : c.toNat < 256 := c.toNat_lt
    have hv := value?_symbol (v := a.toNat / 4) (by omega)
    have hw := value?_symbol (v := a.toNat % 4 * 16 + b.toNat / 16) (by omega)
    have hx := value?_symbol (v := b.toNat % 16 * 4 + c.toNat / 64) (by omega)
    have hy := value?_symbol (v := c.toNat % 64) (by omega)
    have hpadding := symbol_ne_padding (v := c.toNat % 64) (by omega)
    rw [encode, decode?_three hpadding hv hw hx hy ih, ofNat_eq (a := a) (by omega),
      ofNat_eq (a := b) (by omega), ofNat_eq (a := c) (by omega)]

end NodeAccess.Base64

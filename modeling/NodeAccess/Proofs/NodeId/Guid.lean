import NodeAccess.Guid
import NodeAccess.Proofs.Text.Digits

/-!
# Globally unique identifiers read back

The text of an identifier is its thirty-two digits in groups. It is longer than the digits alone,
and it begins with a digit, hence with neither a brace nor the marker; so the reader takes it for
groups, takes the hyphens out and finds the same digits.
-/

set_option autoImplicit false

namespace NodeAccess.Guid

/-! ## Groups -/

/-- Grouping adds one hyphen between any two groups. -/
theorem length_group (ws : List Nat) (cs : List Char) :
    (group ws cs).length = cs.length + (ws.length - 1) := by
  induction ws generalizing cs with
  | nil => rfl
  | cons w ws ih =>
    cases ws with
    | nil => rfl
    | cons w' ws =>
      have hsplit : (cs.take w).length + (cs.drop w).length = cs.length := by
        rw [← List.length_append, List.take_append_drop]
      simp only [group, List.length_append, List.length_cons, ih]
      omega

/-- Groups of the right widths lose their hyphens again. -/
theorem ungroup?_group {ws : List Nat} (hne : ws ≠ []) {cs : List Char}
    (h : cs.length = ws.foldr (· + ·) 0) : ungroup? ws (group ws cs) = some cs := by
  induction ws generalizing cs with
  | nil => contradiction
  | cons w ws ih =>
    cases ws with
    | nil =>
      have hw : cs.length = w := by simpa using h
      simp [group, ungroup?, hw]
    | cons w' ws =>
      have hw : (cs.take w).length = w := by
        rw [List.length_take, h, List.foldr_cons]
        omega
      have hrest : (cs.drop w).length = (w' :: ws).foldr (· + ·) 0 := by
        rw [List.length_drop, h, List.foldr_cons]
        omega
      have hgroup : group (w :: w' :: ws) cs = cs.take w ++ '-' :: group (w' :: ws) (cs.drop w) :=
        rfl
      have hungroup := ih (by simp) hrest
      simp only [ungroup?, hgroup, List.drop_left' hw, List.take_left' hw, hungroup,
        Option.map_some, List.take_append_drop]

/-! ## The whole text -/

/-- No digit is an opening brace. -/
theorem digit_ne_brace (d : Fin 16) : Hex.digit d ≠ '{' := by
  revert d
  decide

/-- No digit begins the marker. -/
theorem toLower_digit_ne (d : Fin 16) : (Hex.digit d).toLower ≠ 'u' := by
  revert d
  decide

/-- The text of an identifier begins with a digit. -/
theorem exists_render_eq_cons (g : Guid) : ∃ d cs, g.render = Hex.digit d :: cs := by
  obtain ⟨digits, hlength⟩ := g
  cases digits with
  | nil => contradiction
  | cons d ds => exact ⟨d, _, rfl⟩

/-- The text of an identifier is taken for its digits in groups. -/
theorem digitText?_render (g : Guid) : digitText? g.render = some (g.digits.map Hex.digit) := by
  have hlength : (g.digits.map Hex.digit).length = 32 := by
    rw [List.length_map, g.length_digits]
  have hgroups : ungroup? widths g.render = some (g.digits.map Hex.digit) :=
    ungroup?_group (by decide) hlength
  have hlong : g.render.length ≠ 32 := by
    rw [render, length_group, hlength]
    decide
  obtain ⟨d, cs, hd⟩ := g.exists_render_eq_cons
  have hopen : ∀ rest, g.render ≠ '{' :: rest := by
    intro rest h
    rw [hd] at h
    exact digit_ne_brace d (List.head_eq_of_cons_eq h)
  have hmarker : (g.render.take 9).map Char.toLower ≠ marker := by
    intro h
    rw [hd] at h
    exact toLower_digit_ne d (List.head_eq_of_cons_eq h)
  rw [digitText?, if_neg hlong, if_neg hmarker, hgroups]
  exact hopen

/-- Writing an identifier and reading it again changes nothing. -/
theorem read?_render (g : Guid) : read? g.render = some g := by
  simp only [read?, digitText?_render, Hex.digits?_map_digit, ofDigits?, dif_pos g.length_digits]

end NodeAccess.Guid

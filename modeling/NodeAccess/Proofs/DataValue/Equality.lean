import NodeAccess.Proofs.DataValue.Json
import NodeAccess.Proofs.Timestamp.Instant
import NodeAccess.Proofs.Variant.Equality

/-!
# When data values are equal

Data values are equal if their values are, and their qualities and times are the same; times are the
same if they are the same instant, whatever clock they were taken from. So equality of data values
has the laws that equality of values has.

Leap seconds set equality apart from texts, and from counted time. One within a minute is shown like
the second after it, though it is another instant; and one at the end of a minute is as far from any
beginning as the second after it, where leap seconds are not counted.
-/

set_option autoImplicit false

namespace NodeAccess

/-- The laws of an equality that fails on NaN only. It is symmetric and transitive, nothing is equal
to itself if a NaN stands in its value, and equals have values of the same type. Where no
floating-point number occurs, equals are written to the same text, and what is regular and written
to the same text is equal. -/
structure EqualUnlessNaN {α : Type} (same : α → α → Bool) (value : α → Variant)
    (IsRegular : α → Prop) (toJson : α → Json) : Prop where
  symm : ∀ a b, same a b = true → same b a = true
  trans : ∀ a b c, same a b = true → same b c = true → same a c = true
  self_iff : ∀ a, same a a = true ↔ ¬ (value a).HoldsNaN
  type_eq : ∀ a b, same a b = true → (value a).type = (value b).type
  text_eq : ∀ a b, (value a).HasNoFloat → same a b = true → (toJson a).toText = (toJson b).toText
  of_text_eq : ∀ a b, (value a).HasNoFloat → (value b).HasNoFloat → IsRegular a → IsRegular b →
    (toJson a).toText = (toJson b).toText → same a b = true

theorem Variant.equalUnlessNaN :
    EqualUnlessNaN Variant.same id Variant.IsRegular Variant.toJson where
  symm _ _ := same_symm
  trans _ _ _ := same_trans
  self_iff := same_self_iff
  type_eq _ _ := type_eq_of_same
  text_eq _ _ := toText_eq_of_same
  of_text_eq _ _ := same_of_toText_eq

namespace DataValue

theorem same_iff (a b : DataValue) :
    a.same b = true ↔ a.value.same b.value = true ∧ a.status = b.status ∧
      a.sourceTimestamp = b.sourceTimestamp ∧ a.serverTimestamp = b.serverTimestamp := by
  simp [same, and_assoc]

/-- Where no floating-point number occurs, only identical data values are equal. -/
theorem same_iff_eq {a b : DataValue} (ha : a.value.HasNoFloat) : a.same b = true ↔ a = b := by
  rw [same_iff, Variant.same_iff_eq ha]
  cases a
  cases b
  rw [mk.injEq]

theorem equalUnlessNaN :
    EqualUnlessNaN DataValue.same DataValue.value DataValue.IsRegular DataValue.toJson where
  symm a b h := by
    obtain ⟨hvalue, hstatus, hsource, hserver⟩ := (same_iff a b).mp h
    exact (same_iff b a).mpr
      ⟨Variant.same_symm hvalue, hstatus.symm, hsource.symm, hserver.symm⟩
  trans a b c h h' := by
    obtain ⟨hvalue, hstatus, hsource, hserver⟩ := (same_iff a b).mp h
    obtain ⟨hvalue', hstatus', hsource', hserver'⟩ := (same_iff b c).mp h'
    exact (same_iff a c).mpr ⟨Variant.same_trans hvalue hvalue', hstatus.trans hstatus',
      hsource.trans hsource', hserver.trans hserver'⟩
  self_iff a := by
    rw [same_iff, ← Variant.same_self_iff]
    exact ⟨fun h => h.1, fun h => ⟨h, rfl, rfl, rfl⟩⟩
  type_eq a b h := Variant.type_eq_of_same ((same_iff a b).mp h).1
  text_eq a b ha h := by rw [(same_iff_eq ha).mp h]
  of_text_eq a b ha hb hatimes hbtimes h := by
    rw [same_iff_eq ha]
    exact (a.recovers_toJson ha hatimes).eq_of_toText_eq (b.recovers_toJson hb hbtimes) h

end DataValue

theorem Timestamp.map_instant_inj {t t' : Option Timestamp} :
    t.map instant = t'.map instant ↔ t = t' := by
  cases t <;> cases t' <;> simp [instant_inj]

/-- Equality of values, arrays of values and data values fails on NaN only. Data values are equal
exactly if their values and qualities are and both times are equal as instants, where a time that
was given by a clock ahead of UTC is the instant at which that clock showed it. Outside leap seconds
instants are the same if as much time has elapsed. Every time that was read from a text is
regular. -/
theorem same_fails_on_nan_only :
    EqualUnlessNaN Variant.same id Variant.IsRegular Variant.toJson ∧
      EqualUnlessNaN DataValue.same DataValue.value DataValue.IsRegular DataValue.toJson ∧
      (∀ a b : DataValue, a.same b = true ↔
        a.value.same b.value = true ∧ a.status = b.status ∧
          a.sourceTimestamp.map Timestamp.instant = b.sourceTimestamp.map Timestamp.instant ∧
          a.serverTimestamp.map Timestamp.instant = b.serverTimestamp.map Timestamp.instant) ∧
      (∀ t t' : Timestamp, t.time.isLeap = false → t'.time.isLeap = false →
        (t.instant = t'.instant ↔ t.elapsed = t'.elapsed)) ∧
      (∀ (cs : List Char) (t : Timestamp), Timestamp.read? cs = some t → t.IsRegular) ∧
      ∀ (date : Date) (time : TimeOfDay) (offset : Int) (t : Timestamp),
        -1440 ≤ offset ∧ offset ≤ 1440 → Timestamp.ofLocal? date time offset = some t →
          t.instant = Timestamp.localInstant date time offset := by
  refine ⟨Variant.equalUnlessNaN, DataValue.equalUnlessNaN, ?_, ?_, ?_, ?_⟩
  · intro a b
    rw [DataValue.same_iff, Timestamp.map_instant_inj, Timestamp.map_instant_inj]
  · intro t t' h h'
    rw [Timestamp.instant_inj, Timestamp.elapsed_inj h h']
  · exact fun _ _ => Timestamp.isRegular_of_read?
  · exact fun _ _ _ _ => Timestamp.instant_ofLocal?

/-- A point in time within the last hour of the year 2016. -/
def Timestamp.late2016 (minute second : Fin 60) (nanosecond : Fin 2000000000) : Timestamp where
  date := ⟨2016, 12, 31, by decide, by decide, by decide⟩
  time := ⟨23, minute, second, nanosecond, by decide, minute.isLt, second.isLt, nanosecond.isLt⟩

/-- A data value of that time. -/
def DataValue.late2016 (minute second : Fin 60) (nanosecond : Fin 2000000000) : DataValue where
  sourceTimestamp := some (.late2016 minute second nanosecond)

/-- Half a second into a leap second behind the second four, a clock shows 23:58:05.500. So the text
is that of another time, with which neither values nor data values are equal. And up to the leap
second at the end of the minute as much time has elapsed as up to the next minute, and they are not
equal. -/
theorem leap_second_shares_text :
    let leap := Timestamp.late2016 58 4 1500000000
    let next := Timestamp.late2016 58 5 500000000
    ((Variant.dateTime leap).HasNoFloat ∧ (Variant.dateTime next).HasNoFloat ∧
      (Variant.dateTime leap).toJson.toText = (Variant.dateTime next).toJson.toText ∧
      (Variant.dateTime leap).same (.dateTime next) = false) ∧
    ((DataValue.late2016 58 4 1500000000).toJson.toText =
        (DataValue.late2016 58 5 500000000).toJson.toText ∧
      (DataValue.late2016 58 4 1500000000).same (.late2016 58 5 500000000) = false) ∧
    (Timestamp.late2016 58 59 1000000000).elapsed = (Timestamp.late2016 59 0 0).elapsed ∧
      (DataValue.late2016 58 59 1000000000).same (.late2016 59 0 0) = false := by
  refine ⟨⟨trivial, trivial, ?_, ?_⟩, ⟨?_, ?_⟩, ?_, ?_⟩
  all_goals decide +kernel

/-- The two zeros inside arrays are equal, in either order and as data values, and so of the same
type, but a NaN inside arrays is not equal to itself. A leap second that was read, be it from a
clock half an hour ahead of UTC, is equal to what is written like it. -/
theorem same_fails_on_nan_only_zeros :
    let inside (x : Binary64) : Variant := .array [.null, .array [.double x]]
    let plus : Binary64 := .ofParts false 0
    let minus : Binary64 := .ofParts true 0
    let leap := Timestamp.late2016 58 59 1000000000
    ((inside plus).same (inside minus) = true ∧ (inside minus).same (inside plus) = true ∧
      (DataValue.ofValue (inside minus)).same (.ofValue (inside plus)) = true ∧
      (inside .nan).same (inside .nan) = false) ∧
    Timestamp.read? "2017-01-01T00:28:60+00:30".toList = some leap ∧
      (Variant.dateTime leap).same (.dateTime leap) = true := by
  intro inside plus minus leap
  obtain ⟨hvalues, -, hparts, -, hregular, -⟩ := same_fails_on_nan_only
  have hzeros : (inside plus).same (inside minus) = true := by decide
  have hback := hvalues.symm _ _ hzeros
  have hread : Timestamp.read? "2017-01-01T00:28:60+00:30".toList = some leap := by decide +kernel
  have hleap : (Variant.dateTime leap).IsRegular := by
    rintro t ⟨⟩
    exact hregular _ _ hread
  refine ⟨⟨hzeros, hback, (hparts _ _).mpr ⟨hback, rfl, rfl, rfl⟩, ?_⟩, hread, ?_⟩
  · have hnan : (inside .nan).HoldsNaN :=
      .array (.tail _ (.head _)) (.array (.head _) (.double (by decide)))
    rw [← Bool.not_eq_true, hvalues.self_iff]
    exact not_not_intro hnan
  · exact hvalues.of_text_eq _ _ trivial trivial hleap hleap rfl

end NodeAccess

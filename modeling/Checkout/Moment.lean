-- Points in time, and how the store tells which of two is the earlier one. It
-- counts the days of a calendar for that, and the calendar has an end.
namespace Checkout

/-- A point in time, in milliseconds since the beginning of the year 1970. -/
abbrev Moment := Int

namespace Moment

/-- The first moment of the calendar: noon on the 24th of November 4714 BC, where the count of Julian
days begins. -/
def earliest : Moment := -210866760000000

/-- The last moment of the calendar: the end of the year 9999. -/
def latest : Moment := 253402300799999

/-- The moment is one of the calendar. -/
def isDated (m : Moment) : Bool := earliest ≤ m && m ≤ latest

/-- The one moment is before the other. Outside of the calendar there is no before. -/
def isBefore (m other : Moment) : Bool := m.isDated && other.isDated && m < other

theorem isBefore_iff {m other : Moment} :
    m.isBefore other = true ↔ m < other ∧ earliest ≤ m ∧ other ≤ latest := by
  simp only [isBefore, isDated, Bool.and_eq_true, decide_eq_true_eq]
  constructor
  · rintro ⟨⟨⟨hm, -⟩, -, hother⟩, hlt⟩
    exact ⟨hlt, hm, hother⟩
  · rintro ⟨hlt, hm, hother⟩
    -- the one in between is in the calendar with the two ends
    have hle : m ≤ other := Int.le_of_lt hlt
    exact ⟨⟨⟨hm, Int.le_trans hle hother⟩, Int.le_trans hm hle, hother⟩, hlt⟩

end Moment

end Checkout

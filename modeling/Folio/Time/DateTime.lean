namespace Folio

def isLeapYear (year : Int) : Bool :=
  year % 4 == 0 && (year % 100 != 0 || year % 400 == 0)

def daysInMonth (year : Int) (month : Nat) : Nat :=
  match month with
  | 2 => if isLeapYear year then 29 else 28
  | 4 | 6 | 9 | 11 => 30
  | _ => 31

theorem daysInMonth_le (year : Int) (month : Nat) : daysInMonth year month ≤ 31 := by
  unfold daysInMonth
  split <;> try split
  all_goals omega

def billion : Nat := 1000000000

/-- The parts name a moment of a calendar day in the years that can be written. -/
abbrev DateTime.Valid (year : Int) (month day hour minute second nano : Nat) : Prop :=
  (-262143 ≤ year ∧ year ≤ 262142) ∧ (1 ≤ month ∧ month ≤ 12) ∧
  (1 ≤ day ∧ day ≤ daysInMonth year month) ∧ hour < 24 ∧ minute < 60 ∧ second < 60 ∧
  (nano < billion ∨ (second = 59 ∧ nano < 2 * billion))

structure DateTime where
  year : Int
  month : Nat
  day : Nat
  hour : Nat
  minute : Nat
  second : Nat
  nano : Nat
  valid : DateTime.Valid year month day hour minute second nano
deriving DecidableEq

namespace DateTime

instance : Inhabited DateTime :=
  ⟨⟨1970, 1, 1, 0, 0, 0, 0, by decide⟩⟩

def ofParts? (year : Int) (month day hour minute second nano : Nat) : Option DateTime :=
  if h : Valid year month day hour minute second nano then
    some ⟨year, month, day, hour, minute, second, nano, h⟩
  else none

/-- The place on the time line: later date-times have greater ranks. -/
def rank (t : DateTime) : Int :=
  (((((t.year * 13 + t.month) * 32 + t.day) * 24 + t.hour) * 60 + t.minute) * 60 + t.second)
    * (2 * billion) + t.nano

instance : LT DateTime := ⟨fun a b => a.rank < b.rank⟩

instance : LE DateTime := ⟨fun a b => a.rank ≤ b.rank⟩

instance (a b : DateTime) : Decidable (a < b) := inferInstanceAs (Decidable (a.rank < b.rank))

instance (a b : DateTime) : Decidable (a ≤ b) := inferInstanceAs (Decidable (a.rank ≤ b.rank))

theorem rank_inj {a b : DateTime} (h : a.rank = b.rank) : a = b := by
  obtain ⟨y, mo, d, ho, mi, s, n, hv⟩ := a
  obtain ⟨y', mo', d', ho', mi', s', n', hv'⟩ := b
  simp only [Valid, billion] at hv hv'
  have := daysInMonth_le y mo
  have := daysInMonth_le y' mo'
  simp only [rank, billion] at h
  obtain ⟨rfl, rfl, rfl, rfl, rfl, rfl, rfl⟩ :
      y = y' ∧ mo = mo' ∧ d = d' ∧ ho = ho' ∧ mi = mi' ∧ s = s' ∧ n = n' := by
    omega
  rfl

/-- The moment at which its second begins; a leap second is a second of its own. -/
def truncated (t : DateTime) : DateTime :=
  { t with
    nano := if t.nano < billion then 0 else billion
    valid := by
      have := t.valid
      simp only [Valid, billion] at this ⊢
      by_cases h : t.nano < 1000000000 <;> simp only [h, ↓reduceIte] <;> omega }

/-- The second as it is written: 60 in a leap second. -/
def writtenSecond (t : DateTime) : Nat :=
  if t.nano < billion then t.second else t.second + 1

/-- The nanoseconds into the written second. -/
def fraction (t : DateTime) : Nat :=
  if t.nano < billion then t.nano else t.nano - billion

end DateTime

end Folio

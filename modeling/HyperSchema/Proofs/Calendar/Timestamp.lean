import HyperSchema.Proofs.Calendar.Days
import HyperSchema.Proofs.Calendar.Fields

namespace HyperSchema.Calendar
open Text

/-- The year in universal time. -/
def Moment.year (m : Moment) : Int := (Date.ofDays m.day).year

/-- A time of day that a clock shows. Leap seconds end a minute. -/
structure Moment.IsProper (m : Moment) : Prop where
  second_lt : m.second < 86400
  nano_lt : m.nano < 2000000000
  leap : 1000000000 ≤ m.nano → m.second % 60 = 59

variable {m : Moment} {cs : List Char}

/-- Whole minutes move a leap second to the end of another minute. -/
theorem Moment.isProper_shiftBy {minutes : Int} (hnano : m.nano < 2000000000)
    (hleap : 1000000000 ≤ m.nano → m.second % 60 = 59) :
    (m.shiftBy (60 * minutes)).IsProper := by
  refine ⟨?_, hnano, fun h => ?_⟩
  · change (((m.second : Int) - 60 * minutes) % 86400).toNat < 86400
    omega
  · have hlast := hleap h
    change (((m.second : Int) - 60 * minutes) % 86400).toNat % 60 = 59
    omega

theorem isProper_of_timestamp? (h : timestamp? cs = some m) : m.IsProper := by
  obtain ⟨⟨year, cs⟩, -, h⟩ := Option.bind_eq_some_iff.mp h
  obtain ⟨cs, -, h⟩ := Option.bind_eq_some_iff.mp h
  obtain ⟨⟨month, cs⟩, -, h⟩ := Option.bind_eq_some_iff.mp h
  obtain ⟨cs, -, h⟩ := Option.bind_eq_some_iff.mp h
  obtain ⟨⟨day, cs⟩, -, h⟩ := Option.bind_eq_some_iff.mp h
  obtain ⟨cs, -, h⟩ := Option.bind_eq_some_iff.mp h
  obtain ⟨⟨hour, cs⟩, -, h⟩ := Option.bind_eq_some_iff.mp h
  obtain ⟨cs, -, h⟩ := Option.bind_eq_some_iff.mp h
  obtain ⟨⟨minute, cs⟩, -, h⟩ := Option.bind_eq_some_iff.mp h
  obtain ⟨cs, -, h⟩ := Option.bind_eq_some_iff.mp h
  obtain ⟨⟨second, cs⟩, -, h⟩ := Option.bind_eq_some_iff.mp h
  obtain ⟨⟨nano, cs⟩, hnano, h⟩ := Option.bind_eq_some_iff.mp h
  obtain ⟨⟨offset, cs⟩, hoffset, h⟩ := Option.bind_eq_some_iff.mp h
  have hnano := fraction?_lt hnano
  obtain ⟨minutes, rfl⟩ := offset?_minutes hoffset
  obtain ⟨hchecks, hm⟩ := Option.ite_none_right_eq_some.mp h
  cases hm
  simp only [Bool.and_eq_true, decide_eq_true_eq] at hchecks
  obtain ⟨⟨⟨-, hhour⟩, hminute⟩, hsecond⟩ := hchecks
  apply Moment.isProper_shiftBy
  · change nano + second / 60 * 1000000000 < 2000000000
    omega
  · intro hleap
    change 1000000000 ≤ nano + second / 60 * 1000000000 at hleap
    change (hour * 3600 + minute * 60 + (second - second / 60)) % 60 = 59
    have hsixty : second = 60 := by omega
    omega

/-- A plain date consists of digits, signs and blanks and is the first instant of its day. -/
theorem exists_of_plainDate? (h : plainDate? cs = some m) : (∃ day, m = ⟨day, 0, 0⟩) ∧
    ∀ c ∈ cs, c.isDigit = true ∨ (c = '-' ∨ c = '+') ∨ isBlank c = true := by
  obtain ⟨⟨year, afterYear⟩, hyear, h⟩ := Option.bind_eq_some_iff.mp h
  obtain ⟨monthOn, hfirst, h⟩ := Option.bind_eq_some_iff.mp h
  obtain ⟨⟨month, afterMonth⟩, hmonth, h⟩ := Option.bind_eq_some_iff.mp h
  obtain ⟨dayOn, hsecond, h⟩ := Option.bind_eq_some_iff.mp h
  obtain ⟨⟨day, afterDay⟩, hday, h⟩ := Option.bind_eq_some_iff.mp h
  obtain ⟨hchecks, hm⟩ := Option.ite_none_right_eq_some.mp h
  cases hm
  refine ⟨⟨_, rfl⟩, fun c hc => ?_⟩
  by_contra hother
  simp only [not_or, Bool.not_eq_true] at hother
  obtain ⟨hdigit, hsign, hblank⟩ := hother
  -- no number, dash or blank takes another character, so it would be left at the end
  have hnumber : ¬c.isDigit = true := Bool.not_eq_true _ ▸ hdigit
  have hdash : (c == '-') = false := beq_false_of_ne hsign.1
  have hleft := mem_of_year? hyear hnumber hsign (mem_dropWhile hblank hc)
  have hleft := mem_of_expect? hfirst hdash hleft
  have hleft := mem_of_shortNumber? hmonth hnumber (mem_dropWhile hblank hleft)
  have hleft := mem_of_expect? hsecond hdash hleft
  have hleft := mem_of_shortNumber? hday hnumber (mem_dropWhile hblank hleft)
  obtain ⟨hempty, -⟩ := (Bool.and_eq_true _ _).mp hchecks
  rw [List.isEmpty_iff.mp hempty] at hleft
  exact List.not_mem_nil hleft

theorem isProper_of_readMoment? (h : readMoment? cs = some m) : m.IsProper := by
  obtain htimestamp | ⟨-, hplain⟩ := (Option.orElse_eq_some _ _ _).mp h
  · exact isProper_of_timestamp? htimestamp
  · obtain ⟨⟨day, rfl⟩, -⟩ := exists_of_plainDate? hplain
    exact ⟨Nat.zero_lt_succ _, Nat.zero_lt_succ _, nofun⟩

theorem toList_display (m : Moment) : m.display.toList =
    (yearText m.year).toList ++ '-' :: ((padTo 2 (Date.ofDays m.day).month).toList ++
      '-' :: ((padTo 2 (Date.ofDays m.day).day).toList ++
      'T' :: ((padTo 2 (m.second / 3600)).toList ++
      ':' :: ((padTo 2 (m.second / 60 % 60)).toList ++
      ':' :: ((padTo 2 (m.second % 60 + m.nano / 1000000000)).toList ++
      ((fractionText (m.nano % 1000000000)).toList ++ ['Z'])))))) := by
  have hdash : "-".toList = ['-'] := rfl
  have htime : "T".toList = ['T'] := rfl
  have hcolon : ":".toList = [':'] := rfl
  have hzone : "Z".toList = ['Z'] := rfl
  simp only [Moment.display, String.toList_append, List.append_assoc, hdash, htime, hcolon, hzone,
    List.singleton_append]
  rfl

theorem yearText_of_range {year : Int} (h : 0 ≤ year ∧ year ≤ 9999) :
    yearText year = padTo 4 year.toNat := if_pos h

/-- A sign and the digits of the number. -/
theorem yearText_of_not_range {year : Int} (h : ¬(0 ≤ year ∧ year ≤ 9999)) :
    ∃ sign, (sign = '-' ∨ sign = '+') ∧
      (yearText year).toList = sign :: (padTo 4 year.natAbs).toList := by
  have hminus : "-".toList = ['-'] := rfl
  have hplus : "+".toList = ['+'] := rfl
  rw [yearText, if_neg h, String.toList_append]
  by_cases hnegative : year < 0
  · exact ⟨'-', .inl rfl, by rw [if_pos hnegative, hminus, List.singleton_append]⟩
  · exact ⟨'+', .inr rfl, by rw [if_neg hnegative, hplus, List.singleton_append]⟩

/-- Months and days have two digits. -/
theorem Date.lt_of_isValid {date : Date} (h : date.isValid = true) :
    date.month < 100 ∧ date.day < 100 := by
  simp only [Date.isValid, Bool.and_eq_true, decide_eq_true_eq] at h
  obtain ⟨⟨⟨-, hmonth⟩, -⟩, hday⟩ := h
  have hmost : daysInMonth date.year date.month ≤ 31 := by
    unfold daysInMonth
    split
    next => split <;> decide
    next => split <;> decide
  omega

theorem Moment.shiftBy_zero (h : m.second < 86400) : m.shiftBy 0 = m := by
  have hday : ((m.second : Int) - 0) / 86400 = 0 := by omega
  have hsecond : (((m.second : Int) - 0) % 86400).toNat = m.second := by omega
  rw [Moment.shiftBy, hday, hsecond, add_zero]

/-- The text of a date and a time of day in universal time. The sixtieth second is a leap second. -/
theorem timestamp?_text {date : Date} {hour minute second nano : Nat}
    (hyear : 0 ≤ date.year ∧ date.year ≤ 9999) (hvalid : date.isValid = true) (hhour : hour < 24)
    (hminute : minute < 60) (hsecond : second ≤ 60) (hnano : nano < 1000000000) :
    timestamp? ((padTo 4 date.year.toNat).toList ++ '-' :: ((padTo 2 date.month).toList ++
      '-' :: ((padTo 2 date.day).toList ++ 'T' :: ((padTo 2 hour).toList ++
      ':' :: ((padTo 2 minute).toList ++ ':' :: ((padTo 2 second).toList ++
      ((fractionText nano).toList ++ ['Z']))))))) = some (Moment.shiftBy
        ⟨date.toDays, hour * 3600 + minute * 60 + (second - second / 60),
          nano + second / 60 * 1000000000⟩ 0) := by
  obtain ⟨hmonth, hday⟩ := Date.lt_of_isValid hvalid
  have hfield {n : Nat} (h : n < 100) (rest : List Char) :
      fixedNumber? 2 ((padTo 2 n).toList ++ rest) = some (n, rest) :=
    fixedNumber?_padTo (by decide) h rest
  have hdash (cs : List Char) : expect? (· == '-') ('-' :: cs) = some cs := rfl
  have hcolon (cs : List Char) : expect? (· == ':') (':' :: cs) = some cs := rfl
  have htime (cs : List Char) :
      expect? (fun c => c == 'T' || c == 't' || c == ' ') ('T' :: cs) = some cs := rfl
  have hzone : offset? ['Z'] = some (0, []) := rfl
  -- each field takes its digits and leaves what follows to the next
  rw [timestamp?, fixedNumber?_padTo (by decide) (by omega)]
  dsimp only [Option.bind_eq_bind, Option.bind_some]
  rw [hdash, Option.bind_some, hfield hmonth, Option.bind_some, hdash, Option.bind_some,
    hfield hday, Option.bind_some, htime, Option.bind_some, hfield (by omega), Option.bind_some,
    hcolon, Option.bind_some, hfield (by omega), Option.bind_some, hcolon, Option.bind_some,
    hfield (by omega), Option.bind_some, fraction?_fractionText hnano, Option.bind_some, hzone,
    Option.bind_some]
  have hdate : (⟨(date.year.toNat : Int), date.month, date.day⟩ : Date) = date := by
    rw [Int.toNat_of_nonneg hyear.1]
  simp only [hdate, List.isEmpty_nil, hvalid, hhour, hminute, hsecond, decide_true, Bool.and_self,
    if_true]
  rfl

/-- A year of four digits is read again with all that follows it. -/
theorem timestamp?_display (h : m.IsProper) (hyear : 0 ≤ m.year ∧ m.year ≤ 9999) :
    timestamp? m.display.toList = some m := by
  obtain ⟨hsecond, hnano, hleap⟩ := h
  have hfirst : firstYear ≤ (Date.ofDays m.day).year := le_trans (by decide) hyear.1
  have hlast : (Date.ofDays m.day).year ≤ lastYear := hyear.2.trans (by decide)
  have hvalid := Date.isValid_ofDays hfirst hlast
  have hleaps : m.nano / 1000000000 = 0 ∨ m.nano / 1000000000 = 1 ∧ m.second % 60 = 59 := by omega
  have hminutes : (m.second % 60 + m.nano / 1000000000) / 60 = m.nano / 1000000000 := by omega
  rw [toList_display, yearText_of_range hyear]
  rw [Moment.year] at hyear ⊢
  rw [timestamp?_text hyear hvalid (by omega) (by omega) (by omega) (by omega), Date.toDays_ofDays,
    hminutes]
  have hsame : m.second / 3600 * 3600 + m.second / 60 % 60 * 60 +
      (m.second % 60 + m.nano / 1000000000 - m.nano / 1000000000) = m.second := by omega
  have hnanos : m.nano % 1000000000 + m.nano / 1000000000 * 1000000000 = m.nano := by omega
  rw [hsame, hnanos]
  exact congrArg some (Moment.shiftBy_zero hsecond)

/-- A timestamp does not begin with a sign. -/
theorem timestamp?_display_eq_none (hyear : ¬(0 ≤ m.year ∧ m.year ≤ 9999)) :
    timestamp? m.display.toList = none := by
  obtain ⟨sign, hsign, htext⟩ := yearText_of_not_range hyear
  have hdigit : ¬sign.isDigit = true := by
    obtain rfl | rfl := hsign
    · decide
    · decide
  rw [toList_display, htext, List.cons_append, timestamp?,
    fixedNumber?_eq_none hdigit (by decide)]
  rfl

/-- A plain date has no time of day. -/
theorem plainDate?_display_eq_none (m : Moment) : plainDate? m.display.toList = none := by
  have htime : 'T' ∈ m.display.toList := by
    rw [toList_display]
    simp only [List.mem_append, List.mem_cons, true_or, or_true]
  rw [Option.eq_none_iff_forall_ne_some]
  intro read hread
  have hplain := (exists_of_plainDate? hread).2 'T' htime
  revert hplain
  decide

/-- What is written is read again exactly if the year has four digits. -/
theorem readMoment?_display (h : m.IsProper) : readMoment? m.display.toList =
    if 0 ≤ m.year ∧ m.year ≤ 9999 then some m else none := by
  unfold readMoment?
  split
  next hyear => exact (Option.orElse_eq_some _ _ _).mpr (.inl (timestamp?_display h hyear))
  next hyear =>
    exact (Option.orElse_eq_none _ _).mpr
      ⟨timestamp?_display_eq_none hyear, plainDate?_display_eq_none m⟩

end HyperSchema.Calendar

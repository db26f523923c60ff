import HyperSchema.Proofs.Calendar.Timestamp
import HyperSchema.Proofs.Coercion.RoundTrip

namespace HyperSchema

namespace Coercion
open Calendar Text

theorem isBlank_of_mem_yearText {year : Int} {c : Char} (h : c ∈ (yearText year).toList) :
    isBlank c = false := by
  by_cases hyear : 0 ≤ year ∧ year ≤ 9999
  · rw [yearText_of_range hyear] at h
    exact isBlank_of_isDigit (isDigit_of_mem_padTo h)
  · obtain ⟨sign, hsign, htext⟩ := yearText_of_not_range hyear
    rw [htext] at h
    obtain rfl | hdigit := List.mem_cons.mp h
    · obtain rfl | rfl := hsign
      · decide
      · decide
    · exact isBlank_of_isDigit (isDigit_of_mem_padTo hdigit)

theorem trimmed_display (m : Moment) : Trimmed m.display.toList := by
  refine ⟨?_, ?_⟩
  · intro c hc
    rw [toList_display, List.head?_append, Option.mem_def, Option.or_eq_some_iff] at hc
    obtain hyear | ⟨-, hdash⟩ := hc
    · exact isBlank_of_mem_yearText (List.mem_of_mem_head? hyear)
    · cases hdash
      decide
  · intro c hc
    have hzone : "Z".toList = ['Z'] := rfl
    rw [Moment.display, String.toList_append, hzone, List.getLast?_concat] at hc
    cases hc
    decide

theorem coerce_date (fault : String → String) (text : String) :
    coerce (.standardWith fault) text .date =
    match readMoment? (trimChars text.toList) with
    | some m => .ok (.date m)
    | none => .error ⟨text, .date, "expected an RFC 3339 timestamp or YYYY-MM-DD"⟩ := by
  rw [coerce_of_element? rfl]
  rfl

theorem coerce_format_date (fault : String → String) {m : Moment} (h : m.IsProper) :
    coerce (.standardWith fault) ((TextForm.standardWith fault).format (.date m)) .date =
      if 0 ≤ m.year ∧ m.year ≤ 9999 then .ok (.date m)
      else .error ⟨(TextForm.standardWith fault).format (.date m), .date,
        "expected an RFC 3339 timestamp or YYYY-MM-DD"⟩ := by
  have hformat : (TextForm.standardWith fault).format (.date m) = m.display := rfl
  rw [hformat, coerce_date, (trimmed_display m).trimChars_eq, readMoment?_display h]
  by_cases hyear : 0 ≤ m.year ∧ m.year ≤ 9999
  · rw [if_pos hyear, if_pos hyear]
  · rw [if_neg hyear, if_neg hyear]

end Coercion

open Coercion in
/-- What has been read as a date is read again from the text it is written as exactly if its year in
universal time has four digits. -/
theorem date_reread_iff {fault : String → String} {text : String} {v : Value}
    (h : coerce (.standardWith fault) text .date = .ok v) :
    ∃ m : Calendar.Moment, v = .date m ∧
      (coerce (.standardWith fault) ((TextForm.standardWith fault).format v) .date = .ok v ↔
        0 ≤ m.year ∧ m.year ≤ 9999) ∧
      (m.year < 0 ∨ 9999 < m.year →
        coerce (.standardWith fault) ((TextForm.standardWith fault).format v) .date =
          .error ⟨(TextForm.standardWith fault).format v, .date,
            "expected an RFC 3339 timestamp or YYYY-MM-DD"⟩) := by
  rw [coerce_date] at h
  split at h
  next m hm =>
    cases h
    have hagain := coerce_format_date fault (Calendar.isProper_of_readMoment? hm)
    refine ⟨m, rfl, ?_, ?_⟩
    · by_cases hyear : 0 ≤ m.year ∧ m.year ≤ 9999
      · rw [hagain, if_pos hyear]
        exact iff_of_true rfl hyear
      · rw [hagain, if_neg hyear]
        exact iff_of_false nofun hyear
    · intro hyear
      have hrange : ¬(0 ≤ m.year ∧ m.year ≤ 9999) := by omega
      rw [hagain, if_neg hrange]
  next => cases h

/-- A leap second with a fraction, written in the offset of the west coast, and half an hour into
the year zero, which has not begun in universal time. -/
theorem date_reread_iff_leap :
    let leap := Value.date ⟨17166, 86399, 1123456700⟩
    let early := Value.date ⟨-719529, 84600, 0⟩
    (coerce .standard " 2016-12-31T15:59:60.1234567-08:00 " .date = .ok leap ∧
      TextForm.standard.format leap = "2016-12-31T23:59:60.123456700Z" ∧
      coerce .standard (TextForm.standard.format leap) .date = .ok leap) ∧
    coerce .standard "0000-01-01T00:30:00+01:00" .date = .ok early ∧
      TextForm.standard.format early = "-0001-12-31T23:30:00Z" ∧
      coerce .standard (TextForm.standard.format early) .date =
        .error ⟨"-0001-12-31T23:30:00Z", .date, "expected an RFC 3339 timestamp or YYYY-MM-DD"⟩ := by
  intro leap early
  have hleap : coerce .standard " 2016-12-31T15:59:60.1234567-08:00 " .date = .ok leap := by rfl
  have hearly : coerce .standard "0000-01-01T00:30:00+01:00" .date = .ok early := by rfl
  have htext : TextForm.standard.format early = "-0001-12-31T23:30:00Z" := by decide +kernel
  obtain ⟨m, hm, hagain, -⟩ := date_reread_iff hleap
  obtain rfl := Value.date.inj hm
  obtain ⟨m, hm, -, hrefused⟩ := date_reread_iff hearly
  obtain rfl := Value.date.inj hm
  refine ⟨⟨hleap, by decide +kernel, hagain.mpr (by decide)⟩, hearly, htext, ?_⟩
  rw [← htext]
  exact hrefused (.inl (by decide))

/-- The last second of the last year of four digits, an hour west of universal time. -/
theorem last_hour_not_reread :
    let d := Value.date ⟨2932897, 3599, 0⟩
    coerce .standard "9999-12-31T23:59:59-01:00" .date = .ok d ∧
      TextForm.standard.format d = "+10000-01-01T00:59:59Z" ∧
      coerce .standard (TextForm.standard.format d) .date ≠ .ok d := by
  intro d
  have htext : TextForm.standard.format d = "+10000-01-01T00:59:59Z" := by decide +kernel
  have hrefused : coerce .standard "+10000-01-01T00:59:59Z" .date = .error
      ⟨"+10000-01-01T00:59:59Z", .date, "expected an RFC 3339 timestamp or YYYY-MM-DD"⟩ := by rfl
  refine ⟨by rfl, htext, ?_⟩
  rw [htext, hrefused]
  exact nofun

end HyperSchema

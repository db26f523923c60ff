import HyperSchema.Coercion
import HyperSchema.Proofs.Decimal.Digits
import HyperSchema.Proofs.Outcome
import HyperSchema.Proofs.Text.Trimmed

namespace HyperSchema

namespace ValueType

/-- Booleans, integers, texts, links and choices. -/
def isPlain : ValueType → Bool
  | boolean | integer | long | text | link | choice _ => true
  | _ => false

/-- A plain type, or lists of what is such a type itself. -/
def isPlainOrList : ValueType → Bool
  | list element => element.isPlainOrList
  | t => t.isPlain

theorem element?_of_isPlain {T : ValueType} (h : T.isPlain = true) : T.element? = none := by
  cases T with
  | list => cases h
  | _ => rfl

theorem isPlain_of_element? {T : ValueType} (h : T.isPlainOrList = true)
    (hscalar : T.element? = none) : T.isPlain = true := by
  cases T with
  | list => cases hscalar
  | _ => exact h

end ValueType

namespace Coercion
open Decimal Text

variable {fault : String → String}

/-- What can stand between two commas and comes back from there as it is. -/
structure IsElement (cs : List Char) : Prop where
  trimmed : Trimmed cs
  undivided : ',' ∉ cs

/-- Not empty, and without blanks and commas. -/
structure IsWord (cs : List Char) : Prop where
  nonempty : cs ≠ []
  unblank : ∀ c ∈ cs, isBlank c = false
  undivided : ',' ∉ cs

theorem IsWord.isElement {cs : List Char} (h : IsWord cs) : IsElement cs :=
  ⟨trimmed_of_forall h.unblank, h.undivided⟩

theorem isWord_of_all {cs : List Char} (hne : cs ≠ [])
    (h : cs.all (fun c => !isBlank c && c != ',') = true) : IsWord cs := by
  simp only [List.all_eq_true, Bool.and_eq_true, Bool.not_eq_true', bne_iff_ne] at h
  exact ⟨hne, fun c hc => (h c hc).1, fun hcomma => (h ',' hcomma).2 rfl⟩

theorem isWord_boolean (b : Bool) : IsWord (Value.boolean b).display.toList := by
  cases b with
  | true => exact isWord_of_all (by decide) (by decide)
  | false => exact isWord_of_all (by decide) (by decide)

theorem readScalar_boolean (b : Bool) :
    readScalar fault (Value.boolean b).display .boolean = .ok (.boolean b) := by
  cases b <;> rfl

theorem isBlank_of_isDigit {c : Char} (h : c.isDigit = true) : isBlank c = false := by
  have hbounds := isDigit_iff.mp h
  have hlow : 48 ≤ c.toNat := hbounds.1
  have hhigh : c.toNat ≤ 57 := hbounds.2
  simp only [isBlank, blanks, Ranges.contains, List.any_cons, List.any_nil, Bool.or_false,
    Bool.or_eq_false_iff, Bool.and_eq_false_iff, decide_eq_false_iff_not]
  omega

theorem isBlank_of_mem_toString {n : Int} {c : Char} (h : c ∈ (toString n).toList) :
    isBlank c = false := by
  obtain hdigit | rfl := isDigit_of_mem_toString h
  · exact isBlank_of_isDigit hdigit
  · decide

theorem isWord_toString (n : Int) : IsWord (toString n).toList := by
  refine ⟨?_, fun c => isBlank_of_mem_toString, ?_⟩
  · rw [toList_toString]
    split
    next => exact List.cons_ne_nil _ _
    next => exact Nat.toDigits_ne_nil
  · intro hcomma
    obtain hdigit | hminus := isDigit_of_mem_toString hcomma
    · cases hdigit
    · cases hminus

theorem trimChars_toString (n : Int) : trimChars (toString n).toList = (toString n).toList :=
  (isWord_toString n).isElement.trimmed.trimChars_eq

theorem readScalar_integer (k : Int32) :
    readScalar fault (Value.integer k).display .integer = .ok (.integer k) := by
  have hhigh : k.toInt ≤ Int32.maxValue.toInt := by
    have hlt := Int32.toInt_lt k
    have hmax : Int32.maxValue.toInt = 2 ^ 31 - 1 := by decide
    omega
  have hread : readInteger Int32.minValue.toInt Int32.maxValue.toInt (toString k.toInt).toList =
      .ok k.toInt := by
    apply readInteger_toString (by decide) (by decide) _ hhigh
    exact Int32.le_toInt k
  simp only [readScalar, Value.display, trimChars_toString, hread, Int32.ofInt_toInt]

theorem readScalar_long (k : Int64) :
    readScalar fault (Value.long k).display .long = .ok (.long k) := by
  have hhigh : k.toInt ≤ highestLong := by
    have hlt := Int64.toInt_lt k
    have hmax : highestLong = 2 ^ 63 - 1 := by decide
    omega
  have hread : readInteger lowestLong highestLong (toString k.toInt).toList = .ok k.toInt := by
    apply readInteger_toString (by decide) (by decide) _ hhigh
    exact Int64.le_toInt k
  simp only [readScalar, Value.display, trimChars_toString, hread, Int64.ofInt_toInt]

/-- How a value read from a text is written: as it was, without the blanks around it, or as a word
of its own. -/
structure Reread (fault : String → String) (s : String) (T : ValueType) (v : Value) : Prop where
  again : readScalar fault v.display T = .ok v
  written : v.display.toList = s.toList ∨ v.display.toList = trimChars s.toList ∨
    IsWord v.display.toList

theorem reread {s : String} {T : ValueType} {v : Value} (hT : T.isPlain = true)
    (h : readScalar fault s T = .ok v) : Reread fault s T v := by
  cases T with
  | boolean =>
    have hboolean : ∃ b, v = .boolean b := by
      simp only [readScalar] at h
      split at h
      next => cases h; exact ⟨true, rfl⟩
      next =>
        split at h
        next => cases h; exact ⟨false, rfl⟩
        next => cases h
    obtain ⟨b, rfl⟩ := hboolean
    exact ⟨readScalar_boolean b, .inr (.inr (isWord_boolean b))⟩
  | integer =>
    have hinteger : ∃ k, v = .integer k := by
      simp only [readScalar] at h
      split at h
      next => cases h; exact ⟨_, rfl⟩
      next => cases h
    obtain ⟨k, rfl⟩ := hinteger
    exact ⟨readScalar_integer k, .inr (.inr (isWord_toString k.toInt))⟩
  | long =>
    have hlong : ∃ k, v = .long k := by
      simp only [readScalar] at h
      split at h
      next => cases h; exact ⟨_, rfl⟩
      next => cases h
    obtain ⟨k, rfl⟩ := hlong
    exact ⟨readScalar_long k, .inr (.inr (isWord_toString k.toInt))⟩
  | text =>
    cases h
    exact ⟨rfl, .inl rfl⟩
  | link =>
    simp only [readScalar] at h
    split at h
    next => cases h
    next hne =>
      cases h
      refine ⟨?_, .inr (.inl (String.toList_ofList))⟩
      simp only [readScalar, Value.display, String.toList_ofList, trimChars_trimChars, if_neg hne]
  | choice options =>
    simp only [readScalar] at h
    split at h
    next hoption =>
      cases h
      refine ⟨?_, .inr (.inl (String.toList_ofList))⟩
      simp only [readScalar, Value.display, String.toList_ofList, trimChars_trimChars,
        if_pos hoption]
    next => cases h
  | _ => cases hT

namespace Reread

variable {s : String} {T : ValueType} {v : Value}

theorem written_of_isElement (h : Reread fault s T v) (hs : IsElement s.toList) :
    v.display.toList = s.toList ∨ IsWord v.display.toList := by
  have hwritten := h.written
  rw [hs.trimmed.trimChars_eq] at hwritten
  obtain hsame | hsame | hword := hwritten
  · exact .inl hsame
  · exact .inl hsame
  · exact .inr hword

theorem isElement (h : Reread fault s T v) (hs : IsElement s.toList) :
    IsElement v.display.toList := by
  obtain hsame | hword := h.written_of_isElement hs
  · rw [hsame]
    exact hs
  · exact hword.isElement

theorem eq_nil (h : Reread fault s T v) (hs : IsElement s.toList) (hnil : v.display.toList = []) :
    s.toList = [] := by
  obtain hsame | hword := h.written_of_isElement hs
  · rw [← hsame, hnil]
  · exact absurd hnil hword.nonempty

end Reread

theorem bracketed?_brackets (cs : List Char) :
    bracketed? (String.ofList ('[' :: (cs ++ [']']))) = some (trimChars cs) := by
  have htrimmed : Trimmed ('[' :: (cs ++ [']'])) := by
    refine ⟨?_, ?_⟩
    · intro c hc
      cases hc
      decide
    · intro c hc
      rw [← List.cons_append, List.getLast?_concat] at hc
      cases hc
      decide
  rw [bracketed?, String.toList_ofList, htrimmed.trimChars_eq]
  simp only [List.getLast?_concat, if_true, List.dropLast_concat]

theorem trimmed_of_bracketed? {text : String} {content : List Char}
    (h : bracketed? text = some content) : Trimmed content := by
  unfold bracketed? at h
  split at h
  next =>
    split at h
    next =>
      cases h
      exact trimmed_trimChars _
    next => cases h
  next => cases h

/-- The elements that are read are the trimmed pieces between commas, unless there is nothing. -/
theorem readList_eq_ok_iff {parse : Parse} {text : String} {element : ValueType}
    {items : List Value} : readList parse text element = .ok items ↔
      ∃ content, bracketed? text = some content ∧ element.element? = none ∧
        (content = [] ∧ items = [] ∨ content ≠ [] ∧
          List.Forall₂ (fun piece item => parse (String.ofList piece) element = .ok item)
            ((splitChars ',' content).map trimChars) items) := by
  unfold readList
  cases bracketed? text with
  | none => simp only [reduceCtorEq, false_and, exists_false]
  | some content =>
    simp only [Option.some.injEq, exists_eq_left', Option.isSome_iff_ne_none, ite_not]
    by_cases helement : element.element? = none
    · simp only [if_pos helement, List.isEmpty_iff, List.forall₂_map_left_iff, ← mapM_eq_ok_iff]
      by_cases hcontent : content = []
      · simp only [hcontent, if_true, helement, true_and, ne_eq, not_true_eq_false, false_and,
          or_false, Except.ok.injEq, eq_comm]
      · simp only [hcontent, if_false, helement, true_and, ne_eq, not_false_eq_true, false_and,
          false_or]
    · simp only [helement, if_false, reduceCtorEq, false_and]

theorem toList_display_list (items : List Value) : (Value.list items).display.toList =
    '[' :: ([',', ' '].intercalate (items.map fun item => item.display.toList) ++ [']']) := by
  have hitems : Value.displayItems items = items.map Value.display := by
    induction items with
    | nil => rfl
    | cons item items ih => rw [Value.displayItems, ih, List.map_cons]
  rw [Value.display, joinWith, hitems, String.toList_append, String.toList_append,
    String.toList_intercalate, List.map_map]
  rfl

theorem isElement_of_mem_pieces {content piece : List Char}
    (h : piece ∈ (splitChars ',' content).map trimChars) : IsElement piece := by
  obtain ⟨part, hpart, rfl⟩ := List.mem_map.mp h
  exact ⟨trimmed_trimChars part, fun hcomma =>
    not_mem_of_mem_splitChars hpart (mem_of_mem_trimChars hcomma)⟩

/-- A text that is one piece only and has nothing in it is empty. -/
theorem eq_nil_of_pieces_eq {content : List Char} (htrimmed : Trimmed content)
    (h : (splitChars ',' content).map trimChars = [[]]) : content = [] := by
  obtain ⟨part, hpart, hnil⟩ := List.map_eq_singleton_iff.mp h
  rw [← eq_of_splitChars_eq_singleton hpart] at htrimmed ⊢
  rw [← htrimmed.trimChars_eq, hnil]

/-- Written elements are pieces again when they are split and trimmed. -/
theorem pieces_of_written {written : List (List Char)} (hne : written ≠ [])
    (h : ∀ w ∈ written, IsElement w) :
    (splitChars ',' (trimChars ([',', ' '].intercalate written))).map trimChars = written := by
  have hcomma : isBlank ',' = false := by decide
  have hblank : isBlank ' ' = true := by decide
  have hsame : written.map trimChars = written := by
    conv_rhs => rw [← List.map_id written]
    exact List.map_congr_left fun w hw => (h w hw).trimmed.trimChars_eq
  rw [map_trimChars_splitChars_trimChars hcomma,
    map_trimChars_splitChars_intercalate hcomma hblank hne fun w hw => (h w hw).undivided, hsame]

/-- Elements that are read again each on its own are read again from the list that is written of
them, except for a single empty one, of which nothing is left between the brackets. -/
theorem readList_display {element : ValueType} {items : List Value}
    (hscalar : element.element? = none)
    (heach : ∀ item ∈ items, IsElement item.display.toList ∧
      readScalar fault item.display element = .ok item)
    (hsingle : items.map (fun item => item.display.toList) ≠ [[]]) :
    readList (readScalar fault) (Value.list items).display element = .ok items := by
  have hbrackets := bracketed?_brackets
    ([',', ' '].intercalate (items.map fun item => item.display.toList))
  rw [← toList_display_list, String.ofList_toList] at hbrackets
  apply readList_eq_ok_iff.mpr
  refine ⟨_, hbrackets, hscalar, ?_⟩
  by_cases hnil : items = []
  · rw [hnil]
    exact .inl ⟨rfl, rfl⟩
  have hpieces := pieces_of_written (mt List.map_eq_nil_iff.mp hnil)
    (List.forall_mem_map.mpr fun item hitem => (heach item hitem).1)
  refine .inr ⟨?_, ?_⟩
  · intro hcontent
    rw [hcontent] at hpieces
    exact hsingle hpieces.symm
  · rw [hpieces, List.forall₂_map_left_iff, List.forall₂_same]
    intro item hitem
    rw [String.ofList_toList]
    exact (heach item hitem).2

/-- Each element of a list that was read has been read from a piece of the text. -/
theorem reread_of_readList {text : String} {element : ValueType} {items : List Value}
    (helement : element.isPlain = true) (h : readList (readScalar fault) text element = .ok items) :
    ∃ pieces, pieces ≠ [[]] ∧ List.Forall₂
      (fun piece item => IsElement piece ∧ Reread fault (String.ofList piece) element item)
      pieces items := by
  obtain ⟨content, hcontent, -, hitems⟩ := readList_eq_ok_iff.mp h
  obtain ⟨-, rfl⟩ | ⟨hne, hitems⟩ := hitems
  · exact ⟨[], nofun, .nil⟩
  · refine ⟨(splitChars ',' content).map trimChars, ?_, ?_⟩
    · intro hsingle
      exact hne (eq_nil_of_pieces_eq (trimmed_of_bracketed? hcontent) hsingle)
    · rw [List.forall₂_and_left]
      exact ⟨fun piece => isElement_of_mem_pieces, hitems.imp fun piece item => reread helement⟩

theorem readList_again {text : String} {element : ValueType} {items : List Value}
    (helement : element.isPlain = true) (h : readList (readScalar fault) text element = .ok items) :
    readList (readScalar fault) (Value.list items).display element = .ok items := by
  obtain ⟨-, -, hscalar, -⟩ := readList_eq_ok_iff.mp h
  obtain ⟨pieces, hpieces, hreread⟩ := reread_of_readList helement h
  apply readList_display hscalar
  · refine (forall_mem_iff_of_forall₂ (P := fun _ => True) ?_ hreread).mp fun _ _ => trivial
    rintro piece item ⟨hpiece, hitem⟩
    rw [← String.toList_ofList (l := piece)] at hpiece
    exact iff_of_true trivial ⟨hitem.isElement hpiece, hitem.again⟩
  · -- a single element that is written as nothing has been read from nothing
    intro hsingle
    obtain ⟨item, rfl, hitem⟩ := List.map_eq_singleton_iff.mp hsingle
    obtain ⟨piece, rest, ⟨hpiece, hagain⟩, hrest, rfl⟩ :=
      List.forall₂_cons_right_iff.mp hreread
    rw [← String.toList_ofList (l := piece)] at hpiece
    have hempty := hagain.eq_nil hpiece hitem
    rw [String.toList_ofList] at hempty
    apply hpieces
    rw [hempty, List.forall₂_nil_right_iff.mp hrest]

theorem parse_of_element? {T : ValueType} (h : T.element? = none) (text : String) :
    (TextForm.standardWith fault).parse text T = readScalar fault text T := by
  cases T with
  | list => cases h
  | _ => simp only [TextForm.standardWith]

theorem coerce_of_element? {T : ValueType} (h : T.element? = none) (text : String) :
    coerce (.standardWith fault) text T = readScalar fault text T := by
  rw [← parse_of_element? h]
  cases T with
  | list => cases h
  | _ => simp only [coerce]

theorem coerce_of_isPlain {T : ValueType} (hT : T.isPlain = true) (text : String) :
    coerce (.standardWith fault) text T = readScalar fault text T :=
  coerce_of_element? (ValueType.element?_of_isPlain hT) text

theorem coerce_list_of_isPlain {element : ValueType} (helement : element.isPlain = true)
    (text : String) : coerce (.standardWith fault) text (.list element) =
      (readList (readScalar fault) text element).map .list := by
  rw [coerce, readList, readList]
  simp only [parse_of_element? (ValueType.element?_of_isPlain helement)]

end Coercion

open Coercion in
/-- What has been read from text is read again from the text it is written as. -/
theorem coerce_format {fault : String → String} {text : String} {T : ValueType} {v : Value}
    (hT : T.isPlainOrList = true) (h : coerce (.standardWith fault) text T = .ok v) :
    coerce (.standardWith fault) ((TextForm.standardWith fault).format v) T = .ok v := by
  by_cases hlist : ∃ element, T = .list element
  · obtain ⟨element, rfl⟩ := hlist
    -- lists of lists are written, but never read
    have hscalar : element.element? = none := by
      obtain ⟨items, hitems, -⟩ := map_eq_ok_iff.mp h
      obtain ⟨-, -, hscalar, -⟩ := readList_eq_ok_iff.mp hitems
      exact hscalar
    have helement := ValueType.isPlain_of_element? (T := element) hT hscalar
    rw [coerce_list_of_isPlain helement, map_eq_ok_iff] at h
    obtain ⟨items, hitems, rfl⟩ := h
    rw [coerce_list_of_isPlain helement, map_eq_ok_iff]
    exact ⟨items, readList_again helement hitems, rfl⟩
  · have hscalar : T.element? = none := by
      cases T with
      | list element => exact absurd ⟨element, rfl⟩ hlist
      | _ => rfl
    have hplain := ValueType.isPlain_of_element? hT hscalar
    rw [coerce_of_isPlain hplain] at h ⊢
    exact (reread hplain h).again

/-- Empty elements, brackets and blanks inside of one, and the integers at the limits. -/
theorem coerce_format_limits :
    let texts := Value.list [.text "", .text "[a  b]", .text ""]
    let integers := Value.list [.integer Int32.minValue, .integer Int32.maxValue]
    let longs := Value.list [.long Int64.minValue, .long Int64.maxValue]
    (coerce .standard " [ ,[a  b]  ,  ] " (.list .text) = .ok texts ∧
      TextForm.standard.format texts = "[, [a  b], ]" ∧
      coerce .standard (TextForm.standard.format texts) (.list .text) = .ok texts) ∧
    (coerce .standard "[-02147483648, +2147483647]" (.list .integer) = .ok integers ∧
      coerce .standard (TextForm.standard.format integers) (.list .integer) = .ok integers) ∧
    (coerce .standard "[-9223372036854775808,9223372036854775807 ]" (.list .long) = .ok longs ∧
      coerce .standard (TextForm.standard.format longs) (.list .long) = .ok longs) ∧
    coerce .standard " [ ] " (.list .link) = .ok (.list []) ∧
      coerce .standard (TextForm.standard.format (.list [])) (.list .link) = .ok (.list []) := by
  intro texts integers longs
  have htexts : coerce .standard " [ ,[a  b]  ,  ] " (.list .text) = .ok texts := by rfl
  have hintegers : coerce .standard "[-02147483648, +2147483647]" (.list .integer) =
      .ok integers := by rfl
  have hlongs : coerce .standard "[-9223372036854775808,9223372036854775807 ]" (.list .long) =
      .ok longs := by rfl
  have hnone : coerce .standard " [ ] " (.list .link) = .ok (.list []) := by rfl
  exact ⟨⟨htexts, by decide +kernel, coerce_format rfl htexts⟩,
    ⟨hintegers, coerce_format rfl hintegers⟩, ⟨hlongs, coerce_format rfl hlongs⟩,
    hnone, coerce_format rfl hnone⟩

end HyperSchema

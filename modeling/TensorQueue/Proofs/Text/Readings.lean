import Mathlib.Data.List.TakeWhile
import TensorQueue.Text.Blank
import TensorQueue.Text.Fields
import TensorQueue.Text.Unsigned

/-!
# What is read from text

Text is described here by how it is put together: a core with white space around
it, fields with separators between them, digits with a plus sign in front or
without. What the readers make of a text is then just what it was put together
from. A number is read digit by digit, and a partial number is never above the
whole, so it leaves the word only if the whole does.
-/

set_option autoImplicit false

namespace TensorQueue.Text

section Space

variable {text core : List Char}

/-- There is nothing but white space in it. -/
def Blank (text : List Char) : Prop := ∀ c ∈ text, isBlank c = true

/-- There is no white space in it. -/
def Firm (text : List Char) : Prop := ∀ c ∈ text, isBlank c = false

instance : DecidablePred Blank := fun _ => List.decidableBAll _ _

instance : DecidablePred Firm := fun _ => List.decidableBAll _ _

/-- The text is the core with white space before and after it. -/
def Around (text core : List Char) : Prop :=
  ∃ before after, Blank before ∧ Blank after ∧ text = before ++ core ++ after

theorem isBlank_of_visible {c : Char} (above : 0x20 < c.toNat) (below : c.toNat < 0x80) :
    isBlank c = false := by
  simp only [isBlank, Bool.or_eq_false_iff, Bool.and_eq_false_iff, decide_eq_false_iff_not]
  omega

theorem Around.not_mem {c : Char} (h : Around text core) (hb : isBlank c = false)
    (hc : c ∉ core) : c ∉ text := by
  obtain ⟨before, after, front, back, rfl⟩ := h
  intro mem
  rcases List.mem_append.1 mem with mem | mem
  · rcases List.mem_append.1 mem with mem | mem
    · rw [front c mem] at hb
      cases hb
    · exact hc mem
  · rw [back c mem] at hb
    cases hb

theorem around_trim (text : List Char) : Around text (trim text) := by
  have split (l : List Char) : l.takeWhile isBlank ++ l.dropWhile isBlank = l :=
    List.takeWhile_append_dropWhile
  have front := split text
  have back := split (text.dropWhile isBlank).reverse
  refine ⟨text.takeWhile isBlank, ((text.dropWhile isBlank).reverse.takeWhile isBlank).reverse,
    fun c hc => List.mem_takeWhile_imp hc,
    fun c hc => List.mem_takeWhile_imp (List.mem_reverse.1 hc), ?_⟩
  calc text = text.takeWhile isBlank ++ (text.dropWhile isBlank).reverse.reverse := by
        rw [List.reverse_reverse, front]
    _ = text.takeWhile isBlank ++ trim text ++
          ((text.dropWhile isBlank).reverse.takeWhile isBlank).reverse := by
        rw [trim, List.append_assoc, ← List.reverse_append, back]

theorem Firm.dropWhile_append (h : Firm core) (hc : core ≠ []) (rest : List Char) :
    (core ++ rest).dropWhile isBlank = core ++ rest := by
  cases core with
  | nil => exact absurd rfl hc
  | cons c core =>
    have kept : isBlank c = false := h c List.mem_cons_self
    rw [List.cons_append, List.dropWhile_cons_of_neg (by simp [kept])]

theorem trim_of_around (h : Around text core) (hf : Firm core) : trim text = core := by
  obtain ⟨before, after, hb, ha, rfl⟩ := h
  have ha' : Blank after.reverse := fun c hc => ha c (List.mem_reverse.1 hc)
  by_cases hc : core = []
  · subst hc
    have blank : (before ++ [] ++ after).dropWhile isBlank = [] := by
      rw [List.append_nil, List.dropWhile_append_of_pos hb, List.dropWhile_eq_nil_iff]
      exact ha
    rw [trim, blank]
    rfl
  · have firm : Firm core.reverse := fun c hc => hf c (List.mem_reverse.1 hc)
    have kept := firm.dropWhile_append (by simpa using hc) []
    rw [List.append_nil] at kept
    rw [trim, List.append_assoc, List.dropWhile_append_of_pos hb, hf.dropWhile_append hc,
      List.reverse_append, List.dropWhile_append_of_pos ha', kept, List.reverse_reverse]

/-- Only a letter has a lower case of its own, so white space is not made of something else. -/
theorem toLower_of_blank {c : Char} (h : isBlank c = true) : c.toLower = c := by
  refine dif_neg fun upper => ?_
  have above : 65 ≤ c.toNat := UInt32.le_iff_toNat_le.1 upper.1
  have below : c.toNat ≤ 90 := UInt32.le_iff_toNat_le.1 upper.2
  rw [isBlank_of_visible (by omega) (by omega)] at h
  cases h

theorem firm_of_map_toLower (h : Firm (core.map Char.toLower)) : Firm core := by
  intro c hc
  have lower := h c.toLower (List.mem_map_of_mem hc)
  cases hb : isBlank c with
  | false => rfl
  | true =>
    rw [toLower_of_blank hb, hb] at lower
    cases lower

end Space

section Numerals

variable {text digits : List Char} {bound m n : Nat}

/-- One or more decimal digits of ASCII. -/
def Digits (digits : List Char) : Prop := digits ≠ [] ∧ ∀ c ∈ digits, c.isDigit = true

/-- Digits with a plus sign or without, and the number that they denote. -/
inductive Numeral : List Char → Nat → Prop
  | plain {digits : List Char} : Digits digits → Numeral digits (Nat.ofDigitChars 10 digits 0)
  | signed {digits : List Char} : Digits digits →
      Numeral ('+' :: digits) (Nat.ofDigitChars 10 digits 0)

theorem digit?_eq_if (c : Char) :
    digit? c = if c.isDigit = true then some (c.toNat - '0'.toNat) else none := by
  have same : ('0' ≤ c ∧ c ≤ '9') ↔ c.isDigit = true := by
    rw [Char.isDigit, Bool.and_eq_true, decide_eq_true_eq, decide_eq_true_eq]
    rfl
  rw [digit?]
  exact if_congr same rfl rfl

theorem readDigits_cons (bound n : Nat) (c : Char) (rest : List Char) :
    readDigits bound n (c :: rest) =
      if c.isDigit = true then
        if bound ≤ 10 * n + (c.toNat - '0'.toNat) then .error .tooLarge
        else readDigits bound (10 * n + (c.toNat - '0'.toNat)) rest
      else .error .badDigit := by
  rw [readDigits, digit?_eq_if]
  by_cases hc : c.isDigit = true
  · rw [if_pos hc, if_pos hc, ← Nat.mul_comm n 10]
  · rw [if_neg hc, if_neg hc]

theorem le_ofDigitChars (digits : List Char) (n : Nat) : n ≤ Nat.ofDigitChars 10 digits n := by
  rw [Nat.ofDigitChars_eq_ofDigitChars_zero]
  have scale : 1 ≤ 10 ^ digits.length := Nat.one_le_pow _ _ (by decide)
  have scaled := Nat.mul_le_mul_right n scale
  omega

theorem readDigits_eq_ok_iff (hn : n < bound) : readDigits bound n digits = .ok m ↔
    (∀ c ∈ digits, c.isDigit = true) ∧ Nat.ofDigitChars 10 digits n = m ∧ m < bound := by
  induction digits generalizing n with
  | nil =>
    simp only [readDigits, Nat.ofDigitChars_nil, Except.ok.injEq]
    constructor
    · rintro rfl
      exact ⟨by simp, rfl, hn⟩
    · rintro ⟨-, rfl, -⟩
      rfl
  | cons c rest ih =>
    rw [readDigits_cons, List.forall_mem_cons]
    by_cases hc : c.isDigit = true
    · rw [if_pos hc, Nat.ofDigitChars_cons]
      by_cases hb : bound ≤ 10 * n + (c.toNat - '0'.toNat)
      · -- the partial number left the word, and the whole is not below it
        have whole := le_ofDigitChars rest (10 * n + (c.toNat - '0'.toNat))
        rw [if_pos hb]
        constructor
        · intro h
          cases h
        · rintro ⟨-, rfl, inside⟩
          omega
      · rw [if_neg hb, ih (Nat.lt_of_not_le hb)]
        simp [hc]
    · rw [if_neg hc]
      simp [hc]

theorem numeral_plus_iff :
    Numeral ('+' :: digits) n ↔ Digits digits ∧ Nat.ofDigitChars 10 digits 0 = n := by
  constructor
  · rintro (⟨-, digit⟩ | found)
    · exact absurd (digit '+' List.mem_cons_self) (by decide)
    · exact ⟨found, rfl⟩
  · rintro ⟨found, rfl⟩
    exact .signed found

theorem numeral_cons_iff {c : Char} {rest : List Char} (hc : c ≠ '+') :
    Numeral (c :: rest) n ↔ Digits (c :: rest) ∧ Nat.ofDigitChars 10 (c :: rest) 0 = n := by
  constructor
  · rintro (found | found)
    · exact ⟨found, rfl⟩
    · exact absurd rfl hc
  · rintro ⟨found, rfl⟩
    exact .plain found

theorem readUnsigned_cons (bound : Nat) {c : Char} (hc : c ≠ '+') (rest : List Char) :
    readUnsigned bound (c :: rest) = readDigits bound 0 (c :: rest) := by
  unfold readUnsigned
  split
  · rename_i h
    cases h
  · rename_i h
    cases h
    exact absurd rfl hc
  · rename_i h
    cases h
    rfl
  · rename_i h
    cases h
    exact absurd rfl hc
  · rfl

theorem readUnsigned_eq_ok_iff (hb : 0 < bound) :
    readUnsigned bound text = .ok n ↔ Numeral text n ∧ n < bound := by
  cases text with
  | nil =>
    constructor
    · intro h
      cases h
    · rintro ⟨⟨absent, -⟩, -⟩
      exact absurd rfl absent
  | cons c rest =>
    by_cases hc : c = '+'
    · subst hc
      rw [numeral_plus_iff]
      cases rest with
      | nil =>
        constructor
        · intro h
          cases h
        · rintro ⟨⟨⟨absent, -⟩, -⟩, -⟩
          exact absurd rfl absent
      | cons d rest =>
        have signed : readUnsigned bound ('+' :: d :: rest) = readDigits bound 0 (d :: rest) := rfl
        rw [signed, readDigits_eq_ok_iff hb]
        simp [Digits, and_assoc]
    · rw [readUnsigned_cons bound hc, numeral_cons_iff hc, readDigits_eq_ok_iff hb]
      simp [Digits, and_assoc]

/-- A printed number denotes itself. -/
theorem numeral_toString (n : Nat) : Numeral (toString n).toList n := by
  have digits : Digits (toString n).toList := by
    rw [Nat.toString_eq_repr, Nat.toList_repr]
    exact ⟨Nat.toDigits_ne_nil, fun c => Nat.isDigit_of_mem_toDigits (by decide) (by decide)⟩
  have value : Nat.ofDigitChars 10 (toString n).toList 0 = n := by
    rw [Nat.toString_eq_repr, Nat.toList_repr, Nat.ofDigitChars_ten_toDigits]
  have found := Numeral.plain digits
  rwa [value] at found

theorem Numeral.sign_or_digit (h : Numeral text n) : ∀ c ∈ text, c = '+' ∨ c.isDigit = true := by
  cases h with
  | plain found => exact fun c hc => .inr (found.2 c hc)
  | signed found =>
    rw [List.forall_mem_cons]
    exact ⟨.inl rfl, fun c hc => .inr (found.2 c hc)⟩

theorem Numeral.firm (h : Numeral text n) : Firm text := by
  intro c hc
  rcases h.sign_or_digit c hc with rfl | digit
  · decide
  · rw [Char.isDigit, Bool.and_eq_true, decide_eq_true_eq, decide_eq_true_eq] at digit
    have above : 48 ≤ c.toNat := UInt32.le_iff_toNat_le.1 digit.1
    have below : c.toNat ≤ 57 := UInt32.le_iff_toNat_le.1 digit.2
    exact isBlank_of_visible (by omega) (by omega)

end Numerals

section Separators

theorem fields_eq_splitOn (separator : Char) (text : List Char) :
    fields separator text = text.splitOn separator := by
  induction text with
  | nil => rfl
  | cons c rest ih =>
    rw [fields, ih, List.splitOn_cons_eq_if_modifyHead]
    by_cases hc : c = separator
    · rw [if_pos hc, if_pos (by simpa using hc)]
    · rw [if_neg hc, if_neg (by simpa using hc)]
      have some := List.splitOn_ne_nil separator rest
      obtain ⟨field, others, found⟩ := List.exists_cons_of_ne_nil some
      rw [found]
      rfl

theorem intercalate_fields (separator : Char) (text : List Char) :
    [separator].intercalate (fields separator text) = text := by
  rw [fields_eq_splitOn, List.intercalate_splitOn]

/-- The fields of a text are those that it was put together from. -/
theorem fields_intercalate {separator : Char} {items : List (List Char)}
    (h : ∀ item ∈ items, separator ∉ item) (hi : items ≠ []) :
    fields separator ([separator].intercalate items) = items := by
  rw [fields_eq_splitOn, List.splitOn_intercalate separator h hi]

end Separators

end TensorQueue.Text

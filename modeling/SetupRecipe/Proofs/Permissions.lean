import Mathlib.Data.List.Induction
import Mathlib.Data.Nat.Digits.Defs
import SetupRecipe.Shell.Mode

/-!
# Permission values in octal digits

Reading the octal digits of a permission value gives the value, also when it is larger than a script
can use. Nothing else is read, except for the same digits behind marks, as many as there are, and a plus
sign. A script holds the only four octal digits that stand for the value.
-/

namespace SetupRecipe.Shell

lemma octalValue?_append (digits : List Char) (c : Char) :
    octalValue? (digits ++ [c]) =
      (octalValue? digits).bind fun n => (octalDigit? c).map (8 * n + ·) := by
  unfold octalValue?
  rw [List.foldlM_append]
  cases digits.foldlM (fun n c => (octalDigit? c).map (8 * n + ·)) 0 with
  | none => rfl
  | some n => simp

lemma octalDigit?_digitChar {d : Nat} (h : d < 8) : octalDigit? (Nat.digitChar d) = some d := by
  revert d
  decide

lemma octalValue?_toDigits (n : Nat) : octalValue? (Nat.toDigits 8 n) = some n := by
  induction n using Nat.strongRecOn with
  | ind n ih =>
    by_cases h : n < 8
    · rw [Nat.toDigits_of_lt_base h, ← List.nil_append [n.digitChar], octalValue?_append,
        octalDigit?_digitChar h]
      simp [octalValue?]
    · have hle : 8 ≤ n := Nat.le_of_not_lt h
      rw [Nat.toDigits_of_base_le (by decide) hle, octalValue?_append,
        ih (n / 8) (Nat.div_lt_self (by omega) (by decide)),
        octalDigit?_digitChar (Nat.mod_lt n (by decide)), Option.bind_some, Option.map_some,
        Nat.div_add_mod]

lemma dropOctalMarks_of_digits {digits : List Char} (h : ∀ c ∈ digits, c.isDigit) :
    dropOctalMarks digits = digits := by
  unfold dropOctalMarks
  split
  · have ho := h 'o' (by simp)
    exact absurd ho (by decide)
  · rfl

lemma dropPlus_of_digits {digits : List Char} (h : ∀ c ∈ digits, c.isDigit) :
    dropPlus digits = digits := by
  unfold dropPlus
  split
  · have hplus := h '+' (by simp)
    exact absurd hplus (by decide)
  · rfl

/-! ## What is read -/

/-- Octal digits, of which there is at least one, with the number that they stand for. -/
structure IsOctal (digits : List Char) (n : Nat) : Prop where
  nonempty : digits ≠ []
  octal : ∀ c ∈ digits, '0' ≤ c ∧ c ≤ '7'
  value : Nat.ofDigitChars 8 digits 0 = n

/-- A text of octal digits behind some marks and a sign. -/
def SpellsMode (marks : Nat) (sign : List Char) (text : String) (mode : UInt32) : Prop :=
  ∃ digits, IsOctal digits mode.toNat ∧
    text.toList = (List.replicate marks ['0', 'o']).flatten ++ (sign ++ digits)

lemma octalValue?_eq_some_iff {digits : List Char} {n : Nat} :
    octalValue? digits = some n ↔
      (∀ c ∈ digits, '0' ≤ c ∧ c ≤ '7') ∧ Nat.ofDigitChars 8 digits 0 = n := by
  have hfold : ∀ start, digits.foldlM (fun n c => (octalDigit? c).map (8 * n + ·)) start = some n ↔
      (∀ c ∈ digits, '0' ≤ c ∧ c ≤ '7') ∧ Nat.ofDigitChars 8 digits start = n := by
    induction digits with
    | nil => simp
    | cons c digits ih =>
      intro start
      rw [List.foldlM_cons, Nat.ofDigitChars_cons, List.forall_mem_cons, and_assoc]
      by_cases hc : '0' ≤ c ∧ c ≤ '7'
      · have hdigit : octalDigit? c = some (c.toNat - '0'.toNat) := if_pos hc
        rw [hdigit]
        simpa [hc] using ih _
      · have hdigit : octalDigit? c = none := if_neg hc
        rw [hdigit]
        simp [hc]
  exact hfold 0

lemma exists_dropOctalMarks (chars : List Char) :
    ∃ marks, chars = (List.replicate marks ['0', 'o']).flatten ++ dropOctalMarks chars := by
  induction chars using dropOctalMarks.induct with
  | case1 rest ih =>
    obtain ⟨marks, hrest⟩ := ih
    refine ⟨marks + 1, ?_⟩
    rw [dropOctalMarks, List.replicate_succ, List.flatten_cons, List.append_assoc, ← hrest]
    rfl
  | case2 chars h =>
    refine ⟨0, ?_⟩
    rw [dropOctalMarks]
    · rfl
    · exact h

lemma dropOctalMarks_replicate (marks : Nat) (rest : List Char) :
    dropOctalMarks ((List.replicate marks ['0', 'o']).flatten ++ rest) = dropOctalMarks rest := by
  induction marks with
  | zero => rfl
  | succ marks ih =>
    rw [List.replicate_succ, List.flatten_cons, List.append_assoc]
    exact ih

lemma IsOctal.isDigit {digits : List Char} {n : Nat} (h : IsOctal digits n) :
    ∀ c ∈ digits, c.isDigit := by
  intro c hc
  obtain ⟨hlow, hhigh⟩ := h.octal c hc
  have hnine : c ≤ '9' := Char.le_trans hhigh (by decide)
  simp only [Char.isDigit, Bool.and_eq_true, decide_eq_true_eq]
  exact ⟨hlow, hnine⟩

/-- The digits behind the sign are all that a value is read from. -/
lemma readMode?_of_digits {text : String} {digits : List Char} {mode : UInt32}
    (hdigits : IsOctal digits mode.toNat) (h : dropPlus (dropOctalMarks text.toList) = digits) :
    readMode? text = some mode := by
  unfold readMode?
  rw [h]
  split
  · next => exact absurd rfl hdigits.nonempty
  · rw [octalValue?_eq_some_iff.mpr ⟨hdigits.octal, hdigits.value⟩]
    simp [mode.toNat_lt_size]

lemma exists_dropPlus (chars : List Char) :
    chars = dropPlus chars ∨ chars = '+' :: dropPlus chars := by
  unfold dropPlus
  split
  · exact Or.inr rfl
  · exact Or.inl rfl

/-- A value is read from octal digits behind any number of marks and a plus sign or none. -/
theorem readMode?_eq_some_iff {text : String} {mode : UInt32} :
    readMode? text = some mode ↔
      ∃ marks, SpellsMode marks [] text mode ∨ SpellsMode marks ['+'] text mode := by
  constructor
  · intro h
    obtain ⟨marks, hmarks⟩ := exists_dropOctalMarks text.toList
    have hdigits : IsOctal (dropPlus (dropOctalMarks text.toList)) mode.toNat := by
      unfold readMode? at h
      split at h
      · exact nomatch h
      · next digits hne =>
        obtain ⟨n, hn, h⟩ := Option.bind_eq_some_iff.mp h
        obtain ⟨hoctal, hvalue⟩ := octalValue?_eq_some_iff.mp hn
        by_cases hsize : n < UInt32.size
        · rw [if_pos hsize, Option.some.injEq] at h
          refine ⟨hne, hoctal, ?_⟩
          rw [hvalue, ← h]
          exact (UInt32.toNat_ofNat_of_lt hsize).symm
        · rw [if_neg hsize] at h
          exact nomatch h
    refine ⟨marks, ?_⟩
    rcases exists_dropPlus (dropOctalMarks text.toList) with hsign | hsign
    · exact Or.inl ⟨_, hdigits, by rw [List.nil_append, ← hsign, ← hmarks]⟩
    · exact Or.inr ⟨_, hdigits, by rw [List.singleton_append, ← hsign, ← hmarks]⟩
  · rintro ⟨marks, ⟨digits, hdigits, htext⟩ | ⟨digits, hdigits, htext⟩⟩
    · apply readMode?_of_digits hdigits
      rw [htext, dropOctalMarks_replicate, List.nil_append, dropOctalMarks_of_digits hdigits.isDigit,
        dropPlus_of_digits hdigits.isDigit]
    · apply readMode?_of_digits hdigits
      rw [htext, dropOctalMarks_replicate]
      rfl

lemma isOctal_toDigits (n : Nat) : IsOctal (Nat.toDigits 8 n) n :=
  have hread := octalValue?_eq_some_iff.mp (octalValue?_toDigits n)
  ⟨Nat.toDigits_ne_nil, hread.1, hread.2⟩

/-- The octal digits of a permission value are read as the value. -/
theorem readMode?_octalDigits (mode : UInt32) : readMode? (octalDigits mode) = some mode := by
  exact readMode?_eq_some_iff.mpr ⟨0, Or.inl ⟨_, isOctal_toDigits mode.toNat, String.toList_ofList⟩⟩

/-! ## What is written -/

/-- Four octal digits that stand for a permission value. -/
structure IsMode (digits : String) (mode : UInt32) : Prop where
  four : digits.length = 4
  octal : IsOctal digits.toList mode.toNat

lemma isMode_of_octalMode? {mode : UInt32} {digits : String} (h : octalMode? mode = some digits) :
    IsMode digits mode := by
  unfold octalMode? at h
  rw [Option.ite_none_right_eq_some] at h
  obtain ⟨hmode, h⟩ := h
  obtain rfl := Option.some.inj h
  have hdigits := isOctal_toDigits mode.toNat
  have hshort : (Nat.toDigits 8 mode.toNat).length ≤ 4 := by
    apply Nat.toDigits_length _ _ _ (by decide)
    exact Nat.lt_succ_of_le (UInt32.le_iff_toNat_le.mp hmode)
  refine ⟨?_, ?_, ?_, ?_⟩
  · rw [String.length_ofList, List.length_leftpad, Nat.max_eq_left hshort]
  · rw [String.toList_ofList]
    exact List.append_ne_nil_of_right_ne_nil _ hdigits.nonempty
  · intro c hc
    rw [String.toList_ofList, List.leftpad, List.mem_append] at hc
    rcases hc with hzero | hc
    · rw [List.eq_of_mem_replicate hzero]
      decide
    · exact hdigits.octal c hc
  · rw [String.toList_ofList, List.leftpad, Nat.ofDigitChars_append, Nat.ofDigitChars_replicate_zero,
      Nat.mul_zero]
    exact hdigits.value

lemma eq_of_ofDigitChars_eq {digits others : List Char} (hdigits : ∀ c ∈ digits, '0' ≤ c ∧ c ≤ '7')
    (hothers : ∀ c ∈ others, '0' ≤ c ∧ c ≤ '7') (hlength : digits.length = others.length)
    (h : Nat.ofDigitChars 8 digits 0 = Nat.ofDigitChars 8 others 0) : digits = others := by
  have hrange : ∀ {c : Char}, '0' ≤ c ∧ c ≤ '7' → 48 ≤ c.toNat ∧ c.toNat ≤ 55 :=
    fun hc => ⟨UInt32.le_iff_toNat_le.mp hc.1, UInt32.le_iff_toNat_le.mp hc.2⟩
  induction digits using List.reverseRecOn generalizing others with
  | nil => exact (List.eq_nil_of_length_eq_zero hlength.symm).symm
  | append_singleton digits c ih =>
    obtain rfl | ⟨others, d, rfl⟩ := List.eq_nil_or_concat others
    · simp at hlength
    · rw [List.concat_eq_append] at hothers hlength h ⊢
      simp only [List.forall_mem_append, List.forall_mem_singleton] at hdigits hothers
      have hc := hrange hdigits.2
      have hd := hrange hothers.2
      -- the last digits are the remainders, and the others stand for the quotients
      simp only [Nat.ofDigitChars_append, Nat.ofDigitChars_cons, Nat.ofDigitChars_nil,
        Char.reduceToNat] at h
      have hlast : c = d := Char.toNat_inj.mp (by omega)
      have hrest : Nat.ofDigitChars 8 digits 0 = Nat.ofDigitChars 8 others 0 := by omega
      rw [ih hdigits.1 hothers.1 (by simpa using hlength) hrest, hlast]

lemma IsMode.unique {digits others : String} {mode : UInt32} (h : IsMode digits mode)
    (h' : IsMode others mode) : digits = others := by
  rw [← String.toList_inj]
  apply eq_of_ofDigitChars_eq h.octal.octal h'.octal.octal
  · rw [String.length_toList, String.length_toList, h.four, h'.four]
  · rw [h.octal.value, h'.octal.value]

/-! ## Slips -/

/-- A text that begins with two marks, or with a sign behind a mark or none. -/
def HasSlip (text : String) : Prop := ∃ slip ∈ ["0o0o", "+", "0o+"], slip.toList <+: text.toList

lemma hasSlip_of_marks {marks : Nat} {text : String} {rest : List Char} (hmarks : 1 < marks)
    (h : text.toList = (List.replicate marks ['0', 'o']).flatten ++ rest) : HasSlip text := by
  obtain ⟨more, rfl⟩ := Nat.exists_eq_add_of_lt hmarks
  refine ⟨"0o0o", by simp, ?_⟩
  rw [h, Nat.add_assoc, Nat.add_comm 1, Nat.add_assoc, List.replicate_succ, List.replicate_succ,
    List.flatten_cons, List.flatten_cons]
  exact List.prefix_append ['0', 'o', '0', 'o'] _

/-- All other texts that are read have one mark at most and no sign. -/
lemma spellsMode_of_plain {marks : Nat} {text : String} {mode : UInt32} (hplain : ¬ HasSlip text)
    (h : SpellsMode marks [] text mode ∨ SpellsMode marks ['+'] text mode) :
    marks ≤ 1 ∧ SpellsMode marks [] text mode := by
  have hmarks : marks ≤ 1 := by
    apply Nat.le_of_not_lt
    intro hmany
    rcases h with ⟨digits, -, htext⟩ | ⟨digits, -, htext⟩
    · exact hplain (hasSlip_of_marks hmany htext)
    · exact hplain (hasSlip_of_marks hmany htext)
  refine ⟨hmarks, ?_⟩
  rcases h with h | ⟨digits, -, htext⟩
  · exact h
  · exfalso
    apply hplain
    obtain rfl | rfl : marks = 0 ∨ marks = 1 := by omega
    · exact ⟨"+", by simp, digits, htext.symm⟩
    · exact ⟨"0o+", by simp, digits, htext.symm⟩

/-- The digits hold neither marks nor signs. -/
lemma not_hasSlip_of_spells {marks : Nat} {text : String} {mode : UInt32} (hmarks : marks ≤ 1)
    (h : SpellsMode marks [] text mode) : ¬ HasSlip text := by
  obtain ⟨digits, hdigits, htext⟩ := h
  have ho : 'o' ∉ digits := fun hmem => absurd (hdigits.octal 'o' hmem) (by decide)
  have hplus : '+' ∉ digits := fun hmem => absurd (hdigits.octal '+' hmem) (by decide)
  rintro ⟨slip, hslip, rest, hrest⟩
  rw [htext] at hrest
  simp only [List.mem_cons, List.not_mem_nil, or_false] at hslip
  obtain rfl | rfl : marks = 0 ∨ marks = 1 := by omega
  · have hbegins : slip.toList ++ rest = digits := hrest
    rcases hslip with rfl | rfl | rfl
    · exact ho (by simp [← hbegins])
    · exact hplus (by simp [← hbegins])
    · exact ho (by simp [← hbegins])
  · have hbegins : slip.toList ++ rest = '0' :: 'o' :: digits := hrest
    rcases hslip with rfl | rfl | rfl
    · have hmark : '0' :: 'o' :: rest = digits := (List.cons.inj (List.cons.inj hbegins).2).2
      exact ho (by simp [← hmark])
    · exact absurd (List.cons.inj hbegins).1 (by decide)
    · have hsign : '+' :: rest = digits := (List.cons.inj (List.cons.inj hbegins).2).2
      exact hplus (by simp [← hsign])

end SetupRecipe.Shell

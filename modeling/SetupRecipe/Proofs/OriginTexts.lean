import Mathlib.Data.List.Basic
import Mathlib.Tactic.Lemma
import Mathlib.Tactic.SplitIfs
import SetupRecipe.Declaration.Origin

/-!
# Texts of origins

A message names a resource by its kind, its label and its position. Each of these parts is spelled so that
it is clear where it ends, whatever comes after it, and so the text of an origin belongs to no other one.
Nothing in it goes unseen or breaks the line: such characters of a label are escaped.
-/

namespace SetupRecipe

namespace Text

/-! ## Spellings that end by themselves -/

/-- A spelling that can be told from what comes after it, whatever that is. -/
def Delimited {α : Type} (spell : α → List Char) : Prop :=
  ∀ ⦃a b rest more⦄, spell a ++ rest = spell b ++ more → a = b ∧ rest = more

section

variable {α : Type} {spell : α → List Char} {stop : Char}

/-- A character that is not part of a spelling closes it. -/
lemma delimited_closed (hinj : Function.Injective spell) (hstop : ∀ a, stop ∉ spell a) :
    Delimited fun a => spell a ++ [stop] := by
  intro a b rest more h
  have htake (a : α) (rest : List Char) :
      (spell a ++ [stop] ++ rest).takeWhile (· ≠ stop) = spell a := by
    have hall : ∀ c ∈ spell a, decide (c ≠ stop) = true := by
      intro c hc
      exact decide_eq_true fun heq => hstop a (heq ▸ hc)
    rw [List.append_assoc, List.takeWhile_append_of_pos hall]
    simp
  have hspell : spell a = spell b := by rw [← htake a rest, h, htake]
  obtain rfl := hinj hspell
  exact ⟨rfl, List.append_cancel_left h⟩

lemma Delimited.append {β : Type} {spellNext : β → List Char} (h : Delimited spell)
    (hnext : Delimited spellNext) :
    Delimited fun parts : α × β => spell parts.1 ++ spellNext parts.2 := by
  rintro ⟨a, b⟩ ⟨a', b'⟩ rest more heq
  simp only [List.append_assoc] at heq
  obtain ⟨rfl, htail⟩ := h heq
  obtain ⟨rfl, rfl⟩ := hnext htail
  exact ⟨rfl, rfl⟩

/-- Items are told apart one by one up to a character that starts none of them. -/
lemma Delimited.flatMap (h : Delimited spell) (hhead : ∀ a, ∃ c tail, spell a = c :: tail ∧ c ≠ stop) :
    Delimited fun items : List α => items.flatMap spell ++ [stop] := by
  intro items others rest more heq
  induction items generalizing others with
  | nil =>
    cases others with
    | nil => exact ⟨rfl, List.append_cancel_left heq⟩
    | cons other others =>
      obtain ⟨c, tail, hother, hc⟩ := hhead other
      simp [hother, Ne.symm hc] at heq
  | cons item items ih =>
    cases others with
    | nil =>
      obtain ⟨c, tail, hitem, hc⟩ := hhead item
      simp [hitem, hc] at heq
    | cons other others =>
      simp only [List.flatMap_cons, List.append_assoc] at heq
      obtain ⟨rfl, htail⟩ := h heq
      obtain ⟨rfl, rfl⟩ := ih (by simpa only [List.append_assoc] using htail)
      exact ⟨rfl, rfl⟩

end

/-! ## Digits -/

lemma exists_digit_of_mem_toDigits {b n : Nat} (hb : 1 < b) {c : Char} (h : c ∈ Nat.toDigits b n) :
    ∃ d < b, c = Nat.digitChar d := by
  induction n using Nat.strongRecOn with
  | ind n ih =>
    rw [Nat.toDigits_eq_if hb] at h
    by_cases hn : n < b
    · rw [if_pos hn, List.mem_singleton] at h
      exact ⟨n, hn, h⟩
    · rw [if_neg hn, List.mem_append, List.mem_singleton] at h
      rcases h with hfront | hlast
      · exact ih (n / b) (Nat.div_lt_self (by omega) hb) hfront
      · exact ⟨n % b, Nat.mod_lt n (by omega), hlast⟩

lemma digitChar_injective : ∀ m < 16, ∀ n < 16, Nat.digitChar m = Nat.digitChar n → m = n := by
  decide

lemma toDigits_concat_ne_singleton (b n : Nat) (c d : Char) : Nat.toDigits b n ++ [c] ≠ [d] := by
  intro h
  have hfront : Nat.toDigits b n ++ [c] = [] ++ [d] := h
  exact Nat.toDigits_ne_nil (List.append_inj' hfront rfl).1

lemma toDigits_sixteen_injective : Function.Injective (Nat.toDigits 16) := by
  intro m n h
  induction m using Nat.strongRecOn generalizing n with
  | ind m ih =>
    rw [Nat.toDigits_eq_if (by decide), Nat.toDigits_eq_if (b := 16) (n := n) (by decide)] at h
    by_cases hm : m < 16
    · by_cases hn : n < 16
      · rw [if_pos hm, if_pos hn] at h
        exact digitChar_injective m hm n hn (List.singleton_inj.mp h)
      · rw [if_pos hm, if_neg hn] at h
        exact absurd h.symm (toDigits_concat_ne_singleton _ _ _ _)
    · by_cases hn : n < 16
      · rw [if_neg hm, if_pos hn] at h
        exact absurd h (toDigits_concat_ne_singleton _ _ _ _)
      · rw [if_neg hm, if_neg hn] at h
        obtain ⟨hfront, hlast⟩ := List.append_inj' h rfl
        have hdiv : m / 16 = n / 16 := ih (m / 16) (by omega) hfront
        have hmod : m % 16 = n % 16 :=
          digitChar_injective _ (by omega) _ (by omega) (List.singleton_inj.mp hlast)
        omega

/-! ## Characters inside of quotes -/

/-- What follows the backslash in the escapes that have no code, with the character that is escaped. -/
def shortEscapes : List (Char × Char) :=
  [('0', '\x00'), ('t', '\t'), ('r', '\r'), ('n', '\n'), ('"', '"'), ('\\', '\\')]

lemma escapeMark_cases (c : Char) :
    (∃ mark, (mark, c) ∈ shortEscapes ∧ escapeMark c = ['\\', mark]) ∨ escapeMark c = escapeCode c ∨
      escapeMark c = [c] ∧ c ≠ '\\' ∧ c ≠ '"' ∧ isHidden c = false := by
  unfold escapeMark
  split_ifs with hnull htab hreturn hnewline hquote hbackslash hhidden
  · exact .inl ⟨'0', by simp [shortEscapes, hnull], rfl⟩
  · exact .inl ⟨'t', by simp [shortEscapes, htab], rfl⟩
  · exact .inl ⟨'r', by simp [shortEscapes, hreturn], rfl⟩
  · exact .inl ⟨'n', by simp [shortEscapes, hnewline], rfl⟩
  · exact .inl ⟨'"', by simp [shortEscapes, hquote], rfl⟩
  · exact .inl ⟨'\\', by simp [shortEscapes, hbackslash], rfl⟩
  · exact .inr (.inl rfl)
  · exact .inr (.inr ⟨rfl, hbackslash, hquote, Bool.eq_false_iff.mpr hhidden⟩)

lemma shortEscapes_functional : ∀ entry ∈ shortEscapes, entry.1 ≠ 'u' ∧
    ∀ other ∈ shortEscapes, entry.1 = other.1 → entry.2 = other.2 := by
  decide

lemma delimited_escapeCode : Delimited escapeCode := by
  have hdigits : Delimited fun n => Nat.toDigits 16 n ++ ['\x7d'] := by
    apply delimited_closed toDigits_sixteen_injective
    intro n hmem
    obtain ⟨d, -, hd⟩ := exists_digit_of_mem_toDigits (by decide) hmem
    exact Nat.digitChar_ne '\x7d' (by decide) hd.symm
  intro c d rest more h
  simp only [escapeCode, List.append_assoc] at h
  obtain ⟨hcode, hrest⟩ := hdigits (by simpa only [List.append_assoc] using List.append_cancel_left h)
  exact ⟨Char.toNat_inj.mp hcode, hrest⟩

/-- Short escapes differ behind the backslash, codes have a letter there that no short escape has, and
any other character is no backslash. -/
lemma delimited_escapeMark : Delimited escapeMark := by
  intro c d rest more h
  rcases escapeMark_cases c with ⟨mark, hmark, hc⟩ | hc | ⟨hc, hplain, -⟩
  · obtain ⟨hletter, hsame⟩ := shortEscapes_functional _ hmark
    rw [hc] at h
    rcases escapeMark_cases d with ⟨mark', hmark', hd⟩ | hd | ⟨hd, hplain, -⟩
    · rw [hd] at h
      obtain ⟨rfl, rfl⟩ : mark = mark' ∧ rest = more := by simpa using h
      exact ⟨hsame _ hmark' rfl, rfl⟩
    · rw [hd] at h
      exact absurd (List.cons.inj (List.cons.inj h).2).1 hletter
    · rw [hd] at h
      exact absurd (List.cons.inj h).1.symm hplain
  · rw [hc] at h
    rcases escapeMark_cases d with ⟨mark', hmark', hd⟩ | hd | ⟨hd, hplain, -⟩
    · rw [hd] at h
      exact absurd (List.cons.inj (List.cons.inj h).2).1.symm (shortEscapes_functional _ hmark').1
    · rw [hd] at h
      exact delimited_escapeCode h
    · rw [hd] at h
      exact absurd (List.cons.inj h).1.symm hplain
  · rw [hc] at h
    rcases escapeMark_cases d with ⟨mark', hmark', hd⟩ | hd | ⟨hd, -⟩
    · rw [hd] at h
      exact absurd (List.cons.inj h).1 hplain
    · rw [hd] at h
      exact absurd (List.cons.inj h).1 hplain
    · rw [hd] at h
      exact List.cons.inj h

lemma escapeMark_head (c : Char) : ∃ first tail, escapeMark c = first :: tail ∧ first ≠ '"' := by
  rcases escapeMark_cases c with ⟨mark, -, hc⟩ | hc | ⟨hc, -, hquote, -⟩
  · exact ⟨'\\', [mark], hc, by decide⟩
  · exact ⟨'\\', _, hc, by decide⟩
  · exact ⟨c, [], hc, hquote⟩

/-- A quoted text is told from every other one, whatever comes behind the quotes. -/
lemma delimited_quoted : Delimited fun text => (quoted text).toList := by
  intro text other rest more h
  have hinside := delimited_escapeMark.flatMap escapeMark_head
  simp only [quoted, String.toList_ofList, List.cons_append, List.cons.injEq, true_and] at h
  obtain ⟨htext, hrest⟩ := hinside h
  exact ⟨String.toList_inj.mp htext, hrest⟩

/-! ## Characters that are seen -/

/-- Whether a character is one of the signs of ASCII, the space included. -/
def isAsciiSign (c : Char) : Bool := 32 ≤ c.toNat && c.toNat < 127

lemma isHidden_of_ascii {chars : List Char} (h : chars.all isAsciiSign) :
    ∀ c ∈ chars, isHidden c = false := by
  intro c hc
  obtain ⟨hfirst, hlast⟩ : 32 ≤ c.toNat ∧ c.toNat < 127 := by
    simpa [isAsciiSign] using List.all_eq_true.mp h c hc
  have hlow : ¬ c.toNat < 32 := by omega
  have hdelete : c.toNat ≠ 127 := by omega
  have hhigh : ¬ 127 < c.toNat := by omega
  simp [isHidden, hlow, hdelete, hhigh]

lemma isHidden_of_mem_toDigits {b n : Nat} (hb : 1 < b) (hb' : b ≤ 16) :
    ∀ c ∈ Nat.toDigits b n, isHidden c = false := by
  have hdigit : ∀ d < 16, isAsciiSign (Nat.digitChar d) := by decide
  apply isHidden_of_ascii
  rw [List.all_eq_true]
  intro c hc
  obtain ⟨d, hd, rfl⟩ := exists_digit_of_mem_toDigits hb hc
  exact hdigit d (by omega)

lemma isHidden_of_mem_escapeMark (c : Char) : ∀ mark ∈ escapeMark c, isHidden mark = false := by
  have hshort : shortEscapes.all fun entry => ['\\', entry.1].all isAsciiSign := by decide
  rcases escapeMark_cases c with ⟨mark, hmark, hc⟩ | hc | ⟨hc, -, -, hseen⟩
  · rw [hc]
    exact isHidden_of_ascii (List.all_eq_true.mp hshort _ hmark)
  · have hopening : ∀ mark ∈ ['\\', 'u', '\x7b'], isHidden mark = false := isHidden_of_ascii (by decide)
    have hclosing : ∀ mark ∈ ['\x7d'], isHidden mark = false := isHidden_of_ascii (by decide)
    rw [hc, escapeCode, List.forall_mem_append, List.forall_mem_append]
    exact ⟨⟨hopening, isHidden_of_mem_toDigits (by decide) (by decide)⟩, hclosing⟩
  · rw [hc, List.forall_mem_singleton]
    exact hseen

lemma isHidden_of_mem_quoted (text : String) : ∀ c ∈ (quoted text).toList, isHidden c = false := by
  have hquote : ∀ c ∈ ['"'], isHidden c = false := isHidden_of_ascii (by decide)
  rw [quoted, String.toList_ofList, List.forall_mem_append, List.forall_mem_cons]
  refine ⟨⟨hquote '"' List.mem_cons_self, fun mark hmark => ?_⟩, hquote⟩
  obtain ⟨c, -, hc⟩ := List.mem_flatMap.mp hmark
  exact isHidden_of_mem_escapeMark c mark hc

/-- Whether a character is a control. -/
def isControl (c : Char) : Bool := c.toNat < 0x20 || 0x7F ≤ c.toNat && c.toNat ≤ 0x9F

/-- Whether a character ends a line, on a terminal or in a text of any script. -/
def isLineBreak (c : Char) : Bool :=
  0xA ≤ c.toNat && c.toNat ≤ 0xD || c.toNat == 0x85 || c.toNat == 0x2028 || c.toNat == 0x2029

lemma isHidden_of_range {c : Char} {range : Nat × Nat} (hrange : range ∈ hiddenRanges)
    (hfirst : range.1 ≤ c.toNat) (hlast : c.toNat ≤ range.2) (hascii : 127 < c.toNat) :
    isHidden c = true := by
  have hany : hiddenRanges.any (fun range => range.1 ≤ c.toNat && c.toNat ≤ range.2) = true :=
    List.any_eq_true.mpr ⟨range, hrange, by simp [hfirst, hlast]⟩
  rw [isHidden, hany]
  simp [hascii]

lemma isHidden_of_isControl {c : Char} (h : isControl c) : isHidden c = true := by
  have hrange : (0x80, 0xA0) ∈ hiddenRanges := by decide
  simp only [isControl, Bool.or_eq_true, Bool.and_eq_true, decide_eq_true_eq] at h
  by_cases hascii : 127 < c.toNat
  · exact isHidden_of_range hrange (by omega) (by simp only; omega) hascii
  · have hbelow : c.toNat < 32 ∨ c.toNat = 127 := by omega
    simp [isHidden, hbelow]

lemma isHidden_of_isLineBreak {c : Char} (h : isLineBreak c) : isHidden c = true := by
  have hrange : (0x2028, 0x202F) ∈ hiddenRanges := by decide +kernel
  simp only [isLineBreak, Bool.or_eq_true, Bool.and_eq_true, decide_eq_true_eq, beq_iff_eq] at h
  by_cases hcontrol : isControl c
  · exact isHidden_of_isControl hcontrol
  · have hseparator : c.toNat = 0x2028 ∨ c.toNat = 0x2029 := by
      simp only [isControl, Bool.or_eq_true, Bool.and_eq_true, decide_eq_true_eq] at hcontrol
      omega
    exact isHidden_of_range hrange (by simp only; omega) (by simp only; omega) (by omega)

end Text

/-! ## Origins -/

lemma ResourceKind.word_injective : Function.Injective word := by
  intro a b
  rcases a with (_ | _ | _ | _ | _) | _ | _
  all_goals rcases b with (_ | _ | _ | _ | _) | _ | _
  all_goals decide

lemma ResourceKind.blank_not_mem_word (kind : ResourceKind) : ' ' ∉ kind.word.toList := by
  rcases kind with (_ | _ | _ | _ | _) | _ | _
  all_goals decide

lemma ResourceKind.isAsciiSign_word (kind : ResourceKind) :
    (kind.word.toList ++ [' ']).all Text.isAsciiSign := by
  rcases kind with (_ | _ | _ | _ | _) | _ | _
  all_goals decide

namespace Origin

/-- The label in messages with the space behind it. There is nothing for an empty one. -/
def labelText (label : String) : List Char :=
  if label = "" then [] else (Text.quoted label).toList ++ [' ']

lemma toList_text (origin : Origin) :
    origin.text.toList = (origin.kind.word.toList ++ [' ']) ++
      ((labelText origin.label ++ ['(', '#']) ++ ((toString origin.position).toList ++ [')'])) := by
  by_cases hlabel : origin.label = ""
  · simp [text, labelText, hlabel]
  · simp [text, labelText, hlabel]

lemma delimited_word : Text.Delimited fun kind : ResourceKind => kind.word.toList ++ [' '] := by
  apply Text.delimited_closed
  · exact fun a b h => ResourceKind.word_injective (String.toList_inj.mp h)
  · exact ResourceKind.blank_not_mem_word

/-- Only a label that is not empty begins with a quote. -/
lemma delimited_label : Text.Delimited fun label => labelText label ++ ['(', '#'] := by
  intro label other rest more h
  by_cases hlabel : label = ""
  · by_cases hother : other = ""
    · simp only [labelText, if_pos hlabel, if_pos hother] at h
      exact ⟨hlabel.trans hother.symm, List.append_cancel_left h⟩
    · simp [labelText, if_pos hlabel, if_neg hother, Text.quoted] at h
  · by_cases hother : other = ""
    · simp [labelText, if_neg hlabel, if_pos hother, Text.quoted] at h
    · simp only [labelText, if_neg hlabel, if_neg hother, List.append_assoc] at h
      obtain ⟨hsame, htail⟩ := Text.delimited_quoted h
      have hopening : [' ', '(', '#'] ++ rest = [' ', '(', '#'] ++ more := htail
      exact ⟨hsame, List.append_cancel_left hopening⟩

lemma toList_toString (n : Nat) : (toString n).toList = Nat.toDigits 10 n := by
  rw [Nat.toString_eq_ofList_toDigits, String.toList_ofList]

lemma delimited_position : Text.Delimited fun n : Nat => (toString n).toList ++ [')'] := by
  apply Text.delimited_closed
  · intro m n h
    have hvalue := congrArg (fun digits => Nat.ofDigitChars 10 digits 0) h
    simpa only [toList_toString, Nat.ofDigitChars_ten_toDigits] using hvalue
  · intro n hmem
    rw [toList_toString] at hmem
    obtain ⟨d, -, hd⟩ := Text.exists_digit_of_mem_toDigits (by decide) hmem
    exact Nat.digitChar_ne ')' (by decide) hd.symm

/-- The origin is told from the start of a message, whatever the message goes on with. -/
lemma delimited_text : Text.Delimited fun origin : Origin => origin.text.toList := by
  intro origin other rest more h
  have hparts := delimited_word.append (delimited_label.append delimited_position)
  simp only [toList_text] at h
  obtain ⟨hsame, hrest⟩ := @hparts (origin.kind, origin.label, origin.position)
    (other.kind, other.label, other.position) rest more h
  obtain ⟨hkind, hlabel, hposition⟩ := by simpa only [Prod.mk.injEq] using hsame
  obtain ⟨kind, label, position⟩ := origin
  exact ⟨(Origin.mk.injEq ..).mpr ⟨hkind, hlabel, hposition⟩, hrest⟩

lemma isHidden_of_mem_text (origin : Origin) : ∀ c ∈ origin.text.toList, Text.isHidden c = false := by
  have hkind : ∀ c ∈ origin.kind.word.toList ++ [' '], Text.isHidden c = false :=
    Text.isHidden_of_ascii origin.kind.isAsciiSign_word
  have hlabel : ∀ c ∈ labelText origin.label ++ ['(', '#'], Text.isHidden c = false := by
    unfold labelText
    split_ifs
    · exact Text.isHidden_of_ascii (by decide)
    · rw [List.append_assoc, List.forall_mem_append]
      exact ⟨Text.isHidden_of_mem_quoted origin.label, Text.isHidden_of_ascii (by decide)⟩
  have hposition : ∀ c ∈ (toString origin.position).toList ++ [')'], Text.isHidden c = false := by
    rw [toList_toString, List.forall_mem_append]
    exact ⟨Text.isHidden_of_mem_toDigits (by decide) (by decide), Text.isHidden_of_ascii (by decide)⟩
  rw [toList_text]
  exact List.forall_mem_append.mpr ⟨hkind, List.forall_mem_append.mpr ⟨hlabel, hposition⟩⟩

/-- Origins have the same text only if they are the same, and no control and no line break is in it. -/
theorem text_unambiguous (origin other : Origin) :
    (origin.text = other.text →
      origin.kind = other.kind ∧ origin.label = other.label ∧ origin.position = other.position) ∧
    ∀ c ∈ origin.text.toList, Text.isControl c = false ∧ Text.isLineBreak c = false := by
  refine ⟨fun h => ?_, fun c hc => ?_⟩
  · obtain ⟨rfl, -⟩ := delimited_text (congrArg (String.toList · ++ []) h)
    exact ⟨rfl, rfl, rfl⟩
  · have hseen : ¬ Text.isHidden c := by simp [isHidden_of_mem_text origin c hc]
    exact ⟨Bool.eq_false_iff.mpr fun h => hseen (Text.isHidden_of_isControl h),
      Bool.eq_false_iff.mpr fun h => hseen (Text.isHidden_of_isLineBreak h)⟩

theorem text_unambiguous_escapes :
    text ⟨.echo, "\x1b\n", 3⟩ = "echo \"\\u\x7b1b\x7d\\n\" (#3)" ∧
      text ⟨.echo, "\x1b\n", 3⟩ = text ⟨.echo, String.ofList [Char.ofNat 27, Char.ofNat 10], 3⟩ ∧
      "\x1b\n" = String.ofList [Char.ofNat 27, Char.ofNat 10] ∧
      text ⟨.echo, "\x1b\n", 3⟩ ≠ text ⟨.echo, "\\u\x7b1b\x7d\n", 3⟩ ∧
      text ⟨.block .log, "", 3⟩ ≠ text ⟨.block .log, " (#3)", 3⟩ ∧
      '\\' ∈ (text ⟨.echo, "\x1b\n", 3⟩).toList ∧ Text.isControl '\\' = false ∧
      Text.isLineBreak '\\' = false := by
  have hsame : text ⟨.echo, "\x1b\n", 3⟩ =
      text ⟨.echo, String.ofList [Char.ofNat 27, Char.ofNat 10], 3⟩ := by decide
  have hmem : '\\' ∈ (text ⟨.echo, "\x1b\n", 3⟩).toList := by decide
  obtain ⟨hequal, hseen⟩ := text_unambiguous ⟨.echo, "\x1b\n", 3⟩
    ⟨.echo, String.ofList [Char.ofNat 27, Char.ofNat 10], 3⟩
  refine ⟨by decide, hsame, (hequal hsame).2.1, ?_, ?_, hmem, hseen '\\' hmem⟩
  · intro h
    exact absurd ((text_unambiguous _ _).1 h).2.1 (by decide)
  · intro h
    exact absurd ((text_unambiguous _ _).1 h).2.1 (by decide)

end Origin

end SetupRecipe

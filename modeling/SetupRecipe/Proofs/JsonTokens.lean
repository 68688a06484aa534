import SetupRecipe.Node.Json.Token
import Mathlib.Data.List.Basic
import Mathlib.Tactic.IntervalCases

/-!
# The spelling of JSON tokens is read back

A token that has no decimal is read from its spelling, with the rest of the text left over. Only a
whole number has to know what follows it: a digit, a point or an exponent would go on with it. A text
that spells such tokens with blanks between them is read as those tokens.
-/

namespace SetupRecipe.Node.Json

/-! ## Texts -/

/-- A character is escaped by one letter, or by its number, or it stands for itself. -/
lemma escapeChar_cases (c : Char) :
    (∃ letter, letter ≠ 'u' ∧ simpleEscape? letter = some c ∧ escapeChar c = ['\\', letter]) ∨
      (c.toNat < 32 ∧ escapeChar c = ['\\', 'u', '0', '0'] ++ hexPair c.toNat) ∨
      (c ≠ '"' ∧ c ≠ '\\' ∧ 32 ≤ c.toNat ∧ escapeChar c = [c]) := by
  by_cases hletter : c ∈ ['"', '\\', '\n', '\r', '\t', '\x08', '\x0c']
  · left
    simp only [List.mem_cons, List.not_mem_nil, or_false] at hletter
    obtain rfl | rfl | rfl | rfl | rfl | rfl | rfl := hletter
    all_goals exact ⟨_, by decide, rfl, rfl⟩
  · right
    simp only [List.mem_cons, List.not_mem_nil, or_false, not_or] at hletter
    by_cases hcontrol : c.toNat < 32
    · exact .inl ⟨hcontrol, by simp [escapeChar, hletter, hcontrol]⟩
    · exact .inr ⟨hletter.1, hletter.2.1, not_lt.1 hcontrol, by simp [escapeChar, hletter, hcontrol]⟩

lemma hexWord?_hexPair : ∀ n < 32, ∃ high low,
    hexPair n = [high, low] ∧ hexWord? '0' '0' high low = some n := by
  have hreads : ∀ n < 32,
      hexPair n = [(hexPair n).headD '0', (hexPair n).getLastD '0'] ∧
        hexWord? '0' '0' ((hexPair n).headD '0') ((hexPair n).getLastD '0') = some n := by decide
  exact fun n hn => ⟨_, _, hreads n hn⟩

/-- A character inside quotes is read as itself. -/
lemma textBody?_escapeChar {cs s rest : List Char} (c : Char) (h : textBody? cs = some (s, rest)) :
    textBody? (escapeChar c ++ cs) = some (c :: s, rest) := by
  -- The patterns of the reader overlap, so it is opened at the head of the text and not by equations.
  obtain ⟨letter, hu, hletter, hc⟩ | ⟨hcontrol, hc⟩ | ⟨hquote, hslash, hplain, hc⟩ := escapeChar_cases c
  · rw [hc, List.cons_append, List.singleton_append, textBody?.eq_def]
    simp [hu, hletter, h]
  · obtain ⟨high, low, hpair, hword⟩ := hexWord?_hexPair c.toNat hcontrol
    have hscalar : c.toNat < 0xD800 := by omega
    rw [hc, hpair, textBody?.eq_def]
    simp [hword, hscalar, h]
  · rw [hc, List.singleton_append, textBody?.eq_def]
    simp [hslash, Nat.not_lt.2 hplain, h]

lemma textBody?_quoted (s rest : List Char) :
    textBody? (s.flatMap escapeChar ++ '"' :: rest) = some (s, rest) := by
  induction s with
  | nil => rfl
  | cons c s ih =>
    rw [List.flatMap_cons, List.append_assoc]
    exact textBody?_escapeChar c ih

/-! ## Whole numbers -/

/-- Whether a number ends before a text. -/
def stopsNumber : List Char → Bool
  | [] => true
  | c :: _ => !(c.isDigit || c = '.' || c = 'e' || c = 'E')

lemma digits?_append {digits rest : List Char} (hne : digits ≠ [])
    (hdigits : ∀ c ∈ digits, c.isDigit) (hrest : stopsNumber rest) :
    digits? (digits ++ rest) = some (digits, rest) := by
  have hstop : rest.takeWhile Char.isDigit = [] ∧ rest.dropWhile Char.isDigit = rest := by
    cases rest with
    | nil => exact ⟨rfl, rfl⟩
    | cons c rest => simp_all [stopsNumber]
  rw [digits?, List.takeWhile_append_of_pos hdigits, List.dropWhile_append_of_pos hdigits, hstop.1,
    hstop.2, List.append_nil]
  cases digits with
  | nil => exact absurd rfl hne
  | cons d digits => rfl

/-- Only zero starts with the digit zero. -/
lemma head?_toDigits_ne_zero {n : Nat} (hn : 0 < n) : (Nat.toDigits 10 n).head? ≠ some '0' := by
  induction n using Nat.strongRecOn with
  | ind n ih =>
    by_cases hsmall : n < 10
    · rw [Nat.toDigits_of_lt_base hsmall]
      interval_cases n <;> decide
    · have hsplit := Nat.toDigits_append_toDigits (b := 10) (n := n / 10) (d := n % 10) (by decide)
        (by omega) (by omega)
      rw [Nat.div_add_mod] at hsplit
      rw [← hsplit, List.head?_append_of_ne_nil _ Nat.toDigits_ne_nil]
      exact ih (n / 10) (by omega) (by omega)

lemma whole?_toDigits (n : Nat) {rest : List Char} (hrest : stopsNumber rest) :
    whole? (Nat.toDigits 10 n ++ rest) = some (Nat.toDigits 10 n, rest) := by
  obtain rfl | hn := Nat.eq_zero_or_pos n
  · rfl
  · have hdigits := digits?_append Nat.toDigits_ne_nil
      (fun c hc => Nat.isDigit_of_mem_toDigits (b := 10) (n := n) (by decide) (by decide) hc) hrest
    unfold whole?
    split
    · rename_i tail heq
      have hzero : (Nat.toDigits 10 n ++ rest).head? = some '0' := by
        rw [heq]
        rfl
      rw [List.head?_append_of_ne_nil _ Nat.toDigits_ne_nil] at hzero
      exact absurd hzero (head?_toDigits_ne_zero hn)
    · exact hdigits

lemma fraction?_of_stopsNumber {rest : List Char} (hrest : stopsNumber rest) :
    fraction? rest = some (none, rest) := by
  unfold fraction?
  split
  · simp [stopsNumber] at hrest
  · rfl

lemma exponent?_of_stopsNumber {rest : List Char} (hrest : stopsNumber rest) :
    exponent? rest = some (none, rest) := by
  cases rest with
  | nil => rfl
  | cons c rest =>
    simp only [stopsNumber, Bool.not_eq_true', Bool.or_eq_false_iff, decide_eq_false_iff_not] at hrest
    rw [exponent?, if_neg (not_or.2 ⟨hrest.1.2, hrest.2⟩)]

/-- The digits of a whole number of 64 bits, with its sign, are that number. -/
lemma token?_toDigits (i : Int64) {n : Nat} (negative : Bool) (hsign : negative → 0 < n)
    (hi : i.toInt = if negative then -(n : Int) else n) :
    Numeral.token?
      { negative, whole := Nat.toDigits 10 n, fraction := [], exponent := none, isDecimal := false } =
      some (.integer i) := by
  have hvalue : (Nat.toDigits 10 n).foldl (fun n d => 10 * n + digitValue d) 0 = n :=
    Nat.ofDigitChars_ten_toDigits
  have hword : Decimal.twoPow 63 = 2 ^ 63 := rfl
  have hlow := i.le_toInt
  have hhigh := i.toInt_lt
  have hback := i.ofInt_toInt
  cases negative with
  | false =>
    rw [hi] at hback hhigh
    have hfits : n < Decimal.twoPow 63 := by simp at hhigh; omega
    simpa [Numeral.token?, hvalue, hfits] using hback
  | true =>
    rw [hi] at hback hlow
    have hfits : n ≤ Decimal.twoPow 63 := by simp at hlow; omega
    simpa [Numeral.token?, hvalue, hfits, hsign rfl] using hback

lemma exists_toDigits_eq_cons (n : Nat) :
    ∃ d digits, Nat.toDigits 10 n = d :: digits ∧ d.isDigit := by
  cases h : Nat.toDigits 10 n with
  | nil => exact absurd h Nat.toDigits_ne_nil
  | cons d digits =>
    have hd : d ∈ Nat.toDigits 10 n := by simp [h]
    exact ⟨d, digits, rfl, Nat.isDigit_of_mem_toDigits (by decide) (by decide) hd⟩

lemma number?_toDigits (i : Int64) {n : Nat} {rest : List Char} (hi : i.toInt = n)
    (hrest : stopsNumber rest) :
    number? (Nat.toDigits 10 n ++ rest) = some (.integer i, rest) := by
  -- A sign is looked for first, and no digit is one.
  have hplain : ∀ tail, Nat.toDigits 10 n ++ rest ≠ '-' :: tail := by
    obtain ⟨d, digits, hdigits, hd⟩ := exists_toDigits_eq_cons n
    intro tail heq
    rw [hdigits, List.cons_append, List.cons.injEq] at heq
    rw [heq.1] at hd
    exact absurd hd (by decide)
  have htoken := token?_toDigits i false nofun hi
  unfold number?
  split
  · rename_i negative cs heq
    split at heq
    · rename_i tail heq'
      exact absurd heq' (hplain tail)
    · cases heq
      simp [whole?_toDigits n hrest, fraction?_of_stopsNumber hrest, exponent?_of_stopsNumber hrest,
        htoken]

lemma number?_neg_toDigits (i : Int64) {n : Nat} {rest : List Char} (hi : i.toInt = -n) (hn : 0 < n)
    (hrest : stopsNumber rest) :
    number? ('-' :: Nat.toDigits 10 n ++ rest) = some (.integer i, rest) := by
  have htoken := token?_toDigits i true (fun _ => hn) hi
  rw [List.cons_append, number?.eq_def]
  simp [whole?_toDigits n hrest, fraction?_of_stopsNumber hrest, exponent?_of_stopsNumber hrest,
    htoken]

/-- The text of a number: its digits, after a sign if it is negative. -/
lemma toList_toString_cases (z : Int) :
    ∃ n : Nat, (z = n ∧ (toString z).toList = Nat.toDigits 10 n) ∨
      (z = -n ∧ 0 < n ∧ (toString z).toList = '-' :: Nat.toDigits 10 n) := by
  cases z with
  | ofNat n => exact ⟨n, .inl ⟨rfl, Nat.toList_repr⟩⟩
  | negSucc n =>
    refine ⟨n + 1, .inr ⟨by omega, n.succ_pos, ?_⟩⟩
    change ("-" ++ (n + 1).repr).toList = _
    rw [String.toList_append, Nat.toList_repr]
    rfl

lemma number?_integer (i : Int64) {rest : List Char} (hrest : stopsNumber rest) :
    number? ((Token.integer i).spelling ++ rest) = some (.integer i, rest) := by
  obtain ⟨n, ⟨hi, hs⟩ | ⟨hi, hn, hs⟩⟩ := toList_toString_cases i.toInt
  · rw [Token.spelling, hs]
    exact number?_toDigits i hi hrest
  · rw [Token.spelling, hs]
    exact number?_neg_toDigits i hi hn hrest

/-! ## Tokens -/

/-- Whether a token is read back in front of a text. A decimal may be written in other digits, and a
whole number must end where the text starts. -/
def Token.readsBefore : Token → List Char → Bool
  | decimal _, _ => false
  | integer _, rest => stopsNumber rest
  | _, _ => true

lemma exists_integer_spelling_eq_cons (i : Int64) :
    ∃ c cs, (Token.integer i).spelling = c :: cs ∧ (c.isDigit ∨ c = '-') := by
  obtain ⟨n, ⟨-, hs⟩ | ⟨-, -, hs⟩⟩ := toList_toString_cases i.toInt
  · obtain ⟨d, digits, hdigits, hd⟩ := exists_toDigits_eq_cons n
    exact ⟨d, digits, hs.trans hdigits, .inl hd⟩
  · exact ⟨'-', _, hs, .inr rfl⟩

lemma next?_eq_number? {c : Char} (cs : List Char) (hc : c.isDigit ∨ c = '-') :
    next? (c :: cs) = number? (c :: cs) := by
  unfold next?
  split <;> simp_all

lemma next?_spelling {token : Token} {rest : List Char} (h : token.readsBefore rest) :
    next? (token.spelling ++ rest) = some (token, rest) := by
  cases token with
  | openArray | closeArray | openObject | closeObject | comma | colon => rfl
  | boolean b => cases b <;> rfl
  | integer i =>
    obtain ⟨c, cs, hs, hc⟩ := exists_integer_spelling_eq_cons i
    have hnumber := number?_integer i h
    rw [hs] at hnumber ⊢
    rw [List.cons_append] at hnumber ⊢
    rw [next?_eq_number? _ hc, hnumber]
  | decimal x => cases h
  | text s =>
    have hnext : ∀ cs, next? ('"' :: cs) =
        (textBody? cs).map fun body => (.text (String.ofList body.1), body.2) := fun _ => rfl
    rw [Token.spelling, quoted, List.cons_append, List.cons_append, List.append_assoc,
      List.singleton_append, hnext, textBody?_quoted, Option.map_some]
    exact congrArg (fun s => some (Token.text s, rest)) String.ofList_toList

lemma exists_spelling_eq_cons {token : Token} {rest : List Char} (h : token.readsBefore rest) :
    ∃ c cs, token.spelling = c :: cs ∧ isBlank c = false := by
  cases token with
  | openArray | closeArray | openObject | closeObject | comma | colon | text => exact ⟨_, _, rfl, rfl⟩
  | boolean b => cases b <;> exact ⟨_, _, rfl, rfl⟩
  | integer i =>
    obtain ⟨c, cs, hs, hc⟩ := exists_integer_spelling_eq_cons i
    refine ⟨c, cs, hs, ?_⟩
    obtain hd | rfl := hc
    · by_contra hblank
      simp only [isBlank, Bool.or_eq_false_iff, decide_eq_false_iff_not, not_and_or, not_not]
        at hblank
      obtain ((rfl | rfl) | rfl) | rfl := hblank
      all_goals exact absurd hd (by decide)
    · rfl
  | decimal x => cases h

/-- The texts that spell tokens, with any blanks before, between and after them. -/
inductive Spells : List Char → List Token → Prop
  | nil : Spells [] []
  | blank {c : Char} {cs : List Char} {tokens : List Token} :
      isBlank c → Spells cs tokens → Spells (c :: cs) tokens
  | token (token : Token) {cs : List Char} {tokens : List Token} :
      token.readsBefore cs → Spells cs tokens → Spells (token.spelling ++ cs) (token :: tokens)

lemma tokensWithin?_of_spells {cs : List Char} {tokens : List Token} (h : Spells cs tokens) :
    ∀ fuel, cs.length < fuel → tokensWithin? fuel cs = some tokens := by
  induction h with
  | nil =>
    intro fuel hfuel
    obtain ⟨fuel, rfl⟩ := Nat.exists_eq_add_of_lt hfuel
    rfl
  | @blank c cs tokens hblank _ ih =>
    intro fuel hfuel
    have hrest := ih fuel (by simp at hfuel; omega)
    cases fuel with
    | zero => cases hfuel
    | succ fuel =>
      rw [tokensWithin?] at hrest ⊢
      rwa [List.dropWhile_cons_of_pos hblank]
  | @token token cs tokens hreads _ ih =>
    intro fuel hfuel
    obtain ⟨c, tail, hs, hc⟩ := exists_spelling_eq_cons hreads
    have hnext := next?_spelling hreads
    cases fuel with
    | zero => cases hfuel
    | succ fuel =>
      have hrest := ih fuel (by simp [hs] at hfuel; omega)
      rw [hs, List.cons_append] at hnext ⊢
      simp [tokensWithin?, hc, hnext, hrest]

/-- A text is read as the tokens that it spells. -/
lemma tokens?_of_spells {cs : List Char} {tokens : List Token} (h : Spells cs tokens) :
    tokens? cs = some tokens :=
  tokensWithin?_of_spells h (cs.length + 1) (Nat.lt_succ_self _)

namespace Spells

lemma singleton (token : Token) (h : token.readsBefore []) : Spells token.spelling [token] := by
  simpa using Spells.token token h .nil

lemma blanks {blanks cs : List Char} {tokens : List Token} (hblanks : ∀ c ∈ blanks, isBlank c)
    (h : Spells cs tokens) : Spells (blanks ++ cs) tokens := by
  induction blanks with
  | nil => exact h
  | cons c blanks ih =>
    obtain ⟨hc, hblanks⟩ := List.forall_mem_cons.1 hblanks
    exact (ih hblanks).blank hc

/-- Two texts spell the tokens of both, unless the second goes on with a number of the first. -/
lemma append {first second : List Char} {tokens more : List Token} (hstop : stopsNumber second)
    (h : Spells first tokens) (hmore : Spells second more) :
    Spells (first ++ second) (tokens ++ more) := by
  induction h with
  | nil => exact hmore
  | blank hblank _ ih => exact ih.blank hblank
  | @token token cs tokens hreads _ ih =>
    rw [List.append_assoc]
    refine .token token ?_ ih
    cases token with
    | integer i =>
      cases cs with
      | nil => exact hstop
      | cons c cs => exact hreads
    | decimal x => cases hreads
    | _ => rfl

end Spells

end SetupRecipe.Node.Json

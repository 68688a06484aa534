import Mathlib.Data.List.Infix
import SetupRecipe.Proofs.ManifestEntries

/-!
# Readings of manifests

A value stands in a manifest as its author wrote it, between double quotes. As long as no quotes in it
stand around what the format puts between a closing quote and the next opening one, a manifest can be
read in one way only: it determines the source, the names and the versions. A value that does hold such
quotes makes it possible to write one manifest for different gems.
-/

namespace SetupRecipe

namespace Manifest

/-- A value that is closed by none of its own double quotes: no two of them, of which the second one may
be that behind the value, stand around a gap of the format. -/
def Unclosed (gaps : List Char → Prop) (value : String) : Prop :=
  ∀ gap, gaps gap → ¬ '"' :: (gap ++ ['"']) <:+: value.toList ++ ['"']

/-- The next quote behind a version opens the name in the next line. -/
def VersionGap (gap : List Char) : Prop := gap = "\ngem ".toList

/-- The next quote behind a name opens its version, or the name in the next line. -/
def NameGap (gap : List Char) : Prop :=
  gap = "\ngem ".toList ∨ ∃ blanks, gap = ',' :: List.replicate (blanks + 1) ' '

/-- The next quote behind the source opens the name of the first gem, after the empty line. -/
def SourceGap (gap : List Char) : Prop := gap = "\n\ngem ".toList

end Manifest

structure Gem.Unclosed (gem : Gem) : Prop where
  name : Manifest.Unclosed Manifest.NameGap gem.name
  version : ∀ version ∈ gem.version, Manifest.Unclosed Manifest.VersionGap version

namespace Manifest

/-! ## Values -/

/-- A text behind the closing quote of a value: it has no quotes, or a gap before the first. -/
def Continues (gaps : List Char → Prop) (rest : List Char) : Prop :=
  '"' ∉ rest ∨ ∃ gap tail, gaps gap ∧ '"' ∉ gap ∧ rest = gap ++ '"' :: tail

section Values

variable {gaps : List Char → Prop} {value other : String} {rest more : List Char}

lemma unclosed_of_unquoted (hvalue : '"' ∉ value.toList) : Unclosed gaps value := by
  intro gap _ hwithin
  have hcount := hwithin.sublist.count_le '"'
  rw [List.count_cons_self, List.count_append, List.count_append, List.count_eq_zero_of_not_mem hvalue,
    List.count_singleton_self] at hcount
  omega

/-- The quote behind a gap comes no later than any other quote. -/
lemma quoted_gap_within {gap inside tail : List Char} (hgap : '"' ∉ gap)
    (h : gap ++ '"' :: tail = inside ++ '"' :: more) : gap ++ ['"'] <+: inside ++ ['"'] := by
  rcases List.append_eq_append_iff.mp h with ⟨after, rfl, htail⟩ | ⟨after, rfl, htail⟩
  · cases after with
    | nil => simp
    | cons c after =>
      obtain ⟨rfl, -⟩ := List.cons.inj htail
      exact ⟨after ++ ['"'], by simp⟩
  · cases after with
    | nil => simp
    | cons c after =>
      obtain ⟨rfl, -⟩ := List.cons.inj htail
      exact absurd (List.mem_append_right inside List.mem_cons_self) hgap

lemma eq_nil_of_unclosed {inside : List Char} (hvalue : Unclosed gaps value)
    (hrest : Continues gaps rest) (hinside : inside <:+ value.toList)
    (h : '"' :: rest = inside ++ '"' :: more) : inside = [] := by
  cases inside with
  | nil => rfl
  | cons c inside =>
    exfalso
    obtain ⟨rfl, rfl⟩ : '"' = c ∧ rest = inside ++ '"' :: more := List.cons.inj h
    rcases hrest with hunquoted | ⟨gap, tail, hgap, hquotes, hrest⟩
    · exact hunquoted (List.mem_append_right inside List.mem_cons_self)
    · -- the value would hold the gap between its quotes, with its closing quote as the last of them
      have hquoted : '"' :: (gap ++ ['"']) <+: '"' :: inside ++ ['"'] :=
        List.cons_prefix_cons.mpr ⟨rfl, quoted_gap_within hquotes hrest.symm⟩
      obtain ⟨before, hbefore⟩ := hinside
      have hending : '"' :: inside ++ ['"'] <:+ value.toList ++ ['"'] :=
        ⟨before, by rw [← List.append_assoc, hbefore]⟩
      exact hvalue gap hgap (hquoted.isInfix.trans hending.isInfix)

/-- Two values are equal if the same text comes from each of them, its closing quote and what may come
behind it. -/
lemma eq_of_closed (hvalue : Unclosed gaps value) (hother : Unclosed gaps other)
    (hrest : Continues gaps rest) (hmore : Continues gaps more)
    (h : value.toList ++ '"' :: rest = other.toList ++ '"' :: more) : value = other ∧ rest = more := by
  rcases List.append_eq_append_iff.mp h with ⟨inside, heq, htail⟩ | ⟨inside, heq, htail⟩
  · obtain rfl : inside = [] := eq_nil_of_unclosed hother hrest ⟨value.toList, heq.symm⟩ htail
    rw [List.append_nil] at heq
    exact ⟨(String.toList_inj.mp heq).symm, (List.cons.inj htail).2⟩
  · obtain rfl : inside = [] := eq_nil_of_unclosed hvalue hmore ⟨other.toList, heq.symm⟩ htail
    rw [List.append_nil] at heq
    exact ⟨String.toList_inj.mp heq, (List.cons.inj htail).2.symm⟩

end Values

/-! ## Lines -/

/-- The lines of some gems, without the first quote: there are none, or the first one begins. -/
def BeginsLine (rest : List Char) : Prop := rest = [] ∨ ∃ tail, rest = "gem ".toList ++ '"' :: tail

lemma BeginsLine.continues {rest : List Char} (h : BeginsLine rest) :
    Continues VersionGap ('\n' :: rest) := by
  rcases h with rfl | ⟨tail, rfl⟩
  · exact Or.inl (by decide)
  · exact Or.inr ⟨"\ngem ".toList, tail, rfl, by decide, rfl⟩

variable {column column' : Nat} {gem gem' : Gem} {line line' : String}

/-- What the line of a gem goes on with behind the name and its closing quote. -/
def afterName (blanks : Nat) : Option String → List Char
  | none => ['\n']
  | some version => ',' :: ' ' :: (List.replicate blanks ' ' ++ '"' :: (version.toList ++ ['"', '\n']))

lemma Lists.toList_eq (h : Lists column gem line) :
    ∃ blanks, line.toList =
      "gem ".toList ++ '"' :: (gem.name.toList ++ '"' :: afterName blanks gem.version) := by
  cases h with
  | unversioned name => exact ⟨0, by simp [afterName]⟩
  | @versioned name version blanks apart aligned =>
    obtain ⟨blanks, rfl⟩ := Nat.exists_eq_add_one.mpr apart
    exact ⟨blanks, by simp [afterName, List.replicate_succ]⟩

lemma afterName_continues (blanks : Nat) (version : Option String) {rest : List Char}
    (hrest : BeginsLine rest) : Continues NameGap (afterName blanks version ++ rest) := by
  cases version with
  | none =>
    rcases hrest.continues with hnone | ⟨gap, tail, hgap, hline⟩
    · exact Or.inl hnone
    · exact Or.inr ⟨gap, tail, Or.inl hgap, hline⟩
  | some version =>
    refine Or.inr ⟨',' :: List.replicate (blanks + 1) ' ', version.toList ++ '"' :: '\n' :: rest,
      Or.inr ⟨blanks, rfl⟩, by simp, ?_⟩
    simp [afterName, List.replicate_succ]

lemma eq_of_blanks {blanks blanks' : Nat} {rest more : List Char}
    (h : List.replicate blanks ' ' ++ '"' :: rest = List.replicate blanks' ' ' ++ '"' :: more) :
    rest = more := by
  have hdrop := congrArg (List.dropWhile (· = ' ')) h
  have hall (n : Nat) : ∀ c ∈ List.replicate n ' ', decide (c = ' ') = true := by
    intro c hc
    exact decide_eq_true (List.eq_of_mem_replicate hc)
  rw [List.dropWhile_append_of_pos (hall blanks), List.dropWhile_append_of_pos (hall blanks')] at hdrop
  simpa using hdrop

lemma eq_of_afterName {blanks blanks' : Nat} {version version' : Option String} {rest more : List Char}
    (hversion : ∀ v ∈ version, Unclosed VersionGap v)
    (hversion' : ∀ v ∈ version', Unclosed VersionGap v) (hrest : BeginsLine rest)
    (hmore : BeginsLine more)
    (h : afterName blanks version ++ rest = afterName blanks' version' ++ more) :
    version = version' ∧ rest = more := by
  cases version with
  | none =>
    cases version' with
    | none => exact ⟨rfl, (List.cons.inj h).2⟩
    | some version' => simp [afterName] at h
  | some version =>
    cases version' with
    | none => simp [afterName] at h
    | some version' =>
      simp only [afterName, List.cons_append, List.append_assoc, List.cons.injEq, true_and] at h
      obtain ⟨rfl, hlines⟩ := eq_of_closed (hversion version rfl) (hversion' version' rfl)
        hrest.continues hmore.continues (eq_of_blanks h)
      exact ⟨rfl, (List.cons.inj hlines).2⟩

/-- The line of a gem can be told from all lines behind it. -/
lemma Lists.eq_of_append_eq (h : Lists column gem line) (h' : Lists column' gem' line')
    (hgem : gem.Unclosed) (hgem' : gem'.Unclosed) {rest more : List Char} (hrest : BeginsLine rest)
    (hmore : BeginsLine more) (heq : line.toList ++ rest = line'.toList ++ more) :
    gem = gem' ∧ rest = more := by
  obtain ⟨blanks, hline⟩ := h.toList_eq
  obtain ⟨blanks', hline'⟩ := h'.toList_eq
  simp only [hline, hline', List.append_assoc, List.append_cancel_left_eq, List.cons_append,
    List.cons.injEq, true_and] at heq
  obtain ⟨hname, htail⟩ := eq_of_closed hgem.name hgem'.name
    (afterName_continues blanks gem.version hrest) (afterName_continues blanks' gem'.version hmore) heq
  obtain ⟨hversion, hlines⟩ := eq_of_afterName hgem.version hgem'.version hrest hmore htail
  obtain ⟨name, version⟩ := gem
  exact ⟨Gem.mk.injEq .. |>.mpr ⟨hname, hversion⟩, hlines⟩

/-! ## Manifests -/

variable {listed listed' : List Gem} {lines lines' : List String}

lemma join_cons_begins (hline : Lists column gem line) (lines : List String) :
    ∃ tail, (String.join (line :: lines)).toList = "gem ".toList ++ '"' :: tail := by
  obtain ⟨blanks, hblanks⟩ := hline.toList_eq
  rw [String.join_cons, String.toList_append, hblanks]
  exact ⟨_, by simp only [List.append_assoc, List.cons_append]; rfl⟩

lemma join_beginsLine (h : List.Forall₂ (Lists column) listed lines) :
    BeginsLine (String.join lines).toList := by
  cases h with
  | nil => exact Or.inl rfl
  | cons hline hlines => exact Or.inr (join_cons_begins hline _)

lemma eq_of_join_eq (h : List.Forall₂ (Lists column) listed lines)
    (h' : List.Forall₂ (Lists column') listed' lines') (hlisted : ∀ gem ∈ listed, gem.Unclosed)
    (hlisted' : ∀ gem ∈ listed', gem.Unclosed) (heq : String.join lines = String.join lines') :
    listed = listed' := by
  induction h generalizing listed' lines' with
  | nil =>
    cases h' with
    | nil => rfl
    | cons hline' hlines' =>
      obtain ⟨tail, htail⟩ := join_cons_begins hline' _
      rw [← heq] at htail
      exact nomatch htail
  | cons hline hlines ih =>
    cases h' with
    | nil =>
      obtain ⟨tail, htail⟩ := join_cons_begins hline _
      rw [heq] at htail
      exact nomatch htail
    | cons hline' hlines' =>
      rw [List.forall_mem_cons] at hlisted hlisted'
      rw [String.join_cons, String.join_cons, ← String.toList_inj, String.toList_append,
        String.toList_append] at heq
      obtain ⟨rfl, hrest⟩ := hline.eq_of_append_eq hline' hlisted.1 hlisted'.1
        (join_beginsLine hlines) (join_beginsLine hlines') heq
      rw [ih hlines' hlisted.2 hlisted'.2 (String.toList_inj.mp hrest)]

/-- The part of a manifest behind the line of the source. -/
def entriesText (source : Option String) (gems : List Gem) : String :=
  (if source.isSome ∧ gems ≠ [] then "\n" else "")
    ++ String.join ((sorted gems).map (entry (width gems)))

lemma text_eq_append (source : Option String) (gems : List Gem) :
    text source gems = sourceText source ++ entriesText source gems := by
  rw [text_eq, entriesText, String.append_assoc]

lemma entriesText_none (gems : List Gem) :
    entriesText none gems = String.join ((sorted gems).map (entry (width gems))) := by
  simp [entriesText]

lemma entriesText_nil (source : Option String) : entriesText source [] = "" := by
  simp [entriesText, sorted]

lemma entriesText_some {gems : List Gem} (h : gems ≠ []) (url : String) :
    entriesText (some url) gems = "\n" ++ entriesText none gems := by
  simp [entriesText, h]

lemma entriesText_begins (gems : List Gem) : BeginsLine (entriesText none gems).toList := by
  rw [entriesText_none]
  exact join_beginsLine (sorted_lists gems)

lemma sorted_eq_of_entries {gems gems' : List Gem} (hgems : ∀ gem ∈ gems, gem.Unclosed)
    (hgems' : ∀ gem ∈ gems', gem.Unclosed) (h : entriesText none gems = entriesText none gems') :
    sorted gems = sorted gems' := by
  rw [entriesText_none, entriesText_none] at h
  apply eq_of_join_eq (sorted_lists gems) (sorted_lists gems') _ _ h
  · exact fun gem hgem => hgems gem ((sorted_perm gems).mem_iff.mp hgem)
  · exact fun gem hgem => hgems' gem ((sorted_perm gems').mem_iff.mp hgem)

lemma entriesText_none_of_some {url url' : String} {gems gems' : List Gem}
    (h : entriesText (some url) gems = entriesText (some url') gems') :
    entriesText none gems = entriesText none gems' := by
  by_cases hgems : gems = []
  · by_cases hgems' : gems' = []
    · rw [hgems, hgems']
    · rw [hgems, entriesText_nil, entriesText_some hgems', ← String.toList_inj] at h
      simp at h
  · by_cases hgems' : gems' = []
    · rw [hgems', entriesText_nil, entriesText_some hgems, ← String.toList_inj] at h
      simp at h
    · rw [entriesText_some hgems, entriesText_some hgems'] at h
      simpa [← String.toList_inj] using h

lemma entriesText_continues (url : String) (gems : List Gem) :
    Continues SourceGap ('\n' :: (entriesText (some url) gems).toList) := by
  by_cases hgems : gems = []
  · rw [hgems, entriesText_nil]
    exact Or.inl (by decide)
  · rw [entriesText_some hgems, String.toList_append]
    rcases entriesText_begins gems with hnone | ⟨tail, htail⟩
    · rw [hnone]
      exact Or.inl (by decide)
    · rw [htail]
      exact Or.inr ⟨"\n\ngem ".toList, tail, rfl, by decide, rfl⟩

lemma toList_text_some (url : String) (gems : List Gem) : (text (some url) gems).toList =
    "source \"".toList ++ (url.toList ++ '"' :: '\n' :: (entriesText (some url) gems).toList) := by
  simp [text_eq_append, sourceText]

lemma text_none (gems : List Gem) : text none gems = entriesText none gems := by
  simp [text_eq_append, sourceText]

/-- The line of a source is no line of a gem. -/
lemma text_some_ne {url : String} {gems gems' : List Gem} : text (some url) gems ≠ text none gems' := by
  intro h
  rw [← String.toList_inj, toList_text_some, text_none] at h
  rcases entriesText_begins gems' with hnone | ⟨tail, htail⟩
  · rw [hnone] at h
    exact nomatch h
  · rw [htail] at h
    exact absurd (List.cons.inj h).1 (by decide)

lemma source_eq_of_text_eq {url url' : String} {gems gems' : List Gem}
    (hurl : Unclosed SourceGap url) (hurl' : Unclosed SourceGap url')
    (h : text (some url) gems = text (some url') gems') :
    url = url' ∧ entriesText (some url) gems = entriesText (some url') gems' := by
  rw [← String.toList_inj, toList_text_some, toList_text_some, List.append_cancel_left_eq] at h
  obtain ⟨hequal, hrest⟩ := eq_of_closed hurl hurl' (entriesText_continues url gems)
    (entriesText_continues url' gems') h
  exact ⟨hequal, String.toList_inj.mp (List.cons.inj hrest).2⟩

/-- A manifest determines its source and its gems, as long as no value could be closed by quotes of its
own. -/
theorem eq_of_text_eq {source source' : Option String} {gems gems' : List Gem}
    (hsource : ∀ url ∈ source, Unclosed SourceGap url)
    (hsource' : ∀ url ∈ source', Unclosed SourceGap url)
    (hgems : ∀ gem ∈ gems, gem.Unclosed) (hgems' : ∀ gem ∈ gems', gem.Unclosed)
    (h : text source gems = text source' gems') :
    source = source' ∧ sorted gems = sorted gems' := by
  cases source with
  | none =>
    cases source' with
    | none =>
      rw [text_none, text_none] at h
      exact ⟨rfl, sorted_eq_of_entries hgems hgems' h⟩
    | some url' => exact absurd h.symm text_some_ne
  | some url =>
    cases source' with
    | none => exact absurd h text_some_ne
    | some url' =>
      obtain ⟨rfl, hentries⟩ := source_eq_of_text_eq (hsource url rfl) (hsource' url' rfl) h
      exact ⟨rfl, sorted_eq_of_entries hgems hgems' (entriesText_none_of_some hentries)⟩

/-- Quotes in a version need not close it, even at the end of a line. -/
theorem eq_of_text_eq_rails :
    let rack : Gem := ⟨"rack", none⟩
    let rails : Gem := ⟨"rails", some ">= 7.0\",\n\"< 8.1"⟩
    let source := some "https://rubygems.org"
    (∀ url ∈ source, Unclosed SourceGap url) ∧ (∀ gem ∈ [rack, rails], gem.Unclosed) ∧
      text source [rails, rack] = text source [rack, rails] ∧
      sorted [rails, rack] = sorted [rack, rails] := by
  intro rack rails source
  have hsource : ∀ url ∈ source, Unclosed SourceGap url := by
    intro url hurl
    obtain rfl : "https://rubygems.org" = url := Option.some.inj hurl
    exact unclosed_of_unquoted (by decide)
  have hrack : rack.Unclosed := ⟨unclosed_of_unquoted (by decide), nofun⟩
  have hrails : rails.Unclosed := by
    refine ⟨unclosed_of_unquoted (by decide), ?_⟩
    rintro version ⟨⟩ gap rfl
    decide
  have hgems : ∀ gem ∈ [rails, rack], gem.Unclosed := by simp [hrack, hrails]
  have hgems' : ∀ gem ∈ [rack, rails], gem.Unclosed := by simp [hrack, hrails]
  have htext : text source [rails, rack] = text source [rack, rails] := by
    simp [text, sourceLine, sorted, width, List.mergeSort, rails, rack]
  exact ⟨hsource, hgems', htext, (eq_of_text_eq hsource hsource hgems hgems' htext).2⟩

/-- Quotes that close a name, a version or the source make one manifest of different gems. -/
theorem text_of_different_gems :
    (text none [⟨"a\", \"1", none⟩] = text none [⟨"a", some "1"⟩] ∧
      sorted [⟨"a\", \"1", none⟩] ≠ sorted [⟨"a", some "1"⟩]) ∧
    (text none [⟨"a\"\ngem \"b", none⟩] = text none [⟨"a", none⟩, ⟨"b", none⟩] ∧
      sorted [⟨"a\"\ngem \"b", none⟩] ≠ sorted [⟨"a", none⟩, ⟨"b", none⟩]) ∧
    (text none [⟨"a", some "1\"\ngem \"b"⟩] = text none [⟨"a", some "1"⟩, ⟨"b", none⟩] ∧
      sorted [⟨"a", some "1\"\ngem \"b"⟩] ≠ sorted [⟨"a", some "1"⟩, ⟨"b", none⟩]) ∧
    (text (some "x\"\n\ngem \"a") [] = text (some "x") [⟨"a", none⟩] ∧
      some "x\"\n\ngem \"a" ≠ some "x") := by
  have hlisted (version : Option String) :
      sorted [⟨"a", version⟩, ⟨"b", none⟩] = [⟨"a", version⟩, ⟨"b", none⟩] := by
    simp [sorted, List.mergeSort]
  have htext (gem : Gem) (version : Option String)
      (h : entry (width [gem]) gem = String.join ([⟨"a", version⟩, ⟨"b", none⟩].map
        (entry (width [⟨"a", version⟩, ⟨"b", none⟩])))) :
      text none [gem] = text none [⟨"a", version⟩, ⟨"b", none⟩] := by
    rw [text_singleton, text, hlisted, h]
    rfl
  have hsorted (gem : Gem) (version : Option String) :
      sorted [gem] ≠ sorted [⟨"a", version⟩, ⟨"b", none⟩] := by
    rw [hlisted, sorted, List.mergeSort_singleton]
    simp
  exact ⟨⟨by decide +kernel, by decide +kernel⟩, ⟨htext _ _ rfl, hsorted _ _⟩,
    ⟨htext _ _ rfl, hsorted _ _⟩, by decide +kernel, by decide⟩

end Manifest

end SetupRecipe

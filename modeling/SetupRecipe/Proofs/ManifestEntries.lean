import Mathlib.Data.List.Forall2
import Mathlib.Order.Bounds.Basic
import SetupRecipe.Declaration.Manifest

/-!
# Entries of manifests

Every gem that was declared has one line in the manifest, with its name and its version as they were
declared. The lines are sorted by name, gems of one name stay in the order of their declaration, and all
versions begin in one column, whatever characters the names are made of: the width of the names is
counted in bytes, of which a name has no fewer than characters. There is no other manifest of a source
and some gems.
-/

namespace SetupRecipe.Manifest

/-- The line of a gem where all versions begin behind the same number of characters. -/
inductive Lists (column : Nat) : Gem → String → Prop where
  | unversioned (name : String) : Lists column ⟨name, none⟩ ("gem \"" ++ name ++ "\"\n")
  | versioned (name version : String) {blanks : Nat} (apart : 0 < blanks)
    (aligned : ("gem \"" ++ name ++ "\",").length + blanks = column) :
    Lists column ⟨name, some version⟩
      ("gem \"" ++ name ++ "\"," ++ String.ofList (List.replicate blanks ' ') ++ "\"" ++ version
        ++ "\"\n")

/-- The line of the source, if there is one. -/
def sourceText (source : Option String) : String :=
  (source.map fun url => "source \"" ++ url ++ "\"\n").getD ""

/-! ## Widths -/

lemma length_le_utf8ByteSize (text : String) : text.length ≤ text.utf8ByteSize := by
  have hlist : ∀ chars : List Char, chars.length ≤ (String.ofList chars).utf8ByteSize := by
    intro chars
    induction chars with
    | nil => exact Nat.zero_le _
    | cons c chars ih =>
      have hc : 0 < c.utf8Size := c.utf8Size_pos
      rw [String.ofList_cons, String.utf8ByteSize_append, String.utf8ByteSize_singleton,
        List.length_cons]
      omega
  have htext := hlist text.toList
  rwa [String.length_toList, String.ofList_toList] at htext

lemma le_foldl_max {α : Type} (f : α → Nat) (items : List α) (start : Nat) :
    start ≤ items.foldl (fun w a => max w (f a)) start ∧
      ∀ a ∈ items, f a ≤ items.foldl (fun w a => max w (f a)) start := by
  induction items generalizing start with
  | nil => exact ⟨Nat.le_refl start, fun a ha => absurd ha List.not_mem_nil⟩
  | cons head items ih =>
    obtain ⟨hstart, hitems⟩ := ih (max start (f head))
    refine ⟨Nat.le_trans (Nat.le_max_left _ _) hstart, ?_⟩
    intro a ha
    rcases List.mem_cons.mp ha with rfl | ha
    · exact Nat.le_trans (Nat.le_max_right _ _) hstart
    · exact hitems a ha

/-- The width has room for every name that has a version, in its quotes and with its comma. -/
lemma length_le_width {gems : List Gem} {name version : String} (h : ⟨name, some version⟩ ∈ gems) :
    name.length + 3 ≤ width gems := by
  have hversioned : ⟨name, some version⟩ ∈ gems.filter fun gem => gem.version.isSome :=
    List.mem_filter.mpr ⟨h, rfl⟩
  have hbytes : name.utf8ByteSize + 3 ≤ width gems :=
    (le_foldl_max (fun gem => gem.name.utf8ByteSize + 3) _ 0).2 _ hversioned
  have hchars := length_le_utf8ByteSize name
  omega

/-! ## Lines -/

lemma lists_entry_none (column width : Nat) (name : String) :
    Lists column ⟨name, none⟩ (entry width ⟨name, none⟩) := by
  have hline : entry width ⟨name, none⟩ = "gem \"" ++ name ++ "\"\n" := by
    simp [entry, ← String.toList_inj]
  rw [hline]
  exact .unversioned name

lemma entry_lists {gems : List Gem} {gem : Gem} (h : gem ∈ gems) :
    Lists (width gems + 5) gem (entry (width gems) gem) := by
  obtain ⟨name, _ | version⟩ := gem
  · exact lists_entry_none _ _ name
  · have hroom := length_le_width h
    have hlength : ("\"" ++ name ++ "\"" ++ ",").length = name.length + 3 := by
      rw [String.length_append, String.length_append, String.length_append, Nat.add_right_comm,
        Nat.add_comm "\"".length]
      rfl
    have hline : entry (width gems) ⟨name, some version⟩ =
        "gem \"" ++ name ++ "\","
          ++ String.ofList (List.replicate (width gems - (name.length + 3) + 1) ' ') ++ "\"" ++ version
          ++ "\"\n" := by
      simp [entry, padded, hlength, ← String.toList_inj, List.replicate_succ']
    rw [hline]
    apply Lists.versioned name version (Nat.succ_pos _)
    have hbefore : ("gem \"" ++ name ++ "\",").length = name.length + 7 := by
      rw [String.length_append, String.length_append, Nat.add_right_comm, Nat.add_comm _ name.length]
      rfl
    omega

lemma sorted_perm (gems : List Gem) : (sorted gems).Perm gems := List.mergeSort_perm gems _

lemma nameLe_trans (a b c : Gem) (hab : decide (a.name ≤ b.name)) (hbc : decide (b.name ≤ c.name)) :
    decide (a.name ≤ c.name) := by
  rw [decide_eq_true_eq] at hab hbc ⊢
  exact String.le_trans hab hbc

lemma nameLe_total (a b : Gem) : decide (a.name ≤ b.name) || decide (b.name ≤ a.name) := by
  rw [Bool.or_eq_true, decide_eq_true_eq, decide_eq_true_eq]
  exact String.le_total a.name b.name

lemma sorted_pairwise (gems : List Gem) : (sorted gems).Pairwise fun a b => a.name ≤ b.name := by
  have hsorted := List.pairwise_mergeSort nameLe_trans nameLe_total gems
  exact hsorted.imp of_decide_eq_true

/-- Sorting does not change the order of gems of one name. -/
lemma filter_sorted (gems : List Gem) (name : String) :
    (sorted gems).filter (fun gem => gem.name = name) = gems.filter fun gem => gem.name = name := by
  have hequal : (gems.filter fun gem => gem.name = name).Pairwise
      fun a b => decide (a.name ≤ b.name) := by
    apply List.pairwise_of_forall_mem_list
    intro a ha b hb
    have hnamed : a.name = name := of_decide_eq_true (List.mem_filter.mp ha).2
    have hnamed' : b.name = name := of_decide_eq_true (List.mem_filter.mp hb).2
    rw [hnamed, hnamed']
    exact decide_eq_true (String.le_refl name)
  have hsublist : (gems.filter fun gem => gem.name = name).Sublist (sorted gems) :=
    List.sublist_mergeSort nameLe_trans nameLe_total hequal List.filter_sublist
  have hfiltered := hsublist.filter fun gem => gem.name = name
  simp only [List.filter_filter, Bool.and_self] at hfiltered
  exact (hfiltered.eq_of_length ((sorted_perm gems).filter _).length_eq.symm).symm

lemma sorted_lists (gems : List Gem) :
    List.Forall₂ (Lists (width gems + 5)) (sorted gems) ((sorted gems).map (entry (width gems))) := by
  rw [List.forall₂_map_right_iff, List.forall₂_same]
  intro gem hgem
  exact entry_lists ((sorted_perm gems).mem_iff.mp hgem)

lemma text_eq (source : Option String) (gems : List Gem) :
    text source gems =
      sourceText source ++ (if source.isSome ∧ gems ≠ [] then "\n" else "")
        ++ String.join ((sorted gems).map (entry (width gems))) := by
  cases source with
  | none => simp [text, sourceLine, sourceText]
  | some url => cases gems <;> simp [text, sourceLine, sourceText]

/-- A manifest is the line of the source, an empty line between it and any gems, and a line for each gem
in stable order of the names, with all versions in one column. -/
theorem text_lists_gems (source : Option String) (gems : List Gem) :
    ∃ (column : Nat) (listed : List Gem) (lines : List String),
      text source gems =
        sourceText source ++ (if source.isSome ∧ gems ≠ [] then "\n" else "") ++ String.join lines ∧
      List.Forall₂ (Lists column) listed lines ∧ listed.Perm gems ∧
      listed.Pairwise (fun a b => a.name ≤ b.name) ∧
      ∀ name, listed.filter (fun gem => gem.name = name) = gems.filter fun gem => gem.name = name :=
  ⟨width gems + 5, sorted gems, (sorted gems).map (entry (width gems)), text_eq source gems,
    sorted_lists gems, sorted_perm gems, sorted_pairwise gems, filter_sorted gems⟩

/-! ## The only manifest -/

/-- The columns behind every name that has a version, with all that stands around it. -/
def roomFor (gems : List Gem) : Set Nat :=
  {column | ∀ gem ∈ gems, gem.version.isSome → ("gem \"" ++ gem.name ++ "\",").utf8ByteSize < column}

/-- The text of a manifest. Of every name it lists the declared gems in the order of their declaration,
the names in ascending order, and all versions in the first column that has room for every name. -/
inductive Describes (source : Option String) (gems : List Gem) : String → Prop where
  | lines {column : Nat} {listed : List Gem} {lines : List String}
    (first : IsLeast (roomFor gems) column)
    (ascending : listed.Pairwise fun a b => a.name ≤ b.name)
    (declared : ∀ name,
      listed.filter (fun gem => gem.name = name) = gems.filter fun gem => gem.name = name)
    (entries : List.Forall₂ (Lists column) listed lines) :
    Describes source gems
      (sourceText source ++ (if source.isSome ∧ gems ≠ [] then "\n" else "") ++ String.join lines)

lemma foldl_max_le {α : Type} {f : α → Nat} {items : List α} {start bound : Nat} (hstart : start ≤ bound)
    (h : ∀ a ∈ items, f a ≤ bound) : items.foldl (fun w a => max w (f a)) start ≤ bound := by
  induction items generalizing start with
  | nil => exact hstart
  | cons head items ih =>
    rw [List.forall_mem_cons] at h
    exact ih (Nat.max_le.mpr ⟨hstart, h.1⟩) h.2

lemma utf8ByteSize_quoted (name : String) :
    ("gem \"" ++ name ++ "\",").utf8ByteSize = name.utf8ByteSize + 7 := by
  have hbefore : "gem \"".utf8ByteSize = 5 := rfl
  have hbehind : "\",".utf8ByteSize = 2 := rfl
  rw [String.utf8ByteSize_append, String.utf8ByteSize_append, hbefore, hbehind]
  omega

lemma isLeast_roomFor {gems : List Gem} {gem : Gem} (hgem : gem ∈ gems) (hversion : gem.version.isSome) :
    IsLeast (roomFor gems) (width gems + 5) := by
  constructor
  · intro other hother hversioned
    have hfilter : other ∈ gems.filter fun gem => gem.version.isSome :=
      List.mem_filter.mpr ⟨hother, hversioned⟩
    have hroom : other.name.utf8ByteSize + 3 ≤ width gems :=
      (le_foldl_max (fun gem => gem.name.utf8ByteSize + 3) _ 0).2 _ hfilter
    rw [utf8ByteSize_quoted]
    omega
  · intro column hcolumn
    have hbound : ∀ other ∈ gems.filter fun gem => gem.version.isSome,
        other.name.utf8ByteSize + 3 ≤ column - 5 := by
      intro other hother
      obtain ⟨hother, hversioned⟩ := List.mem_filter.mp hother
      have hroom := hcolumn other hother hversioned
      rw [utf8ByteSize_quoted] at hroom
      omega
    have hwidth : width gems ≤ column - 5 := foldl_max_le (Nat.zero_le _) hbound
    have hroom := hcolumn gem hgem hversion
    rw [utf8ByteSize_quoted] at hroom
    omega

/-- The entries stand in the first column with room; without versions any column will do. -/
lemma exists_isLeast_lists (gems : List Gem) :
    ∃ column, IsLeast (roomFor gems) column ∧
      ∀ gem ∈ gems, Lists column gem (entry (width gems) gem) := by
  by_cases hversioned : ∃ gem ∈ gems, gem.version.isSome
  · obtain ⟨gem, hgem, hversion⟩ := hversioned
    exact ⟨width gems + 5, isLeast_roomFor hgem hversion, fun gem hgem => entry_lists hgem⟩
  · push Not at hversioned
    refine ⟨0, ⟨fun gem hgem hversion => absurd hversion (hversioned gem hgem), fun _ _ => Nat.zero_le _⟩,
      fun gem hgem => ?_⟩
    obtain ⟨name, _ | version⟩ := gem
    · exact lists_entry_none _ _ name
    · exact absurd rfl (hversioned _ hgem)

lemma describes_text (source : Option String) (gems : List Gem) : Describes source gems (text source gems) := by
  obtain ⟨column, hleast, hlists⟩ := exists_isLeast_lists gems
  rw [text_eq]
  refine .lines hleast (sorted_pairwise gems) (filter_sorted gems) ?_
  rw [List.forall₂_map_right_iff, List.forall₂_same]
  intro gem hgem
  exact hlists gem ((sorted_perm gems).mem_iff.mp hgem)

lemma mem_iff_of_filter_eq {listed others : List Gem}
    (h : ∀ name,
      listed.filter (fun gem => gem.name = name) = others.filter fun gem => gem.name = name)
    (gem : Gem) : gem ∈ listed ↔ gem ∈ others := by
  have hnamed := congrArg (gem ∈ ·) (h gem.name)
  simpa using hnamed

/-- Gems in ascending order are determined by those of each name. -/
lemma eq_of_ascending {listed others : List Gem} (hlisted : listed.Pairwise fun a b => a.name ≤ b.name)
    (hothers : others.Pairwise fun a b => a.name ≤ b.name)
    (h : ∀ name,
      listed.filter (fun gem => gem.name = name) = others.filter fun gem => gem.name = name) :
    listed = others := by
  have hmem := mem_iff_of_filter_eq h
  induction listed generalizing others with
  | nil => exact (List.eq_nil_iff_forall_not_mem.mpr fun gem hgem => nomatch (hmem gem).mpr hgem).symm
  | cons gem listed ih =>
    cases others with
    | nil => exact nomatch (hmem gem).mp List.mem_cons_self
    | cons other others =>
      rw [List.pairwise_cons] at hlisted hothers
      have hle : gem.name ≤ other.name := by
        rcases List.mem_cons.mp ((hmem other).mpr List.mem_cons_self) with rfl | hother
        · exact String.le_refl _
        · exact hlisted.1 other hother
      have hge : other.name ≤ gem.name := by
        rcases List.mem_cons.mp ((hmem gem).mp List.mem_cons_self) with rfl | hgem
        · exact String.le_refl _
        · exact hothers.1 gem hgem
      have hname : other.name = gem.name := String.le_antisymm hge hle
      have hfirst := h gem.name
      simp only [List.filter_cons, hname, decide_true, if_true, List.cons.injEq] at hfirst
      obtain ⟨rfl, -⟩ := hfirst
      have htails : ∀ name,
          listed.filter (fun gem => gem.name = name) = others.filter fun gem => gem.name = name := by
        intro name
        have hall := h name
        simp only [List.filter_cons] at hall
        split at hall
        · exact (List.cons.inj hall).2
        · exact hall
      rw [ih hlisted.2 hothers.2 htails (mem_iff_of_filter_eq htails)]

lemma Lists.unique {column : Nat} {gem : Gem} {line other : String} (h : Lists column gem line)
    (h' : Lists column gem other) : line = other := by
  cases h with
  | unversioned name => cases h' with | unversioned => rfl
  | @versioned name version blanks apart aligned =>
    cases h' with
    | @versioned _ _ blanks' apart' aligned' =>
      obtain rfl : blanks = blanks' := by omega
      rfl

lemma Describes.unique {source : Option String} {gems : List Gem} {manifest other : String}
    (h : Describes source gems manifest) (h' : Describes source gems other) : manifest = other := by
  obtain @⟨column, listed, lines, first, ascending, declared, entries⟩ := h
  obtain @⟨column', listed', lines', first', ascending', declared', entries'⟩ := h'
  obtain rfl := first.unique first'
  obtain rfl := eq_of_ascending ascending ascending' fun name => (declared name).trans (declared' name).symm
  have hunique : Relator.RightUnique (Lists column) := fun _ _ _ => Lists.unique
  rw [hunique.forall₂ entries entries']

end SetupRecipe.Manifest

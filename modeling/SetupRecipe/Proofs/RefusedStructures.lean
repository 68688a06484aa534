import SetupRecipe.Proofs.AcceptedStructures

/-!
# Refused structures

What a block refuses is said here without reference to how blocks read their structures: there is one
case for every way in which a structure can be wrong. A structure is refused by the code exactly in
these cases, and for the reason of the case.
-/

namespace SetupRecipe.Document

open Config (Structure Expression)
open Program (Draft Target)

/-! ## Reasons to refuse -/

/-- Some item is the first that is refused. -/
def FirstRefused {α : Type} (refuses : α → Refusal → Prop) (items : List α) (first : α)
    (refusal : Refusal) : Prop :=
  ∃ before after, items = before ++ first :: after ∧
    (∀ earlier ∈ before, ∀ r, ¬ refuses earlier r) ∧ refuses first refusal

/-- A block knows an attribute, as it takes some value for it. -/
def IsKnown (target : Target) (key : String) : Prop := ∃ value edits, Knows target key value edits

/-- What the value of an attribute shows where a text is wanted. Commands may also come in a list, of
which the first item that is no text counts. -/
inductive NotText (key : String) : Config.Value → Config.Value → Prop where
  | value {found : Config.Value} (other : ∀ text, found ≠ .string text)
    (single : key = "command" → ∀ values, found ≠ .list values) : NotText key found found
  | item (commands : key = "command") (texts : List String) {found : Config.Value}
    (values : List Config.Value) (other : ∀ text, found ≠ .string text) :
    NotText key (.list (texts.map .string ++ found :: values)) found

def unknownAttribute : Target → String → Refusal
  | .recipe, key => .unknownInRecipe key
  | .block kind, key => .unknownInBlock key kind

inductive ValueRefuses : Target → String → Config.Value → Refusal → Prop where
  | unknown {target : Target} {key : String} {value : Config.Value} (h : ¬ IsKnown target key) :
    ValueRefuses target key value (unknownAttribute target key)
  | notString {target : Target} {key : String} {value found : Config.Value}
    (known : IsKnown target key) (h : NotText key value found) :
    ValueRefuses target key value (.notString key found)
  | notOctal {target : Target} {key text : String} (known : IsKnown target key)
    (permission : key = "mode") (h : Shell.readMode? text = none) :
    ValueRefuses target key (.string text) (.notOctal text)

/-- An attribute of a gem is refused. Blocks in a gem are never refused. -/
inductive GemRefuses (bindings : List (String × Config.Value)) : Structure → Refusal → Prop where
  | unknown {key : String} {e : Expression} (h : key ≠ "version") :
    GemRefuses bindings (.assignment key e) (.unknownInGem key)
  | evaluation {e : Expression} {failure : Config.Failure} (h : e.eval bindings = .error failure) :
    GemRefuses bindings (.assignment "version" e) (.evaluation "version" failure)
  | notString {e : Expression} {found : Config.Value} (evaluates : e.eval bindings = .ok found)
    (h : ∀ text, found ≠ .string text) :
    GemRefuses bindings (.assignment "version" e) (.notString "version" found)

/-- A structure is refused by the block of a recipe or of a resource. -/
inductive BlockRefuses (bindings : List (String × Config.Value)) :
    Target → Structure → Refusal → Prop where
  | evaluation {target : Target} {key : String} {e : Expression} {failure : Config.Failure}
    (h : e.eval bindings = .error failure) :
    BlockRefuses bindings target (.assignment key e) (.evaluation key failure)
  | value {target : Target} {key : String} {e : Expression} {value : Config.Value}
    {refusal : Refusal} (evaluates : e.eval bindings = .ok value)
    (h : ValueRefuses target key value refusal) :
    BlockRefuses bindings target (.assignment key e) refusal
  | gemLabels {labels : List String} {structures : List Structure}
    (h : ∀ name, labels ≠ [name]) :
    BlockRefuses bindings (.block .gemfile) (.block "gem" labels ⟨structures⟩) .gemLabels
  | gem {name : String} {structures : List Structure} {s : Structure} {refusal : Refusal}
    (h : FirstRefused (GemRefuses bindings) structures s refusal) :
    BlockRefuses bindings (.block .gemfile) (.block "gem" [name] ⟨structures⟩) refusal
  | manyLabels {target : Target} {word : String} {labels : List String}
    {structures : List Structure} (resource : ¬ (target = .block .gemfile ∧ word = "gem"))
    (h : labels.length > 1) :
    BlockRefuses bindings target (.block word labels ⟨structures⟩) (.manyLabels word)
  | haltNotBare {target : Target} {word : String} {labels : List String}
    {structures : List Structure} (halt : word = "halt_on_failed_command")
    (labelled : labels.length ≤ 1) (h : labels.headD "" ≠ "" ∨ structures ≠ []) :
    BlockRefuses bindings target (.block word labels ⟨structures⟩) .haltNotBare
  | unknownBlock {target : Target} {word : String} {labels : List String}
    {structures : List Structure} (resource : ¬ (target = .block .gemfile ∧ word = "gem"))
    (labelled : labels.length ≤ 1) (halt : word ≠ "halt_on_failed_command")
    (h : ∀ kind : BlockKind, word ≠ kind.word) :
    BlockRefuses bindings target (.block word labels ⟨structures⟩) (.unknownBlock word)

/-! ## Lists of items -/

namespace FirstRefused

variable {α : Type} {refuses : α → Refusal → Prop} {item : α} {items : List α} {refusal : Refusal}

lemma iff_findSome? {f : α → Option Refusal} (hf : ∀ a r, f a = some r ↔ refuses a r) :
    items.findSome? f = some refusal ↔ ∃ first, FirstRefused refuses items first refusal := by
  simp only [List.findSome?_eq_some_iff, FirstRefused, Option.eq_none_iff_forall_ne_some, ne_eq, hf]
  constructor
  · rintro ⟨before, first, after, hitems, hfirst, hbefore⟩
    exact ⟨first, before, after, hitems, hbefore, hfirst⟩
  · rintro ⟨first, before, after, hitems, hbefore, hfirst⟩
    exact ⟨before, first, after, hitems, hfirst, hbefore⟩

/-- Among items of which one is refused, there is a first one. -/
lemma exists_of_mem (hmem : item ∈ items) (h : refuses item refusal) :
    ∃ first r, FirstRefused refuses items first r := by
  induction items with
  | nil => exact absurd hmem List.not_mem_nil
  | cons head items ih =>
    by_cases hhead : ∃ r, refuses head r
    · obtain ⟨r, hr⟩ := hhead
      exact ⟨head, r, [], items, rfl, fun _ hearlier => absurd hearlier List.not_mem_nil, hr⟩
    · rcases List.mem_cons.mp hmem with rfl | hmem
      · exact absurd ⟨refusal, h⟩ hhead
      · obtain ⟨first, r, before, after, rfl, hbefore, hfirst⟩ := ih hmem
        refine ⟨first, r, head :: before, after, rfl, ?_, hfirst⟩
        intro earlier hearlier r hr
        rcases List.mem_cons.mp hearlier with rfl | hearlier
        · exact hhead ⟨r, hr⟩
        · exact hbefore earlier hearlier r hr

lemma of_located {β : Type} {source : β} {located : β × α}
    (h : FirstRefused (fun root => refuses root.2) (items.map fun a => (source, a)) located refusal) :
    located.1 = source ∧ FirstRefused refuses items located.2 refusal := by
  obtain ⟨before, after, hitems, hbefore, hfirst⟩ := h
  obtain ⟨earlier, rest, rfl, rfl, hrest⟩ := List.map_eq_append_iff.mp hitems
  obtain ⟨first, later, rfl, rfl, rfl⟩ := List.map_eq_cons_iff.mp hrest
  refine ⟨rfl, earlier, later, rfl, ?_, hfirst⟩
  intro a ha
  exact hbefore (source, a) (List.mem_map_of_mem ha)

end FirstRefused

/-! ## Values -/

lemma wantString_eq_error {key : String} {value : Config.Value} {refusal : Refusal} :
    wantString key value = .error refusal ↔
      (∀ text, value ≠ .string text) ∧ refusal = .notString key value := by
  cases value with
  | string text => simp [wantString]
  | _ => simp [wantString, eq_comm]

lemma refusal_ofExcept {α : Type} {edit : α → Edit} {x : Except Refusal α} {refusal : Refusal} :
    (Request.ofExcept edit x).refusal = some refusal ↔ x = .error refusal := by
  cases x <;> simp [Request.ofExcept, Request.edit, Request.refuse]

lemma commandsAttribute_refused {values : List Config.Value} {refusal : Refusal} :
    (commandsAttribute values).refusal = some refusal ↔
      ∃ (texts : List String) (found : Config.Value) (more : List Config.Value),
        values = texts.map .string ++ found :: more ∧ (∀ text, found ≠ .string text) ∧
          refusal = .notString "command" found := by
  induction values with
  | nil => simp [commandsAttribute]
  | cons value values ih =>
    rw [commandsAttribute]
    cases hvalue : wantString "command" value with
    | ok text =>
      obtain rfl := eq_string_of_wantString hvalue
      change (commandsAttribute values).refusal = some refusal ↔ _
      rw [ih]
      constructor
      · rintro ⟨texts, found, more, rfl, hfound⟩
        exact ⟨text :: texts, found, more, rfl, hfound⟩
      · rintro ⟨texts, found, more, hvalues, hfound, hrefusal⟩
        cases texts with
        | nil => exact absurd (List.head_eq_of_cons_eq hvalues).symm (hfound text)
        | cons first texts =>
          exact ⟨texts, found, more, List.tail_eq_of_cons_eq hvalues, hfound, hrefusal⟩
    | error first =>
      obtain ⟨hother, rfl⟩ := wantString_eq_error.mp hvalue
      change some (Refusal.notString "command" value) = some refusal ↔ _
      constructor
      · intro h
        exact ⟨[], value, values, rfl, hother, (Option.some.inj h).symm⟩
      · rintro ⟨texts, found, more, hvalues, -, rfl⟩
        cases texts with
        | nil => rw [List.head_eq_of_cons_eq hvalues]
        | cons text texts => exact absurd (List.head_eq_of_cons_eq hvalues) (hother text)

lemma commandAttribute_refused {value : Config.Value} {refusal : Refusal} :
    (commandAttribute value).refusal = some refusal ↔
      ∃ found, NotText "command" value found ∧ refusal = .notString "command" found := by
  unfold commandAttribute
  split
  · next values =>
    rw [commandsAttribute_refused]
    constructor
    · rintro ⟨texts, found, more, rfl, hother, hrefusal⟩
      exact ⟨found, .item rfl texts more hother, hrefusal⟩
    · rintro ⟨found, h, hrefusal⟩
      cases h with
      | value _ single => exact absurd rfl (single rfl values)
      | item _ texts more other => exact ⟨texts, found, more, rfl, other, hrefusal⟩
  · next hlist =>
    rw [commandsAttribute_refused]
    constructor
    · rintro ⟨texts, found, more, hvalue, hother, hrefusal⟩
      cases texts with
      | nil =>
        obtain rfl := List.head_eq_of_cons_eq hvalue
        exact ⟨value, .value hother fun _ => hlist, hrefusal⟩
      | cons text texts =>
        have hlength := congrArg List.length hvalue
        simp at hlength
    · rintro ⟨found, h, hrefusal⟩
      cases h with
      | value other _ => exact ⟨[], value, [], rfl, other, hrefusal⟩
      | item _ texts more _ => exact absurd rfl (hlist _)

/-- Of an attribute other than the commands, no list is looked into. -/
lemma notText_iff {key : String} (hkey : key ≠ "command") {value found : Config.Value} :
    NotText key value found ↔ (∀ text, value ≠ .string text) ∧ found = value := by
  constructor
  · intro h
    cases h with
    | value other _ => exact ⟨other, rfl⟩
    | item commands _ _ _ => exact absurd commands hkey
  · rintro ⟨hother, rfl⟩
    exact .value hother fun h => absurd h hkey

lemma modeAttribute_refused {value : Config.Value} {refusal : Refusal} :
    (modeAttribute value).refusal = some refusal ↔
      ((∀ text, value ≠ .string text) ∧ refusal = .notString "mode" value) ∨
        ∃ text, value = .string text ∧ Shell.readMode? text = none ∧ refusal = .notOctal text := by
  unfold modeAttribute
  rw [refusal_ofExcept, ← wantString_eq_error]
  cases value with
  | string text =>
    cases hmode : Shell.readMode? text <;> simp [wantMode, wantString, hmode, bind, Except.bind, eq_comm]
  | _ => simp [wantMode, wantString, bind, Except.bind]

/-! ## Attributes -/

/-- The ways in which the value of an attribute is read. -/
inductive ReadAs : Target → String → (Config.Value → Request) → Prop where
  | text {target : Target} {key : String} (edit : String → Edit) (single : key ≠ "command")
    (plain : key ≠ "mode") (known : IsKnown target key) :
    ReadAs target key fun value => .ofExcept edit (wantString key value)
  | commands {target : Target} (known : IsKnown target "command") :
    ReadAs target "command" commandAttribute
  | mode {target : Target} (known : IsKnown target "mode") : ReadAs target "mode" modeAttribute
  | unknown {target : Target} {key : String} (h : ¬ IsKnown target key) :
    ReadAs target key fun _ => .refuse (unknownAttribute target key)

lemma attributeRequest_unknown {target : Target} {key : String} (h : ¬ IsKnown target key) :
    attributeRequest target key = fun _ => .refuse (unknownAttribute target key) := by
  have hrefused : (attributeRequest target key (.string "0")).refusal ≠ none :=
    fun hnone => h ⟨_, _, knows_of_attributeRequest hnone⟩
  funext value
  unfold attributeRequest at hrefused ⊢
  by_cases hecho : key = "echo"
  · rw [if_pos hecho] at hrefused
    exact absurd rfl hrefused
  · rw [if_neg hecho] at hrefused ⊢
    cases target with
    | recipe => rfl
    | block kind =>
      simp only at hrefused ⊢
      unfold blockAttribute at hrefused ⊢
      -- every attribute that a kind of block has takes the text of an octal number
      split at hrefused
      case h_15 => rfl
      all_goals exact absurd rfl hrefused

lemma readAs_text {kind : BlockKind} {key text : String} {make : String → Attribute String}
    (known : (key, make) ∈ textAttributes) (fits : (make text).fits kind) :
    ReadAs (.block kind) key (attributeRequest (.block kind) key) := by
  have hknown : IsKnown (.block kind) key := ⟨_, _, .text text known fits⟩
  simp only [textAttributes, List.mem_cons, Prod.mk.injEq, List.not_mem_nil, or_false] at known
  rcases known with ⟨rfl, rfl⟩ | ⟨rfl, rfl⟩ | ⟨rfl, rfl⟩ | ⟨rfl, rfl⟩ | ⟨rfl, rfl⟩ |
    ⟨rfl, rfl⟩ | ⟨rfl, rfl⟩ | ⟨rfl, rfl⟩
  all_goals
    cases kind
    all_goals first
      | exact absurd fits Bool.false_ne_true
      | exact .text (fun text => .set _) (by decide) (by decide) hknown

lemma readAs_mode {kind : BlockKind} {mode : UInt32} (known : IsKnown (.block kind) "mode")
    (fits : (Attribute.mode mode : Attribute String).fits kind) :
    ReadAs (.block kind) "mode" (attributeRequest (.block kind) "mode") := by
  cases kind with
  | file => exact .mode known
  | directory => exact .mode known
  | _ => exact absurd fits Bool.false_ne_true

lemma attributeRequest_readAs (target : Target) (key : String) :
    ReadAs target key (attributeRequest target key) := by
  by_cases hknown : IsKnown target key
  · obtain ⟨value, edits, h⟩ := id hknown
    cases h with
    | echo message => exact .text .echo (by decide) (by decide) hknown
    | command text => exact .commands hknown
    | commands texts => exact .commands hknown
    | text text known fits => exact readAs_text known fits
    | mode octal fits => exact readAs_mode hknown fits
  · rw [attributeRequest_unknown hknown]
    exact .unknown hknown

lemma attributeRequest_refused {target : Target} {key : String} {value : Config.Value}
    {refusal : Refusal} :
    (attributeRequest target key value).refusal = some refusal ↔
      ValueRefuses target key value refusal := by
  have hread := attributeRequest_readAs target key
  generalize attributeRequest target key = read at hread
  cases hread with
  | text edit single plain known =>
    rw [refusal_ofExcept, wantString_eq_error]
    constructor
    · rintro ⟨hother, rfl⟩
      exact .notString known ((notText_iff single).mpr ⟨hother, rfl⟩)
    · intro h
      cases h with
      | unknown h => exact absurd known h
      | notString _ h =>
        obtain ⟨hother, rfl⟩ := (notText_iff single).mp h
        exact ⟨hother, rfl⟩
      | notOctal _ permission _ => exact absurd permission plain
  | commands known =>
    rw [commandAttribute_refused]
    constructor
    · rintro ⟨found, hfound, rfl⟩
      exact .notString known hfound
    · intro h
      cases h with
      | unknown h => exact absurd known h
      | notString _ h => exact ⟨_, h, rfl⟩
      | notOctal _ permission _ => exact absurd permission (by decide)
  | mode known =>
    rw [modeAttribute_refused]
    constructor
    · rintro (⟨hother, rfl⟩ | ⟨text, rfl, hoctal, rfl⟩)
      · exact .notString known ((notText_iff (by decide)).mpr ⟨hother, rfl⟩)
      · exact .notOctal known rfl hoctal
    · intro h
      cases h with
      | unknown h => exact absurd known h
      | notString _ h =>
        obtain ⟨hother, rfl⟩ := (notText_iff (by decide)).mp h
        exact Or.inl ⟨hother, rfl⟩
      | notOctal _ _ h => exact Or.inr ⟨_, rfl, h, rfl⟩
  | unknown hunknown =>
    constructor
    · intro h
      obtain rfl := Option.some.inj h
      exact .unknown hunknown
    · intro h
      cases h with
      | unknown _ => rfl
      | notString known _ => exact absurd known hunknown
      | notOctal known _ _ => exact absurd known hunknown

/-! ## Blocks -/

lemma evaluate_eq_error {site : Site} {key : String} {e : Expression} {refusal : Refusal} :
    site.evaluate key e = .error refusal ↔
      ∃ failure, e.eval site.bindings = .error failure ∧ refusal = .evaluation key failure := by
  unfold Site.evaluate
  cases e.eval site.bindings <;> simp [eq_comm]

lemma evaluate_bind_eq_error {site : Site} {key : String} {e : Expression} {refusal : Refusal} :
    (site.evaluate key e >>= wantString key) = .error refusal ↔
      (∃ failure, e.eval site.bindings = .error failure ∧ refusal = .evaluation key failure) ∨
        ∃ found, e.eval site.bindings = .ok found ∧ (∀ text, found ≠ .string text) ∧
          refusal = .notString key found := by
  unfold Site.evaluate
  cases e.eval site.bindings with
  | error failure => simp [bind, Except.bind, eq_comm]
  | ok value =>
    change wantString key value = .error refusal ↔ _
    rw [wantString_eq_error]
    simp

def refusalOf {α : Type} : Except Refusal α → Option Refusal
  | .error refusal => some refusal
  | .ok _ => none

@[simp]
lemma refusalOf_eq_some {α : Type} {x : Except Refusal α} {refusal : Refusal} :
    refusalOf x = some refusal ↔ x = .error refusal := by
  cases x <;> simp [refusalOf]

def gemRefusal? (site : Site) : Structure → Option Refusal
  | .assignment key e =>
    if key = "version" then refusalOf (site.evaluate key e >>= wantString key)
    else some (.unknownInGem key)
  | .block _ _ _ => none

lemma gemRefusal?_eq_some {site : Site} {s : Structure} {refusal : Refusal} :
    gemRefusal? site s = some refusal ↔ GemRefuses site.bindings s refusal := by
  obtain ⟨key, e⟩ | ⟨word, labels, body⟩ := s
  · rw [gemRefusal?]
    by_cases hkey : key = "version"
    · subst hkey
      rw [if_pos rfl, refusalOf_eq_some, evaluate_bind_eq_error]
      constructor
      · rintro (⟨failure, hfails, rfl⟩ | ⟨found, hvalue, hother, rfl⟩)
        · exact .evaluation hfails
        · exact .notString hvalue hother
      · intro h
        cases h with
        | unknown h => exact absurd rfl h
        | evaluation h => exact Or.inl ⟨_, h, rfl⟩
        | notString evaluates h => exact Or.inr ⟨_, evaluates, h, rfl⟩
    · rw [if_neg hkey, Option.some.injEq]
      constructor
      · rintro rfl
        exact .unknown hkey
      · intro h
        cases h with
        | unknown _ => rfl
        | evaluation _ => exact absurd rfl hkey
        | notString _ _ => exact absurd rfl hkey
  · constructor
    · exact fun h => nomatch h
    · exact fun h => nomatch h

/-- A gem is refused for the first of its attributes that is. -/
lemma gemVersion_refused {site : Site} {structures : List Structure} {before : Option String}
    {refusal : Refusal} :
    gemVersion site structures before = .error refusal ↔
      ∃ s, FirstRefused (GemRefuses site.bindings) structures s refusal := by
  rw [← FirstRefused.iff_findSome? fun s r => gemRefusal?_eq_some]
  induction structures generalizing before with
  | nil => simp [gemVersion]
  | cons s structures ih =>
    obtain ⟨key, e⟩ | ⟨word, labels, body⟩ := s
    · rw [gemVersion, List.findSome?_cons, gemRefusal?]
      by_cases hkey : key = "version"
      · rw [if_pos hkey, if_pos hkey, ← bind_assoc]
        cases site.evaluate key e >>= wantString key with
        | error first =>
          change Except.error first = Except.error refusal ↔ some first = some refusal
          simp
        | ok text => exact ih
      · rw [if_neg hkey, if_neg hkey]
        simp
    · exact ih

lemma gemOpening_refused {site : Site} {labels : List String} {structures : List Structure}
    {refusal : Refusal} :
    gemOpening site labels structures = .error refusal ↔
      BlockRefuses site.bindings (.block .gemfile) (.block "gem" labels ⟨structures⟩) refusal := by
  unfold gemOpening
  split
  · next name =>
    have hgem : (gemVersion site structures none >>= fun version =>
        (pure (.gem name version) : Except Refusal Opening)) = .error refusal ↔
          gemVersion site structures none = .error refusal := by
      cases gemVersion site structures none <;> simp [bind, Except.bind, pure, Except.pure]
    rw [hgem, gemVersion_refused]
    constructor
    · rintro ⟨s, h⟩
      exact .gem h
    · intro h
      cases h with
      | gem h => exact ⟨_, h⟩
      | gemLabels h => exact absurd rfl (h name)
      | manyLabels resource _ => exact absurd ⟨rfl, rfl⟩ resource
      | haltNotBare halt _ _ => exact absurd halt (by decide)
      | unknownBlock resource _ _ _ => exact absurd ⟨rfl, rfl⟩ resource
  · next hlabels =>
    constructor
    · intro h
      obtain rfl := Except.error.inj h
      exact .gemLabels hlabels
    · intro h
      cases h with
      | gem h => exact absurd rfl (hlabels _)
      | gemLabels h => rfl
      | manyLabels resource _ => exact absurd ⟨rfl, rfl⟩ resource
      | haltNotBare halt _ _ => exact absurd halt (by decide)
      | unknownBlock resource _ _ _ => exact absurd ⟨rfl, rfl⟩ resource

lemma resourceOpening_unknown {word : String} (hhalt : word ≠ "halt_on_failed_command")
    (hother : ∀ kind : BlockKind, word ≠ kind.word) (label : String)
    (structures : List Structure) :
    resourceOpening word label structures = .error (.unknownBlock word) := by
  unfold resourceOpening
  split
  · exact absurd rfl (hother .execute)
  · exact absurd rfl (hother .file)
  · exact absurd rfl (hother .directory)
  · exact absurd rfl (hother .gemfile)
  · exact absurd rfl (hother .log)
  · exact absurd rfl hhalt
  · rfl

lemma resourceOpening_refused {word label : String} {structures : List Structure}
    {refusal : Refusal} :
    resourceOpening word label structures = .error refusal ↔
      (word = "halt_on_failed_command" ∧ (label ≠ "" ∨ structures ≠ []) ∧ refusal = .haltNotBare) ∨
        (word ≠ "halt_on_failed_command" ∧ (∀ kind : BlockKind, word ≠ kind.word) ∧
          refusal = .unknownBlock word) := by
  by_cases hhalt : word = "halt_on_failed_command"
  · have hopening : resourceOpening word label structures =
        if label = "" ∧ structures.isEmpty then .ok .haltOnFailedCommand
        else .error .haltNotBare := by
      rw [hhalt]
      rfl
    have hbare : (label = "" ∧ structures.isEmpty) ↔ ¬ (label ≠ "" ∨ structures ≠ []) := by
      simp
    rw [hopening]
    by_cases h : label = "" ∧ structures.isEmpty
    · have hempty : structures = [] := List.isEmpty_iff.mp h.2
      simp [h.1, hempty, hhalt]
    · rw [if_neg h]
      rw [hbare, not_not] at h
      simp [hhalt, h, eq_comm]
  · by_cases hkind : ∃ kind : BlockKind, word = kind.word
    · obtain ⟨kind, rfl⟩ := hkind
      have hopened : ∃ opened, resourceOpening kind.word label structures = .ok opened := by
        cases kind <;> exact ⟨_, rfl⟩
      obtain ⟨opened, hopened⟩ := hopened
      rw [hopened]
      constructor
      · exact fun h => nomatch h
      · rintro (⟨h, -⟩ | ⟨-, h, -⟩)
        · exact absurd h hhalt
        · exact absurd rfl (h kind)
    · have hother : ∀ kind : BlockKind, word ≠ kind.word := fun kind h => hkind ⟨kind, h⟩
      rw [resourceOpening_unknown hhalt hother]
      simp [hhalt, hother, eq_comm]

lemma opening_refused {site : Site} {target : Target} {word : String} {labels : List String}
    {structures : List Structure} {refusal : Refusal} :
    opening site target word labels structures = .error refusal ↔
      BlockRefuses site.bindings target (.block word labels ⟨structures⟩) refusal := by
  unfold opening
  split
  · next hgem =>
    obtain ⟨rfl, rfl⟩ := hgem
    exact gemOpening_refused
  · next hresource =>
    split
    · next hlabels =>
      constructor
      · intro h
        obtain rfl := Except.error.inj h
        exact .manyLabels hresource hlabels
      · intro h
        cases h with
        | gemLabels _ => exact absurd ⟨rfl, rfl⟩ hresource
        | gem _ => exact absurd ⟨rfl, rfl⟩ hresource
        | manyLabels _ _ => rfl
        | haltNotBare _ labelled _ => exact absurd labelled (Nat.not_le_of_lt hlabels)
        | unknownBlock _ labelled _ _ => exact absurd labelled (Nat.not_le_of_lt hlabels)
    · next hlabels =>
      have labelled : labels.length ≤ 1 := Nat.le_of_not_lt hlabels
      rw [resourceOpening_refused]
      constructor
      · rintro (⟨hhalt, hbare, rfl⟩ | ⟨hhalt, hother, rfl⟩)
        · exact .haltNotBare hhalt labelled hbare
        · exact .unknownBlock hresource labelled hhalt hother
      · intro h
        cases h with
        | gemLabels _ => exact absurd ⟨rfl, rfl⟩ hresource
        | gem _ => exact absurd ⟨rfl, rfl⟩ hresource
        | manyLabels _ h => exact absurd h hlabels
        | haltNotBare halt _ h => exact Or.inl ⟨halt, h, rfl⟩
        | unknownBlock _ _ halt h => exact Or.inr ⟨halt, h, rfl⟩

/-! ## Structures -/

def refusal? (site : Site) (target : Target) : Structure → Option Refusal
  | .assignment key e => (site.assignment target key e).refusal
  | .block word labels ⟨structures⟩ => refusalOf (opening site target word labels structures)

lemma refusal?_eq_some {site : Site} {target : Target} {s : Structure} {refusal : Refusal} :
    refusal? site target s = some refusal ↔ BlockRefuses site.bindings target s refusal := by
  obtain ⟨key, e⟩ | ⟨word, labels, ⟨structures⟩⟩ := s
  · rw [refusal?, Site.assignment]
    cases hvalue : site.evaluate key e with
    | error first =>
      obtain ⟨failure, hfails, rfl⟩ := evaluate_eq_error.mp hvalue
      change some (Refusal.evaluation key failure) = some refusal ↔ _
      constructor
      · intro h
        obtain rfl := Option.some.inj h
        exact .evaluation hfails
      · intro h
        cases h with
        | evaluation h => rw [Except.error.inj (hfails.symm.trans h)]
        | value evaluates _ => cases hfails.symm.trans evaluates
    | ok value =>
      have hevaluates : e.eval site.bindings = .ok value := value_of_evaluate hvalue
      change (attributeRequest target key value).refusal = some refusal ↔ _
      rw [attributeRequest_refused]
      constructor
      · exact .value hevaluates
      · intro h
        cases h with
        | evaluation h => cases hevaluates.symm.trans h
        | value evaluates h => rwa [Except.ok.inj (hevaluates.symm.trans evaluates)]
  · rw [refusal?, refusalOf_eq_some, opening_refused]

lemma grant_problem (site : Site) (draft : Draft) (request : Request) :
    (site.grant draft request).problem =
      draft.problem.or (request.refusal.map fun refusal =>
        .invalidDeclaration site.location refusal.text) := by
  have happly : ∀ (draft : Draft) (edit : Edit), (edit.apply draft).problem = draft.problem := by
    intro draft edit
    cases edit with
    | echo message => rfl
    | set setting => rfl
    | command text =>
      change (draft.command text).problem = draft.problem
      unfold Draft.command
      split <;> rfl
  have hedits : (request.edits.foldl Edit.apply draft).problem = draft.problem := by
    induction request.edits generalizing draft with
    | nil => rfl
    | cons edit edits ih => exact (ih (edit.apply draft)).trans (happly draft edit)
  unfold Site.grant
  cases request.refusal with
  | none => simpa using hedits
  | some refusal =>
    change Option.or _ _ = _
    rw [hedits]
    rfl

/-- A structure leaves the problem that a block has; of a block without one, its refusal becomes the
problem. -/
lemma declareStructure_problem (site : Site) (s : Structure) (draft : Draft) :
    (declareStructure site s draft).problem =
      draft.problem.or ((refusal? site draft.target s).map fun refusal =>
        .invalidDeclaration site.location refusal.text) := by
  obtain ⟨key, e⟩ | ⟨word, labels, ⟨structures⟩⟩ := s
  · exact grant_problem site draft _
  · rw [declareStructure, refusal?]
    cases opening site draft.target word labels structures with
    | error refusal => rfl
    | ok opened =>
      change _ = draft.problem.or none
      rw [Option.or_none]
      cases opened with
      | haltOnFailedCommand => rfl
      | gem name version => rfl
      | resource kind label preset =>
        change (draft.closeBlock _).problem = draft.problem
        unfold Draft.closeBlock
        split <;> rfl

end SetupRecipe.Document

import SetupRecipe.Proofs.JsonReader
import SetupRecipe.Proofs.JsonTokens

/-!
# Node data survives JSON

Both texts of a value, the compact and the indented one, spell its tokens. So they are read back as
the value, with every kind, every text and the order of the keys at every level.
-/

namespace SetupRecipe

namespace Node

/-! ## Both texts spell the tokens -/

namespace Json

lemma Spells.separated {α : Type} {text : α → List Char} {tokens : α → List Token} {items : List α}
    (h : ∀ item ∈ items, Spells (text item) (tokens item)) :
    Spells ([','].intercalate (items.map text)) (Json.separated (items.map tokens)) := by
  induction items with
  | nil => exact .nil
  | cons item items ih =>
    obtain ⟨hitem, hitems⟩ := List.forall_mem_cons.1 h
    cases items with
    | nil => simpa [Json.separated] using hitem
    | cons next items =>
      have hrest : Spells (',' :: [','].intercalate ((next :: items).map text))
          (.comma :: Json.separated ((next :: items).map tokens)) := .token .comma rfl (ih hitems)
      simpa [List.intercalate_cons_cons, separated_cons_cons] using hitem.append rfl hrest

lemma stopsNumber_blanks_append {blanks rest : List Char} (hblanks : ∀ c ∈ blanks, isBlank c)
    (hrest : stopsNumber rest) : stopsNumber (blanks ++ rest) := by
  cases blanks with
  | nil => exact hrest
  | cons c blanks =>
    have hc := hblanks c List.mem_cons_self
    simp only [isBlank, Bool.or_eq_true, decide_eq_true_eq] at hc
    obtain ((rfl | rfl) | rfl) | rfl := hc
    all_goals rfl

end Json

namespace Value

open Json

lemma spells_array (blanks : List Char) {text : Value → List Char} {items : List Value}
    (hblanks : ∀ c ∈ blanks, isBlank c) (h : ∀ item ∈ items, Spells (text item) item.tokens) :
    Spells ('[' :: [','].intercalate (items.map text) ++ (blanks ++ [']'])) (array items).tokens := by
  have hclose : Spells (blanks ++ [']']) [.closeArray] := .blanks hblanks (.singleton .closeArray rfl)
  rw [tokens, itemTokens_eq_map]
  exact .token .openArray rfl
    ((Spells.separated h).append (stopsNumber_blanks_append hblanks rfl) hclose)

lemma spells_object (blanks : List Char) {text : String × Value → List Char}
    {entries : List (String × Value)} (hblanks : ∀ c ∈ blanks, isBlank c)
    (h : ∀ entry ∈ entries, Spells (text entry) (tokensOfEntry entry)) :
    Spells ('\x7b' :: [','].intercalate (entries.map text) ++ (blanks ++ ['\x7d']))
      (object entries).tokens := by
  have hclose : Spells (blanks ++ ['\x7d']) [.closeObject] :=
    .blanks hblanks (.singleton .closeObject rfl)
  rw [tokens, entryTokens_eq_map]
  exact .token .openObject rfl
    ((Spells.separated h).append (stopsNumber_blanks_append hblanks rfl) hclose)

/-- The compact text of an entry. -/
def compactEntry (entry : String × Value) : List Char :=
  quoted entry.1 ++ ':' :: entry.2.tokens.flatMap Token.spelling

lemma flatMap_spelling_separated {α : Type} (tokens : α → List Token) (items : List α) :
    (separated (items.map tokens)).flatMap Token.spelling =
      [','].intercalate (items.map fun item => (tokens item).flatMap Token.spelling) := by
  induction items with
  | nil => rfl
  | cons item items ih =>
    cases items with
    | nil => simp [separated]
    | cons next items =>
      simp only [List.map_cons] at ih ⊢
      simp [separated_cons_cons, List.intercalate_cons_cons, ih, Token.spelling]

lemma compact_array (items : List Value) :
    (array items).tokens.flatMap Token.spelling =
      '[' :: [','].intercalate (items.map fun item => item.tokens.flatMap Token.spelling) ++ [']'] := by
  simp [tokens, itemTokens_eq_map, flatMap_spelling_separated, Token.spelling]

lemma compact_object (entries : List (String × Value)) :
    (object entries).tokens.flatMap Token.spelling =
      '\x7b' :: [','].intercalate (entries.map compactEntry) ++ ['\x7d'] := by
  have hentry : (fun entry => (tokensOfEntry entry).flatMap Token.spelling) = compactEntry := rfl
  simp [tokens, entryTokens_eq_map, flatMap_spelling_separated, hentry, Token.spelling]

/-- The compact text of a value spells its tokens. -/
lemma spells_compact {value : Value} (hfree : value.decimalFree) :
    Spells (value.tokens.flatMap Token.spelling) value.tokens := by
  induction value using Value.induction with
  | decimal x => exact absurd hfree (decimalFree_decimal x)
  | boolean b => exact .token (.boolean b) rfl .nil
  | integer i => exact .token (.integer i) rfl .nil
  | text s => exact .token (.text s) rfl .nil
  | array items ih =>
    rw [decimalFree_array] at hfree
    rw [compact_array]
    exact spells_array [] (by simp) fun item hitem => ih item hitem (hfree item hitem)
  | object entries ih =>
    rw [decimalFree_object] at hfree
    rw [compact_object]
    refine spells_object [] (by simp) fun entry hentry => ?_
    exact .token (.text entry.1) rfl (.token .colon rfl (ih entry hentry (hfree entry hentry)))

lemma isBlank_newline (level : Nat) : ∀ c ∈ newline level, isBlank c := by
  simp [newline, isBlank]

/-- The line of an entry in the indented text. -/
def indentedEntry (level : Nat) (entry : String × Value) : List Char :=
  newline level ++ (quoted entry.1 ++ ':' :: ' ' :: entry.2.indented level)

lemma indentedItems_eq_intercalate (level : Nat) (items : List Value) :
    indentedItems level items =
      [','].intercalate (items.map fun item => newline (level + 1) ++ item.indented (level + 1)) := by
  induction items with
  | nil => rfl
  | cons item items ih =>
    cases items with
    | nil => simp [indentedItems]
    | cons next items =>
      rw [indentedItems, ih]
      simp [List.intercalate_cons_cons]

lemma indentedEntries_eq_intercalate (level : Nat) (entries : List (String × Value)) :
    indentedEntries level entries = [','].intercalate (entries.map (indentedEntry (level + 1))) := by
  induction entries with
  | nil => rfl
  | cons entry entries ih =>
    cases entries with
    | nil => simp [indentedEntries, indentedEntry]
    | cons next entries =>
      rw [indentedEntries, ih]
      simp [List.intercalate_cons_cons, indentedEntry]

/-- The indented text of a value spells its tokens, on every level. -/
lemma spells_indented {value : Value} (hfree : value.decimalFree) :
    ∀ level, Spells (value.indented level) value.tokens := by
  induction value using Value.induction with
  | decimal x => exact absurd hfree (decimalFree_decimal x)
  | boolean b => exact fun _ => .singleton (.boolean b) rfl
  | integer i => exact fun _ => .singleton (.integer i) rfl
  | text s => exact fun _ => .singleton (.text s) rfl
  | array items ih =>
    rw [decimalFree_array] at hfree
    intro level
    have hitems : ∀ item ∈ items,
        Spells (newline (level + 1) ++ item.indented (level + 1)) item.tokens := fun item hitem =>
      .blanks (isBlank_newline _) (ih item hitem (hfree item hitem) _)
    cases items with
    | nil => exact spells_array [] (by simp) hitems
    | cons item items =>
      have hspells := spells_array (newline level) (isBlank_newline level) hitems
      rwa [← indentedItems_eq_intercalate, ← List.append_assoc] at hspells
  | object entries ih =>
    rw [decimalFree_object] at hfree
    intro level
    have hentries : ∀ entry ∈ entries,
        Spells (indentedEntry (level + 1) entry) (tokensOfEntry entry) := by
      intro entry hentry
      have hvalue := ih entry hentry (hfree entry hentry) (level + 1)
      exact .blanks (isBlank_newline _)
        (.token (.text entry.1) rfl (.token .colon rfl (.blank rfl hvalue)))
    cases entries with
    | nil => exact spells_object [] (by simp) hentries
    | cons entry entries =>
      have hspells := spells_object (newline level) (isBlank_newline level) hentries
      rwa [← indentedEntries_eq_intercalate, ← List.append_assoc] at hspells

end Value

/-! ## The round trip -/

/-- A text that spells the tokens of a value is read as the value. -/
lemma Value.ofJson?_of_spells {value : Value} {source : String}
    (hspells : Json.Spells source.toList value.tokens) (hkeys : value.distinctKeys)
    (hnesting : value.nesting ≤ Json.maxNesting) : Value.ofJson? source = some value := by
  have hread := Json.Reading.reads_of_distinctKeys hkeys Json.Reading.start [] (.inl rfl) hnesting
  rw [List.append_nil] at hread
  have hrun : Json.Reading.start.run? value.tokens = some (Json.Reading.start.deliver value) := hread
  rw [Value.ofJson?, Json.tokens?_of_spells hspells]
  simp only [Option.bind_eq_bind, Option.bind_some, hrun]
  rfl

/-- What is read from JSON repeats no key and is not nested too deeply. -/
lemma Value.sound_of_ofJson? {source : String} {value : Value}
    (hread : Value.ofJson? source = some value) :
    value.distinctKeys ∧ value.nesting ≤ Json.maxNesting := by
  obtain ⟨tokens, -, htokens⟩ := Option.bind_eq_some_iff.1 hread
  obtain ⟨last, hrun, hdone⟩ := Option.bind_eq_some_iff.1 htokens
  exact (Json.Reading.sound_start.run? hrun).done value hdone

end Node

namespace NodeData

lemma sound_of_ofJson? {source : String} {node : NodeData} (hread : ofJson? source = some node) :
    node.distinctKeys ∧ node.nesting ≤ Node.Json.maxNesting := by
  rw [ofJson?] at hread
  split at hread
  · rename_i entries hvalue
    cases hread
    exact Node.Value.sound_of_ofJson? hvalue
  · cases hread

lemma ofJson?_json {node : NodeData} (hfree : node.decimalFree) (hkeys : node.distinctKeys)
    (hnesting : node.nesting ≤ Node.Json.maxNesting) : ofJson? node.json = some node := by
  have hspells : Node.Json.Spells node.json.toList (Node.Value.object node.entries).tokens := by
    rw [json, Node.Value.json, String.toList_ofList]
    exact Node.Value.spells_compact hfree
  rw [ofJson?, Node.Value.ofJson?_of_spells hspells hkeys hnesting]

lemma ofJson?_prettyJson {node : NodeData} (hfree : node.decimalFree) (hkeys : node.distinctKeys)
    (hnesting : node.nesting ≤ Node.Json.maxNesting) : ofJson? node.prettyJson = some node := by
  have hspells : Node.Json.Spells node.prettyJson.toList (Node.Value.object node.entries).tokens := by
    rw [prettyJson, Node.Value.prettyJson, String.toList_ofList]
    exact Node.Value.spells_indented hfree 0
  rw [ofJson?, Node.Value.ofJson?_of_spells hspells hkeys hnesting]

/-- Data that was read from any JSON text and has no decimal is read from its own texts again. -/
theorem ofJson?_json_of_ofJson? {source : String} {node : NodeData}
    (hread : ofJson? source = some node) (hfree : node.decimalFree) :
    ofJson? node.json = some node ∧ ofJson? node.prettyJson = some node := by
  obtain ⟨hkeys, hnesting⟩ := sound_of_ofJson? hread
  exact ⟨ofJson?_json hfree hkeys hnesting, ofJson?_prettyJson hfree hkeys hnesting⟩

/-- Node data without a decimal survives JSON, written in one line or indented. -/
theorem ofJson?_json_prettyJson (node : NodeData) (hfree : node.decimalFree)
    (hkeys : node.distinctKeys) (hnesting : node.nesting ≤ Node.Json.maxNesting) :
    ofJson? node.json = some node ∧ ofJson? node.prettyJson = some node :=
  ⟨ofJson?_json hfree hkeys hnesting, ofJson?_prettyJson hfree hkeys hnesting⟩

/-- Node data with every kind of value but decimals. -/
def storeFront : NodeData :=
  ⟨[("port", .text "8080"), ("debug", .text "false"),
    ("limits", .array [.integer (-9223372036854775808), .integer 9223372036854775807, .array []]),
    ("app", .object [("zone", .text "\"ü\"\n\\\t\x01"), ("live", .boolean true), ("", .object [])])]⟩

theorem ofJson?_json_prettyJson_storeFront :
    storeFront.decimalFree ∧ storeFront.distinctKeys ∧
      storeFront.nesting ≤ Node.Json.maxNesting ∧
      ofJson? storeFront.json = some storeFront ∧ ofJson? storeFront.prettyJson = some storeFront := by
  have hfree : storeFront.decimalFree := by decide
  have hkeys : storeFront.distinctKeys := by decide
  have hnesting : storeFront.nesting ≤ Node.Json.maxNesting := by decide
  exact ⟨hfree, hkeys, hnesting, ofJson?_json_prettyJson storeFront hfree hkeys hnesting⟩

end NodeData

end SetupRecipe

import SetupRecipe.Document.Store
import SetupRecipe.Proofs.NodeValues

/-!
# Recipe files see the node data

Node data becomes one value of recipe files. Following keys through that value leads where the same
keys lead in the data. Arrays keep their items and objects their entries, in order and at every level,
so data without a decimal can be told from its value, and there is no null in it.
-/

namespace SetupRecipe

lemma Node.Entries.get?_map {α β : Type} (f : α → β) (entries : Node.Entries α) (key : String) :
    Node.Entries.get? (entries.map fun entry => (entry.1, f entry.2)) key =
      (entries.get? key).map f := by
  induction entries with
  | nil => rfl
  | cons entry entries ih =>
    rw [List.map_cons, Node.Entries.get?_cons, Node.Entries.get?_cons, ih]
    split <;> rfl

namespace Config

namespace Value

/-! ## Shape -/

lemma ofNodeItems_eq_map (items : List Node.Value) : ofNodeItems items = items.map ofNode := by
  induction items with
  | nil => rfl
  | cons item items ih => rw [ofNodeItems, ih, List.map_cons]

/-- An entry keeps its key. -/
def ofNodeEntry (entry : String × Node.Value) : String × Value := (entry.1, ofNode entry.2)

lemma ofNodeEntries_eq_map (entries : List (String × Node.Value)) :
    ofNodeEntries entries = entries.map ofNodeEntry := by
  induction entries with
  | nil => rfl
  | cons entry entries ih => rw [ofNodeEntries, ih, List.map_cons, ofNodeEntry]

lemma ofNode_array (items : List Node.Value) : ofNode (.array items) = list (items.map ofNode) := by
  rw [ofNode, ofNodeItems_eq_map]

lemma ofNode_object (entries : List (String × Node.Value)) :
    ofNode (.object entries) = object (entries.map ofNodeEntry) := by
  rw [ofNode, ofNodeEntries_eq_map]

lemma ofNodeData_eq_ofNode (node : NodeData) : ofNodeData node = ofNode (.object node.entries) := by
  rw [ofNodeData, ofNode]

/-! ## Looking up -/

lemma get?_ofNode (value : Node.Value) (key : String) :
    (ofNode value).get? key = (value.get? key).map ofNode := by
  cases value with
  | object entries =>
    rw [ofNode_object]
    exact Node.Entries.get?_map ofNode entries key
  | decimal x =>
    rw [ofNode]
    split <;> rfl
  | boolean | integer | text | array => rfl

/-- Keys lead through a converted value as through the value. -/
lemma at?_ofNode (value : Node.Value) (path : List String) :
    (ofNode value).at? path = (value.at? path).map ofNode := by
  induction path generalizing value with
  | nil => rfl
  | cons key path ih =>
    rw [at?, Node.Value.at?, get?_ofNode]
    cases value.get? key with
    | none => rfl
    | some inner => exact ih inner

lemma at?_ofNodeData (node : NodeData) (key : String) (path : List String) :
    (ofNodeData node).at? (key :: path) = (node.at? (key :: path)).map ofNode := by
  rw [ofNodeData_eq_ofNode, at?_ofNode]
  rfl

end Value

lemma keyOf_eq_ok_iff (scope : Scope) {key : String} {value inner : Value} :
    keyOf scope key value = .ok inner ↔ value.get? key = some inner := by
  cases value with
  | object entries =>
    rw [keyOf, Value.get?]
    cases Node.Entries.get? entries key with
    | none => simp [Scope.fail]
    | some found => simp
  | _ => simp [keyOf, Value.get?, Scope.fail]

/-- A look-up by names reaches what the keys lead to. -/
lemma walk_names_eq_ok_iff {scope : Scope} {path : List String} {value reached : Value} :
    walk scope (path.map .name) (.one value) = .ok reached ↔ value.at? path = some reached := by
  induction path generalizing value with
  | nil => simp [walk, Focus.value, Value.at?]
  | cons key path ih =>
    rw [List.map_cons, walk, Value.at?, Option.bind_eq_some_iff]
    simp only [← keyOf_eq_ok_iff scope, ← ih]
    cases keyOf scope key value with
    | error failure => simp [bind, Except.bind]
    | ok inner => simp [bind, Except.bind]

/-- A variable with names behind it, such as `node.app.port`. -/
def Expression.names (name : String) (path : List String) : Expression :=
  .traversal (.variable name) (path.map .name)

/-- In a recipe file the variable of the node data leads where its value leads. -/
lemma eval_names_eq_ok_iff {node : NodeData} {source : Option String} {path : List String}
    {reached : Value} :
    (Expression.names "node" path).eval (Document.Store.site node source).bindings = .ok reached ↔
      (Value.ofNodeData node).at? path = some reached := by
  rw [← walk_names_eq_ok_iff]
  rfl

namespace Value

/-! ## Nothing is lost -/

mutual

/-- Whether no null stands anywhere in a value. -/
def nullFree : Value → Bool
  | null => false
  | list items => itemsNullFree items
  | object entries => entriesNullFree entries
  | _ => true

def itemsNullFree : List Value → Bool
  | [] => true
  | item :: items => item.nullFree && itemsNullFree items

def entriesNullFree : List (String × Value) → Bool
  | [] => true
  | (_, value) :: entries => value.nullFree && entriesNullFree entries

end

lemma nullFree_list (items : List Value) : (list items).nullFree ↔ ∀ item ∈ items, item.nullFree := by
  rw [nullFree]
  induction items with
  | nil => simp [itemsNullFree]
  | cons item items ih => simp [itemsNullFree, ih]

lemma nullFree_object (entries : List (String × Value)) :
    (object entries).nullFree ↔ ∀ entry ∈ entries, entry.2.nullFree := by
  rw [nullFree]
  induction entries with
  | nil => simp [entriesNullFree]
  | cons entry entries ih => simp [entriesNullFree, ih]

/-- Only a decimal can become null. -/
lemma nullFree_ofNode {value : Node.Value} (hfree : value.decimalFree) : (ofNode value).nullFree := by
  induction value using Node.Value.induction with
  | boolean | integer | text => rfl
  | decimal x => exact absurd hfree (Node.Value.decimalFree_decimal x)
  | array items ih =>
    rw [Node.Value.decimalFree_array] at hfree
    rw [ofNode_array, nullFree_list, List.forall_mem_map]
    exact fun item hitem => ih item hitem (hfree item hitem)
  | object entries ih =>
    rw [Node.Value.decimalFree_object] at hfree
    rw [ofNode_object, nullFree_object, List.forall_mem_map]
    exact fun entry hentry => ih entry hentry (hfree entry hentry)

end Value

lemma Number.ofInt64_injective {i j : Int64} (h : ofInt64 i = ofInt64 j) : i = j := by
  unfold ofInt64 at h
  split at h <;> split at h
  · have hword := congrArg UInt64.toInt64 (Number.natural.inj h)
    rwa [Int64.toInt64_toUInt64, Int64.toInt64_toUInt64] at hword
  · cases h
  · cases h
  · exact Number.signed.inj h

namespace Value

/-- Lists with equal images are equal if the map tells their members apart. -/
lemma eq_of_map_eq_map {α β : Type} {f : α → β} {items others : List α}
    (hinj : ∀ item ∈ items, ∀ other ∈ others, f item = f other → item = other)
    (h : items.map f = others.map f) : items = others := by
  induction items generalizing others with
  | nil => exact (List.map_eq_nil_iff.1 h.symm).symm
  | cons item items ih =>
    cases others with
    | nil => cases h
    | cons other others =>
      rw [List.map_cons, List.map_cons, List.cons.injEq] at h
      have hhead := hinj item List.mem_cons_self other List.mem_cons_self h.1
      have htail := ih (fun item hitem other hother =>
        hinj item (List.mem_cons_of_mem _ hitem) other (List.mem_cons_of_mem _ hother)) h.2
      rw [hhead, htail]

/-- Values without a decimal are told apart: the kind, the number, the text and every part. -/
lemma ofNode_injective {a b : Node.Value} (ha : a.decimalFree) (hb : b.decimalFree)
    (h : ofNode a = ofNode b) : a = b := by
  -- A whole decimal has the number of an integer, so decimals go before the kinds are compared.
  induction a using Node.Value.induction generalizing b with
  | decimal x => exact absurd ha (Node.Value.decimalFree_decimal x)
  | boolean x =>
    cases b with
    | decimal y => exact absurd hb (Node.Value.decimalFree_decimal y)
    | boolean y => rw [bool.inj h]
    | _ => cases h
  | integer i =>
    cases b with
    | decimal y => exact absurd hb (Node.Value.decimalFree_decimal y)
    | integer j => rw [Number.ofInt64_injective (number.inj h)]
    | _ => cases h
  | text s =>
    cases b with
    | decimal y => exact absurd hb (Node.Value.decimalFree_decimal y)
    | text t => rw [string.inj h]
    | _ => cases h
  | array items ih =>
    cases b with
    | decimal y => exact absurd hb (Node.Value.decimalFree_decimal y)
    | array others =>
      rw [Node.Value.decimalFree_array] at ha hb
      rw [ofNode_array, ofNode_array, list.injEq] at h
      rw [eq_of_map_eq_map (fun item hitem other hother hequal =>
        ih item hitem (ha item hitem) (hb other hother) hequal) h]
    | _ => cases h
  | object entries ih =>
    cases b with
    | decimal y => exact absurd hb (Node.Value.decimalFree_decimal y)
    | object others =>
      rw [Node.Value.decimalFree_object] at ha hb
      rw [ofNode_object, ofNode_object, object.injEq] at h
      have hentry : ∀ entry ∈ entries, ∀ other ∈ others,
          ofNodeEntry entry = ofNodeEntry other → entry = other := by
        intro entry hentry other hother hequal
        rw [ofNodeEntry, ofNodeEntry, Prod.mk.injEq] at hequal
        exact Prod.ext hequal.1 (ih entry hentry (ha entry hentry) (hb other hother) hequal.2)
      rw [eq_of_map_eq_map hentry h]
    | _ => cases h

lemma ofNodeData_injective {a b : NodeData} (ha : a.decimalFree) (hb : b.decimalFree)
    (h : ofNodeData a = ofNodeData b) : a = b := by
  rw [ofNodeData_eq_ofNode, ofNodeData_eq_ofNode] at h
  have hentries := Node.Value.object.inj (ofNode_injective ha hb h)
  obtain ⟨entries⟩ := a
  rw [show entries = b.entries from hentries]

/-- A recipe file reads in `node` what the node data has. Keys lead there through the value of the
variable, and so do names in an expression. Arrays and objects keep their parts in order. Data without
a decimal is told from all other such data, and no null stands in its value. -/
theorem ofNodeData_faithful (node : NodeData) (source : Option String) :
    (∀ key path, (ofNodeData node).at? (key :: path) = (node.at? (key :: path)).map ofNode) ∧
    (∀ key path reached,
      (Expression.names "node" (key :: path)).eval (Document.Store.site node source).bindings =
          .ok reached ↔
        ∃ value, node.at? (key :: path) = some value ∧ ofNode value = reached) ∧
    ofNodeData node = object (node.entries.map fun entry => (entry.1, ofNode entry.2)) ∧
    (∀ items, ofNode (.array items) = list (items.map ofNode)) ∧
    (∀ entries,
      ofNode (.object entries) = object (entries.map fun entry => (entry.1, ofNode entry.2))) ∧
    (node.decimalFree → (ofNodeData node).nullFree ∧
      ∀ other : NodeData, other.decimalFree → ofNodeData other = ofNodeData node → other = node) ∧
    (∀ a b : Node.Value, a.decimalFree → b.decimalFree → ofNode a = ofNode b → a = b) := by
  refine ⟨at?_ofNodeData node, fun key path reached => ?_, ?_, ofNode_array, ofNode_object,
    fun hfree => ⟨?_, fun other hother => ofNodeData_injective hother hfree⟩,
    fun a b => ofNode_injective⟩
  · rw [eval_names_eq_ok_iff, at?_ofNodeData, Option.map_eq_some_iff]
  · rw [ofNodeData_eq_ofNode, ofNode_object]
    rfl
  · rw [ofNodeData_eq_ofNode]
    exact nullFree_ofNode hfree

/-- Node data with an object, an array and a key that was given twice. -/
def shop : NodeData :=
  .ofList [("live", .boolean false),
    ("app", .object [("name", .text "shop"), ("ports", .array [.integer 80, .integer (-1)])]),
    ("live", .boolean true)]

theorem ofNodeData_faithful_shop :
    shop.decimalFree ∧ (ofNodeData shop).nullFree ∧
      (ofNodeData shop).at? ["app", "name"] = some (string "shop") ∧
      (Expression.names "node" ["app", "name"]).eval (Document.Store.site shop none).bindings =
        .ok (string "shop") ∧
      (∀ other : NodeData, other.decimalFree → ofNodeData other = ofNodeData shop → other = shop) ∧
      ofNode (.text "80") ≠ ofNode (.integer 80) := by
  have hfree : shop.decimalFree := by decide
  obtain ⟨hat, heval, -, -, -, hlossless, hvalues⟩ := ofNodeData_faithful shop none
  refine ⟨hfree, (hlossless hfree).1, hat "app" ["name"], (heval "app" ["name"] _).2 ⟨_, rfl, rfl⟩,
    (hlossless hfree).2, fun hequal => ?_⟩
  cases hvalues (.text "80") (.integer 80) (by decide) (by decide) hequal

end Value

end Config

end SetupRecipe

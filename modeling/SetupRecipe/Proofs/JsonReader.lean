import SetupRecipe.Node.Json.Printer
import SetupRecipe.Node.Json.Reader
import SetupRecipe.Proofs.NodeValues

/-!
# The JSON reader puts values together

The tokens of a value become that value wherever a value may come, if no object in it repeats a key
and its arrays and objects fit under the ones that are open. In turn, no tokens make the reader give a
value that repeats a key or goes too deep.
-/

namespace SetupRecipe

namespace Node

/-! ## Tokens of values -/

namespace Json

lemma separated_cons_cons (item next : List Token) (items : List (List Token)) :
    separated (item :: next :: items) = item ++ .comma :: separated (next :: items) := rfl

lemma separated_cons (item : List Token) (items : List (List Token)) :
    separated (item :: items) = item ++ items.flatMap (.comma :: ·) := by
  induction items generalizing item with
  | nil => simp [separated]
  | cons next items ih => rw [separated_cons_cons, ih next, List.flatMap_cons, List.cons_append]

end Json

namespace Value

open Json

/-- The tokens of an entry. -/
def tokensOfEntry (entry : String × Value) : List Token := .text entry.1 :: .colon :: entry.2.tokens

lemma itemTokens_eq_map (items : List Value) : itemTokens items = items.map tokens := by
  induction items with
  | nil => rfl
  | cons item items ih => rw [itemTokens, ih, List.map_cons]

lemma entryTokens_eq_map (entries : List (String × Value)) :
    entryTokens entries = entries.map tokensOfEntry := by
  induction entries with
  | nil => rfl
  | cons entry entries ih => rw [entryTokens, ih, List.map_cons, tokensOfEntry]

end Value

/-! ## The reader puts the tokens together -/

namespace Json

/-- The array or object that an open one is so far. -/
def Frame.value : Frame → Value
  | .array items => .array items
  | .object entries _ => .object entries

namespace Reading

variable {reading : Reading}

/-- The reader with one more array or object open. -/
def inside (reading : Reading) (frame : Frame) (expected : Expected) : Reading :=
  { reading with frames := frame :: reading.frames, expected }

/-- Whether a value may come next. -/
def AwaitsValue (reading : Reading) : Prop :=
  reading.expected = .value ∨ reading.expected = .firstItem

/-- How many arrays and objects can still be opened. -/
def room (reading : Reading) : Nat := maxNesting - reading.frames.length

@[simp] lemma room_inside (frame : Frame) (expected : Expected) :
    (reading.inside frame expected).room = reading.room - 1 := by
  simp [room, inside]
  omega

lemma enter?_eq_inside (frame : Frame) (expected : Expected) (hroom : 0 < reading.room) :
    reading.enter? frame expected = some (reading.inside frame expected) := by
  have hframes : reading.frames.length < maxNesting := by
    rw [room] at hroom
    omega
  rw [enter?, if_pos hframes, inside]

lemma deliver_inside_array (items : List Value) (expected : Expected) (item : Value) :
    (reading.inside (.array items) expected).deliver item =
      reading.inside (.array (items ++ [item])) .separator := rfl

lemma deliver_inside_object (entries : Entries Value) (key : String) (expected : Expected)
    (value : Value) :
    (reading.inside (.object entries key) expected).deliver value =
      reading.inside (.object (entries.insert key value) key) .separator := rfl

lemma deliver_congr {other : Reading} (hframes : reading.frames = other.frames)
    (hdone : reading.done = other.done) (value : Value) :
    reading.deliver value = other.deliver value := by
  obtain ⟨frames, expected, done⟩ := reading
  obtain ⟨frames', expected', done'⟩ := other
  subst hframes hdone
  cases frames with
  | nil => rfl
  | cons frame frames => cases frame <;> rfl

lemma close?_inside_array (items : List Value) (expected : Expected) :
    (reading.inside (.array items) expected).close? .closeArray =
      some (reading.deliver (.array items)) :=
  congrArg some (deliver_congr rfl rfl _)

lemma close?_inside_object (entries : Entries Value) (key : String) (expected : Expected) :
    (reading.inside (.object entries key) expected).close? .closeObject =
      some (reading.deliver (.object entries)) :=
  congrArg some (deliver_congr rfl rfl _)

lemma run?_cons (token : Token) (tokens : List Token) :
    reading.run? (token :: tokens) = (reading.step? token).bind fun next => next.run? tokens := rfl

/-- A token that starts a value is taken wherever a value may come. -/
lemma step?_of_awaitsValue {token : Token} {next : Reading} (hawaits : reading.AwaitsValue)
    (htaken : reading.value? token = some next) : reading.step? token = some next := by
  obtain ⟨frames, expected, done⟩ := reading
  obtain rfl | rfl := hawaits
  · exact htaken
  · cases token with
    | closeArray => cases htaken
    | _ => exact htaken

lemma run?_closeArray {expected : Expected} (hexpected : expected = .separator ∨ expected = .firstItem)
    (items : List Value) (rest : List Token) :
    (reading.inside (.array items) expected).run? (.closeArray :: rest) =
      (reading.deliver (.array items)).run? rest := by
  have hstep : (reading.inside (.array items) expected).step? .closeArray =
      some (reading.deliver (.array items)) := by
    rw [← close?_inside_array]
    obtain rfl | rfl := hexpected
    all_goals rfl
  rw [run?_cons, hstep, Option.bind_some]

lemma run?_closeObject {expected : Expected} (hexpected : expected = .separator ∨ expected = .firstKey)
    (entries : Entries Value) (key : String) (rest : List Token) :
    (reading.inside (.object entries key) expected).run? (.closeObject :: rest) =
      (reading.deliver (.object entries)).run? rest := by
  have hstep : (reading.inside (.object entries key) expected).step? .closeObject =
      some (reading.deliver (.object entries)) := by
    rw [← close?_inside_object]
    obtain rfl | rfl := hexpected
    all_goals rfl
  rw [run?_cons, hstep, Option.bind_some]

/-- Wherever a value may come and there is room for it, its tokens are put together to it. -/
def Reads (value : Value) : Prop :=
  ∀ (reading : Reading) (rest : List Token), reading.AwaitsValue → value.nesting ≤ reading.room →
    reading.run? (value.tokens ++ rest) = (reading.deliver value).run? rest

/-- The items after the first one, each behind its comma. -/
lemma run?_items {items : List Value} (h : ∀ item ∈ items, Reads item)
    (hroom : ∀ item ∈ items, item.nesting < reading.room) (before : List Value) (rest : List Token) :
    (reading.inside (.array before) .separator).run?
        ((items.map Value.tokens).flatMap (.comma :: ·) ++ .closeArray :: rest) =
      (reading.deliver (.array (before ++ items))).run? rest := by
  induction items generalizing before with
  | nil =>
    rw [List.append_nil]
    exact run?_closeArray (.inl rfl) before rest
  | cons item items ih =>
    obtain ⟨hitem, hitems⟩ := List.forall_mem_cons.1 h
    obtain ⟨hitemRoom, hitemsRoom⟩ := List.forall_mem_cons.1 hroom
    have hstep : (reading.inside (.array before) .separator).step? .comma =
        some (reading.inside (.array before) .value) := rfl
    rw [List.map_cons, List.flatMap_cons, List.cons_append, List.cons_append, run?_cons, hstep,
      Option.bind_some, List.append_assoc, hitem _ _ (.inl rfl) (by rw [room_inside]; omega),
      deliver_inside_array, ih hitems hitemsRoom, List.append_assoc, List.singleton_append]

lemma reads_array {items : List Value} (h : ∀ item ∈ items, Reads item) : Reads (.array items) := by
  intro reading rest hawaits hroom
  obtain ⟨hopen, hnested⟩ := Value.nesting_array_le_iff.1 hroom
  have henter : reading.step? .openArray = some (reading.inside (.array []) .firstItem) :=
    step?_of_awaitsValue hawaits (enter?_eq_inside _ _ hopen)
  rw [Value.tokens, Value.itemTokens_eq_map, List.cons_append, List.cons_append, run?_cons, henter,
    Option.bind_some, List.append_assoc, List.singleton_append]
  -- The first item has no comma before it; the induction is over the others.
  cases items with
  | nil => exact run?_closeArray (.inr rfl) [] rest
  | cons item items =>
    obtain ⟨hitem, hitems⟩ := List.forall_mem_cons.1 h
    obtain ⟨hitemRoom, hitemsRoom⟩ := List.forall_mem_cons.1 hnested
    rw [List.map_cons, separated_cons, List.append_assoc,
      hitem _ _ (.inr rfl) (by rw [room_inside]; omega), deliver_inside_array,
      run?_items hitems hitemsRoom, List.nil_append, List.singleton_append]

/-- An entry whose key the object does not have yet. -/
lemma run?_entry {entry : String × Value} (h : Reads entry.2) (hroom : entry.2.nesting < reading.room)
    {before : Entries Value} (hnew : entry.1 ∉ before.keys) {expected : Expected}
    (hexpected : expected = .key ∨ expected = .firstKey) (key : String) (rest : List Token) :
    (reading.inside (.object before key) expected).run? (Value.tokensOfEntry entry ++ rest) =
      (reading.inside (.object (before ++ [entry]) entry.1) .separator).run? rest := by
  have hkey : (reading.inside (.object before key) expected).step? (.text entry.1) =
      some (reading.inside (.object before entry.1) .colon) := by
    obtain rfl | rfl := hexpected
    all_goals rfl
  have hcolon : (reading.inside (.object before entry.1) .colon).step? .colon =
      some (reading.inside (.object before entry.1) .value) := rfl
  rw [Value.tokensOfEntry, List.cons_append, run?_cons, hkey, Option.bind_some, List.cons_append,
    run?_cons, hcolon, Option.bind_some, h _ _ (.inl rfl) (by rw [room_inside]; omega),
    deliver_inside_object, Entries.insert_of_not_mem _ _ _ hnew]

/-- The entries after the first one, each behind its comma. -/
lemma run?_entries {entries : Entries Value} (h : ∀ entry ∈ entries, Reads entry.2)
    (hroom : ∀ entry ∈ entries, entry.2.nesting < reading.room) {before : Entries Value}
    (hkeys : (Entries.keys (before ++ entries)).Nodup) (key : String) (rest : List Token) :
    (reading.inside (.object before key) .separator).run?
        ((entries.map Value.tokensOfEntry).flatMap (.comma :: ·) ++ .closeObject :: rest) =
      (reading.deliver (.object (before ++ entries))).run? rest := by
  induction entries generalizing before key with
  | nil =>
    rw [List.append_nil]
    exact run?_closeObject (.inl rfl) before key rest
  | cons entry entries ih =>
    obtain ⟨hentry, hentries⟩ := List.forall_mem_cons.1 h
    obtain ⟨hentryRoom, hentriesRoom⟩ := List.forall_mem_cons.1 hroom
    have hnew : entry.1 ∉ before.keys := by
      rw [Entries.keys_append, Entries.keys_cons, List.nodup_middle] at hkeys
      exact fun hmem => (List.nodup_cons.1 hkeys).1 (List.mem_append_left _ hmem)
    have hstep : (reading.inside (.object before key) .separator).step? .comma =
        some (reading.inside (.object before key) .key) := rfl
    rw [List.append_cons] at hkeys
    rw [List.map_cons, List.flatMap_cons, List.cons_append, List.cons_append, run?_cons, hstep,
      Option.bind_some, List.append_assoc, run?_entry hentry hentryRoom hnew (.inl rfl),
      ih hentries hentriesRoom hkeys, List.append_assoc, List.singleton_append]

lemma reads_object {entries : Entries Value} (h : ∀ entry ∈ entries, Reads entry.2)
    (hkeys : entries.keys.Nodup) : Reads (.object entries) := by
  intro reading rest hawaits hroom
  obtain ⟨hopen, hnested⟩ := Value.nesting_object_le_iff.1 hroom
  have henter : reading.step? .openObject = some (reading.inside (.object [] "") .firstKey) :=
    step?_of_awaitsValue hawaits (enter?_eq_inside _ _ hopen)
  rw [Value.tokens, Value.entryTokens_eq_map, List.cons_append, List.cons_append, run?_cons, henter,
    Option.bind_some, List.append_assoc, List.singleton_append]
  cases entries with
  | nil => exact run?_closeObject (.inr rfl) [] "" rest
  | cons entry entries =>
    obtain ⟨hentry, hentries⟩ := List.forall_mem_cons.1 h
    obtain ⟨hentryRoom, hentriesRoom⟩ := List.forall_mem_cons.1 hnested
    rw [List.map_cons, separated_cons, List.append_assoc,
      run?_entry hentry hentryRoom List.not_mem_nil (.inr rfl), run?_entries hentries hentriesRoom hkeys,
      List.nil_append, List.singleton_append]

lemma reads_of_tokens_eq {value : Value} {token : Token} (htokens : value.tokens = [token])
    (htaken : ∀ reading : Reading, reading.value? token = some (reading.deliver value)) :
    Reads value := by
  intro reading rest hawaits _
  rw [htokens, List.singleton_append, run?_cons, step?_of_awaitsValue hawaits (htaken reading),
    Option.bind_some]

/-- Every value without a repeated key is read from its tokens. -/
lemma reads_of_distinctKeys {value : Value} (hkeys : value.distinctKeys) : Reads value := by
  induction value using Value.induction with
  | boolean | integer | decimal | text => exact reads_of_tokens_eq rfl fun _ => rfl
  | array items ih =>
    rw [Value.distinctKeys_array] at hkeys
    exact reads_array fun item hitem => ih item hitem (hkeys item hitem)
  | object entries ih =>
    rw [Value.distinctKeys_object] at hkeys
    exact reads_object (fun entry hentry => ih entry hentry (hkeys.2 entry hentry)) hkeys.1

/-! ### What the reader gives -/

/-- Whether a value repeats no key and has its place under the open arrays and objects. -/
def Fits (frames : List Frame) (value : Value) : Prop :=
  value.distinctKeys ∧ value.nesting ≤ maxNesting - frames.length

/-- Whether every open array and object fits under those around it. -/
def FramesFit : List Frame → Prop
  | [] => True
  | frame :: frames => Fits frames frame.value ∧ FramesFit frames

/-- What holds of the reader at every token. -/
structure Sound (reading : Reading) : Prop where
  frames : FramesFit reading.frames
  done : ∀ value, reading.done = some value → Fits [] value

lemma sound_start : start.Sound := ⟨trivial, nofun⟩

variable {next : Reading} {token : Token}

lemma FramesFit.append_item {items : List Value} {frames : List Frame} {item : Value}
    (h : FramesFit (.array items :: frames)) (hitem : Fits (.array items :: frames) item) :
    FramesFit (.array (items ++ [item]) :: frames) := by
  obtain ⟨⟨hkeys, hnesting⟩, hframes⟩ := h
  obtain ⟨hitemKeys, hitemNesting⟩ := hitem
  rw [Frame.value, Value.distinctKeys_array] at hkeys
  rw [Frame.value, Value.nesting_array_le_iff] at hnesting
  rw [List.length_cons] at hitemNesting
  refine ⟨⟨Value.distinctKeys_array _ |>.2 fun other hother => ?_,
    Value.nesting_array_le_iff.2 ⟨hnesting.1, fun other hother => ?_⟩⟩, hframes⟩
  · obtain hmem | rfl := by simpa using hother
    · exact hkeys other hmem
    · exact hitemKeys
  · obtain hmem | rfl := by simpa using hother
    · exact hnesting.2 other hmem
    · omega

lemma FramesFit.insert_entry {entries : Entries Value} {key : String} {frames : List Frame}
    {value : Value} (h : FramesFit (.object entries key :: frames))
    (hvalue : Fits (.object entries key :: frames) value) :
    FramesFit (.object (entries.insert key value) key :: frames) := by
  obtain ⟨⟨hkeys, hnesting⟩, hframes⟩ := h
  obtain ⟨hvalueKeys, hvalueNesting⟩ := hvalue
  rw [Frame.value, Value.nesting_object_le_iff] at hnesting
  rw [List.length_cons] at hvalueNesting
  refine ⟨⟨Value.distinctKeys_insert key hkeys hvalueKeys,
    Value.nesting_object_le_iff.2 ⟨hnesting.1, fun entry hentry => ?_⟩⟩, hframes⟩
  obtain rfl | hmem := Entries.mem_insert hentry
  · change value.nesting < _
    omega
  · exact hnesting.2 entry hmem

lemma Sound.deliver (h : reading.Sound) {value : Value} (hvalue : Fits reading.frames value) :
    (reading.deliver value).Sound := by
  obtain ⟨frames, expected, done⟩ := reading
  match frames, h, hvalue with
  | [], h, hvalue => exact ⟨trivial, by rintro _ ⟨⟩; exact hvalue⟩
  | .array items :: frames, h, hvalue => exact ⟨h.frames.append_item hvalue, h.done⟩
  | .object entries key :: frames, h, hvalue => exact ⟨h.frames.insert_entry hvalue, h.done⟩

lemma Sound.enter? (h : reading.Sound) {frame : Frame} {expected : Expected}
    (hkeys : frame.value.distinctKeys) (hnesting : frame.value.nesting = 1)
    (hnext : reading.enter? frame expected = some next) : next.Sound := by
  rw [Reading.enter?] at hnext
  split at hnext
  · cases hnext
    exact ⟨⟨⟨hkeys, by rw [hnesting]; omega⟩, h.frames⟩, h.done⟩
  · cases hnext

lemma Sound.value? (h : reading.Sound) (hnext : reading.value? token = some next) : next.Sound := by
  cases token with
  | openArray => exact h.enter? rfl rfl hnext
  | openObject => exact h.enter? rfl rfl hnext
  | boolean | integer | decimal | text =>
    cases hnext
    exact h.deliver ⟨rfl, Nat.zero_le _⟩
  | closeArray | closeObject | comma | colon => cases hnext

lemma Sound.close? (h : reading.Sound) (hnext : reading.close? token = some next) : next.Sound := by
  obtain ⟨frames, expected, done⟩ := reading
  unfold Reading.close? at hnext
  split at hnext
  · split at hnext
    · cases hnext
      rename_i below heq
      subst heq
      have hbelow : Sound { frames := below, expected, done } := ⟨h.frames.2, h.done⟩
      exact hbelow.deliver h.frames.1
    · cases hnext
  · split at hnext
    · cases hnext
      rename_i below heq
      subst heq
      have hbelow : Sound { frames := below, expected, done } := ⟨h.frames.2, h.done⟩
      exact hbelow.deliver h.frames.1
    · cases hnext
  · cases hnext

lemma Sound.key? (h : reading.Sound) (hnext : reading.key? token = some next) : next.Sound := by
  obtain ⟨frames, expected, done⟩ := reading
  unfold Reading.key? at hnext
  split at hnext
  · split at hnext
    · cases hnext
      rename_i heq
      subst heq
      exact ⟨h.frames, h.done⟩
    · cases hnext
  · cases hnext

lemma Sound.continue? (h : reading.Sound) (hnext : reading.continue? = some next) : next.Sound := by
  unfold Reading.continue? at hnext
  split at hnext
  · cases hnext
    exact ⟨h.frames, h.done⟩
  · cases hnext
    exact ⟨h.frames, h.done⟩
  · cases hnext

/-- No token makes the reader repeat a key or go too deep. -/
lemma Sound.step? (h : reading.Sound) (hnext : reading.step? token = some next) : next.Sound := by
  unfold Reading.step? at hnext
  split at hnext
  · exact h.value? hnext
  · split at hnext
    · exact h.close? hnext
    · exact h.value? hnext
  · split at hnext
    · exact h.close? hnext
    · exact h.key? hnext
  · exact h.key? hnext
  · split at hnext
    · cases hnext
      exact ⟨h.frames, h.done⟩
    · cases hnext
  · split at hnext
    · exact h.continue? hnext
    · exact h.close? hnext
  · cases hnext

lemma Sound.run? (h : reading.Sound) {tokens : List Token} (hnext : reading.run? tokens = some next) :
    next.Sound := by
  induction tokens generalizing reading with
  | nil =>
    cases hnext
    exact h
  | cons token tokens ih =>
    obtain ⟨mid, hstep, hrun⟩ := Option.bind_eq_some_iff.1 hnext
    exact ih (h.step? hstep) hrun

end Reading

end Json

end Node

end SetupRecipe

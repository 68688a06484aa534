import SetupRecipe.Config.Arithmetic
import SetupRecipe.Config.Expression.Printer

/-!
# Evaluation of expressions

An expression evaluates to a value in a scope of variables. A failure names its cause and an
expression to show: the one around the expression that failed, or that expression itself when it
stands alone. Templates and comprehensions evaluate their parts in scopes of their own.
-/

namespace SetupRecipe.Config

/-- Why an expression has no value. -/
inductive Cause where
  | undefinedVariable (name : String)
  | undefinedFunction (name : String)
  | noSuchKey (key : String)
  | indexOutOfBounds (index : Nat)
  | unexpected (value : Value) (wanted : String)
  | unaryOperator (operator : UnaryOperator) (operand : Value)
  | binaryOperator (operator : BinaryOperator) (left right : Value)
  | keyExists (key : String)
  | unreadableTemplate

def Cause.message : Cause → String
  | undefinedVariable name => "undefined variable `" ++ name ++ "`"
  | undefinedFunction name => "undefined function `" ++ name ++ "`"
  | noSuchKey key => "no such key: `" ++ key ++ "`"
  | indexOutOfBounds index => "index out of bounds: " ++ toString index
  | unexpected value wanted => "unexpected value `" ++ value.text ++ "`, expected " ++ wanted
  | unaryOperator operator operand =>
    "unary operator `" ++ operator.spelling ++ "` is not applicable to `" ++ operand.text ++ "`"
  | binaryOperator operator left right =>
    "binary operator `" ++ operator.spelling ++ "` is not applicable to `" ++ left.text ++ "` and `"
      ++ right.text ++ "`"
  | keyExists key => "key `" ++ key ++ "` already exists"
  | unreadableTemplate => "unreadable template"

/-- A failure with the expression that is shown for it. -/
structure Failure where
  cause : Cause
  shown : Option Expression

def Failure.message (failure : Failure) : String :=
  match failure.shown with
  | some e => failure.cause.message ++ " in expression `" ++ e.text ++ "`"
  | none => failure.cause.message

/-- The variables that an expression sees, and the expressions that are being evaluated. -/
structure Scope where
  bindings : List (String × Value)
  /-- The expression whose scope this is; the scope of a loop has none. -/
  current : Option Expression
  /-- The nearest expression around it. -/
  around : Option Expression

namespace Scope

/-- The scope of an attribute. -/
def root (bindings : List (String × Value)) : Scope :=
  { bindings, current := none, around := none }

/-- The scope in which an expression evaluates. -/
def enter (scope : Scope) (e : Expression) : Scope :=
  { scope with current := some e, around := scope.current.or scope.around }

/-- The scope of one round of a loop. -/
def bind (scope : Scope) (names : LoopNames) (key value : Value) : Scope :=
  let keys := names.key.toList.map fun name => (name, key)
  { bindings := (names.value, value) :: keys ++ scope.bindings
    current := none, around := scope.current.or scope.around }

def fail (scope : Scope) (cause : Cause) : Except Failure α :=
  .error ⟨cause, scope.around.or scope.current⟩

def lookup (scope : Scope) (name : String) : Except Failure Value :=
  match scope.bindings.lookup name with
  | some value => .ok value
  | none => scope.fail (.undefinedVariable name)

end Scope

/-! ## Values that are wanted in one form -/

def wantBool (scope : Scope) : Value → Except Failure Bool
  | .bool b => .ok b
  | other => scope.fail (.unexpected other "a boolean")

/-- The key of an entry: a string, or the text of a truth value or a number. -/
def wantKey (scope : Scope) : Value → Except Failure String
  | .string s => .ok s
  | .bool b => .ok (Value.bool b).text
  | .number n => .ok n.text
  | other => scope.fail (.unexpected other "a string, boolean or number")

/-- The rounds of a loop: positions and items, or keys and values. -/
def wantRounds (scope : Scope) : Value → Except Failure (List (Value × Value))
  | .list items =>
    .ok (items.zipIdx.map fun (item, position) => (.number (.natural (UInt64.ofNat position)), item))
  | .object entries => .ok (entries.map fun (key, value) => (.string key, value))
  | other => scope.fail (.unexpected other "an array or object")

/-! ## Look-ups -/

def keyOf (scope : Scope) (key : String) : Value → Except Failure Value
  | .object entries =>
    match Node.Entries.get? entries key with
    | some value => .ok value
    | none => scope.fail (.noSuchKey key)
  | other => scope.fail (.unexpected other "an object")

def itemOf (scope : Scope) (index : Nat) : Value → Except Failure Value
  | .list items =>
    match items[index]? with
    | some value => .ok value
    | none => scope.fail (.indexOutOfBounds index)
  | other => scope.fail (.unexpected other "an array")

/-- The part of a value that an index in brackets leads to. -/
def partOf (scope : Scope) (index value : Value) : Except Failure Value :=
  match index with
  | .string key => keyOf scope key value
  | .number (.natural n) => itemOf scope n.toNat value
  | .number _ => scope.fail (.unexpected index "an unsigned integer")
  | other => scope.fail (.unexpected other "an unsigned integer or string")

/-- The items that a look-up goes on with; a lone value counts as a list of one, null as none. -/
def spreadItems : Value → List Value
  | .list items => items
  | .null => []
  | other => [other]

/-- Where a look-up stands: at one value, or at the same names of many. -/
inductive Focus where
  | one (value : Value)
  | each (items : List (Except Failure Value))

/-- The value that a look-up has reached. -/
def Focus.value : Focus → Except Failure Value
  | one value => .ok value
  | each items => Value.list <$> items.mapM id

/-! ## Operators -/

def applyUnary (scope : Scope) (operator : UnaryOperator) (operand : Value) : Except Failure Value :=
  let refuse := scope.fail (.unaryOperator operator operand)
  match operator, operand with
  | .not, .bool b => .ok (.bool !b)
  | .negate, .number n => .ok (.number n.negate)
  | _, _ => refuse

/-- The value of a comparison or computation on two numbers. -/
def numberOperation? (operator : BinaryOperator) (a b : Number) : Option Value :=
  match operator with
  | .less => some (.bool (a.lessThan b))
  | .lessOrEqual => some (.bool (a.lessThan b || a.same b))
  | .greater => some (.bool (b.lessThan a))
  | .greaterOrEqual => some (.bool (b.lessThan a || a.same b))
  | .plus => (a.add? b).map .number
  | .minus => (a.subtract? b).map .number
  | .times => (a.multiply? b).map .number
  | .divide => (a.divide? b).map .number
  | .remainder => (a.remainder? b).map .number
  | _ => none

/-- The value of an operation on two values, if the operator applies to them. -/
def binaryOperation? (operator : BinaryOperator) (a b : Value) : Option Value :=
  match operator, a, b with
  | .equal, a, b => some (.bool (a.same b))
  | .notEqual, a, b => some (.bool !(a.same b))
  | .and, .bool x, .bool y => some (.bool (x && y))
  | .or, .bool x, .bool y => some (.bool (x || y))
  | operator, .number m, .number n => numberOperation? operator m n
  | _, _, _ => none

def applyBinary (scope : Scope) (operator : BinaryOperator) (left right : Value) :
    Except Failure Value :=
  match binaryOperation? operator left right with
  | some value => .ok value
  | none => scope.fail (.binaryOperator operator left right)

/-- A value inside a template: a string as it is, other values as they are written. -/
def insertedText : Value → String
  | .string s => s
  | other => other.text

/-- Adds a value to the list of a key. -/
def collect (entries : List (String × Value)) (key : String) (value : Value) :
    List (String × Value) :=
  let before := ((Node.Entries.get? entries key).map spreadItems).getD []
  Node.Entries.insert entries key (.list (before ++ [value]))

/-! ## Evaluation -/

mutual

/-- The value of an expression in its own scope. -/
def Expression.evalIn (scope : Scope) : Expression → Except Failure Value
  | .null => .ok .null
  | .bool b => .ok (.bool b)
  | .number n => .ok (.number n)
  | .string s => .ok (.string s)
  | .list items => Value.list <$> evalItems scope items
  | .object entries => Value.object <$> evalEntries scope entries []
  | .template t => t.evalIn scope
  | .variable name => scope.lookup name
  | .traversal base steps => do
    let value ← base.evalIn (scope.enter base)
    walk scope steps (.one value)
  | .call name _ _ => scope.fail (.undefinedFunction name)
  | .parenthesis inner => inner.evalIn (scope.enter inner)
  | .conditional condition yes no => do
    let chosen ← wantBool scope (← condition.evalIn (scope.enter condition))
    if chosen then yes.evalIn (scope.enter yes) else no.evalIn (scope.enter no)
  | .unary operator operand => do
    applyUnary scope operator (← operand.evalIn (scope.enter operand))
  | .binary operator left right => do
    let a ← left.evalIn (scope.enter left)
    let b ← right.evalIn (scope.enter right)
    applyBinary scope operator a b
  | .forList names source value filter => do
    let rounds ← wantRounds scope (← source.evalIn (scope.enter source))
    let results ← rounds.mapM fun (key, item) => do
      let inner := scope.bind names key item
      if ← passes inner filter then some <$> value.evalIn (inner.enter value) else pure none
    return .list (results.filterMap id)
  | .forObject names source key value grouped filter => do
    let rounds ← wantRounds scope (← source.evalIn (scope.enter source))
    let entries ← rounds.foldlM (fun entries (position, item) => do
      let inner := scope.bind names position item
      if ← passes inner filter then
        let k ← wantKey inner (← key.evalIn (inner.enter key))
        let v ← value.evalIn (inner.enter value)
        if grouped then return collect entries k v
        else if (Node.Entries.get? entries k).isSome then inner.fail (.keyExists k)
        else return Node.Entries.insert entries k v
      else return entries) []
    return .object entries

/-- Whether a round of a loop passes the condition of the loop. -/
def passes (scope : Scope) : Option Expression → Except Failure Bool
  | none => .ok true
  | some condition => do wantBool scope (← condition.evalIn (scope.enter condition))

def evalItems (scope : Scope) : List Expression → Except Failure (List Value)
  | [] => .ok []
  | item :: items => do
    let value ← item.evalIn (scope.enter item)
    let more ← evalItems scope items
    return value :: more

/-- The entries of an object after those before; the last value of a key counts. -/
def evalEntries (scope : Scope) :
    List (Key × Expression) → List (String × Value) → Except Failure (List (String × Value))
  | [], done => .ok done
  | (key, value) :: entries, done => do
    let k ← key.evalIn scope
    let v ← value.evalIn (scope.enter value)
    evalEntries scope entries (Node.Entries.insert done k v)

def Key.evalIn (scope : Scope) : Key → Except Failure String
  | .name s => .ok s
  | .computed e => do wantKey scope (← e.evalIn (scope.enter e))

/-- Follows the steps of a look-up. -/
def walk (scope : Scope) : List Step → Focus → Except Failure Value
  | [], focus => focus.value
  | .name s :: steps, .one value => do walk scope steps (.one (← keyOf scope s value))
  | .name s :: steps, .each items =>
    walk scope steps (.each (items.map fun item => item.bind (keyOf scope s)))
  | .index n :: steps, focus => do
    walk scope steps (.one (← itemOf scope n (← focus.value)))
  | .at e :: steps, focus => do
    let value ← focus.value
    let index ← e.evalIn (scope.enter e)
    walk scope steps (.one (← partOf scope index value))
  | .namesOfAll :: steps, focus => do
    walk scope steps (.each ((spreadItems (← focus.value)).map .ok))
  | .all :: steps, focus => do
    let items ← (spreadItems (← focus.value)).mapM fun item => walk scope steps (.one item)
    return .list items

/-- The value of a template: the value of its only interpolation, or a string. -/
def Template.evalIn (scope : Scope) : Template → Except Failure Value
  | ⟨_, _, _, none⟩ => scope.fail .unreadableTemplate
  | ⟨_, _, _, some [.interpolation e]⟩ => e.evalIn (scope.enter e)
  | ⟨_, _, _, some parts⟩ => Value.string <$> evalParts scope parts

def evalParts (scope : Scope) : List Part → Except Failure String
  | [] => .ok ""
  | part :: parts => do
    let text ← part.evalIn scope
    let more ← evalParts scope parts
    return text ++ more

def Part.evalIn (scope : Scope) : Part → Except Failure String
  | .text s => .ok s
  | .interpolation e => insertedText <$> e.evalIn (scope.enter e)
  | .choice condition yes no => do
    let chosen ← wantBool scope (← condition.evalIn (scope.enter condition))
    if chosen then evalParts scope yes else evalParts scope no
  | .loop names source body => do
    let rounds ← wantRounds scope (← source.evalIn (scope.enter source))
    let texts ← rounds.mapM fun (key, item) => evalParts (scope.bind names key item) body
    return String.join texts

end

/-- The value of an expression. -/
def Expression.eval (bindings : List (String × Value)) (e : Expression) : Except Failure Value :=
  e.evalIn ((Scope.root bindings).enter e)

end SetupRecipe.Config

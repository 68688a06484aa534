import Mathlib.Data.List.TakeWhile
import Mathlib.Tactic.Lemma
import SetupRecipe.CommandLine.Arguments

/-!
# Spelled options

An option can be spelled in several ways. However the options of a command line are spelled, it reads
as an invocation with their values in the order in which they were given.
-/

namespace SetupRecipe.CommandLine

/-! ## Spellings -/

/-- The words that an option with a value is given by. -/
inductive Spelled : Flag → String → List String → Prop where
  | long {flag : Flag} (bare : flag.takesValue = false) : Spelled flag "" ["--" ++ flag.word]
  | longEquals {flag : Flag} (value : String) (takes : flag.takesValue = true) :
    Spelled flag value ["--" ++ flag.word ++ "=" ++ value]
  | longNext {flag : Flag} {value : String} (takes : flag.takesValue = true)
    (undashed : isDashed value = false) : Spelled flag value ["--" ++ flag.word, value]
  | short {flag : Flag} {letter : Char} (hletter : flag.letter? = some letter)
    (bare : flag.takesValue = false) : Spelled flag "" ["-".push letter]
  | shortEquals {flag : Flag} {letter : Char} (hletter : flag.letter? = some letter) (value : String)
    (takes : flag.takesValue = true) : Spelled flag value ["-".push letter ++ "=" ++ value]
  | shortJoined {flag : Flag} {letter first : Char} (hletter : flag.letter? = some letter)
    (rest : String) (takes : flag.takesValue = true) (unequal : first ≠ '=') :
    Spelled flag (String.singleton first ++ rest)
      ["-".push letter ++ (String.singleton first ++ rest)]
  | shortNext {flag : Flag} {letter : Char} {value : String} (hletter : flag.letter? = some letter)
    (takes : flag.takesValue = true) (undashed : isDashed value = false) :
    Spelled flag value ["-".push letter, value]

/-- The words of several options of a command. -/
inductive Spells (command : Command) : List Given → List String → Prop where
  | none : Spells command [] []
  | next {flag : Flag} {value : String} {words more : List String} {given : List Given}
    (mem : flag ∈ command.flags) (spelled : Spelled flag value words)
    (rest : Spells command given more) :
    Spells command (⟨command, flag, value⟩ :: given) (words ++ more)

section

variable {command : Command} {given more : List Given} {word : String}

end

/-- The letters of a word after two dashes, up to an equals sign. -/
lemma takeWhile_word (flag : Flag) (rest : List Char) :
    (flag.word.toList ++ '=' :: rest).takeWhile (· != '=') = flag.word.toList ∧
      flag.word.toList.takeWhile (· != '=') = flag.word.toList := by
  have hall : flag.word.toList.all (· != '=') = true := by
    cases flag
    all_goals decide +kernel
  have hletters : ∀ c ∈ flag.word.toList, (c != '=') = true := List.all_eq_true.mp hall
  constructor
  · rw [List.takeWhile_append_of_pos hletters]
    simp
  · exact List.takeWhile_eq_self_iff.mpr hletters

namespace Spells

variable {command : Command} {given : List Given} {words : List String}

end Spells

end SetupRecipe.CommandLine

import Mathlib.Tactic.Lemma
import SetupRecipe.Declaration.Render

/-!
# Induction on declaration trees

What holds of commands, echoes and switches, and of a resource whenever it holds of everything in the
block of the resource, holds of every declaration. If all declarations of a tree pass a test, it is
enough to look at those that do. When a resource renders, so do its parts.
-/

namespace SetupRecipe

/-- Induction over a declaration and everything declared inside of it. -/
theorem Child.induction {P : Child → Prop}
    (command : ∀ text, P (.command text))
    (echo : ∀ origin message, P (.echo origin message))
    (haltOnFailedCommand : ∀ origin, P (.haltOnFailedCommand origin))
    (block : ∀ origin settings body, (∀ child ∈ body.children, P child) →
      P (.block origin settings body))
    (child : Child) : P child :=
  @Child.rec (fun body => ∀ child ∈ body.children, P child) P
    (fun children => ∀ child ∈ children, P child)
    (fun _ _ _ _ hchildren => hchildren) command echo haltOnFailedCommand block
    (fun _ h => absurd h List.not_mem_nil)
    (fun _ _ hchild hchildren => List.forall_mem_cons.mpr ⟨hchild, hchildren⟩) child

mutual

/-- Whether every declaration of a tree passes a test. -/
def Block.every (test : Child → Bool) : Block → Bool
  | ⟨_, _, children, _⟩ => everyOf test children

def Child.every (test : Child → Bool) : Child → Bool
  | .command text => test (.command text)
  | .echo origin message => test (.echo origin message)
  | .haltOnFailedCommand origin => test (.haltOnFailedCommand origin)
  | .block origin settings body => test (.block origin settings body) && body.every test

def everyOf (test : Child → Bool) : List Child → Bool
  | [] => true
  | child :: children => child.every test && everyOf test children

end

lemma everyOf_iff {test : Child → Bool} {children : List Child} :
    everyOf test children ↔ ∀ child ∈ children, child.every test := by
  induction children with
  | nil => simp [everyOf]
  | cons child children ih => simp [everyOf, ih]

lemma Block.every_iff {test : Child → Bool} {block : Block} :
    block.every test ↔ ∀ child ∈ block.children, child.every test := by
  obtain ⟨owner, helpers, children, problem⟩ := block
  exact everyOf_iff

/-- Induction over the declarations of a tree of which every one passes a test. -/
theorem Block.every_induction {test : Child → Bool} {P : Child → Prop}
    (command : ∀ text, test (.command text) → P (.command text))
    (echo : ∀ origin message, test (.echo origin message) → P (.echo origin message))
    (haltOnFailedCommand : ∀ origin, test (.haltOnFailedCommand origin) →
      P (.haltOnFailedCommand origin))
    (block : ∀ origin settings body, test (.block origin settings body) →
      (∀ child ∈ body.children, P child) → P (.block origin settings body))
    {root : Block} (h : root.every test) : ∀ child ∈ root.children, P child := by
  intro child hchild
  have hevery := every_iff.mp h child hchild
  clear hchild
  induction child using Child.induction with
  | command text => exact command text hevery
  | echo origin message => exact echo origin message hevery
  | haltOnFailedCommand origin => exact haltOnFailedCommand origin hevery
  | block origin settings body ih =>
    obtain ⟨htest, hbody⟩ := Bool.and_eq_true_iff.mp hevery
    exact block origin settings body htest fun child hchild =>
      ih child hchild (every_iff.mp hbody child hchild)

lemma ok_of_bind_eq_ok {ε α β : Type} {x : Except ε α} {f : α → Except ε β} {b : β}
    (h : x >>= f = .ok b) : ∃ a, x = .ok a ∧ f a = .ok b := by
  cases x with
  | error e => exact nomatch h
  | ok a => exact ⟨a, rfl, h⟩

lemma ok_of_map_eq_ok {ε α β : Type} {x : Except ε α} {f : α → β} {b : β}
    (h : x.map f = .ok b) : ∃ a, x = .ok a ∧ f a = b := by
  cases x with
  | error e => exact nomatch h
  | ok a => exact ⟨a, rfl, Except.ok.inj h⟩

lemma eq_of_requiredPath_eq_ok {origin : Origin} {declared : Option String} {path : String}
    (h : requiredPath origin declared = .ok path) : path = declared.getD origin.label := by
  cases declared with
  | some declared => exact (Except.ok.inj h).symm
  | none =>
    unfold requiredPath at h
    by_cases hlabel : origin.label = ""
    · simp [hlabel] at h
    · simpa [hlabel] using h.symm

/-- The content that counts is the only one that was declared. -/
lemma FileSettings.declaredContent_eq_ok {s : FileSettings} {origin : Origin} {declares : Bool}
    {content : Option String} (h : s.declaredContent origin declares = .ok content) :
    s.contentLines = none ∧ content = s.content ∨ s.content = none ∧ content = s.contentLines := by
  unfold declaredContent at h
  cases hc : s.content <;> cases hl : s.contentLines <;> cases declares <;> simp_all

section Resources

open Shell (Fragment)

variable {origin : Origin} {declares : Bool} {body : Except CompileError Fragment}
  {fragment : Fragment}

lemma FileSettings.render_eq_ok {s : FileSettings} (h : s.render origin declares body = .ok fragment) :
    ∃ content before write mode, s.declaredContent origin declares = .ok content ∧
      body = .ok before ∧ create origin (s.path.getD origin.label) content = .ok write ∧
      changeMode origin (s.path.getD origin.label) s.mode = .ok mode ∧
      fragment =
        Fragment.guarded (existsTest (s.path.getD origin.label)) (before ++ write ++ mode) := by
  obtain ⟨path, hpath, h⟩ := ok_of_bind_eq_ok h
  obtain rfl := eq_of_requiredPath_eq_ok hpath
  obtain ⟨content, hcontent, h⟩ := ok_of_bind_eq_ok h
  obtain ⟨before, hbefore, h⟩ := ok_of_bind_eq_ok h
  obtain ⟨write, hwrite, h⟩ := ok_of_bind_eq_ok h
  obtain ⟨mode, hmode, h⟩ := ok_of_bind_eq_ok h
  exact ⟨content, before, write, mode, hcontent, hbefore, hwrite, hmode, (Except.ok.inj h).symm⟩

lemma DirectorySettings.render_eq_ok {s : DirectorySettings}
    (h : s.render origin body = .ok fragment) :
    ∃ before mode, body = .ok before ∧
      changeMode origin (s.path.getD origin.label) s.mode = .ok mode ∧
      fragment = before ++ Fragment.ofCode ("mkdir -p " ++ s.path.getD origin.label) ++ mode := by
  obtain ⟨path, hpath, h⟩ := ok_of_bind_eq_ok h
  obtain rfl := eq_of_requiredPath_eq_ok hpath
  obtain ⟨before, hbefore, h⟩ := ok_of_bind_eq_ok h
  obtain ⟨mode, hmode, h⟩ := ok_of_bind_eq_ok h
  exact ⟨before, mode, hbefore, hmode, (Except.ok.inj h).symm⟩

lemma LogSettings.render_eq_ok {s : LogSettings} (h : s.render origin body = .ok fragment) :
    ∃ redirection before, s.redirection origin = .ok redirection ∧ body = .ok before ∧
      fragment = before ++ Fragment.ofCode redirection := by
  obtain ⟨redirection, hredirection, h⟩ := ok_of_bind_eq_ok h
  obtain ⟨before, hbefore, h⟩ := ok_of_bind_eq_ok h
  exact ⟨redirection, before, hredirection, hbefore, (Except.ok.inj h).symm⟩

lemma GemfileSettings.render_eq_ok {s : GemfileSettings}
    (h : s.render origin declares body = .ok fragment) :
    ∃ before write, body = .ok before ∧
      writeFile origin (manifestPath (s.path.getD origin.label)) (Manifest.text s.source s.gems) =
        .ok write ∧
      fragment =
        Fragment.guarded (existsTest (manifestPath (s.path.getD origin.label))) (before ++ write) := by
  obtain ⟨directory, hpath, h⟩ := ok_of_bind_eq_ok h
  obtain rfl := eq_of_requiredPath_eq_ok hpath
  by_cases hgems : (!s.gems.isEmpty && declares) = true
  · simp only [hgems, if_true] at h
    exact nomatch h
  · simp only [hgems] at h
    obtain ⟨before, hbefore, h⟩ := ok_of_bind_eq_ok h
    obtain ⟨write, hwrite, h⟩ := ok_of_bind_eq_ok h
    exact ⟨before, write, hbefore, hwrite, (Except.ok.inj h).symm⟩

/-- A resource renders only if its block does. -/
lemma Settings.body_of_render {settings : Settings}
    (h : settings.render origin declares body = .ok fragment) : ∃ before, body = .ok before := by
  cases settings with
  | execute s =>
    obtain ⟨before, hbefore, -⟩ := ok_of_bind_eq_ok h
    exact ⟨before, hbefore⟩
  | file s =>
    obtain ⟨-, before, -, -, -, hbefore, -⟩ := s.render_eq_ok h
    exact ⟨before, hbefore⟩
  | directory s =>
    obtain ⟨before, -, hbefore, -⟩ := s.render_eq_ok h
    exact ⟨before, hbefore⟩
  | log s =>
    obtain ⟨-, before, -, hbefore, -⟩ := s.render_eq_ok h
    exact ⟨before, hbefore⟩
  | gemfile s =>
    obtain ⟨before, -, hbefore, -⟩ := s.render_eq_ok h
    exact ⟨before, hbefore⟩

/-- What a resource renders to is made of the fragments of its block. -/
lemma Child.render_block_eq_ok {settings : Settings} {block : Block}
    (h : (Child.block origin settings block).render = .ok fragment) :
    ∃ fragments, block.fragments = .ok fragments ∧
      settings.render origin block.hasDeclarations (.ok (Fragment.concat fragments)) =
        .ok fragment := by
  obtain ⟨before, hbefore⟩ := Settings.body_of_render h
  obtain ⟨fragments, hfragments, rfl⟩ := ok_of_map_eq_ok hbefore
  rw [Child.render, hbefore] at h
  exact ⟨fragments, hfragments, h⟩

end Resources

end SetupRecipe

import SetupRecipe.Declaration.Manifest
import SetupRecipe.Declaration.Origin

/-!
# Settings of blocks

A block is configured by attributes. Every attribute belongs to one or more kinds of blocks; of an
attribute given twice the last value counts, and gems add up.
-/

namespace SetupRecipe

structure ExecuteSettings where
  cwd : Option String
  notIf : Option String
  creates : Option String
deriving DecidableEq, Repr

structure FileSettings where
  path : Option String
  content : Option String
  contentLines : Option String
  mode : Option UInt32
deriving DecidableEq, Repr

structure DirectorySettings where
  path : Option String
  mode : Option UInt32
deriving DecidableEq, Repr

structure LogSettings where
  path : Option String
  stdout : Option String
  stderr : Option String
deriving DecidableEq, Repr

structure GemfileSettings where
  path : Option String
  gems : List Gem
  source : Option String
deriving DecidableEq, Repr

/-- What the attributes of a block have set. -/
inductive Settings where
  | execute (settings : ExecuteSettings)
  | file (settings : FileSettings)
  | directory (settings : DirectorySettings)
  | log (settings : LogSettings)
  | gemfile (settings : GemfileSettings)
deriving DecidableEq, Repr

/-- An attribute with its value; texts are of any type, so that they may still be expressions. -/
inductive Attribute (τ : Type) where
  | cwd (path : τ)
  | notIf (test : τ)
  | creates (path : τ)
  | path (path : τ)
  | content (text : τ)
  | contentLines (lines : List τ)
  | mode (mode : UInt32)
  | stdout (path : τ)
  | stderr (path : τ)
  | source (url : τ)
  | gem (name : τ) (version : Option τ)

namespace Attribute

/-- The attribute with every text replaced. -/
def map (f : σ → τ) : Attribute σ → Attribute τ
  | cwd p => cwd (f p)
  | notIf test => notIf (f test)
  | creates p => creates (f p)
  | path p => path (f p)
  | content text => content (f text)
  | contentLines lines => contentLines (lines.map f)
  | mode m => mode m
  | stdout p => stdout (f p)
  | stderr p => stderr (f p)
  | source url => source (f url)
  | gem name version => gem (f name) (version.map f)

/-- Whether a kind of block has the attribute. -/
def fits : Attribute τ → BlockKind → Bool
  | cwd _, kind => kind = .execute
  | notIf _, kind => kind = .execute
  | creates _, kind => kind = .execute
  | path _, kind => kind ≠ .execute
  | content _, kind => kind = .file
  | contentLines _, kind => kind = .file
  | mode _, kind => kind = .file || kind = .directory
  | stdout _, kind => kind = .log
  | stderr _, kind => kind = .log
  | source _, kind => kind = .gemfile
  | gem _ _, kind => kind = .gemfile

end Attribute

namespace Settings

/-- The settings of a block before any attribute. -/
def initial : BlockKind → Settings
  | .execute => execute ⟨none, none, none⟩
  | .file => file ⟨none, none, none, none⟩
  | .directory => directory ⟨none, none⟩
  | .log => log ⟨none, none, none⟩
  | .gemfile => gemfile ⟨none, [], none⟩

def kind : Settings → BlockKind
  | execute _ => .execute
  | file _ => .file
  | directory _ => .directory
  | log _ => .log
  | gemfile _ => .gemfile

/-- The settings after one more attribute; an attribute that the block does not have changes
nothing. -/
def set : Settings → Attribute String → Settings
  | execute s, .cwd path => execute { s with cwd := some path }
  | execute s, .notIf test => execute { s with notIf := some test }
  | execute s, .creates path => execute { s with creates := some path }
  | file s, .path path => file { s with path := some path }
  | file s, .content text => file { s with content := some text }
  | file s, .contentLines lines => file { s with contentLines := some (String.intercalate "\n" lines) }
  | file s, .mode mode => file { s with mode := some mode }
  | directory s, .path path => directory { s with path := some path }
  | directory s, .mode mode => directory { s with mode := some mode }
  | log s, .path path => log { s with path := some path }
  | log s, .stdout path => log { s with stdout := some path }
  | log s, .stderr path => log { s with stderr := some path }
  | gemfile s, .path path => gemfile { s with path := some path }
  | gemfile s, .gem name version => gemfile { s with gems := s.gems ++ [⟨name, version⟩] }
  | gemfile s, .source url => gemfile { s with source := some url }
  | s, _ => s

@[simp] theorem kind_initial (kind : BlockKind) : (initial kind).kind = kind := by
  cases kind <;> rfl

@[simp] theorem kind_set (settings : Settings) (a : Attribute String) :
    (settings.set a).kind = settings.kind := by
  cases settings <;> cases a <;> rfl

end Settings

end SetupRecipe

import StableFleet.Config.Basic
import StableFleet.Yaml.Node

/-!
# Configurations as documents

A configuration is a mapping of settings. Settings that are missing keep their
defaults; a setting that is not known, or given twice, is refused, so that a slip
does not go unnoticed. Any scalar is a text, however it looks, but only a plain
word, or a literal one with the tag of truth values, is a truth value, and a
plain word for nothing takes an optional setting away.
-/

namespace StableFleet.Config

open Yaml (Document Node)

/-- The text of a scalar. -/
def text? (document : Document) (node : Node) : Option String :=
  match document.meant node with
  | .scalar _ _ text => some text
  | _ => none

/-- The truth value of a word. -/
def truth? (word : String) : Option Bool :=
  if ["true", "True", "TRUE"].contains word then some true
  else if ["false", "False", "FALSE"].contains word then some false
  else none

/-- The truth value of a scalar. -/
def bool? (document : Document) (node : Node) : Option Bool :=
  match document.meant node with
  | .scalar .plain _ text => truth? text
  | .scalar .literal (some tag) text => if tag = Yaml.Tag.truth then truth? text else none
  | _ => none

/-- Whether a word stands for nothing. -/
def isNull (word : String) : Bool := ["null", "Null", "NULL", "~"].contains word

/-- The text of an optional setting. What has the tag of nothing has to be a word
for it. -/
def optional? (document : Document) (node : Node) : Option (Option String) :=
  match document.meant node with
  | .scalar .plain none text => some (if text.isEmpty || isNull text then none else some text)
  | .scalar .plain (some tag) text =>
    if tag = Yaml.Tag.nothing then (if isNull text then some none else none) else some (some text)
  | .scalar _ _ text => some (some text)
  | _ => none

/-- The texts of a list. An empty place is an empty list. -/
def texts? (document : Document) (node : Node) : Option TextSet :=
  match document.meant node with
  | .sequence items => (items.mapM (text? document)).map TextSet.ofList
  | .scalar .plain _ "" => some .empty
  | _ => none

/-- A setting: its name, and how a node changes what is set. -/
structure Setting (ρ : Type) where
  name : String
  put : Document → Node → ρ → Option ρ

/-- A setting that holds what a reader finds. -/
def setting {ρ α : Type} (name : String) (read : Document → Node → Option α)
    (set : ρ → α → ρ) : Setting ρ :=
  ⟨name, fun document node settings => (read document node).map (set settings)⟩

/-- Puts members into settings. No setting may be given twice. -/
def putMembers? {ρ : Type} (known : List (Setting ρ)) (document : Document) :
    List String → ρ → List (Node × Node) → Option ρ
  | _, settings, [] => some settings
  | seen, settings, (key, value) :: members =>
    match text? document key with
    | none => none
    | some name =>
      if name ∈ seen then none
      else match known.find? fun setting => setting.name = name with
        | none => none
        | some setting =>
          match setting.put document value settings with
          | none => none
          | some settings => putMembers? known document (name :: seen) settings members

/-- The settings of a mapping. An empty place is an empty mapping. -/
def settings? {ρ : Type} (known : List (Setting ρ)) (default : ρ) (document : Document)
    (node : Node) : Option ρ :=
  match document.meant node with
  | .mapping members => putMembers? known document [] default members
  | .scalar .plain _ "" => some default
  | _ => none

/-- What is let pass. -/
def allowLists? : Document → Node → Option AllowLists :=
  settings? [
    setting "missing_boards" texts? fun allowed texts => { allowed with missingBoards := texts },
    setting "failed_to_lookup" texts? fun allowed texts => { allowed with failedLookups := texts },
    setting "invalid_versions" texts? fun allowed texts => { allowed with mismatches := texts }] {}

/-- The configuration that a node of a document holds. -/
def ofNode? : Document → Node → Option Config :=
  settings? [
    setting "archive_root" text? fun config text => { config with archiveRoot := text },
    setting "release_feed" optional? fun config text => { config with releaseFeed := text },
    setting "manifest_repo" optional? fun config text => { config with manifestRepo := text },
    setting "manifest_branch" text? fun config text => { config with manifestBranch := text },
    setting "manifest_path" text? fun config text => { config with manifestPath := text },
    setting "push_ref" text? fun config text => { config with pushRef := text },
    setting "strict_os_models" bool? fun config flag => { config with strictOsModels := flag },
    setting "allow_lists" allowLists? fun config lists => { config with allowLists := lists }] {}

/-- The configuration of a text, if it can be used. A blank text is the
configuration of defaults. -/
def parse (text : String) : Except Error Config :=
  if Text.Blank.allBlank text then .ok {}
  else match (Document.ofText? text).bind fun document => ofNode? document document.root with
    | none => .error (.yaml "not a configuration")
    | some config => config.validate.map fun _ => config

end StableFleet.Config

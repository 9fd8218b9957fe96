import TestReach.Xml.Element
import TestReach.Xml.Prolog
import TestReach.Xml.Token

namespace TestReach.Xml

/-- Namespaces by prefix, the innermost first. The empty prefix stands for no prefix. -/
abbrev Scope := List (String × String)

namespace Scope

def xmlSpace : String := "http://www.w3.org/XML/1998/namespace"

def declarationSpace : String := "http://www.w3.org/2000/xmlns/"

def outermost : Scope := [("xml", xmlSpace)]

def parts (name : String) : String × String :=
  let before := name.toList.takeWhile (· != ':')
  if before.length == name.length then ("", name)
  else (String.ofList before, String.ofList (name.toList.drop (before.length + 1)))

def declared? (name : String) : Option String :=
  if name == "xmlns" then some ""
  else if (parts name).1 == "xmlns" then some (parts name).2
  else none

/-- Adds a namespace; some prefixes and namespaces belong together, and no prefix may lose its
namespace. -/
def declare (scope : Scope) (key space : String) : Option Scope :=
  if key == "xmlns" || space == declarationSpace || space.toList.contains '\x7d' then none
  else if (key == "xml") != (space == xmlSpace) then none
  else if key != "" && space == "" then none
  else some ((key, space) :: scope)

def elementName (scope : Scope) (name : String) : Option Name :=
  let (key, text) := parts name
  match scope.lookup key with
  | some space => some ⟨space, text⟩
  | none => if key == "" then some ⟨"", name⟩ else none

/-- The name that an attribute has in a scope; without a prefix it has no namespace. -/
def attributeName (scope : Scope) (name : String) : Option Name :=
  let (key, text) := parts name
  if key == "" then some ⟨"", name⟩ else (scope.lookup key).map fun space => ⟨space, text⟩

end Scope

/-- An element that has begun; characters and children are in reverse order. -/
structure OpenElement where
  written : String
  name : Name
  attributes : List (Name × String)
  scope : Scope
  text : List Char := []
  children : List Element := []

namespace OpenElement

/-- Adds characters; those after the first child are dropped. -/
def addText (element : OpenElement) (text : List Char) : OpenElement :=
  if element.children.isEmpty then { element with text := text.reverse ++ element.text } else element

def close (element : OpenElement) : Element :=
  .make element.name element.attributes (String.ofList element.text.reverse)
    element.children.reverse

end OpenElement

/-- The elements that have begun, the innermost first, and the root once it has ended. -/
structure Builder where
  opened : List OpenElement := []
  root : Option Element := none

namespace Builder

def valuesOf (declarations : Declarations) (tag : Tag) : Option (List (String × String)) := do
  let written ← tag.attributes.mapM fun (name, value) => do
    let rule? := declarations.rule? tag.name name
    return (name, ← Value.ofPieces declarations (rule?.any (·.isTokenized)) value)
  let isMissing (rule : AttributeRule) : Bool :=
    rule.element == tag.name && (written.lookup rule.name).isNone
  let added := (declarations.attributes.filter isMissing).filterMap fun rule =>
    rule.default?.map fun value => (rule.name, value)
  return written ++ added

def begin (declarations : Declarations) (builder : Builder) (tag : Tag) : Option Builder := do
  let outer := (builder.opened.head?.map (·.scope)).getD Scope.outermost
  let values ← valuesOf declarations tag
  if !(values.map (·.1)).Nodup then none
  let scope ← values.foldlM (fun (scope : Scope) (name, value) =>
    match Scope.declared? name with
    | some key => scope.declare key value
    | none => some scope) outer
  let attributes ← (values.filter fun value => (Scope.declared? value.1).isNone).mapM
    fun (name, value) => do return (← scope.attributeName name, value)
  if !(attributes.map (·.1)).Nodup then none
  let name ← scope.elementName tag.name
  if builder.opened.isEmpty && builder.root.isSome then none
  return { builder with opened := { written := tag.name, name, attributes, scope } :: builder.opened }

def finish (builder : Builder) : Option Builder :=
  match builder.opened with
  | [] => none
  | [element] => some { opened := [], root := some element.close }
  | element :: outer :: rest =>
    some { builder with
      opened := { outer with children := element.close :: outer.children } :: rest }

def addText (builder : Builder) (text : List Char) : Option Builder :=
  match builder.opened with
  | [] => none
  | element :: rest => some { builder with opened := element.addText text :: rest }

/-- Adds tokens. No element that began before the innermost `base` ones may end; `entity` adds the
content of an entity. -/
def addTokens (declarations : Declarations) (entity : String → Builder → Option Builder)
    (base : Nat) : List Token → Builder → Option Builder
  | [], builder => if builder.opened.length == base then some builder else none
  | token :: rest, builder => do
    let builder ← match token with
      | .text text =>
        if builder.opened.isEmpty && text.all isSpace then some builder else builder.addText text
      | .verbatim text => builder.addText text
      | .reference (.char c) => builder.addText [c]
      | .reference (.entity name) => if builder.opened.isEmpty then none else entity name builder
      | .start tag => do
        let builder ← builder.begin declarations tag
        if tag.isClosed then builder.finish else some builder
      | .stop name =>
        if builder.opened.length > base && builder.opened.head?.any (·.written == name) then
          builder.finish
        else none
    addTokens declarations entity base rest builder

/-- Adds the content of an entity, which may not refer to one of `opened`; `depth` bounds how many
entities may be inside each other. -/
def addEntity (declarations : Declarations) :
    (depth : Nat) → (opened : List String) → String → Builder → Option Builder
  | 0, _, _, _ => none
  | depth + 1, opened, name, builder =>
    match declarations.entities.lookup name with
    | some (.internal text) =>
      if opened.contains name then none
      else do
        addTokens declarations (addEntity declarations depth (name :: opened))
          builder.opened.length (← Token.list text) builder
    | _ => none

end Builder

def byteOrderMark : Char := '\uFEFF'

/-- The root element of a text that is a well-formed document with well-formed namespaces. -/
def document? (text : String) : Option Element := do
  let text := text.toList
  let text := Text.Utf8.unifyLineEnds (if text.head? == some byteOrderMark then text.tail else text)
  if !text.all isAllowed then none
  let (declarations, content) ← Prolog.read text.length text
  let entity := Builder.addEntity declarations (declarations.entities.length + 1) []
  let builder ← Builder.addTokens declarations entity 0 (← Token.list content) {}
  builder.root

end TestReach.Xml

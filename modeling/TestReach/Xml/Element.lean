namespace TestReach.Xml

/-- A name in a namespace; the empty namespace is none. -/
structure Name where
  space : String := ""
  text : String
deriving DecidableEq, Repr

inductive Element where
  | make (name : Name) (attributes : List (Name × String)) (text : String) (children : List Element)

namespace Element

def name : Element → Name
  | make name _ _ _ => name

def attributes : Element → List (Name × String)
  | make _ attributes _ _ => attributes

def text : Element → String
  | make _ _ text _ => text

def children : Element → List Element
  | make _ _ _ children => children

def isNamed (element : Element) (name : String) : Bool :=
  element.name == ⟨"", name⟩

def attribute? (element : Element) (name : String) : Option String :=
  element.attributes.lookup ⟨"", name⟩

def childrenNamed (element : Element) (name : String) : List Element :=
  element.children.filter (·.isNamed name)

def child? (element : Element) (name : String) : Option Element :=
  element.children.find? (·.isNamed name)

mutual

def all : Element → List Element
  | make name attributes text children =>
    make name attributes text children :: allOf children

def allOf : List Element → List Element
  | [] => []
  | element :: rest => element.all ++ allOf rest

end

end Element
end TestReach.Xml

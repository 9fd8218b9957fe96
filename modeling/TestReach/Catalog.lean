namespace TestReach

/-- Values by key, in the order in which the keys were first put. -/
abbrev Catalog (α : Type) := List (String × α)

namespace Catalog

variable {α : Type}

def put (key : String) (value : α) : Catalog α → Catalog α
  | [] => [(key, value)]
  | (k, v) :: rest => if k = key then (k, value) :: rest else (k, v) :: put key value rest

def get? (c : Catalog α) (key : String) : Option α :=
  List.lookup key c

def keys (c : Catalog α) : List String :=
  c.map (·.1)

def values (c : Catalog α) : List α :=
  c.map (·.2)

def merge (c d : Catalog α) : Catalog α :=
  d.foldl (fun c (key, value) => c.put key value) c

def ofList (entries : List (String × α)) : Catalog α :=
  merge [] entries

def sortedKeys (c : Catalog α) : List String :=
  c.keys.mergeSort (· ≤ ·)

end Catalog
end TestReach

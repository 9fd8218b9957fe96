import TestReach.UrlTemplate.Field

namespace TestReach.UrlTemplate

/-- The text before the first field, and what is left after the brace that opens the field. -/
def literalPart : List Char → Except Fault (List Char × Option (List Char))
  | [] => .ok ([], none)
  | c :: rest =>
    if c == '\x7b' then
      match rest with
      | [] => .error .loneOpening
      | d :: after => if d == c then withChar c (literalPart after) else .ok ([], some rest)
    else if c == '\x7d' then
      match rest with
      | [] => .error .loneClosing
      | d :: after => if d == c then withChar c (literalPart after) else .error .loneClosing
    else withChar c (literalPart rest)

def nestingLimit : Nat := 2

/-- Fills in the fields of a template; `fuel` bounds their number. -/
def expandFrom (path : List Char) : (depth fuel : Nat) → List Char → Except Fault (List Char)
  | 0, _, _ => .error .tooDeep
  | _ + 1, 0, _ => .ok []
  | depth + 1, fuel + 1, template => do
    let (literal, rest) ← literalPart template
    match rest with
    | none => return literal
    | some rest =>
      let (field, rest) ← Field.read rest
      let value ← Field.convert (← Field.valueOf path field.name) field.conversion
      let layout ← if field.layout.contains '\x7b' then
          expandFrom path depth (field.layout.length + 1) field.layout
        else .ok field.layout
      let text ← Layout.apply layout value
      return literal ++ text ++ (← expandFrom path (depth + 1) fuel rest)

/-- The address of the script at `path`: a template with its fields filled in. Doubled braces stand for
themselves. -/
def expand (template path : String) : Except Fault String :=
  (expandFrom path.toList nestingLimit (template.length + 1) template.toList).map String.ofList

end TestReach.UrlTemplate

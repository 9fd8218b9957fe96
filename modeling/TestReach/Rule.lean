import TestReach.Pattern

namespace TestReach

namespace Rule

inductive Role where
  | declaration
  | ignoredRoutine
  | identifier
  | setup
  | estimate
deriving DecidableEq, Repr

namespace Role

def noun : Role → String
  | declaration => "method declaration regex"
  | ignoredRoutine => "ignored routine regex"
  | identifier => "TC id pattern"
  | setup => "TC setup pattern"
  | estimate => "TC estimate pattern"

def title : Role → String
  | declaration => "Method declaration regex"
  | role => role.noun

def group? : Role → Option String
  | declaration => some "name"
  | ignoredRoutine => none
  | identifier => some "id"
  | setup => some "setup"
  | estimate => some "estimate"

end Role

inductive Invalid where
  | malformed (role : Role) (source : String) (fault : Pattern.Fault) (pos : Option Nat)
  | noGroup (role : Role) (source group : String)
  /-- The pattern is refused for a reason other than its form. -/
  | refused (error : Pattern.CompileError)

def Invalid.message : Invalid → String
  | malformed role source fault pos =>
    "Couldn't compile " ++ role.noun ++ " " ++ Text.quoted source ++ ": " ++
      Pattern.malformedMessage source fault pos
  | noGroup role source group =>
    role.title ++ " " ++ Text.quoted source ++ " needs a '" ++ group ++ "' group"
  | refused error => error.message ""

def compile (role : Role) (source : String) : Except Invalid Pattern :=
  match Pattern.compile source with
  | .error (.malformed fault pos) => .error (.malformed role source fault pos)
  | .error error => .error (.refused error)
  | .ok pattern =>
    match role.group? with
    | none => .ok pattern
    | some group =>
      if pattern.hasGroup group then .ok pattern else .error (.noGroup role source group)

end Rule
end TestReach

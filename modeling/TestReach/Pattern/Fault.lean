import TestReach.Text.Integer
import TestReach.Text.Quoted

namespace TestReach.Pattern

/-- What stands between a repetition count and its closing brace, and the like, is kept as text, so
that a message can quote it. -/
inductive Fault where
  | danglingEscape
  | badEscape (escape : String)
  | incompleteEscape (escape : String)
  | octalOutOfRange (escape : String)
  | missingNameBrace
  | unknownCharacterName (name : String)
  | missing (what : String)
  | unterminatedName (terminator : String)
  | badGroupName (name : String)
  | unknownGroupName (name : String)
  | badGroupNumber
  | invalidGroupReference (group : Nat)
  | openGroup
  | groupInSameLookBehind
  | redefinedGroup (name : String) (group former : Nat)
  | unterminatedSet
  | badRange (first last : String)
  | nothingToRepeat
  | multipleRepeat
  | leastAboveMost
  | unexpectedEnd
  | unknownExtension (extension : String)
  | unterminatedComment
  | unterminatedGroup
  | unbalanced
  | tooManyBranches
  | lateGlobalModes
  | localeMode
  | incompatibleModes
  | unknownMode
  | globalModeOn
  | globalModeOff
  | typeModeOff
  | contradictoryModes
  | variableLookBehind
  | longLookBehind
  | templateRepeat (operator : String)
deriving DecidableEq, Repr

def Fault.message : Fault → String
  | danglingEscape => "bad escape (end of pattern)"
  | badEscape escape => "bad escape " ++ escape
  | incompleteEscape escape => "incomplete escape " ++ escape
  | octalOutOfRange escape => "octal escape value " ++ escape ++ " outside of range 0-0o377"
  | missingNameBrace => "missing \x7b"
  | unknownCharacterName name => "undefined character name " ++ Text.quoted name
  | missing what => "missing " ++ what
  | unterminatedName terminator => "missing " ++ terminator ++ ", unterminated name"
  | badGroupName name => "bad character in group name " ++ Text.quoted name
  | unknownGroupName name => "unknown group name " ++ Text.quoted name
  | badGroupNumber => "bad group number"
  | invalidGroupReference group => "invalid group reference " ++ toString group
  | openGroup => "cannot refer to an open group"
  | groupInSameLookBehind => "cannot refer to group defined in the same lookbehind subpattern"
  | redefinedGroup name group former =>
    "redefinition of group name " ++ Text.quoted name ++ " as group " ++ toString group ++
      "; was group " ++ toString former
  | unterminatedSet => "unterminated character set"
  | badRange first last => "bad character range " ++ first ++ "-" ++ last
  | nothingToRepeat => "nothing to repeat"
  | multipleRepeat => "multiple repeat"
  | leastAboveMost => "min repeat greater than max repeat"
  | unexpectedEnd => "unexpected end of pattern"
  | unknownExtension extension => "unknown extension ?" ++ extension
  | unterminatedComment => "missing ), unterminated comment"
  | unterminatedGroup => "missing ), unterminated subpattern"
  | unbalanced => "unbalanced parenthesis"
  | tooManyBranches => "conditional backref with more than two branches"
  | lateGlobalModes => "global flags not at the start of the expression"
  | localeMode => "bad inline flags: cannot use 'L' flag with a str pattern"
  | incompatibleModes => "bad inline flags: flags 'a', 'u' and 'L' are incompatible"
  | unknownMode => "unknown flag"
  | globalModeOn => "bad inline flags: cannot turn on global flag"
  | globalModeOff => "bad inline flags: cannot turn off global flag"
  | typeModeOff => "bad inline flags: cannot turn off flags 'a', 'u' and 'L'"
  | contradictoryModes => "bad inline flags: flag turned on and off"
  | variableLookBehind => "look-behind requires fixed-width pattern"
  | longLookBehind => "looks too much behind"
  | templateRepeat operator => "internal: unsupported template operator " ++ operator

/-- What keeps a text from being compiled. -/
inductive CompileError where
  | malformed (fault : Fault) (pos : Option Nat)
  | countTooLarge
  | countTooLong (digits : Nat)
  | asciiAndUnicode
deriving DecidableEq, Repr

/-- The position, and for a text of several lines the line and the column, both from one. -/
def placeMessage (pattern : List Char) (pos : Nat) : String :=
  let before := pattern.take pos
  let line := before.count '\n' + 1
  let column := (before.reverse.takeWhile (· != '\n')).length + 1
  " at position " ++ toString pos ++
    if pattern.contains '\n' then
      " (line " ++ toString line ++ ", column " ++ toString column ++ ")"
    else ""

def malformedMessage (pattern : String) (fault : Fault) (pos : Option Nat) : String :=
  fault.message ++ (pos.map (placeMessage pattern.toList)).getD ""

def CompileError.message (pattern : String) : CompileError → String
  | malformed fault pos => malformedMessage pattern fault pos
  | countTooLarge => "the repetition number is too large"
  | countTooLong digits => Text.tooManyDigitsMessage digits
  | asciiAndUnicode => "ASCII and UNICODE flags are incompatible"

end TestReach.Pattern

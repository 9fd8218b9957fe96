import TestReach.Text.Search

namespace TestReach.Xml

def escapedChar (c : Char) : List Char :=
  if c == '&' then "&amp;".toList
  else if c == '<' then "&lt;".toList
  else if c == '>' then "&gt;".toList
  else [c]

def escape (text : String) : String :=
  String.ofList (text.toList.flatMap escapedChar)

def escapeAttribute (text : String) : String :=
  String.ofList (text.toList.flatMap fun c => if c == '"' then "&quot;".toList else escapedChar c)

def commentText (text : String) : String :=
  String.ofList (Text.replaceAll ['-', '-'] ['-', ' ', '-'] text.toList)

def comment (text : String) : String :=
  "<!-- " ++ commentText text ++ " -->"

end TestReach.Xml

import TestReach.Text.Blank
import TestReach.Text.Case
import TestReach.Text.Digit

namespace TestReach.Pattern

/-- How characters are brought to one case before they are compared. -/
inductive Folding where
  | exact
  | ascii
  | unicode
deriving DecidableEq, Repr

namespace Folding

def fold : Folding → Char → Char
  | exact, c => c
  | ascii, c => Text.asciiLower c
  | unicode, c => Text.lowerChar c

def unfold : Folding → Char → List Char
  | exact, c => [c]
  | ascii, c => if 'a' ≤ c && c ≤ 'z' then [c, Char.ofNat (c.toNat - 32)] else [c]
  | unicode, c => (c :: Text.kin c).flatMap Text.raised

end Folding

inductive Category where
  | digit
  | blank
  | word
deriving DecidableEq, Repr

def Category.holds : Category → (ascii : Bool) → Char → Bool
  | .digit, true, c => Text.isAsciiDigit c
  | .digit, false, c => Text.isDecimal c
  | .blank, true, c => Text.isAsciiBlank c
  | .blank, false, c => Text.isBlank c
  | .word, true, c => Text.isAsciiWord c
  | .word, false, c => Text.isWord c

inductive ClassItem where
  /-- The code points from `first` to `last`. -/
  | range (first last : Nat)
  /-- The characters that count as one of the code points when case is folded. -/
  | foldedRange (folding : Folding) (first last : Nat)
  | category (kind : Category) (ascii negated : Bool)
deriving DecidableEq, Repr

def ClassItem.holds : ClassItem → Char → Bool
  | .range first last, c => first ≤ c.toNat && c.toNat ≤ last
  | .foldedRange folding first last, c =>
    (folding.unfold c).any fun d => first ≤ d.toNat && d.toNat ≤ last
  | .category kind ascii negated, c => kind.holds ascii c != negated

inductive CharTest where
  | any
  | notLineFeed
  | exactly (c : Char)
  /-- The folded character is in one of the items, or in none of them if `negated`. -/
  | oneOf (folding : Folding) (negated : Bool) (items : List ClassItem)
deriving DecidableEq, Repr

def CharTest.admits : CharTest → Char → Bool
  | .any, _ => true
  | .notLineFeed, c => c != '\n'
  | .exactly d, c => c == d
  | .oneOf folding negated items, c => items.any (·.holds (folding.fold c)) != negated

inductive Anchor where
  | textStart
  | lineStart
  | textEnd
  /-- The end of the text or the line feed that ends it. -/
  | lastLineEnd
  | lineEnd
  /-- A word character on exactly one side, or not so if `negated`. -/
  | wordBoundary (ascii negated : Bool)
deriving DecidableEq, Repr

def wordAt (ascii : Bool) (text : Array Char) (pos : Nat) : Bool :=
  match text[pos]? with
  | some c => Category.word.holds ascii c
  | none => false

def wordBefore (ascii : Bool) (text : Array Char) (pos : Nat) : Bool :=
  match pos with
  | 0 => false
  | before + 1 => wordAt ascii text before

def Anchor.holds : Anchor → Array Char → Nat → Bool
  | .textStart, _, pos => pos == 0
  | .lineStart, text, pos => pos == 0 || text[pos - 1]? == some '\n'
  | .textEnd, text, pos => pos == text.size
  | .lastLineEnd, text, pos =>
    pos == text.size || (pos + 1 == text.size && text[pos]? == some '\n')
  | .lineEnd, text, pos => pos == text.size || text[pos]? == some '\n'
  | .wordBoundary ascii negated, text, pos =>
    text.size != 0 && (wordBefore ascii text pos != wordAt ascii text pos) != negated

/-- The order in which a repetition tries its counts: `greedy` the most first, `lazy` the least
first, `possessive` the most only. -/
inductive Greed where
  | greedy
  | lazy
  | possessive
deriving DecidableEq, Repr

/-- A pattern. Groups are numbered from one. -/
inductive Node where
  | empty
  | one (test : CharTest)
  | anchor (place : Anchor)
  | seq (first second : Node)
  | alt (first second : Node)
  | capture (group : Nat) (body : Node)
  /-- A run of characters that all pass one test. -/
  | many (greed : Greed) (least : Nat) (most : Option Nat) (test : CharTest)
  | repeated (greed : Greed) (least : Nat) (most : Option Nat) (body : Node)
  /-- The first way in which `body` matches, and no other. -/
  | atomic (body : Node)
  | ahead (negated : Bool) (body : Node)
  /-- `body` matches from `least` characters back; `least` and `most` are its widths. -/
  | behind (negated : Bool) (least most : Nat) (body : Node)
  /-- The text that a group matched last. -/
  | recall (folding : Folding) (group : Nat)
  | choose (group : Nat) (ifMatched otherwise : Node)
deriving Repr

namespace Node

def inOrder (nodes : List Node) : Node :=
  nodes.foldr .seq .empty

def anyOf : List Node → Node
  | [] => .empty
  | [node] => node
  | node :: rest => .alt node (anyOf rest)

def replicate (greed : Greed) (least : Nat) (most : Option Nat) : Node → Node
  | .one test => .many greed least most test
  | body => .repeated greed least most body

end Node
end TestReach.Pattern

import TestReach.Text.Case
import TestReach.Text.NameTable
import TestReach.Text.Ranges
import TestReach.Text.Search

namespace TestReach.Text

def afterPrefix? (beginning : String) (name : List Char) : Option (List Char) :=
  if beginning.toList.isPrefixOf name then some (name.drop beginning.length) else none

def listedChar? (name : List Char) : Option Char :=
  let inGroup (group : NameGroup) : Option Char := do
    let rest ← afterPrefix? group.2.1 name
    let position ← (split (· == '|') group.2.2.toList).idxOf? rest
    if rest.isEmpty then none else return Char.ofNat (group.1 + position)
  let isFurther (entry : Nat × String) : Bool :=
    (split (· == '|') entry.2.toList).contains name
  match nameGroups.findSome? inGroup with
  | some c => some c
  | none => (furtherNames.find? isFurther).map fun entry => Char.ofNat entry.1

def upperHexValue? (c : Char) : Option Nat :=
  if '0' ≤ c && c ≤ '9' then some (c.toNat - 48)
  else if 'A' ≤ c && c ≤ 'F' then some (c.toNat - 55)
  else none

def ideographRanges : Ranges := [
  (0x3400, 0x4DBF), (0x4E00, 0x9FFF), (0x20000, 0x2A6DF), (0x2A700, 0x2B738), (0x2B740, 0x2B81D),
  (0x2B820, 0x2CEA1), (0x2CEB0, 0x2EBE0), (0x30000, 0x3134A)]

def ideograph? (digits : List Char) : Option Char := do
  let values ← digits.mapM upperHexValue?
  let code := values.foldl (fun n d => n * 16 + d) 0
  if (digits.length == 4 || digits.length == 5) && ideographRanges.has code then
    return Char.ofNat code
  else none

def initialSounds : List String :=
  ["G", "GG", "N", "D", "DD", "R", "M", "B", "BB", "S", "SS", "", "J", "JJ", "C", "K", "T", "P", "H"]

def middleSounds : List String :=
  ["A", "AE", "YA", "YAE", "EO", "E", "YEO", "YE", "O", "WA", "WAE", "OE", "YO", "U", "WEO", "WE",
    "WI", "YU", "EU", "YI", "I"]

def finalSounds : List String :=
  ["", "G", "GG", "GS", "N", "NJ", "NH", "D", "L", "LG", "LM", "LB", "LS", "LT", "LP", "LH", "M",
    "B", "BS", "S", "SS", "NG", "J", "C", "K", "T", "P", "H"]

def longestSound? (sounds : List String) (name : List Char) : Option (Nat × List Char) :=
  sounds.zipIdx.foldl (fun best (sound, i) =>
    match afterPrefix? sound name, best with
    | some rest, some (_, kept) => if rest.length < kept.length then some (i, rest) else best
    | some rest, none => some (i, rest)
    | none, best => best) none

def syllable? (name : List Char) : Option Char := do
  let (i, rest) ← longestSound? initialSounds name
  let (m, rest) ← longestSound? middleSounds rest
  let (f, rest) ← longestSound? finalSounds rest
  if rest.isEmpty then return Char.ofNat (0xAC00 + (i * 21 + m) * 28 + f) else none

/-- The character with a name, which may be in either case if it is listed. Ideographs are named by
their code points and Hangul syllables by their sounds. -/
def namedChar? (name : List Char) : Option Char :=
  match afterPrefix? "CJK UNIFIED IDEOGRAPH-" name with
  | some digits => ideograph? digits
  | none =>
    match afterPrefix? "HANGUL SYLLABLE " name with
    | some sounds => syllable? sounds
    | none => listedChar? (name.map asciiUpper)

end TestReach.Text

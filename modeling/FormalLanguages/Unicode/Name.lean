import FormalLanguages.Unicode.Name.Alias
import FormalLanguages.Unicode.Name.Alphabets
import FormalLanguages.Unicode.Name.Ancient
import FormalLanguages.Unicode.Name.EastAsian
import FormalLanguages.Unicode.Name.Extensions
import FormalLanguages.Unicode.Name.Hieroglyphs
import FormalLanguages.Unicode.Name.Indic
import FormalLanguages.Unicode.Name.Pictographs
import FormalLanguages.Unicode.Name.Signs
import FormalLanguages.Unicode.Name.Syllabaries
import FormalLanguages.Unicode.Name.Symbols
import FormalLanguages.Unicode.Ranges
/-!
# Names of characters

A character can be named in words. Most names are in tables, one for each area of the code points.
The names of Hangul syllables and of ideographs follow a rule instead: a syllable is named by the
letters that it is made of, and an ideograph by its code point.

A table is a text of entries, divided by semicolons and line ends; blanks before an entry do not
count. An entry starts with a digit, which says how many words it shares with the entry before it, and
goes on with the other words. It names the next code point, unless a number to the base sixteen and a
colon stand before the digit.
-/
namespace FormalLanguages.Unicode

/-! ## Tables -/

/-- A code point and the words of its name. -/
structure Named where
  code : Nat
  words : List (List Char)
  deriving DecidableEq, Repr

/-- The value of a digit to the base sixteen; a small letter is none. -/
def upperHexValue? (c : Char) : Option Nat :=
  if c.isDigit then some (c.toNat - 48)
  else if 'A' ≤ c ∧ c ≤ 'F' then some (c.toNat - 55)
  else none

/-- The number that some digits to the base sixteen write. -/
def upperHexNumber? (digits : List Char) : Option Nat :=
  (digits.mapM upperHexValue?).map fun ds => ds.foldl (fun n d => n * 16 + d) 0

/-- The name that an entry writes after the name before it. -/
def Named.next (before : Named) (entry : List Char) : Named :=
  let (code, shared) :=
    match entry.splitOn ':' with
    | [digits, shared] => ((upperHexNumber? digits).getD 0, shared)
    | _ => (before.code + 1, entry)
  match shared with
  | [] => { code, words := [] }
  | d :: rest => { code, words := before.words.take (d.toNat - 48) ++ rest.splitOn ' ' }

/-- The code point that some entries name in words, after the name before them. -/
def Named.find? (words : List (List Char)) : Named → List (List Char) → Option Nat
  | _, [] => none
  | before, entry :: entries =>
    let named := before.next entry
    if named.words = words then some named.code else find? words named entries

/-- The tables of names. -/
def nameTables : List String :=
  [alphabetNames, indicNames, syllabaryNames, signNames, eastAsianNames, extensionNames,
    ancientNames, hieroglyphNames, symbolNames, pictographNames, otherNames]

/-- The entries of a table. -/
def tableEntries (table : String) : List (List Char) :=
  (table.toList.splitOnP fun c => c == ';' || c == '\n').map (·.dropWhile (· == ' '))

/-- The code point that a table names. -/
def namedIn? (name : List Char) (table : String) : Option Nat :=
  Named.find? (name.splitOn ' ') ⟨0, []⟩ (tableEntries table)

/-! ## Rules -/

/-- What follows the beginning of a name. -/
def afterStart? : (start name : List Char) → Option (List Char)
  | [], name => some name
  | c :: start, d :: name => if c = d then afterStart? start name else none
  | _ :: _, [] => none

/-- The letters that a Hangul syllable begins with. -/
def leadingConsonants : List String :=
  ["G", "GG", "N", "D", "DD", "R", "M", "B", "BB", "S", "SS", "", "J", "JJ", "C", "K", "T", "P",
    "H"]

/-- The vowels of Hangul syllables. -/
def syllableVowels : List String :=
  ["A", "AE", "YA", "YAE", "EO", "E", "YEO", "YE", "O", "WA", "WAE", "OE", "YO", "U", "WEO", "WE",
    "WI", "YU", "EU", "YI", "I"]

/-- The letters that a Hangul syllable ends with. -/
def trailingConsonants : List String :=
  ["", "G", "GG", "GS", "N", "NJ", "NH", "D", "L", "LG", "LM", "LB", "LS", "LT", "LP", "LH", "M",
    "B", "BS", "S", "SS", "NG", "J", "C", "K", "T", "P", "H"]

/-- The longest part that the name starts with: its place in the list, and what follows it. -/
def longestPart (parts : List String) (name : List Char) : Option (Nat × List Char) :=
  parts.zipIdx.foldl (fun best (part, i) =>
    match afterStart? part.toList name with
    | none => best
    | some rest =>
      if best.all fun b => rest.length < b.2.length then some (i, rest) else best) none

/-- The code point of a Hangul syllable, by the letters that it is made of. -/
def syllable? (letters : List Char) : Option Nat := do
  let (l, letters) ← longestPart leadingConsonants letters
  let (v, letters) ← longestPart syllableVowels letters
  let (t, letters) ← longestPart trailingConsonants letters
  if letters.isEmpty then some (0xac00 + (l * 21 + v) * 28 + t) else none

/-- The unified ideographs. -/
def ideographs : Ranges :=
  [(0x3400, 0x4dbf), (0x4e00, 0x9fff), (0x20000, 0x2a6df), (0x2a700, 0x2b738), (0x2b740, 0x2b81d),
    (0x2b820, 0x2cea1), (0x2ceb0, 0x2ebe0), (0x30000, 0x3134a)]

/-- The code point of a unified ideograph, by four or five digits. -/
def ideograph? (digits : List Char) : Option Nat :=
  if digits.length = 4 ∨ digits.length = 5 then (upperHexNumber? digits).filter ideographs.has
  else none

/-- The characters that are named by some words and their code point. -/
def numberedCharacters : List (String × Ranges) :=
  [("CJK COMPATIBILITY IDEOGRAPH-", [(0xf900, 0xfa6d), (0xfa70, 0xfad9), (0x2f800, 0x2fa1d)]),
    ("KHITAN SMALL SCRIPT CHARACTER-", [(0x18b00, 0x18cd5)]),
    ("NUSHU CHARACTER-", [(0x1b170, 0x1b2fb)])]

/-- The code point of a character that is named by its code point, without leading zeros. -/
def numbered? (name : List Char) : Option Nat :=
  numberedCharacters.findSome? fun (start, codes) => do
    let digits ← afterStart? start.toList name
    if digits.head? = some '0' then none else (upperHexNumber? digits).filter codes.has

/-! ## All names -/

/-- The code point of a name. In the tables capital and small letters are not told apart. -/
def named? (name : List Char) : Option Nat :=
  match afterStart? "HANGUL SYLLABLE ".toList name,
      afterStart? "CJK UNIFIED IDEOGRAPH-".toList name with
  | some letters, _ => syllable? letters
  | _, some digits => ideograph? digits
  | none, none =>
    let name := name.map Char.toUpper
    (numbered? name).or (nameTables.findSome? (namedIn? name))

end FormalLanguages.Unicode

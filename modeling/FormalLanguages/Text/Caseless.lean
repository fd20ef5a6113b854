/-!
# Words in any case

A word of small ASCII letters is looked for in any case, in two ways. `isCaseOf` compares whole words
by small letters; besides the ASCII capitals no character has one of the letters of `epsilon` as its
small letter. `dropCaseOf` also takes other letters that share a case with a small letter of ASCII: the
long `ſ` for `s`, and the dotted `İ` and the dotless `ı` for `i`.
-/
namespace FormalLanguages.Text

/-- `cs` is the word `w` in some case. -/
def isCaseOf (w cs : List Char) : Bool := cs.map Char.toLower == w

/-- `c` is the small ASCII letter `letter`, or shares a case with it; for the letters `a` to `z`
except `k`. -/
def sharesCase (letter c : Char) : Bool :=
  c.toLower == letter || (letter == 's' && c == 'ſ') || (letter == 'i' && (c == 'İ' || c == 'ı'))

/-- Splits off the word `w` in some case: how it is spelled, and what comes after it. -/
def dropCaseOf : (w cs : List Char) → Option (List Char × List Char)
  | [], cs => some ([], cs)
  | l :: w, c :: cs =>
    if sharesCase l c then (dropCaseOf w cs).map fun (spelling, rest) => (c :: spelling, rest)
    else none
  | _ :: _, [] => none

/-- The small letters of a word that is spelled with letters of ASCII, `ſ`, `ı` and `İ`; the dotted
capital is lowered to `i` with a dot above it. -/
def lowered (cs : List Char) : List Char :=
  cs.flatMap fun c => if c = 'İ' then ['i', '\u0307'] else [c.toLower]

end FormalLanguages.Text

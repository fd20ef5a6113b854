import FormalLanguages.Text.Blank
/-!
# Lines and arrows

Descriptions are read line by line. `lines` cuts a text at every line break and keeps, trimmed, the
lines that are not blank; so the two characters of a carriage return with a line feed need no rule of
their own. `splitArrow` cuts a line at its first arrow.
-/
namespace FormalLanguages.Text

/-- Line feed, vertical tab, form feed, carriage return, the separators of files, groups and records,
next line, and the line and paragraph separators. -/
def isLineBreak (c : Char) : Bool :=
  let n := c.toNat
  (10 ≤ n && n ≤ 13) || (0x1c ≤ n && n ≤ 0x1e) || n == 0x85 || n == 0x2028 || n == 0x2029

theorem isBlank_of_isLineBreak {c : Char} (h : isLineBreak c = true) : isBlank c = true := by
  simp only [isLineBreak, isBlank, Bool.or_eq_true, Bool.and_eq_true, decide_eq_true_eq,
    beq_iff_eq] at *
  omega

/-- The lines that are not blank, trimmed, in order. -/
def lines (cs : List Char) : List (List Char) :=
  ((cs.splitOnP isLineBreak).map trim).filter (!·.isEmpty)

/-- What stands before and after the first `->` or `→`, if there is one. -/
def splitArrow : List Char → Option (List Char × List Char)
  | [] => none
  | '-' :: '>' :: rest => some ([], rest)
  | '→' :: rest => some ([], rest)
  | c :: rest => (splitArrow rest).map fun (left, right) => (c :: left, right)

/-- The trimmed entries between separators that are not blank. -/
def entries (separator : Char) (cs : List Char) : List (List Char) :=
  ((cs.splitOn separator).map trim).filter (!·.isEmpty)

end FormalLanguages.Text

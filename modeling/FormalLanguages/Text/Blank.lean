/-!
# Blanks

The characters that separate words, and the three things that are done with them: trimming a text,
testing whether a character is one, and cutting a text into words.

Results:
* `trim_of_no_blank`: a text without blanks is trimmed to itself.
* `isBlank_of_isWhitespace`: every whitespace character of the ASCII class is a blank.
-/
namespace FormalLanguages.Text

/-- A blank: the ASCII controls tab to carriage return and file to unit separator, the space, and the
separators and spaces of Unicode; zero-width characters are not blanks. -/
def isBlank (c : Char) : Bool :=
  let n := c.toNat
  (9 ≤ n && n ≤ 13) || (0x1c ≤ n && n ≤ 0x20) || n == 0x85 || n == 0xa0 || n == 0x1680 ||
    (0x2000 ≤ n && n ≤ 0x200a) || n == 0x2028 || n == 0x2029 || n == 0x202f || n == 0x205f ||
    n == 0x3000

theorem isBlank_of_isWhitespace {c : Char} (h : c.isWhitespace = true) : isBlank c = true := by
  simp only [Char.isWhitespace, Bool.or_eq_true, decide_eq_true_eq] at h
  rcases h with ((rfl | rfl) | rfl) | rfl <;> decide

/-- Drops the blanks at the start. -/
def trimStart (cs : List Char) : List Char := cs.dropWhile isBlank

/-- Drops the blanks at the end. -/
def trimEnd (cs : List Char) : List Char := (cs.reverse.dropWhile isBlank).reverse

/-- Drops the blanks at both ends. -/
def trim (cs : List Char) : List Char := trimEnd (trimStart cs)

/-- The maximal runs of characters that are no blanks. -/
def words (cs : List Char) : List (List Char) := (cs.splitOnP isBlank).filter (!·.isEmpty)

/-- `trim` on strings. -/
def trimmed (s : String) : String := String.ofList (trim s.toList)

/-- No blank at either end. -/
def Trimmed (cs : List Char) : Prop := trim cs = cs

instance (cs : List Char) : Decidable (Trimmed cs) := inferInstanceAs (Decidable (_ = _))

theorem dropWhile_of_no_blank {cs : List Char} (h : ∀ c ∈ cs, isBlank c = false) :
    cs.dropWhile isBlank = cs := by
  cases cs with
  | nil => rfl
  | cons c cs => simp [h c (by simp)]

theorem trim_of_no_blank {cs : List Char} (h : ∀ c ∈ cs, isBlank c = false) : trim cs = cs := by
  have h1 : trimStart cs = cs := dropWhile_of_no_blank h
  have h2 : cs.reverse.dropWhile isBlank = cs.reverse := dropWhile_of_no_blank (by simpa using h)
  rw [trim, h1, trimEnd, h2, List.reverse_reverse]

end FormalLanguages.Text

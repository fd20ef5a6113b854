import FormalLanguages.Grammar.Basic
import FormalLanguages.Text.Blank
/-!
# Symbols of an alternative

An alternative that holds blanks is divided by them. One without blanks is divided into tokens: a
name (a capital letter, then small letters, digits, low lines and subscript digits, then primes), a
run of small letters and digits, an operator of two characters, or any other single character. The
word `epsilon`, in any case, is another spelling of `ε`, and `ε` beside other symbols vanishes.

Results:
* `flatten_tokens`: the tokens of a text, one after another, are the text.
* `ne_nil_of_mem_tokens`: no token is empty.
-/
namespace FormalLanguages.Token

/-- Small ASCII letters and digits. -/
def isWordChar (c : Char) : Bool := c.isLower || c.isDigit

/-- What follows the capital of a name: small letters, digits, low lines and subscript digits. -/
def isNameChar (c : Char) : Bool := isWordChar c || c == '_' || ('₀' ≤ c && c ≤ '₉')

/-- The two characters are an operator. -/
def isOperator (c d : Char) : Bool :=
  (d == '=' && (c == '=' || c == '!' || c == '<' || c == '>')) || (c == '|' && d == '|') ||
    (c == '&' && d == '&')

/-- How far the token that starts with `c` reaches into the text after `c`. -/
def reach (c : Char) (cs : List Char) : Nat :=
  if c.isUpper then
    let name := cs.takeWhile isNameChar
    name.length + ((cs.drop name.length).takeWhile (· == '\'')).length
  else if isWordChar c then (cs.takeWhile isWordChar).length
  else if (cs.head?).any (isOperator c) then 1
  else 0

/-- The tokens of a text without blanks. -/
def tokens : List Char → List (List Char)
  | [] => []
  | c :: cs => (c :: cs.take (reach c cs)) :: tokens (cs.drop (reach c cs))
termination_by cs => cs.length
decreasing_by simp only [List.length_drop, List.length_cons]; omega

theorem flatten_tokens (cs : List Char) : (tokens cs).flatten = cs := by
  fun_induction tokens cs with
  | case1 => rfl
  | case2 c cs ih => simp [ih]

theorem ne_nil_of_mem_tokens {t cs : List Char} (h : t ∈ tokens cs) : t ≠ [] := by
  fun_induction tokens cs with
  | case1 => simp at h
  | case2 c cs ih =>
    rcases List.mem_cons.mp h with rfl | h
    · simp
    · exact ih h

end Token

/-- The symbols of an alternative as it is written. -/
def Alternative.read (text : List Char) : Alternative :=
  let text := Text.trim text
  let parts := if text.any Text.isBlank then Text.words text else Token.tokens text
  match (parts.map Symbol.ofChars).filter (· ≠ epsilon) with
  | [] => [epsilon]
  | symbols => symbols

end FormalLanguages

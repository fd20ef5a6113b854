import FormalLanguages.Row
import FormalLanguages.Regex.Search
/-!
# Elements of a page

A page is the list of the elements that it shows, in order: texts, widgets and tables.
-/
namespace FormalLanguages.Page

/-- How a text is shown. -/
inductive TextStyle where
  | title
  | caption
  | subheader
  | markdown
  | error
  | warning
  | success
  | info
  | plain
  | graph
  deriving DecidableEq

/-- How wide columns are: some of equal width, or widths in proportion. -/
inductive Columns where
  | equal (count : Nat)
  | weighted (weights : List Nat)
  deriving DecidableEq

/-- What a page shows. -/
inductive Element where
  | configuration (title : String)
  | text (style : TextStyle) (text : String)
  | code (text language : String)
  | textArea (label initial : String)
  | textInput (label initial : String)
  | button (label : String)
  | checkbox (label : String)
  | choice (label : String) (options : List String)
  | columns (c : Columns)
  | table (rows : List Row)
  | matches (found : List Regex.Match)
  deriving DecidableEq

end FormalLanguages.Page

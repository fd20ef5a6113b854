import FormalLanguages.OrderedMap
/-!
# Rows of tables

A table for reading is a list of rows; a row gives each of its columns a text. A column that is given
twice keeps its first place and takes the last text.
-/
namespace FormalLanguages

/-- A row: the text of each column. -/
abbrev Row := OrderedMap String String

end FormalLanguages

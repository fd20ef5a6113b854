import FormalLanguages.FreshName
import FormalLanguages.Inference
import Mathlib.Logic.Relation
import Mathlib.Order.Bounds.Basic
/-!
# Lengthening a name until it is free

A name that is taken is lengthened by a piece, again and again, until it is free. Nothing counts the turns. They
come to an end because the name gets longer: a taken name that is shorter can never be met again, and each turn
leaves the one that was just met behind. The taken names may hold any of the candidates, with gaps between them;
the first gap is where the turns end.

Results:
* `wellFounded_lengthens`: no name is lengthened for ever by a piece that is not empty.
* `endsAt_iff`: the turns end at the first candidate that is free, and nowhere else.
* `exists_endsAt_iff`: when they end at all.
* `freshName_isLeast`: the fresh name is where they end.
-/
namespace FormalLanguages

/-- A turn: a name that is taken is lengthened by the piece. -/
inductive Lengthens (taken : List String) (piece : String) : String → String → Prop
  | append {name : String} : name ∈ taken → Lengthens taken piece name (name ++ piece)

/-- Turns lead from a name to another one, which is free. -/
def EndsAt (taken : List String) (piece start name : String) : Prop :=
  Relation.ReflTransGen (Lengthens taken piece) start name ∧ name ∉ taken

/-- How many different taken names are not shorter than a name. -/
def rivals (taken : List String) (name : String) : Nat :=
  taken.eraseDups.countP fun s => name.length ≤ s.length

variable {taken : List String} {base suffix extra piece start name next : String} {k : Nat}

/-! ## One turn -/

/-- The name that is lengthened was a rival of itself, and is none of the longer one. -/
theorem Lengthens.rivals_lt (hpiece : piece ≠ "") (h : Lengthens taken piece name next) :
    rivals taken next < rivals taken name := by
  obtain ⟨hname⟩ := h
  have hpos : 0 < piece.length := Nat.pos_of_ne_zero fun h => hpiece (String.length_eq_zero_iff.mp h)
  have hlonger : name.length < (name ++ piece).length := by
    rw [String.length_append]
    omega
  refine countP_lt_of_imp (fun s hs => ?_) (List.mem_eraseDups.mpr hname) (decide_eq_true le_rfl)
    (decide_eq_false (Nat.not_le_of_lt hlonger))
  exact decide_eq_true (hlonger.le.trans (of_decide_eq_true hs))

/-- No name is lengthened for ever by a piece that is not empty. -/
theorem wellFounded_lengthens (taken : List String) (hpiece : piece ≠ "") :
    WellFounded fun next name => Lengthens taken piece name next :=
  Subrelation.wf (Lengthens.rivals_lt hpiece) (measure (rivals taken)).wf

/-! ## Turn after turn -/

theorem candidateName_zero (base suffix piece : String) : candidateName base suffix piece 0 = base ++ suffix := by
  simp [candidateName]

theorem candidateName_succ (base suffix piece : String) (k : Nat) :
    candidateName base suffix piece (k + 1) = candidateName base suffix piece k ++ piece := by
  simp [candidateName, List.replicate_succ', String.append_assoc]

/-- A candidate that is taken is lengthened to the one after it. -/
theorem lengthens_candidateName_iff : Lengthens taken piece (candidateName base suffix piece k) next ↔
    candidateName base suffix piece k ∈ taken ∧ next = candidateName base suffix piece (k + 1) := by
  rw [candidateName_succ]
  constructor
  · rintro ⟨h⟩
    exact ⟨h, rfl⟩
  · rintro ⟨h, rfl⟩
    exact .append h

/-- The names that are met are the candidates before which all are taken. -/
theorem reflTransGen_lengthens_iff :
    Relation.ReflTransGen (Lengthens taken piece) (base ++ suffix) name ↔
      ∃ k, name = candidateName base suffix piece k ∧ ∀ j < k, candidateName base suffix piece j ∈ taken := by
  constructor
  · intro h
    -- the last turn lengthens the candidate to which the turns before it led
    induction h with
    | refl => exact ⟨0, (candidateName_zero base suffix piece).symm, fun j hj => absurd hj j.not_lt_zero⟩
    | tail _ hturn ih =>
      obtain ⟨k, rfl, htaken⟩ := ih
      obtain ⟨hk, rfl⟩ := lengthens_candidateName_iff.mp hturn
      exact ⟨k + 1, rfl, fun j hj => (Nat.lt_succ_iff_lt_or_eq.mp hj).elim (htaken j) fun h => h ▸ hk⟩
  · rintro ⟨k, rfl, htaken⟩
    induction k with
    | zero => rw [candidateName_zero]
    | succ k ih =>
      exact .tail (ih fun j hj => htaken j (Nat.lt_succ_of_lt hj))
        (lengthens_candidateName_iff.mpr ⟨htaken k k.lt_succ_self, rfl⟩)

/-- Each turn uses up a rival of the first name, so that there are no more turns than it has rivals. -/
theorem add_rivals_le (hpiece : piece ≠ "") (htaken : ∀ j < k, candidateName base suffix piece j ∈ taken) :
    k + rivals taken (candidateName base suffix piece k) ≤ rivals taken (base ++ suffix) := by
  induction k with
  | zero => rw [candidateName_zero, Nat.zero_add]
  | succ k ih =>
    have hturn : Lengthens taken piece (candidateName base suffix piece k)
        (candidateName base suffix piece (k + 1)) := lengthens_candidateName_iff.mpr ⟨htaken k k.lt_succ_self, rfl⟩
    have hlt := hturn.rivals_lt hpiece
    have hle := ih fun j hj => htaken j (Nat.lt_succ_of_lt hj)
    omega

/-! ## Where the turns end -/

theorem isLeast_free_iff : IsLeast {j | candidateName base suffix piece j ∉ taken} k ↔
    candidateName base suffix piece k ∉ taken ∧ ∀ j < k, candidateName base suffix piece j ∈ taken := by
  refine and_congr_right fun _ => ⟨fun h j hj => ?_, fun h j hfree => ?_⟩
  · by_contra hfree
    exact absurd (h hfree) (Nat.not_le_of_lt hj)
  · by_contra hle
    exact hfree (h j (Nat.lt_of_not_le hle))

/-- The turns end at the first candidate that is free, and nowhere else. -/
theorem endsAt_iff : EndsAt taken piece (base ++ suffix) name ↔ ∃ k,
    name = candidateName base suffix piece k ∧ IsLeast {j | candidateName base suffix piece j ∉ taken} k := by
  simp only [EndsAt, reflTransGen_lengthens_iff, isLeast_free_iff]
  constructor
  · rintro ⟨⟨k, rfl, htaken⟩, hfree⟩
    exact ⟨k, rfl, hfree, htaken⟩
  · rintro ⟨k, rfl, hfree, htaken⟩
    exact ⟨⟨k, rfl, htaken⟩, hfree⟩

theorem addedPiece_ne_empty_iff : addedPiece suffix extra ≠ "" ↔ suffix ≠ "" ∨ extra ≠ "" := by
  by_cases h : extra = "" <;> simp [addedPiece, h]

/-- The fresh name is the first candidate that is free. -/
theorem exists_isLeast_freshName (base : String) (hpiece : addedPiece suffix extra ≠ "") (taken : List String) :
    ∃ k, freshName base suffix taken extra = candidateName base suffix (addedPiece suffix extra) k ∧
      IsLeast {j | candidateName base suffix (addedPiece suffix extra) j ∉ taken} k := by
  obtain ⟨k, hk, hfree⟩ := freshName_eq_candidateName base hpiece taken
  exact ⟨k, hk, isLeast_free_iff.mpr hfree⟩

/-- Nothing comes of lengthening by an empty piece. -/
theorem endsAt_empty_piece_iff : EndsAt taken "" start name ↔ name = start ∧ start ∉ taken := by
  constructor
  · rintro ⟨hturns, hfree⟩
    have hname : name = start := by
      -- the names on the way are taken, so that the induction must not keep what is known of the last one
      clear hfree
      induction hturns with
      | refl => rfl
      | tail _ hturn ih =>
        obtain ⟨-⟩ := hturn
        rw [String.append_empty, ih]
    exact ⟨hname, hname ▸ hfree⟩
  · rintro ⟨rfl, hfree⟩
    exact ⟨.refl, hfree⟩

/-- The turns end, unless the base is taken and there is nothing to lengthen it with. -/
theorem exists_endsAt_iff : (∃ name, EndsAt taken (addedPiece suffix extra) (base ++ suffix) name) ↔
    (suffix ≠ "" ∨ extra ≠ "") ∨ base ∉ taken := by
  rw [← addedPiece_ne_empty_iff]
  by_cases hpiece : addedPiece suffix extra = ""
  · have hsuffix : suffix = "" := by_contra fun h => addedPiece_ne_empty_iff.mpr (Or.inl h) hpiece
    rw [hpiece, hsuffix, String.append_empty]
    simp [endsAt_empty_piece_iff]
  · obtain ⟨k, -, hleast⟩ := exists_isLeast_freshName base hpiece taken
    exact iff_of_true ⟨_, endsAt_iff.mpr ⟨k, rfl, hleast⟩⟩ (Or.inl hpiece)

/-- With a suffix or an extra piece the turns come to an end, at the fresh name and nowhere else. It is the base and
the suffix followed by as many pieces as it takes to be free and no more, and there are at most as many of them as
there are different taken names that are not shorter than the base with the suffix. -/
theorem freshName_isLeast (base : String) (h : suffix ≠ "" ∨ extra ≠ "") (taken : List String) :
    (WellFounded fun next name => Lengthens taken (addedPiece suffix extra) name next) ∧
    (∀ name, EndsAt taken (addedPiece suffix extra) (base ++ suffix) name ↔
      name = freshName base suffix taken extra) ∧
    ∃ k, freshName base suffix taken extra = candidateName base suffix (addedPiece suffix extra) k ∧
      IsLeast {j | candidateName base suffix (addedPiece suffix extra) j ∉ taken} k ∧
      k ≤ rivals taken (base ++ suffix) := by
  have hpiece := addedPiece_ne_empty_iff.mpr h
  obtain ⟨k, hname, hleast⟩ := exists_isLeast_freshName base hpiece taken
  refine ⟨wellFounded_lengthens taken hpiece, fun name => ?_, k, hname, hleast, ?_⟩
  · rw [endsAt_iff, hname]
    constructor
    · rintro ⟨j, rfl, hj⟩
      rw [hj.unique hleast]
    · rintro rfl
      exact ⟨k, rfl, hleast⟩
  · have hle := add_rivals_le hpiece (isLeast_free_iff.mp hleast).2
    omega

/-- Taken names, one of them twice, among which the third candidate is missing and the fourth is not. -/
def gappedNames : List String := ["A_fact_", "A", "A_fact", "A_fact___", "A_fact"]

theorem freshName_gappedNames : ("_fact" ≠ "" ∨ "_" ≠ "") ∧
    freshName "A" "_fact" gappedNames "_" = "A_fact__" ∧ EndsAt gappedNames "_" "A_fact" "A_fact__" ∧
    IsLeast {j | candidateName "A" "_fact" "_" j ∉ gappedNames} 2 := by
  have hpieces : "_fact" ≠ "" ∨ "_" ≠ "" := by decide
  have hname : freshName "A" "_fact" gappedNames "_" = "A_fact__" := by decide
  obtain ⟨-, hend, k, hk, hleast, -⟩ := freshName_isLeast "A" hpieces gappedNames
  have htwo : candidateName "A" "_fact" "_" 2 = "A_fact__" := by decide
  obtain rfl : k = 2 := candidateName_injective (by decide) (hk.symm.trans (hname.trans htwo.symm))
  exact ⟨hpieces, hname, (hend _).mpr hname.symm, hleast⟩

end FormalLanguages

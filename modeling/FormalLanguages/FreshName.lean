/-!
# Fresh names

A new name is made of a base and a suffix; while it is taken, it is lengthened.

Results:
* `freshName_eq_candidateName`: the fresh name is the first candidate that is not taken.
* `exists_toList_freshName`: how the fresh name is spelled.
* `freshName_not_mem`: the fresh name is not taken.
-/
namespace FormalLanguages

/-- The candidate with `k` pieces added: `base`, `suffix`, and `k` times `piece`. -/
def candidateName (base suffix piece : String) (k : Nat) : String :=
  base ++ suffix ++ String.join (List.replicate k piece)

/-- The piece that lengthens a name: `extra`, or `suffix` where `extra` is empty. -/
def addedPiece (suffix extra : String) : String := if extra.isEmpty then suffix else extra

/-- The first candidate that is not taken; among more candidates than there are names taken, one is
free. -/
def freshName (base suffix : String) (taken : List String) (extra : String) : String :=
  let candidate := candidateName base suffix (addedPiece suffix extra)
  match (List.range (taken.length + 1)).find? fun k => candidate k ∉ taken with
  | some k => candidate k
  | none => candidate taken.length

theorem toList_candidateName (base suffix piece : String) (k : Nat) :
    (candidateName base suffix piece k).toList =
      base.toList ++ suffix.toList ++ (List.replicate k piece.toList).flatten := by
  simp [candidateName, List.flatMap_def]

theorem candidateName_injective {base suffix piece : String} (h : piece ≠ "") {j k : Nat}
    (hjk : candidateName base suffix piece j = candidateName base suffix piece k) : j = k := by
  have hpos : 0 < piece.toList.length := List.length_pos_iff.mpr fun h' => h (by simpa using h')
  have hlen := congrArg (fun s : String => s.toList.length) hjk
  simp only [toList_candidateName, List.length_append, List.length_flatten, List.map_replicate,
    List.sum_replicate_nat] at hlen
  exact Nat.eq_of_mul_eq_mul_right hpos (by omega)

/-- Among more candidates than there are names taken, one is free. -/
theorem exists_candidateName_not_mem (base suffix : String) {piece : String} (h : piece ≠ "")
    (taken : List String) : ∃ k < taken.length + 1, candidateName base suffix piece k ∉ taken := by
  refine Decidable.byContradiction fun hall => ?_
  have hmem : ∀ k < taken.length + 1, candidateName base suffix piece k ∈ taken := fun k hk =>
    Decidable.byContradiction fun hn => hall ⟨k, hk, hn⟩
  have hnodup : ((List.range (taken.length + 1)).map (candidateName base suffix piece)).Nodup :=
    List.pairwise_map.mpr (List.nodup_range.imp fun hne e => hne (candidateName_injective h e))
  have hsub : (List.range (taken.length + 1)).map (candidateName base suffix piece) ⊆ taken := by
    intro s hs
    obtain ⟨k, hk, rfl⟩ := List.mem_map.mp hs
    exact hmem k (List.mem_range.mp hk)
  have hle := hnodup.length_le_of_subset hsub
  rw [List.length_map, List.length_range] at hle
  omega

/-- The fresh name is the first candidate that is not taken. -/
theorem freshName_eq_candidateName (base : String) {suffix extra : String}
    (h : addedPiece suffix extra ≠ "") (taken : List String) : ∃ k,
      freshName base suffix taken extra = candidateName base suffix (addedPiece suffix extra) k ∧
      candidateName base suffix (addedPiece suffix extra) k ∉ taken ∧
      ∀ j < k, candidateName base suffix (addedPiece suffix extra) j ∈ taken := by
  simp only [freshName]
  split
  · next k hk =>
    obtain ⟨hfree, -, htaken⟩ := List.find?_range_eq_some.mp hk
    exact ⟨k, rfl, by simpa using hfree, fun j hj => by simpa using htaken j hj⟩
  · next hnone =>
    obtain ⟨k, hk, hfree⟩ := exists_candidateName_not_mem base suffix h taken
    have := List.find?_eq_none.mp hnone k (List.mem_range.mpr hk)
    simp [hfree] at this

/-- The fresh name begins with the base and the suffix, and goes on with what is in the piece that is added. -/
theorem exists_toList_freshName (base : String) {suffix extra : String} (h : addedPiece suffix extra ≠ "")
    (taken : List String) : ∃ more, (∀ c ∈ more, c ∈ (addedPiece suffix extra).toList) ∧
      (freshName base suffix taken extra).toList = base.toList ++ (suffix.toList ++ more) := by
  obtain ⟨k, hk, -⟩ := freshName_eq_candidateName base h taken
  refine ⟨_, fun c hc => ?_, by rw [hk, toList_candidateName, List.append_assoc]⟩
  obtain ⟨piece, hpiece, hc⟩ := List.mem_flatten.mp hc
  exact List.eq_of_mem_replicate hpiece ▸ hc

theorem mem_toList_freshName (base : String) {suffix extra : String} (h : addedPiece suffix extra ≠ "")
    (taken : List String) {c : Char} (hc : c ∈ suffix.toList) :
    c ∈ (freshName base suffix taken extra).toList := by
  obtain ⟨more, -, hname⟩ := exists_toList_freshName base h taken
  rw [hname]
  exact List.mem_append_right _ (List.mem_append_left _ hc)

theorem freshName_not_mem {base suffix extra : String} (h : addedPiece suffix extra ≠ "")
    (taken : List String) : freshName base suffix taken extra ∉ taken := by
  obtain ⟨k, hk, hfree, -⟩ := freshName_eq_candidateName base h taken
  rwa [hk]

end FormalLanguages

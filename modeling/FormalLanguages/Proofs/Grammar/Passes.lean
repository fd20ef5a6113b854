import FormalLanguages.Grammar.Basic
import FormalLanguages.Inference
/-!
# Sets that are gathered in passes

The sets of a grammar can be gathered in place: a pass goes through a list of contributions, and each
adds to the set of one nonterminal what it makes of the sets as they are at that moment. Passes are
made until one adds nothing.

**Invariant.** During the passes the sets contain those of the start and stay within any sets that no
contribution leads out of. Sets to which a pass adds nothing are closed under every contribution.

Results:
* `gathers_limit`: if the least closed sets are known, passes come to rest, and at these sets.
-/
namespace FormalLanguages.SymbolSets

/-- What is added to the set of a symbol, made of the sets found so far. -/
structure Contribution where
  symbol : Symbol
  members : SymbolSets → NameSet

/-- The sets after one contribution. -/
def Contribution.addTo (c : Contribution) (sets : SymbolSets) : SymbolSets :=
  sets.alter c.symbol ∅ (· ∪ c.members sets)

/-- The sets after one pass through the contributions. -/
def pass (cs : List Contribution) (sets : SymbolSets) : SymbolSets :=
  cs.foldl (fun sets c => c.addTo sets) sets

/-- Passes are made until one changes nothing; what they come to. -/
inductive Gathers (cs : List Contribution) : (sets result : SymbolSets) → Prop
  | done {sets : SymbolSets} : pass cs sets = sets → Gathers cs sets sets
  | again {sets result : SymbolSets} :
    pass cs sets ≠ sets → Gathers cs (pass cs sets) result → Gathers cs sets result

/-- The same symbols have sets, and each set is contained in the other one. -/
structure Within (s t : SymbolSets) : Prop where
  keys : s.keys = t.keys
  subset : ∀ A x, x ∈ s.getD A ∅ → x ∈ t.getD A ∅

/-- No contribution adds anything. -/
def Closed (cs : List Contribution) (sets : SymbolSets) : Prop :=
  ∀ c ∈ cs, ∀ x ∈ c.members sets, x ∈ sets.getD c.symbol ∅

variable {cs : List Contribution} {c : Contribution} {s t u limit : SymbolSets}

/-! ## Inclusion -/

theorem Within.refl (s : SymbolSets) : s.Within s := ⟨rfl, fun _ _ h => h⟩

theorem Within.trans (h : s.Within t) (h' : t.Within u) : s.Within u :=
  ⟨h.keys.trans h'.keys, fun A x hx => h'.subset A x (h.subset A x hx)⟩

theorem Within.antisymm (h : s.Within t) (h' : t.Within s) : s = t :=
  OrderedMap.ext_getD ∅ h.keys fun A => NameSet.ext fun x => ⟨h.subset A x, h'.subset A x⟩

theorem Within.exists_of_ne (h : s.Within t) (hne : s ≠ t) :
    ∃ A x, x ∈ t.getD A ∅ ∧ x ∉ s.getD A ∅ := by
  refine Classical.byContradiction fun hnone => hne (h.antisymm ⟨h.keys.symm, fun A x hx => ?_⟩)
  exact Decidable.byContradiction fun hs => hnone ⟨A, x, hx, hs⟩

theorem mem_keys_of_mem_getD {A x : Symbol} (h : x ∈ s.getD A ∅) : A ∈ s.keys := by
  refine Decidable.byContradiction fun hA => ?_
  have hnone : s.get? A = none := by
    rwa [← Option.not_isSome_iff_eq_none, OrderedMap.get?_isSome]
  rw [OrderedMap.getD, hnone] at h
  exact NameSet.not_mem_empty h

/-! ## Passes -/

theorem mem_addTo {A x : Symbol} :
    x ∈ (c.addTo s).getD A ∅ ↔ x ∈ s.getD A ∅ ∨ A = c.symbol ∧ x ∈ c.members s := by
  rw [Contribution.addTo, OrderedMap.getD_alter]
  split
  · next hA => simp [hA]
  · next hA => simp [hA]

theorem within_addTo (hc : c.symbol ∈ s.keys) : s.Within (c.addTo s) where
  keys := by rw [Contribution.addTo, OrderedMap.alter, OrderedMap.keys_insert, if_pos hc]
  subset _ _ hx := mem_addTo.mpr (Or.inl hx)

theorem within_pass (hcs : ∀ c ∈ cs, c.symbol ∈ s.keys) : s.Within (pass cs s) := by
  induction cs generalizing s with
  | nil => exact .refl s
  | cons c cs ih =>
    have hc := within_addTo (hcs c List.mem_cons_self)
    exact hc.trans (ih fun d hd => hc.keys ▸ hcs d (List.mem_cons_of_mem _ hd))

/-- A contribution of sets within the limit leads to sets within the limit. -/
def Respects (limit : SymbolSets) (c : Contribution) : Prop :=
  c.symbol ∈ limit.keys ∧
    ∀ sets : SymbolSets, sets.Within limit → ∀ x ∈ c.members sets, x ∈ limit.getD c.symbol ∅

theorem Respects.addTo_within (hc : Respects limit c) (h : s.Within limit) :
    (c.addTo s).Within limit where
  keys := (within_addTo (h.keys ▸ hc.1)).keys ▸ h.keys
  subset A x hx := by
    rcases mem_addTo.mp hx with hx' | ⟨rfl, hx'⟩
    · exact h.subset A x hx'
    · exact hc.2 s h x hx'

theorem pass_within (hcs : ∀ c ∈ cs, Respects limit c) (h : s.Within limit) :
    (pass cs s).Within limit := by
  induction cs generalizing s with
  | nil => exact h
  | cons c cs ih =>
    exact ih (fun d hd => hcs d (List.mem_cons_of_mem _ hd))
      ((hcs c List.mem_cons_self).addTo_within h)

/-- Sets that a whole pass leaves as they are are left so by each of its contributions. -/
theorem closed_of_pass_eq (hcs : ∀ c ∈ cs, c.symbol ∈ s.keys) (h : pass cs s = s) : Closed cs s := by
  induction cs with
  | nil => exact fun _ hc => nomatch hc
  | cons c cs ih =>
    have hc := within_addTo (hcs c List.mem_cons_self)
    have hrest := fun d hd => hcs d (List.mem_cons_of_mem _ hd)
    have hpass : pass cs (c.addTo s) = s := h
    have hback : (c.addTo s).Within (pass cs (c.addTo s)) :=
      within_pass fun d hd => hc.keys ▸ hrest d hd
    rw [hpass] at hback
    have hsame : c.addTo s = s := hback.antisymm hc
    rw [hsame] at hpass
    intro d hd x hx
    rcases List.mem_cons.mp hd with rfl | hd
    · rw [← hsame]
      exact mem_addTo.mpr (Or.inr ⟨rfl, hx⟩)
    · exact ih hrest hpass d hd x hx

/-! ## Coming to rest -/

/-- The number of members of the limit that are still missing. -/
def missing (limit sets : SymbolSets) : Nat :=
  (limit.entries.flatMap fun e => e.2.toList.map fun x => (e.1, x)).countP
    fun p => p.2 ∉ sets.getD p.1 ∅

theorem Within.missing_lt (h : s.Within t) (hne : s ≠ t) (ht : t.Within limit) :
    missing limit t < missing limit s := by
  obtain ⟨A, x, hx, hs⟩ := h.exists_of_ne hne
  obtain ⟨F, hF⟩ := OrderedMap.mem_keys_iff.mp (mem_keys_of_mem_getD (ht.subset A x hx))
  have hxF : x ∈ F := by
    have := ht.subset A x hx
    rwa [OrderedMap.getD, hF, Option.getD_some] at this
  have hmem : (A, x) ∈ limit.entries.flatMap fun e => e.2.toList.map fun x => (e.1, x) :=
    List.mem_flatMap.mpr ⟨(A, F), OrderedMap.mem_entries_iff.mpr hF,
      List.mem_map.mpr ⟨x, NameSet.mem_def.mp hxF, rfl⟩⟩
  refine countP_lt_of_imp (fun p hp => ?_) hmem (by simpa using hs) (by simpa using hx)
  simp only [decide_eq_true_eq] at hp ⊢
  exact fun hp' => hp (h.subset p.1 p.2 hp')

/-- Passes come to rest at the limit, if no contribution leads out of it and it is within all closed
sets that contain the start. -/
theorem gathers_limit {start : SymbolSets} (hstart : start.Within limit)
    (hcs : ∀ c ∈ cs, Respects limit c)
    (hleast : ∀ sets, start.Within sets → Closed cs sets → limit.Within sets) :
    Gathers cs start limit := by
  suffices h : ∀ n sets, start.Within sets → sets.Within limit → missing limit sets = n →
      Gathers cs sets limit from h _ start (.refl start) hstart rfl
  intro n
  induction n using Nat.strongRecOn with
  | ind n ih =>
    intro sets hge hle hn
    have hsymbols : ∀ c ∈ cs, c.symbol ∈ sets.keys := fun c hc => hle.keys ▸ (hcs c hc).1
    by_cases hpass : pass cs sets = sets
    · have hclosed := closed_of_pass_eq hsymbols hpass
      obtain rfl := hle.antisymm (hleast sets hge hclosed)
      exact .done hpass
    · have hgrow := within_pass hsymbols
      have hle' := pass_within hcs hle
      exact .again hpass (ih _ (hn ▸ hgrow.missing_lt (Ne.symm hpass) hle') _ (hge.trans hgrow) hle' rfl)

end FormalLanguages.SymbolSets

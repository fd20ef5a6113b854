import FormalLanguages.Proofs.Grammar.Rereading
/-!
# Tokens that stand alone

Where a text without blanks is divided depends on what comes next: a name takes the primes behind it, a word goes on
while there are small letters and digits, and two characters may be one operator. What comes next is never needed to
tell that a token has ended. So a token that stands alone is divided no further, whatever it was cut from, and the
texts that are one token are these: names, words, operators and single characters.

Results:
* `isToken_of_mem_tokens`, `tokens_eq_singleton_iff`: tokens are the texts that are divided no further.
* `Alternative.read_of_isToken`, `Symbol.Plain.read_eq_singleton_iff`: what is read as the one symbol that it spells.
* `tokens_stand_alone`: a text without blanks is its tokens one after another, each of which stands alone.
-/
namespace FormalLanguages

namespace Token

/-- A capital letter, then letters, digits and low lines of a name, then primes. -/
def IsName (t : List Char) : Prop :=
  ∃ c body primes, t = c :: (body ++ primes) ∧ c.isUpper = true ∧ (∀ d ∈ body, isNameChar d = true) ∧
    ∀ d ∈ primes, d = '\''

/-- Small letters and digits. -/
def IsWord (t : List Char) : Prop := t ≠ [] ∧ ∀ c ∈ t, isWordChar c = true

instance (t : List Char) : Decidable (IsWord t) :=
  decidable_of_iff (t ≠ [] ∧ t.all isWordChar = true) (and_congr_right fun _ => List.all_eq_true)

/-- A name, a word, an operator, or a single character of any kind. -/
inductive IsToken : List Char → Prop
  | name {t : List Char} (ht : IsName t) : IsToken t
  | word {t : List Char} (ht : IsWord t) : IsToken t
  | operator {c d : Char} (h : isOperator c d = true) : IsToken [c, d]
  | single (c : Char) : IsToken [c]

variable {c d : Char} {cs t text : List Char}

/-! ## Characters -/

theorem isUpper_iff : c.isUpper = true ↔ 65 ≤ c.toNat ∧ c.toNat ≤ 90 := decide_eq_true_iff

theorem isWordChar_iff : isWordChar c = true ↔
    (97 ≤ c.toNat ∧ c.toNat ≤ 122) ∨ (48 ≤ c.toNat ∧ c.toNat ≤ 57) := by
  rw [isWordChar, Bool.or_eq_true]
  exact or_congr (Bool.and_eq_true_iff.trans (and_congr decide_eq_true_iff decide_eq_true_iff))
    (Bool.and_eq_true_iff.trans (and_congr decide_eq_true_iff decide_eq_true_iff))

theorem isNameChar_iff : isNameChar c = true ↔
    isWordChar c = true ∨ c.toNat = 95 ∨ (0x2080 ≤ c.toNat ∧ c.toNat ≤ 0x2089) := by
  simp only [isNameChar, Bool.or_eq_true, Bool.and_eq_true, decide_eq_true_eq, beq_iff_eq, or_assoc,
    Char.le_def, UInt32.le_iff_toNat_le, ← Char.toNat_inj]
  rfl

theorem not_isWordChar_of_isUpper (h : c.isUpper = true) : isWordChar c = false := by
  rw [isUpper_iff] at h
  rw [Bool.eq_false_iff, ne_eq, isWordChar_iff]
  omega

/-- Neither a capital nor a small letter or a digit begins an operator. -/
theorem not_alphanumeric_of_isOperator (h : isOperator c d = true) : c.isUpper = false ∧ isWordChar c = false := by
  simp only [isOperator, Bool.or_eq_true, Bool.and_eq_true, beq_iff_eq] at h
  rcases h with (⟨-, ((rfl | rfl) | rfl) | rfl⟩ | ⟨rfl, -⟩) | ⟨rfl, -⟩ <;> decide

theorem isNameChar_of_isWordChar (h : isWordChar c = true) : isNameChar c = true :=
  isNameChar_iff.mpr (Or.inl h)

/-- The characters of names are neither blanks nor bars. -/
theorem apart_of_isNameChar (h : c.isUpper = true ∨ isNameChar c = true) : Text.isBlank c = false ∧ c ≠ '|' := by
  constructor
  · rw [isUpper_iff, isNameChar_iff, isWordChar_iff] at h
    rw [Bool.eq_false_iff, ne_eq]
    simp only [Text.isBlank, Bool.or_eq_true, Bool.and_eq_true, decide_eq_true_eq, beq_iff_eq]
    omega
  · rintro rfl
    exact absurd h (by decide)

theorem IsName.apart (ht : IsName t) : ∀ c ∈ t, Text.isBlank c = false ∧ c ≠ '|' := by
  obtain ⟨c, body, primes, rfl, hc, hbody, hprimes⟩ := ht
  intro d hd
  rcases List.mem_cons.mp hd with rfl | hd
  · exact apart_of_isNameChar (Or.inl hc)
  · rcases List.mem_append.mp hd with hd | hd
    · exact apart_of_isNameChar (Or.inr (hbody d hd))
    · rw [hprimes d hd]
      decide

theorem IsWord.apart (ht : IsWord t) : ∀ c ∈ t, Text.isBlank c = false ∧ c ≠ '|' := fun c hc =>
  apart_of_isNameChar (Or.inr (isNameChar_of_isWordChar (ht.2 c hc)))

/-! ## How far a token reaches -/

theorem takeWhile_append_eq_left {p : Char → Bool} (hcs : ∀ c ∈ cs, p c = true) (ht : ∀ c ∈ t, p c = false) :
    (cs ++ t).takeWhile p = cs := by
  rw [List.takeWhile_append_of_pos hcs]
  cases t with
  | nil => simp
  | cons c t => simp [ht c List.mem_cons_self]

theorem take_length_takeWhile (p : Char → Bool) (cs : List Char) :
    cs.take (cs.takeWhile p).length = cs.takeWhile p :=
  (List.prefix_iff_eq_take.mp (List.takeWhile_prefix p)).symm

theorem reach_of_isUpper (hc : c.isUpper = true) {body primes : List Char} (hbody : ∀ d ∈ body, isNameChar d = true)
    (hprimes : ∀ d ∈ primes, d = '\'') : reach c (body ++ primes) = (body ++ primes).length := by
  have hname : (body ++ primes).takeWhile isNameChar = body :=
    takeWhile_append_eq_left hbody fun d hd => by rw [hprimes d hd]; decide
  have htail : primes.takeWhile (· == '\'') = primes :=
    List.takeWhile_eq_self_iff.mpr fun d hd => by simp [hprimes d hd]
  rw [reach, if_pos hc]
  dsimp only
  rw [hname, List.drop_left, htail, List.length_append]

theorem reach_of_isWordChar (hc : isWordChar c = true) (hcs : ∀ d ∈ cs, isWordChar d = true) :
    reach c cs = cs.length := by
  have hupper : c.isUpper ≠ true := fun h => by simp [not_isWordChar_of_isUpper h] at hc
  rw [reach, if_neg hupper, if_pos hc, List.takeWhile_eq_self_iff.mpr hcs]

/-- As far as a token reaches that begins with a capital, there is a name. -/
theorem isName_take_reach (hc : c.isUpper = true) (cs : List Char) : IsName (c :: cs.take (reach c cs)) := by
  rw [reach, if_pos hc]
  dsimp only
  rw [List.take_add, take_length_takeWhile, take_length_takeWhile]
  refine ⟨c, _, _, rfl, hc, fun d hd => List.mem_takeWhile_imp hd, fun d hd => ?_⟩
  simpa using List.mem_takeWhile_imp hd

theorem isName_cons_iff : IsName (c :: cs) ↔ c.isUpper = true ∧ reach c cs = cs.length := by
  constructor
  · rintro ⟨_, body, primes, heq, hc, hbody, hprimes⟩
    cases heq
    exact ⟨hc, reach_of_isUpper hc hbody hprimes⟩
  · rintro ⟨hc, hreach⟩
    have hname := isName_take_reach hc cs
    rwa [hreach, List.take_length] at hname

instance : (t : List Char) → Decidable (IsName t)
  | [] => isFalse fun ⟨_, _, _, h, _⟩ => nomatch h
  | _ :: _ => decidable_of_iff' _ isName_cons_iff

/-- A token reaches to its end. -/
theorem IsToken.reach_eq (h : IsToken (c :: cs)) : reach c cs = cs.length := by
  cases h with
  | name ht => exact (isName_cons_iff.mp ht).2
  | word ht =>
    obtain ⟨hc, hcs⟩ := List.forall_mem_cons.mp ht.2
    exact reach_of_isWordChar hc hcs
  | operator h =>
    obtain ⟨hupper, hword⟩ := not_alphanumeric_of_isOperator h
    simp [reach, hupper, hword, h]
  | single => simp [reach]

/-- As far as a token reaches, there is a token. -/
theorem isToken_take_reach (c : Char) (cs : List Char) : IsToken (c :: cs.take (reach c cs)) := by
  by_cases hc : c.isUpper = true
  · exact .name (isName_take_reach hc cs)
  rw [reach, if_neg hc]
  split
  · next hc =>
    rw [take_length_takeWhile]
    exact .word ⟨by simp, List.forall_mem_cons.mpr ⟨hc, fun d hd => List.mem_takeWhile_imp hd⟩⟩
  split
  · next hop =>
    cases cs with
    | nil => simp at hop
    | cons d cs => exact .operator (by simpa using hop)
  · exact .single c

/-! ## Tokens -/

theorem isToken_of_mem_tokens (h : t ∈ tokens text) : IsToken t := by
  fun_induction tokens text with
  | case1 => simp at h
  | case2 c cs ih =>
    rcases List.mem_cons.mp h with rfl | h
    · exact isToken_take_reach c cs
    · exact ih h

theorem IsToken.ne_nil (ht : IsToken t) : t ≠ [] := by
  cases ht with
  | name h =>
    obtain ⟨c, body, primes, rfl, -⟩ := h
    simp
  | word h => exact h.1
  | operator => simp
  | single => simp

/-- The texts that are divided no further are the tokens. -/
theorem tokens_eq_singleton_iff : tokens t = [t] ↔ IsToken t := by
  constructor
  · intro h
    exact isToken_of_mem_tokens (h ▸ List.mem_singleton_self t)
  · intro ht
    cases t with
    | nil => exact absurd rfl ht.ne_nil
    | cons c cs => rw [tokens, ht.reach_eq, List.take_length, List.drop_length, tokens]

instance (t : List Char) : Decidable (IsToken t) := decidable_of_iff _ tokens_eq_singleton_iff

end Token

open Token (IsToken tokens)

/-! ## Symbols -/

/-- A text without blanks is divided into its tokens. -/
theorem Alternative.parts_of_no_blank {text : List Char} (hblank : ∀ c ∈ text, Text.isBlank c = false) :
    parts (Text.trim text) = tokens text := by
  rw [Text.trim_of_no_blank hblank, parts, if_neg]
  simpa using hblank

/-- A token is read as the symbol that it spells. -/
theorem Alternative.read_of_isToken {t : List Char} (ht : IsToken t) (hblank : ∀ c ∈ t, Text.isBlank c = false) :
    read t = [Symbol.ofChars t] := by
  rw [read_eq, visible, parts_of_no_blank hblank, Token.tokens_eq_singleton_iff.mpr ht]
  by_cases hε : Symbol.ofChars t = epsilon <;> simp [hε]

/-- A plain symbol is read as itself if it is a token. -/
theorem Symbol.Plain.read_eq_singleton_iff {s : Symbol} (hs : Symbol.Plain s) :
    Alternative.read s.toList = [s] ↔ IsToken s.toList := by
  have hblank : ∀ c ∈ s.toList, Text.isBlank c = false := fun _ hc => hs.not_isBlank hc
  constructor
  · intro h
    have hmem : s ∈ Alternative.visible s.toList := by
      rw [Alternative.read_eq] at h
      split at h
      · exact absurd (List.singleton_inj.mp h).symm hs.ne_epsilon
      · exact h ▸ List.mem_singleton_self s
    obtain ⟨t, ht, hspell⟩ := List.mem_map.mp (List.mem_filter.mp hmem).1
    rw [Alternative.parts_of_no_blank hblank] at ht
    -- the token that spells the symbol is the whole of it
    obtain rfl : String.ofList t = s := by
      rw [Symbol.ofChars] at hspell
      split at hspell
      · exact absurd hspell.symm hs.ne_epsilon
      · exact hspell
    rw [String.toList_ofList] at ht ⊢
    exact Token.isToken_of_mem_tokens ht
  · intro ht
    rw [Alternative.read_of_isToken ht hblank, hs.ofChars_toList]

namespace Token

/-- A text without blanks is the sequence of its tokens. No token is empty, and each stands alone: it is divided no
further, and read as the symbol that it spells. What is read of the text are symbols that are read as themselves. -/
theorem tokens_stand_alone (text : List Char) (hblank : ∀ c ∈ text, Text.isBlank c = false) :
    (tokens text).flatten = text ∧
      (∀ t ∈ tokens text, t ≠ [] ∧ tokens t = [t] ∧
        Alternative.read t = [if isEpsilon t then epsilon else String.ofList t]) ∧
      ∀ s ∈ Alternative.read text, Alternative.read s.toList = [s] := by
  have hflat := flatten_tokens text
  have hread : ∀ t ∈ tokens text, Alternative.read t = [Symbol.ofChars t] := fun t ht =>
    Alternative.read_of_isToken (isToken_of_mem_tokens ht) fun c hc =>
      hblank c (hflat ▸ List.mem_flatten_of_mem ht hc)
  refine ⟨hflat, fun t ht => ?_, fun s hs => ?_⟩
  · exact ⟨ne_nil_of_mem_tokens ht, tokens_eq_singleton_iff.mpr (isToken_of_mem_tokens ht), hread t ht⟩
  · have hε : Alternative.read epsilon.toList = [epsilon] := by decide +kernel
    rw [Alternative.read_eq] at hs
    split at hs
    · rw [List.mem_singleton.mp hs, hε]
    · obtain ⟨hs, hne⟩ := List.mem_filter.mp hs
      obtain ⟨t, ht, rfl⟩ := List.mem_map.mp hs
      rw [Alternative.parts_of_no_blank hblank] at ht
      have hplain : Symbol.ofChars t = String.ofList t := by
        rw [Symbol.ofChars] at hne ⊢
        split
        · next hε => simp [hε] at hne
        · rfl
      rw [hplain, String.toList_ofList, hread t ht, hplain]

/-- `ε`, its other spelling alone and inside a word, primes behind a name and behind none, a low line behind a small
letter, a subscript, and operators that touch. -/
def touching : List Char := "εepsilonepsilon1Eεepsilon''E₁_x''_y<==||=EPSILON".toList

theorem touching_stand_alone : (∀ c ∈ touching, Text.isBlank c = false) ∧
    (tokens touching).map String.ofList = ["ε", "epsilonepsilon1", "E", "ε", "epsilon", "'", "'", "E₁_x''", "_", "y",
      "<=", "=", "||", "=", "E", "P", "S", "I", "L", "O", "N"] ∧
    (tokens touching).flatten = touching ∧
    (∀ t ∈ tokens touching, t ≠ [] ∧ tokens t = [t] ∧
      Alternative.read t = [if isEpsilon t then epsilon else String.ofList t]) ∧
    ∀ s ∈ Alternative.read touching, Alternative.read s.toList = [s] := by
  have hblank : ∀ c ∈ touching, Text.isBlank c = false := fun _ =>
    Text.eq_false_of_any (show touching.any Text.isBlank = false by decide +kernel)
  exact ⟨hblank, by decide +kernel, tokens_stand_alone touching hblank⟩

end Token

end FormalLanguages

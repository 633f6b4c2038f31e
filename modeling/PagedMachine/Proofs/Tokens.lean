import PagedMachine.Text.Blank
import PagedMachine.Text.Numeral

/-!
# Tokens and numerals of command lines

A command line is cut into tokens at blank characters, empty pieces dropped: `tokens` is
`List.splitOnP` on the characters of the line followed by that filter, and the shell's own word
splitter agrees with it (`words_eq_tokens`). Tokens joined by single spaces are cut back into the
same tokens (`tokens_intercalate`). A number printed in decimal is one token
(`isToken_repr`, `isToken_intRepr`), and the numeral readers read it back as the number
(`parseNatBelow?_repr`, `parseIntWithin?_repr`).
-/

namespace PagedMachine

namespace Text

/-- The tokens of a line: the pieces between blank characters, empty pieces dropped. -/
def tokens (line : String) : List String :=
  ((line.toList.splitOnP isBlank).filter (!·.isEmpty)).map String.ofList

/-- Cutting at blanks with an accumulated word is splitting and dropping the empty pieces. -/
theorem wordsFrom_eq_splitOnPPrepend (cs acc : List Char) :
    wordsFrom cs acc = (cs.splitOnPPrepend isBlank acc).filter (!·.isEmpty) := by
  induction cs generalizing acc with
  | nil => cases acc <;> simp [wordsFrom]
  | cons c cs ih =>
    by_cases blank : isBlank c
    · rw [List.splitOnPPrepend_cons_pos blank, ← List.splitOnPPrepend_nil_right]
      cases acc <;> simp [wordsFrom, blank, ih]
    · rw [List.splitOnPPrepend_cons_neg (by simpa using blank)]
      simp [wordsFrom, blank, ih]

/-- The shell's words of a line are its tokens. -/
theorem words_eq_tokens (line : String) : words line = tokens line := by
  simp [words, tokens, wordsFrom_eq_splitOnPPrepend]

/-- Pieces free of separators, joined by one separator each, split back into those pieces. -/
theorem splitOnP_intercalate {α : Type} {p : α → Bool} {sep : α} (hsep : p sep = true)
    {ls : List (List α)} (ne : ls ≠ []) (clear : ∀ l ∈ ls, ∀ x ∈ l, p x = false) :
    ([sep].intercalate ls).splitOnP p = ls := by
  induction ls with
  | nil => exact absurd rfl ne
  | cons l ls ih =>
    cases ls with
    | nil => rw [List.intercalate_singleton, List.splitOnP_eq_singleton (clear l (by simp))]
    | cons m ms =>
      rw [List.intercalate_cons_cons, List.append_assoc, List.singleton_append,
        List.splitOnP_append_cons_of_forall_mem (clear l (by simp)) sep hsep,
        ih (by simp) (fun l' mem => clear l' (List.mem_cons_of_mem l mem))]

/-- A token: nonempty, with no blank in it. -/
def IsToken (w : String) : Prop := w ≠ "" ∧ ∀ c ∈ w.toList, isBlank c = false

/-- Whether a word is a token is decided character by character. -/
instance : DecidablePred IsToken := fun w =>
  decidable_of_iff ((!w.isEmpty && w.toList.all fun c => !isBlank c) = true) (by simp [IsToken])

/-- Tokens joined by single spaces are the tokens of the line. -/
theorem tokens_intercalate {ws : List String} (solid : ∀ w ∈ ws, IsToken w) :
    tokens (" ".intercalate ws) = ws := by
  by_cases ne : ws = []
  · subst ne; rfl
  have pieces : ((" ".intercalate ws).toList.splitOnP isBlank) = ws.map String.toList := by
    rw [String.toList_intercalate]
    exact splitOnP_intercalate (by decide) (by simpa using ne)
      (by simpa using fun w mem => (solid w mem).2)
  have kept : (ws.map String.toList).filter (!·.isEmpty) = ws.map String.toList := by
    simpa using fun w mem => (solid w mem).1
  rw [tokens, pieces, kept, List.map_map]
  simp

/-- Digits are not blank. -/
theorem isBlank_of_isDigit {c : Char} (digit : c.isDigit = true) : isBlank c = false := by
  simp only [Char.isDigit, Bool.and_eq_true, decide_eq_true_eq] at digit
  have low : 48 ≤ c.toNat := digit.1
  have high : c.toNat ≤ 57 := digit.2
  unfold isBlank
  simp only [Bool.or_eq_false_iff, Bool.and_eq_false_iff, decide_eq_false_iff_not,
    beq_eq_false_iff_ne]
  omega

/-- The digits a number is printed with read back as the number. -/
theorem digitsValue?_toDigits (n : Nat) : digitsValue? (Nat.toDigits 10 n) = some n := by
  have digits : (Nat.toDigits 10 n).all Char.isDigit = true :=
    List.all_eq_true.2 fun _ mem => Nat.isDigit_of_mem_toDigits (by decide) (by decide) mem
  simp only [digitsValue?, List.isEmpty_eq_false_iff.2 Nat.toDigits_ne_nil, digits]
  rw [← Nat.ofDigitChars_eq_foldl, Nat.ofDigitChars_ten_toDigits]
  rfl

/-- A printed number does not start with a sign. -/
theorem toDigits_ne_sign (n : Nat) (rest : List Char) {sign : Char}
    (notDigit : sign.isDigit = false) : Nat.toDigits 10 n ≠ sign :: rest := by
  intro h
  have := Nat.isDigit_of_mem_toDigits (by decide) (by decide) (h ▸ List.mem_cons_self)
  rw [notDigit] at this
  cases this

/-- A number below the bound, printed in decimal, reads back as itself. -/
theorem parseNatBelow?_repr {bound n : Nat} (below : n < bound) :
    parseNatBelow? bound n.repr = some n := by
  unfold parseNatBelow?
  rw [Nat.toList_repr]
  split
  · rename_i rest h
    exact absurd h (toDigits_ne_sign n rest (by decide))
  · simp [digitsValue?_toDigits, below]

/-- A number printed in decimal is one token. -/
theorem isToken_repr (n : Nat) : IsToken n.repr := by
  refine ⟨fun empty => ?_, fun c mem => ?_⟩
  · have := congrArg String.toList empty
    rw [Nat.toList_repr] at this
    exact Nat.toDigits_ne_nil this
  · rw [Nat.toList_repr] at mem
    exact isBlank_of_isDigit (Nat.isDigit_of_mem_toDigits (by decide) (by decide) mem)

/-- A signed number printed in decimal is one token. -/
theorem isToken_intRepr (v : Int) : IsToken v.repr := by
  rw [Int.repr_eq_if]
  split
  · exact isToken_repr _
  · obtain ⟨-, digits⟩ := isToken_repr (-v).toNat
    refine ⟨fun empty => ?_, fun c mem => ?_⟩
    · simpa using congrArg String.length empty
    · rw [String.toList_append, List.mem_append] at mem
      rcases mem with minus | mem
      · have : c = '-' := by simpa using minus
        subst this
        decide
      · exact digits c mem

/-- A number within the range, printed in decimal, reads back as itself. -/
theorem parseIntWithin?_repr {lo hi v : Int} (low : lo ≤ v) (high : v ≤ hi) :
    parseIntWithin? lo hi v.repr = some v := by
  unfold parseIntWithin?
  rw [Int.repr_eq_if]
  by_cases sign : 0 ≤ v
  · rw [if_pos sign, Nat.toList_repr]
    split
    rename_i negative digits signSplit
    split at signSplit
    · rename_i rest printed
      exact absurd printed (toDigits_ne_sign _ rest (by decide))
    · rename_i rest printed
      exact absurd printed (toDigits_ne_sign _ rest (by decide))
    · obtain ⟨rfl, rfl⟩ := Prod.mk.inj signSplit
      simp [digitsValue?_toDigits, Int.toNat_of_nonneg sign, low, high]
  · rw [if_neg sign, String.toList_append, Nat.toList_repr]
    simp [digitsValue?_toDigits]
    omega

end Text

end PagedMachine

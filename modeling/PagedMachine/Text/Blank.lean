/-!
# Blank characters and the words of a line

A command line is cut into words at blanks. Blanks are the characters with the Unicode
property White_Space: the ASCII tab, line feed, vertical tab, form feed, carriage return and
space, the next-line control U+0085, the no-break space, the Ogham space mark, the spaces
U+2000 to U+200A, the line and paragraph separators, the narrow no-break space, the medium
mathematical space and the ideographic space. The zero width space U+200B is not one.

Main statements: every character that core calls whitespace is a blank
(`isBlank_of_isWhitespace`), and no word is empty or holds a blank (`words_nonempty`).
-/

namespace PagedMachine.Text

/-- The characters with the Unicode property White_Space. -/
def isBlank (c : Char) : Bool :=
  let n := c.toNat
  (0x09 ≤ n && n ≤ 0x0D) || n == 0x20 || n == 0x85 || n == 0xA0 || n == 0x1680 ||
    (0x2000 ≤ n && n ≤ 0x200A) || n == 0x2028 || n == 0x2029 || n == 0x202F ||
    n == 0x205F || n == 0x3000

/-- Core's whitespace (tab, line feed, carriage return, space) is blank. -/
theorem isBlank_of_isWhitespace (c : Char) (white : c.isWhitespace = true) :
    isBlank c = true := by
  simp only [Char.isWhitespace, Bool.or_eq_true, decide_eq_true_eq] at white
  have code : c.toNat = 9 ∨ c.toNat = 10 ∨ c.toNat = 13 ∨ c.toNat = 32 := by
    rcases white with ((h | h) | h) | h <;> subst h <;> decide
  unfold isBlank
  rcases code with h | h | h | h <;> simp [h]

/-- Cuts a list of characters at blanks, given the reversed word read so far. -/
def wordsFrom : List Char → List Char → List (List Char)
  | [], acc => if acc.isEmpty then [] else [acc.reverse]
  | c :: cs, acc =>
    if isBlank c then
      if acc.isEmpty then wordsFrom cs [] else acc.reverse :: wordsFrom cs []
    else wordsFrom cs (c :: acc)

/-- The words of a line: the longest runs of characters that are not blank, in order. -/
def words (line : String) : List String :=
  (wordsFrom line.toList []).map String.ofList

/-- A line is blank when every character of it is. -/
def isBlankLine (line : String) : Bool :=
  line.toList.all isBlank

/-- Cutting at blanks gives nonempty words of characters that are not blank or were already read. -/
theorem wordsFrom_nonempty (cs acc : List Char) :
    ∀ w ∈ wordsFrom cs acc, w ≠ [] ∧ ∀ c ∈ w, isBlank c = false ∨ c ∈ acc := by
  induction cs generalizing acc with
  | nil =>
    intro w hw
    unfold wordsFrom at hw
    split at hw
    · simp at hw
    · rename_i ha
      simp only [List.mem_singleton] at hw
      subst hw
      exact ⟨by simpa using ha, fun c hc => Or.inr (by simpa using hc)⟩
  | cons c cs ih =>
    intro w hw
    unfold wordsFrom at hw
    by_cases hb : isBlank c
    · by_cases ha : acc.isEmpty
      · simp only [hb, ha, if_true] at hw
        obtain ⟨ne, all⟩ := ih [] w hw
        exact ⟨ne, fun d hd => Or.inl (by simpa using all d hd)⟩
      · simp only [hb, ha, if_true, Bool.false_eq_true, if_false, List.mem_cons] at hw
        rcases hw with rfl | hw
        · refine ⟨by simpa using ha, fun d hd => Or.inr (by simpa using hd)⟩
        · obtain ⟨ne, all⟩ := ih [] w hw
          exact ⟨ne, fun d hd => Or.inl (by simpa using all d hd)⟩
    · simp only [hb, Bool.false_eq_true, if_false] at hw
      obtain ⟨ne, all⟩ := ih (c :: acc) w hw
      refine ⟨ne, fun d hd => ?_⟩
      rcases all d hd with h | h
      · exact Or.inl h
      · rcases List.mem_cons.1 h with rfl | h
        · exact Or.inl (by simpa using hb)
        · exact Or.inr h

/-- No word is empty, and no word holds a blank. -/
theorem words_nonempty (line : String) :
    ∀ w ∈ wordsFrom line.toList [], w ≠ [] ∧ ∀ c ∈ w, isBlank c = false := by
  intro w hw
  obtain ⟨ne, all⟩ := wordsFrom_nonempty line.toList [] w hw
  exact ⟨ne, fun c hc => by simpa using all c hc⟩

end PagedMachine.Text

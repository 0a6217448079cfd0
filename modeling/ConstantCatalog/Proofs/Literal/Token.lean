import ConstantCatalog.Literal.Token
import ConstantCatalog.Proofs.Text.Blank

/-!
Contract: the tokens of a text, one at a time from its beginning.

Blanks in front move the positions and nothing else. A token in front comes before the
tokens of the text behind it.

Owns: the text and the position of each token, by the steps of `tokensFrom`.

Does not own: which sequences of tokens are literals.
-/

namespace ConstantCatalog.Literal

theorem text_append_of_nextToken? {text rest : List Char} {token : Token}
    (found : nextToken? text = some (token, rest)) :
    token.text ++ rest = text := by
  unfold nextToken? at found
  split at found
  case h_4 =>
    obtain ⟨⟨numeral, remainder⟩, scanned, built⟩ := Option.map_eq_some_iff.1 found
    simp only [Prod.mk.injEq] at built
    obtain ⟨rfl, rfl⟩ := built
    exact Numeral.text_append_of_scan? scanned
  all_goals
    simp only [Option.some.injEq, Prod.mk.injEq] at found
    obtain ⟨rfl, rfl⟩ := found
    rfl

/-- Blanks in front of a text move its tokens and nothing else. -/
theorem tokensFrom_blanks_append {blanks : List Char} (blank : AllBlank blanks) (position : Nat)
    (text : List Char) :
    tokensFrom position (blanks ++ text) = tokensFrom (position + blanks.length) text := by
  induction blanks generalizing position with
  | nil => rfl
  | cons first rest inductionHypothesis =>
      have restBlank : AllBlank rest :=
        fun character member => blank character (List.mem_cons_of_mem _ member)
      rw [List.cons_append, tokensFrom, if_pos (blank first List.mem_cons_self),
        inductionHypothesis restBlank, List.length_cons, Nat.add_right_comm, Nat.add_assoc]

theorem tokensFrom_blanks (position : Nat) (text : List Char) :
    tokensFrom position text =
      tokensFrom (position + (text.takeWhile isBlank).length) (text.dropWhile isBlank) := by
  have blank : AllBlank (text.takeWhile isBlank) :=
    fun _ member => holds_of_mem_takeWhile member
  have split := tokensFrom_blanks_append blank position (text.dropWhile isBlank)
  rwa [List.takeWhile_append_dropWhile] at split

/-- A token at the beginning of a text comes before the tokens of the rest. -/
theorem tokensFrom_token {text remainder : List Char} {token : Token}
    (solid : BeginsOutside isBlank text) (found : nextToken? text = some (token, remainder))
    (position : Nat) :
    tokensFrom position text =
      (⟨token, position⟩ :: (tokensFrom (position + token.text.length) remainder).1,
        (tokensFrom (position + token.text.length) remainder).2) := by
  cases text with
  | nil => contradiction
  | cons first rest =>
      have notBlank : ¬(isBlank first = true) := by
        rw [solid first rfl]
        decide
      rw [tokensFrom, if_neg notBlank]
      split
      · simp_all
      · rename_i otherToken otherRemainder otherFound
        rw [found] at otherFound
        obtain ⟨rfl, rfl⟩ := Prod.mk.inj (Option.some.inj otherFound)
        rfl

end ConstantCatalog.Literal

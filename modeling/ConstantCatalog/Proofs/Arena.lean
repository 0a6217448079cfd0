import ConstantCatalog.Arena
import Mathlib.Algebra.GroupWithZero.Nat

/-!
Contract: charges one after the other, under a limit and without one.

Charges are granted as long as their sum stays within the limit, and then all of them
are on the account. Otherwise the first one that would exceed the limit is refused; the
ones before it stay charged. So an account that starts within its limit never leaves it.

Owns: `Arena.withBlocks`, the composition of charges, the sums that are granted, and the
refusal of the others.

Does not own: what is copied into an arena.
-/

namespace ConstantCatalog

/-- Whether a refused charge would have exceeded a limit that held so far. -/
def ArenaExhausted.ExceedsLimit (refusal : ArenaExhausted) : Prop :=
  refusal.used ≤ refusal.limit ∧ refusal.limit < refusal.used + refusal.requested

namespace Arena

/-- An arena with more blocks of the given sizes, whatever its limit. -/
def withBlocks (arena : Arena) (sizes : List Nat) : Arena :=
  { arena with
    used := arena.used + sizes.sum
    blocks := arena.blocks + sizes.length }

@[simp] theorem withBlocks_nil (arena : Arena) : arena.withBlocks [] = arena := by
  simp [withBlocks]

theorem withBlocks_append (arena : Arena) (first second : List Nat) :
    arena.withBlocks (first ++ second) = (arena.withBlocks first).withBlocks second := by
  simp only [withBlocks, List.sum_append, List.length_append, Arena.mk.injEq, true_and]
  constructor
  · omega
  · omega

@[simp] theorem limit_withBlocks (arena : Arena) (sizes : List Nat) :
    (arena.withBlocks sizes).limit = arena.limit := rfl

/-! ## Composition -/

/-- Charges of more sizes go on where the earlier ones have come to. -/
private theorem chargeAll_append (arena : Arena) (first second : List Nat) :
    arena.chargeAll (first ++ second) =
      match arena.chargeAll first with
      | (charged, none) => charged.chargeAll second
      | (charged, some cause) => (charged, some cause) := by
  induction first generalizing arena with
  | nil => rfl
  | cons size rest inductionHypothesis =>
      rw [List.cons_append, chargeAll, chargeAll]
      cases arena.charge size with
      | ok charged => exact inductionHypothesis charged
      | error exhausted => rfl

/-- What is granted together is granted up to every point. -/
theorem chargeAll_granted_of_append {arena : Arena} {first second : List Nat}
    (granted : (arena.chargeAll (first ++ second)).2 = none) :
    (arena.chargeAll first).2 = none := by
  rw [chargeAll_append] at granted
  split at granted
  · rename_i charged firstCharged
    rw [firstCharged]
  · contradiction

/-! ## What a limit grants -/

theorem exceedsWith_eq_false_iff {arena : Arena} {size : Int} :
    arena.exceedsWith size = false ↔
      ∀ limit, arena.limit = some limit → arena.used + size ≤ limit := by
  unfold exceedsWith
  cases arena.limit with
  | none => simp
  | some limit => simp

theorem exceedsWith_eq_true_iff {arena : Arena} {size : Int} :
    arena.exceedsWith size = true ↔
      ∃ limit, arena.limit = some limit ∧ limit < arena.used + size := by
  unfold exceedsWith
  cases arena.limit with
  | none => simp
  | some limit => simp

theorem exceedsWith_unlimited {arena : Arena} (unlimited : arena.limit = none) (size : Int) :
    arena.exceedsWith size = false := by
  simp [exceedsWith, unlimited]

theorem exceedsWith_ofLimit (limit size : Int) :
    (Arena.ofLimit (some limit)).exceedsWith size = decide (limit < size) := by
  simp [exceedsWith, ofLimit]

/-- What does not exceed a limit does not exceed it in smaller parts. -/
theorem exceedsWith_of_le {arena : Arena} {size larger : Int} (le : size ≤ larger)
    (within : arena.exceedsWith larger = false) :
    arena.exceedsWith size = false := by
  rw [exceedsWith_eq_false_iff] at within ⊢
  intro limit isLimit
  have bound := within limit isLimit
  omega

theorem exceedsWith_withBlocks (arena : Arena) (sizes : List Nat) (size : Int) :
    (arena.withBlocks sizes).exceedsWith size = arena.exceedsWith (sizes.sum + size) := by
  unfold exceedsWith
  rw [limit_withBlocks]
  cases arena.limit with
  | none => rfl
  | some limit => simp only [withBlocks, Int.add_assoc]

theorem charge_granted {arena : Arena} {size : Nat} (within : arena.exceedsWith size = false) :
    arena.charge size = .ok (arena.withBlocks [size]) := by
  simp [charge, within, withBlocks]

/-- Charges are granted if their sum is within the limit. -/
theorem chargeAll_granted {arena : Arena} {sizes : List Nat}
    (within : arena.exceedsWith sizes.sum = false) :
    arena.chargeAll sizes = (arena.withBlocks sizes, none) := by
  induction sizes generalizing arena with
  | nil => rw [chargeAll, withBlocks_nil]
  | cons size rest inductionHypothesis =>
      rw [List.sum_cons, Int.natCast_add] at within
      have first : arena.exceedsWith size = false := exceedsWith_of_le (by omega) within
      have others : (arena.withBlocks [size]).exceedsWith rest.sum = false := by
        rw [exceedsWith_withBlocks, List.sum_singleton]
        exact within
      rw [chargeAll, charge_granted first]
      dsimp only
      rw [inductionHypothesis others, ← withBlocks_append, List.singleton_append]

/-- Without a limit every charge is granted. -/
theorem chargeAll_unlimited {arena : Arena} (unlimited : arena.limit = none) (sizes : List Nat) :
    arena.chargeAll sizes = (arena.withBlocks sizes, none) :=
  chargeAll_granted (exceedsWith_unlimited unlimited _)

/-- Charges whose sum is beyond the limit are granted up to the first that would exceed
it, and that one is refused. -/
theorem chargeAll_refused {arena : Arena} {sizes : List Nat} (start : arena.exceedsWith 0 = false)
    (beyond : arena.exceedsWith sizes.sum = true) :
    ∃ before size after refusal, sizes = before ++ size :: after ∧
      arena.chargeAll sizes = (arena.withBlocks before, some refusal) ∧
      arena.limit = some refusal.limit ∧ refusal.ExceedsLimit := by
  induction sizes generalizing arena with
  | nil =>
      rw [List.sum_nil, Int.natCast_zero, start] at beyond
      contradiction
  | cons size rest inductionHypothesis =>
      cases within : arena.exceedsWith size with
      | true =>
          obtain ⟨limit, isLimit, exceeds⟩ := exceedsWith_eq_true_iff.1 within
          have held := exceedsWith_eq_false_iff.1 start limit isLimit
          rw [Int.add_zero] at held
          refine ⟨[], size, rest, ⟨limit, arena.used, size⟩, rfl, ?_, isLimit, held, exceeds⟩
          rw [chargeAll, charge, if_pos within, isLimit, withBlocks_nil]
          rfl
      | false =>
          have restStart : (arena.withBlocks [size]).exceedsWith 0 = false := by
            rw [exceedsWith_withBlocks, List.sum_singleton, Int.add_zero, within]
          have restBeyond : (arena.withBlocks [size]).exceedsWith rest.sum = true := by
            rw [exceedsWith_withBlocks, List.sum_singleton, ← Int.natCast_add, ← List.sum_cons]
            exact beyond
          obtain ⟨before, next, after, refusal, built, charged, isLimit, exceeds⟩ :=
            inductionHypothesis restStart restBeyond
          refine ⟨size :: before, next, after, refusal, by rw [built, List.cons_append], ?_,
            isLimit, exceeds⟩
          rw [chargeAll, charge_granted within]
          dsimp only
          rw [charged, ← withBlocks_append, List.singleton_append]

/-- An arena within its limit stays within it, whatever is charged. -/
theorem exceedsWith_chargeAll {arena : Arena} (start : arena.exceedsWith 0 = false)
    (sizes : List Nat) :
    (arena.chargeAll sizes).1.exceedsWith 0 = false := by
  induction sizes generalizing arena with
  | nil => exact start
  | cons size rest inductionHypothesis =>
      rw [chargeAll]
      cases within : arena.exceedsWith size with
      | true =>
          rw [charge, if_pos within]
          exact start
      | false =>
          rw [charge_granted within]
          apply inductionHypothesis
          rw [exceedsWith_withBlocks, List.sum_singleton, Int.add_zero, within]

theorem limit_chargeAll (arena : Arena) (sizes : List Nat) :
    (arena.chargeAll sizes).1.limit = arena.limit := by
  induction sizes generalizing arena with
  | nil => rfl
  | cons size rest inductionHypothesis =>
      rw [chargeAll]
      cases within : arena.exceedsWith size with
      | true =>
          rw [charge, if_pos within]
      | false =>
          rw [charge_granted within]
          exact inductionHypothesis _

end Arena

end ConstantCatalog

/-
TurtleTree/Proofs/Turtle/Progress.lean

How far a turtle has come after the first symbols of a string.

A string can be read in two ways: from its list of symbols
(`Interpretation`), or by a byte position that moves over the string
(`Reading`).  Both meet the same turtle and leave the same segments and leaves
behind: the reading of the first `i` symbols is `Reading.after`, and one more
symbol takes it from `i` to `i + 1` (`Reading.advance_after`).  The byte
position is the encoded length of the symbols before it, so it always stands
between two characters (`Reading.isValid_cursor`).

Either way may be left at any symbol and gone on with later
(`Interpretation.take_add`, `Reading.advanceTimes_after`).
-/
import TurtleTree.Growth.Run
import Mathlib.Data.String.Basic

namespace TurtleTree

/-! ### Items one by one -/

namespace Interpretation

/-- Ask for the next item `n` times, or until there is none. -/
def consume : Nat → Interpretation → List (Option Emission) × Interpretation
  | 0, i => ([], i)
  | n + 1, i =>
    match i.next with
    | (none, i) => ([], i)
    | (some item, i) => (item :: (consume n i).1, (consume n i).2)

/-- Items that are asked for one by one are those that are taken at once. -/
theorem consume_eq (n : Nat) (i : Interpretation) : i.consume n = i.take n := by
  induction n generalizing i with
  | zero => rfl
  | succ n ih =>
    obtain ⟨c, t, rest⟩ := i
    rcases rest with - | ⟨symbol, rest⟩
    · rfl
    · simp only [consume, next, ih, take, List.take_succ_cons, List.drop_succ_cons,
        Turtle.run_cons]

/-- **Items are taken in parts** as they are taken at once. -/
theorem take_add (m n : Nat) (i : Interpretation) :
    i.take (m + n)
      = ((i.take m).1 ++ ((i.take m).2.take n).1, ((i.take m).2.take n).2) := by
  simp only [take, List.take_add, Turtle.run_append, List.drop_drop]

/-- Asking for more items than there are gives all of them. -/
theorem take_of_length_le {n : Nat} {i : Interpretation} (h : i.rest.length ≤ n) :
    i.take n = i.finish := by
  simp only [finish, take, List.take_of_length_le h, List.take_length,
    List.drop_eq_nil_of_le h, List.drop_length]

/-- Whoever stops after any number of items and finishes later misses nothing. -/
theorem finish_take (m : Nat) (i : Interpretation) :
    i.finish = ((i.take m).1 ++ (i.take m).2.finish.1, (i.take m).2.finish.2) := by
  have hall : i.rest.length ≤ m + (i.rest.drop m).length := by
    rw [List.length_drop]
    omega
  rw [← take_of_length_le hall, take_add]
  rfl

end Interpretation

/-! ### The first symbols of a string -/

namespace DrawingContext

/-- The turtle after the first `i` symbols. -/
def turtleAfter (c : DrawingContext) (symbols : String) (i : Nat) : Turtle :=
  ((Interpretation.begin c symbols).take i).2.turtle

/-- What the first `i` symbols leave behind. -/
def drawn (c : DrawingContext) (symbols : String) (i : Nat) : List Emission :=
  ((Interpretation.begin c symbols).take i).1.filterMap id

variable {c : DrawingContext} {symbols : String} {i : Nat} {x : Char}

@[simp] theorem drawn_zero : c.drawn symbols 0 = [] := rfl

/-- Reading one symbol more is reading it with the turtle the others have left. -/
theorem run_take_succ (h : symbols.toList[i]? = some x) :
    Turtle.start.run c (symbols.toList.take (i + 1))
      = ((Turtle.start.run c (symbols.toList.take i)).1
            ++ [((c.turtleAfter symbols i).step c x).2],
          ((c.turtleAfter symbols i).step c x).1) := by
  rw [List.take_add_one, h, Option.toList_some, Turtle.run_append, Turtle.run_cons,
    Turtle.run_nil]
  rfl

theorem turtleAfter_succ (h : symbols.toList[i]? = some x) :
    c.turtleAfter symbols (i + 1) = ((c.turtleAfter symbols i).step c x).1 :=
  congrArg Prod.snd (run_take_succ h)

theorem drawn_succ (h : symbols.toList[i]? = some x) :
    c.drawn symbols (i + 1)
      = c.drawn symbols i ++ ((c.turtleAfter symbols i).step c x).2.toList := by
  have hitems := congrArg (fun r => r.1.filterMap id) (run_take_succ (c := c) h)
  rw [List.filterMap_append] at hitems
  refine hitems.trans (congrArg (c.drawn symbols i ++ ·) ?_)
  rcases ((c.turtleAfter symbols i).step c x).2 with - | e <;> rfl

end DrawingContext

/-! ### Readings by byte position -/

namespace Reading

variable {c : DrawingContext} {symbols : String} {i : Nat} {x : Char}

/-- The reading of a string after its first `i` symbols. -/
def after (c : DrawingContext) (symbols : String) (i : Nat) : Reading where
  symbols
  cursor := String.utf8Len (symbols.toList.take i)
  interpreted := i
  total := symbols.length
  turtle := c.turtleAfter symbols i

@[simp] theorem after_zero : after c symbols 0 = begin symbols := rfl

/-- The byte position stands between the first symbols and the others. -/
theorem isValid_cursor : String.Pos.Raw.IsValid symbols ⟨(after c symbols i).cursor⟩ := by
  refine String.Pos.Raw.isValid_iff_exists_append.mpr
    ⟨String.ofList (symbols.toList.take i), String.ofList (symbols.toList.drop i), ?_, ?_⟩
  · rw [← String.ofList_append, List.take_append_drop, String.ofList_toList]
  · rw [String.rawEndPos_ofList]
    rfl

/-- The byte position is at the end exactly when the count is. -/
theorem cursor_lt_iff :
    (after c symbols i).cursor < symbols.utf8ByteSize ↔ i < symbols.length := by
  have hsplit : symbols.utf8ByteSize
      = (after c symbols i).cursor + String.utf8Len (symbols.toList.drop i) := by
    rw [after, ← String.utf8Len_append, List.take_append_drop, String.utf8Len_toList]
  have hrest : String.utf8Len (symbols.toList.drop i) = 0 ↔ symbols.length ≤ i := by
    rw [String.utf8Len_eq_zero, List.drop_eq_nil_iff, String.length_toList]
  omega

/-- The byte position meets the symbol of its number. -/
theorem symbol?_after : (after c symbols i).symbol? = symbols.toList[i]? := by
  -- the string is its first `i` symbols and the others, and the cursor stands between
  have h := String.get?_of_valid (symbols.toList.take i) (symbols.toList.drop i)
  rw [List.take_append_drop, String.ofList_toList, List.head?_drop] at h
  exact h

theorem isExhausted_after : (after c symbols i).isExhausted = decide (symbols.length ≤ i) := rfl

/-- One symbol moves the reading on by one. -/
theorem advance_after (h : symbols.toList[i]? = some x) :
    (after c symbols i).advance c
      = (after c symbols (i + 1), ((c.turtleAfter symbols i).step c x).2) := by
  have hcursor : String.utf8Len (symbols.toList.take (i + 1))
      = String.utf8Len (symbols.toList.take i) + x.utf8Size := by
    rw [List.take_add_one, h, Option.toList_some, String.utf8Len_append, String.utf8Len_cons,
      String.utf8Len_nil, Nat.zero_add]
  simp only [advance, symbol?_after, h]
  simp only [past, after, hcursor, DrawingContext.turtleAfter_succ h]

/-- **While symbols are left** the reading moves on by one, and the item of the symbol adds to
what was drawn. -/
theorem exists_advance_after (h : i < symbols.length) :
    ∃ item : Option Emission,
      (after c symbols i).advance c = (after c symbols (i + 1), item) ∧
      c.drawn symbols (i + 1) = c.drawn symbols i ++ item.toList := by
  obtain ⟨x, hx⟩ : ∃ x, symbols.toList[i]? = some x :=
    ⟨_, List.getElem?_eq_getElem (by rwa [String.length_toList])⟩
  exact ⟨_, advance_after hx, DrawingContext.drawn_succ hx⟩

/-- At the end there is nothing to read. -/
theorem advance_after_all :
    (after c symbols symbols.length).advance c = (after c symbols symbols.length, none) := by
  have hnone : (after c symbols symbols.length).symbol? = none := by
    rw [symbol?_after, ← String.length_toList, List.getElem?_length]
  simp only [advance, hnone]

/-- What `k` symbols more leave behind, if there are so many, and the reading after them. -/
def advanceTimes (c : DrawingContext) : Nat → Reading → List Emission × Reading
  | 0, r => ([], r)
  | k + 1, r =>
    ((r.advance c).2.toList ++ (advanceTimes c k (r.advance c).1).1,
      (advanceTimes c k (r.advance c).1).2)

/-- **A reading goes on** from where it was left, and stops at the end. -/
theorem advanceTimes_after (k : Nat) (h : i ≤ symbols.length) :
    c.drawn symbols i ++ (advanceTimes c k (after c symbols i)).1
        = c.drawn symbols (min (i + k) symbols.length) ∧
      (advanceTimes c k (after c symbols i)).2 = after c symbols (min (i + k) symbols.length) := by
  induction k generalizing i with
  | zero =>
    rw [Nat.add_zero, Nat.min_eq_left h]
    exact ⟨List.append_nil _, rfl⟩
  | succ k ih =>
    rcases Nat.lt_or_eq_of_le h with hlt | rfl
    · obtain ⟨item, hadvance, hitem⟩ := exists_advance_after (c := c) hlt
      obtain ⟨hdrawn, hafter⟩ := ih hlt
      rw [advanceTimes, hadvance, ← Nat.add_assoc, Nat.add_right_comm]
      rw [hitem, List.append_assoc] at hdrawn
      exact ⟨hdrawn, hafter⟩
    -- all symbols are read, so this step and all others change nothing
    · have hrest := ih (i := symbols.length) (Nat.le_refl _)
      have hmin : min (symbols.length + (k + 1)) symbols.length
          = min (symbols.length + k) symbols.length := by omega
      rw [advanceTimes, advance_after_all, hmin]
      exact hrest

/-- Past a character of two bytes and one of three. -/
example : (advanceTimes ⟨Parameters.standard, VarianceTable.zero, none, true, true⟩ 2
    (begin "é€F")).2.cursor = 5 := by decide +kernel

end Reading

end TurtleTree

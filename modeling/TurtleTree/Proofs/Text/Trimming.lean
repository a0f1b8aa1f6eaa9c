/-
TurtleTree/Proofs/Text/Trimming.lean

A text without the blanks around it.

Trimming takes blanks from both ends of a text and stops at the first character that is
none.  So the text is what is left with blanks around it, and what is left neither begins
nor ends with a blank; and there is only one such part of a text.

Main result: `trim_eq_iff`.
-/
import TurtleTree.Text.Blank

namespace TurtleTree

/-- The characters `s` are those of a text without the blanks around it. -/
structure Trimmed (text s : List Char) : Prop where
  around : ∃ a z, text = a ++ s ++ z ∧ (∀ c ∈ a, isBlank c = true) ∧ ∀ c ∈ z, isBlank c = true
  head : ∀ c ∈ s.head?, isBlank c = false
  last : ∀ c ∈ s.getLast?, isBlank c = false

theorem isBlank_of_mem_takeWhile {s : List Char} {c : Char} (h : c ∈ s.takeWhile isBlank) :
    isBlank c = true := List.all_eq_true.mp List.all_takeWhile c h

theorem isBlank_of_mem_head?_dropWhile {s : List Char} {c : Char}
    (h : c ∈ (s.dropWhile isBlank).head?) : isBlank c = false := by
  have hhead := List.head?_dropWhile_not isBlank s
  rw [Option.mem_def.mp h] at hhead
  exact hhead

theorem dropWhile_isBlank_append {a s : List Char} (ha : ∀ c ∈ a, isBlank c = true)
    (hs : ∀ c ∈ s.head?, isBlank c = false) : (a ++ s).dropWhile isBlank = s := by
  rw [List.dropWhile_append_of_pos ha]
  cases s with
  | nil => rfl
  | cons c s => exact List.dropWhile_cons_of_neg (by rw [hs c rfl]; exact Bool.false_ne_true)

/-- What is left in front of the blanks behind begins as before. -/
theorem trimBack_append (s : List Char) :
    s = trimBack s ++ (s.reverse.takeWhile isBlank).reverse := by
  rw [trimBack, ← List.reverse_append, List.takeWhile_append_dropWhile, List.reverse_reverse]

theorem trimmed_trim (text : List Char) : Trimmed text (trim text) where
  around := by
    refine ⟨text.takeWhile isBlank, ((trimFront text).reverse.takeWhile isBlank).reverse, ?_,
      fun c hc => isBlank_of_mem_takeWhile hc,
      fun c hc => isBlank_of_mem_takeWhile (List.mem_reverse.mp hc)⟩
    rw [List.append_assoc, trim, ← trimBack_append, trimFront, List.takeWhile_append_dropWhile]
  head := by
    intro c hc
    have hhead : (trimBack (trimFront text)).head? = some c := hc
    -- the first character that is left is also the first one behind the blanks in front
    have hfront : (trimFront text).head? = some c := by
      rw [trimBack_append (trimFront text), List.head?_append, hhead, Option.some_or]
    exact isBlank_of_mem_head?_dropWhile hfront
  last := by
    intro c hc
    rw [trim, trimBack, List.getLast?_reverse] at hc
    exact isBlank_of_mem_head?_dropWhile hc

/-- There is no other part without blanks around it. -/
theorem Trimmed.trim_eq {text s : List Char} (h : Trimmed text s) : trim text = s := by
  obtain ⟨a, z, rfl, ha, hz⟩ := h.around
  have hback : trimBack (s ++ z) = s := by
    rw [trimBack, List.reverse_append,
      dropWhile_isBlank_append (fun c hc => hz c (List.mem_reverse.mp hc))
        fun c hc => h.last c (List.head?_reverse ▸ hc), List.reverse_reverse]
  rw [trim, trimFront, List.append_assoc]
  rcases hs : s with - | ⟨c, rest⟩
  · have hall : ∀ c ∈ a ++ z, isBlank c = true := List.forall_mem_append.mpr ⟨ha, hz⟩
    have hnil := dropWhile_isBlank_append (s := []) hall fun c hc => nomatch hc
    rw [List.append_nil] at hnil
    rw [List.nil_append, hnil]
    rfl
  · have hhead : ∀ d ∈ (s ++ z).head?, isBlank d = false := by
      rw [hs]
      exact fun d hd => h.head d (hs ▸ hd)
    rw [← hs, dropWhile_isBlank_append ha hhead, hback]

/-- **Trimming leaves the part of a text that has no blanks around it.** -/
theorem trim_eq_iff {text s : List Char} : trim text = s ↔ Trimmed text s :=
  ⟨fun h => h ▸ trimmed_trim text, Trimmed.trim_eq⟩

end TurtleTree

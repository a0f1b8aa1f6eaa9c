/-
TurtleTree/Proofs/Growth/Reading.lean

A grower reads the symbols of its run in place, and may pause between any two of them.

The run holds the whole string with a byte position, a count of the symbols read and
their total.  Each symbol moves the position by its encoded length and the count by
one, and only the count tells whether the run has ended.  That the three agree, for
characters of any length, is what `Reading.after` says of a reading; `Grower.reading`
says what the grower has become besides: what the scene has taken in and what was
counted and reported.

A unit of work takes `reading i` to `reading (i + 1)` (`advance_reading`), and the run
ends with the last symbol (`settle_reading_all`).  This holds for any string, whether or
not it is the expansion of a rule set.

Main result: `Grower.reads_in_place`.
-/
import TurtleTree.Proofs.Growth.Request
import TurtleTree.Proofs.Turtle.Progress

namespace TurtleTree

/-- A run that is about to read a string. -/
def Run.ofSymbols (p : Parameters) (symbols : String) : Run :=
  ⟨p, .interpreting (Reading.begin symbols), 0, 0⟩

namespace Grower

variable {σ : Type}

/-- Ending a run touches neither the scene nor the handles. -/
theorem settle_scene_emitted (g : Grower σ) :
    g.settle.scene = g.scene ∧ g.settle.emitted = g.emitted := by
  obtain ⟨_, _, _, _, _, _, _, _, run, _, _, _, _⟩ := g
  rcases run with - | ⟨_, stage, _, _⟩
  · exact ⟨rfl, rfl⟩
  · rcases stage with e | r
    · exact ⟨rfl, rfl⟩
    · rcases hr : r.isExhausted with - | - <;> simp [settle, report, hr]

variable [Scene σ]

theorem advance_of_interpreting {g : Grower σ} {run : Run} {r r' : Reading}
    {item : Option Emission} (hrun : g.run = some run) (hstage : run.stage = .interpreting r)
    (hnext : r.advance (g.drawingContext run) = (r', item)) :
    g.advance = match item with
      | none => { g with run := some { run with stage := .interpreting r' } }.settle
      | some e =>
        ({ g with run := some ({ run with stage := .interpreting r' }.count e) }.emit e).settle := by
  simp only [advance, hrun, hstage, hnext]
  cases item <;> rfl

theorem advance_of_idle {g : Grower σ} (h : g.run = none) : g.advance = g := by
  simp only [advance, h]

theorem advanceTimes_of_idle {g : Grower σ} (h : g.run = none) (n : Nat) :
    advanceTimes n g = g := by
  induction n with
  | zero => rfl
  | succ n ih => rw [advanceTimes, advance_of_idle h, ih]

/-! ### Growers that read -/

/-- The grower after the first `i` symbols of a string, which it draws with the parameters
given and with the table and the material at hand. -/
def reading (g : Grower σ) (p : Parameters) (symbols : String) (i : Nat) : Grower σ :=
  let c := g.drawingContext (Run.ofSymbols p symbols)
  { g with
    run := some
      { parameters := p
        stage := .interpreting (Reading.after c symbols i)
        segments := (c.drawn symbols i).countP Emission.isSegment
        leaves := (c.drawn symbols i).countP Emission.isLeaf }
    scene := Scene.with? g.scene (c.drawn symbols i)
    emitted := g.emitted ++ (Scene.names? g.scene (c.drawn symbols i)).toArray
    outbox := g.outbox
      ++ ((Scene.names? g.scene (c.drawn symbols i)).map Event.emitted).toArray }

variable {g : Grower σ} {p : Parameters} {symbols : String} {i : Nat}

theorem reading_zero : g.reading p symbols 0 = { g with run := some (Run.ofSymbols p symbols) } := by
  simp [reading, Run.ofSymbols]

/-- A run with symbols left goes on. -/
theorem settle_reading_of_lt (h : i < symbols.length) :
    (g.reading p symbols i).settle = g.reading p symbols i := by
  simp only [settle, reading, Reading.isExhausted_after, Nat.not_le.mpr h, decide_false,
    Bool.false_eq_true, if_false]

/-- The last symbol ends the run. -/
theorem settle_reading_all :
    (g.reading p symbols symbols.length).settle
      = { g.reading p symbols symbols.length with
          run := none
          lastSymbols := some symbols
          completed := true
          outbox := (g.reading p symbols symbols.length).outbox.push (.generationCompleted
            (((g.drawingContext (Run.ofSymbols p symbols)).drawn symbols symbols.length).countP
              Emission.isSegment)
            (((g.drawingContext (Run.ofSymbols p symbols)).drawn symbols symbols.length).countP
              Emission.isLeaf)) } := by
  simp only [settle, reading, Reading.isExhausted_after, Nat.le_refl, decide_true, if_true]
  rfl

/-- **A symbol is a unit of work.** -/
theorem advance_reading (h : i < symbols.length) :
    (g.reading p symbols i).advance = (g.reading p symbols (i + 1)).settle := by
  obtain ⟨item, hread, hdrawn⟩ :=
    Reading.exists_advance_after (c := g.drawingContext (Run.ofSymbols p symbols)) h
  rw [advance_of_interpreting (g := g.reading p symbols i) rfl rfl hread]
  rcases item with - | e
  -- a symbol that leaves nothing behind only moves the reading on
  · rw [Option.toList_none, List.append_nil] at hdrawn
    simp only [reading, hdrawn]
  · refine congrArg settle ?_
    rw [emit_eq]
    simp only [reading, hdrawn, Option.toList_some, Scene.names?_append, Scene.with?_append]
    cases e <;> simp [Run.count, Emission.isSegment, Emission.isLeaf]

/-- Symbols add up, and beyond the last one nothing happens. -/
theorem advanceTimes_settle_reading (n : Nat) (h : i ≤ symbols.length) :
    advanceTimes n (g.reading p symbols i).settle
      = (g.reading p symbols (min (i + n) symbols.length)).settle := by
  induction n generalizing i with
  | zero => rw [Nat.add_zero, Nat.min_eq_left h]; rfl
  | succ n ih =>
    rcases Nat.lt_or_eq_of_le h with hlt | rfl
    · rw [advanceTimes, settle_reading_of_lt hlt, advance_reading hlt, ih hlt, ← Nat.add_assoc,
        Nat.add_right_comm]
    -- the run has ended
    · have hrest : (g.reading p symbols symbols.length).settle.run = none := by
        rw [settle_reading_all]
      rw [advanceTimes_of_idle hrest, Nat.min_eq_right (Nat.le_add_right _ _)]

/-- The run is kept while symbols are left, and what the grower shows tells as much. -/
theorem settle_reading (h : i ≤ symbols.length) :
    (g.reading p symbols i).settle.run
        = (if i < symbols.length then (g.reading p symbols i).run else none) ∧
      (g.reading p symbols i).settle.phase
        = (if i < symbols.length then .interpreting i symbols.length else .complete) ∧
      (g.reading p symbols i).settle.expanded = some symbols := by
  rcases Nat.lt_or_eq_of_le h with hlt | rfl
  · rw [settle_reading_of_lt hlt, if_pos hlt, if_pos hlt]
    exact ⟨rfl, rfl, rfl⟩
  · rw [settle_reading_all, if_neg (Nat.lt_irrefl _), if_neg (Nat.lt_irrefl _)]
    exact ⟨rfl, rfl, rfl⟩

/-- **Reading in place.**  A run is about to read any string, and `k` units of work are done.
With `n` for `k` or the number of symbols, whichever is less,

* the byte position is the encoded length of the first `n` symbols, stands between two
  characters, and meets the symbol that is the next one of an interpretation of the string;
* the count is `n`, and it is below the total exactly when the position is below the size;
* the turtle is that of the interpretation after `n` items, and the emissions are those of
  these items;
* the grower keeps this reading and counts its emissions while symbols are left, ends the run
  with the last one, and has handed the emissions to the scene, in order;
* whoever asks an interpretation for its items gets the same ones, and the same turtle, if the
  asking is interrupted after any number of them. -/
theorem reads_in_place (g : Grower σ) (p : Parameters) (symbols : String) (k : Nat) :
    let c := g.drawingContext (Run.ofSymbols p symbols)
    let n := min k symbols.length
    let part := (Interpretation.begin c symbols).consume n
    let done := (Reading.begin symbols).advanceTimes c k
    let grown := advanceTimes k { g with run := some (Run.ofSymbols p symbols) }.settle
    (done.2.cursor = (String.ofList (symbols.toList.take n)).utf8ByteSize ∧
      String.Pos.Raw.IsValid symbols ⟨done.2.cursor⟩ ∧
      done.2.symbol? = part.2.rest.head?) ∧
    (done.2.interpreted = n ∧ done.2.total = symbols.length ∧ done.2.symbols = symbols ∧
      (done.2.interpreted < done.2.total ↔ done.2.cursor < symbols.utf8ByteSize)) ∧
    (done.2.turtle = part.2.turtle ∧ done.1 = part.1.filterMap id) ∧
    (grown.run = (if k < symbols.length then
        some ⟨p, .interpreting done.2, done.1.countP Emission.isSegment,
          done.1.countP Emission.isLeaf⟩
        else none) ∧
      grown.phase = (if k < symbols.length then .interpreting n symbols.length else .complete) ∧
      grown.expanded = some symbols ∧
      grown.scene = Scene.with? g.scene done.1 ∧
      grown.emitted = g.emitted ++ (Scene.names? g.scene done.1).toArray) ∧
    ∀ (i : Interpretation) (l m : Nat),
      i.consume (l + m)
          = ((i.consume l).1 ++ ((i.consume l).2.consume m).1, ((i.consume l).2.consume m).2) ∧
        i.finish = ((i.consume l).1 ++ (i.consume l).2.finish.1, (i.consume l).2.finish.2) := by
  intro c n part done grown
  have hn : n ≤ symbols.length := Nat.min_le_right _ _
  have hpart : part = (Interpretation.begin c symbols).take n := Interpretation.consume_eq _ _
  obtain ⟨hdrawn, hafter⟩ := Reading.advanceTimes_after (c := c) k (Nat.zero_le symbols.length)
  rw [Reading.after_zero, DrawingContext.drawn_zero, List.nil_append, Nat.zero_add] at hdrawn
  rw [Reading.after_zero, Nat.zero_add] at hafter
  replace hdrawn : done.1 = c.drawn symbols n := hdrawn
  replace hafter : done.2 = Reading.after c symbols n := hafter
  have hgrown : grown = (g.reading p symbols n).settle := by
    have hwork := advanceTimes_settle_reading (g := g) (p := p) k (Nat.zero_le symbols.length)
    rwa [reading_zero, Nat.zero_add] at hwork
  have hleft : n < symbols.length ↔ k < symbols.length := by omega
  obtain ⟨hrun, hphase, hexpanded⟩ := settle_reading (g := g) (p := p) hn
  obtain ⟨hscene, hemitted⟩ := settle_scene_emitted (g.reading p symbols n)
  rw [hafter, hdrawn, hpart, hgrown]
  refine ⟨⟨?_, Reading.isValid_cursor, ?_⟩, ⟨rfl, rfl, rfl, Reading.cursor_lt_iff.symm⟩,
    ⟨rfl, rfl⟩, ⟨?_, ?_, hexpanded, hscene, hemitted⟩, fun i l m => ⟨?_, ?_⟩⟩
  · rw [String.utf8ByteSize_ofList]
    rfl
  · rw [Reading.symbol?_after, ← List.head?_drop]
    rfl
  · simp only [hrun, hleft]
    rfl
  · simp only [hphase, hleft]
  · simp only [Interpretation.consume_eq, Interpretation.take_add]
  · rw [Interpretation.consume_eq]
    exact Interpretation.finish_take l i

end Grower

end TurtleTree

/-
TurtleTree/Proofs/Program/Palette.lean

The leaf colours of a file, from its settings to the picture.

The colours are handed on twice.  The grower gets their number and draws an index
from it, and the picture gets the colours and looks the index up.  Settings that are
accepted have at least one colour (`Settings.Checked.palette_ne_nil`), so there is an
index to draw, and it is one of a colour as long as both come from the same settings.

Main result: every leaf in the scene of a task has the drawn colour in the picture,
or the plain one if none is drawn (`Task.leafColors_respondAll`).
-/
import TurtleTree.Proofs.Growth.Material
import TurtleTree.Proofs.Program.Resolve

namespace TurtleTree

/-- There are colours to draw from, those of the settings or the usual ones. -/
theorem Settings.Checked.palette_ne_nil {s : Settings} (h : s.Checked) : s.palette ≠ [] := by
  rw [palette]
  split
  · next colors hcolors =>
    intro hempty
    exact h.colors (hcolors.trans (congrArg some (List.map_eq_nil_iff.mp hempty)))
  · exact List.cons_ne_nil _ _

/-! ### Colours of leaves -/

namespace Picture

/-- A leaf without a material has the plain colour. -/
theorem colorOf_of_none {pic : Picture} {l : Leaf} (h : l.material = none) :
    pic.colorOf l = pic.leafColor := by
  rw [colorOf, h]
  rfl

/-- A leaf with a material of the palette has the colour of its material. -/
theorem colorOf_of_some {pic : Picture} {l : Leaf} {m : Material} (h : l.material = some m)
    (hm : m.index.toNat < pic.leafPalette.length) :
    pic.colorOf l = pic.leafPalette[m.index.toNat] := by
  rw [colorOf, h, Option.bind_some, List.getElem?_eq_getElem hm, Option.getD_some]

end Picture

namespace Task

/-- **Materials index the palette.**  Of a file that is accepted, or the settings without a
file, the grower is told the number of colours.  Whatever a host then asks of it, and with any
parameters,

* it has no material before the first run, and none if the last run was begun without random
  leaf colours;
* if the last run was begun with them, it has a material, and its index is that of a colour;
* every leaf of its store has this material;
* and a picture with the colours of the same settings has the colour of that index for the
  leaf, or the plain colour if there is no material. -/
theorem leafColors_respondAll {a : Arguments} {file : Option (List UInt8)} {s : Settings}
    (hs : settings? a file = .ok s) (hfew : s.palette.length ≤ 2 ^ 32) (seed : Option UInt64)
    (p : Parameters) (rs : List Request) :
    let start := Grower.begin (s.growthConfig seed) p (some SceneStore.empty)
    let g := start.respondAll rs
    let colored := 0 < start.tally Grower.beginsRun rs ∧ (start.captured p rs).randomLeafColor
    (¬ colored → g.material = none) ∧
    (colored → ∃ m, g.material = some m ∧ m.index.toNat < s.palette.length) ∧
    ∃ store : SceneStore, g.scene = some store ∧ ∀ l ∈ store.storedLeaves,
      l.material = g.material ∧ ∀ pic : Picture, pic.leafPalette = s.palette →
        match g.material with
        | some m => s.palette[m.index.toNat]? = some (pic.colorOf l)
        | none => pic.colorOf l = pic.leafColor := by
  intro start g colored
  have hsome : (s.growthConfig seed).paletteSize ≠ 0 := by
    intro hnone
    exact (checked_of_settings? hs).palette_ne_nil (List.length_eq_zero_iff.mp hnone)
  obtain ⟨hplain, hpainted, store, hstore, hleaves⟩ :=
    Grower.painted_respondAll (s.growthConfig seed) hsome hfew p rs
  have hindex : ∀ m, g.material = some m → m.index.toNat < s.palette.length := by
    intro m hm
    rcases Nat.eq_zero_or_pos (start.tally Grower.beginsRun rs) with hnone | hrun
    · exact nomatch (hplain hnone).symm.trans hm
    · have hcalls := hpainted hrun
      rw [show g.material = some m from hm] at hcalls
      exact hcalls.2
  refine ⟨?_, ?_, store, hstore, fun l hl => ⟨hleaves l hl, ?_⟩⟩
  · intro hcolor
    rcases Nat.eq_zero_or_pos (start.tally Grower.beginsRun rs) with hnone | hrun
    · exact hplain hnone
    · rcases hm : g.material with - | m
      · rfl
      · have hcalls := hpainted hrun
        rw [show g.material = some m from hm] at hcalls
        exact absurd ⟨hrun, hcalls.1⟩ hcolor
  · rintro ⟨hrun, hcolor⟩
    rcases hm : g.material with - | m
    · have hcalls := hpainted hrun
      rw [show g.material = none from hm] at hcalls
      exact absurd (hcalls.symm.trans hcolor) Bool.false_ne_true
    · exact ⟨m, rfl, hindex m hm⟩
  · intro pic hpic
    rcases hm : g.material with - | m
    · exact Picture.colorOf_of_none ((hleaves l hl).trans hm)
    · have hlt : m.index.toNat < pic.leafPalette.length := by
        rw [hpic]
        exact hindex m hm
      show s.palette[m.index.toNat]? = some (pic.colorOf l)
      rw [Picture.colorOf_of_some ((hleaves l hl).trans hm) hlt, ← hpic]
      exact List.getElem?_eq_getElem hlt

/-- Two colours of a file, and a tree that is grown with them after another was stopped. -/
theorem leafColors_twoColors :
    let a := { Arguments.none with config := some "tree.toml" }
    let file := Octets.ofChars "random_leaf_color = true\nleaf_palette = [[9, 8, 7], [6, 5, 4]]".toList
    let p := { Parameters.standard with iterations := 1, randomLeafColor := true }
    let s : Settings := ⟨{ Parameters.standard with randomLeafColor := true }, none,
      some [⟨9, 8, 7⟩, ⟨6, 5, 4⟩], none⟩
    let rs : List Request := [.command .toggleGrowth, .cancel, .command .toggleGrowth]
    let g := (Grower.begin (s.growthConfig none) p (some SceneStore.empty)).respondAll rs
    settings? a (some file) = .ok s ∧ (∃ m, g.material = some m ∧ m.index.toNat < 2) ∧
      ∃ store : SceneStore, g.scene = some store ∧
        ∀ l ∈ store.storedLeaves, l.material = g.material := by
  intro a file p s rs g
  have hs : settings? a (some file) = .ok s := by decide +kernel
  have hfew : s.palette.length ≤ 2 ^ 32 := by decide +kernel
  have hrun : 0 < (Grower.begin (s.growthConfig none) p (some SceneStore.empty)).tally
      Grower.beginsRun rs := by
    decide +kernel
  have hcolor : ((Grower.begin (s.growthConfig none) p (some SceneStore.empty)).captured p
      rs).randomLeafColor = true := by
    decide +kernel
  obtain ⟨-, hmaterial, store, hstore, hleaves⟩ := leafColors_respondAll hs hfew none p rs
  exact ⟨hs, hmaterial ⟨hrun, hcolor⟩, store, hstore, fun l hl => (hleaves l hl).1⟩

end Task

end TurtleTree

/-
TurtleTree/Proofs/Program/Sharing.lean

What a printed share string is good for.

A share string is printed for every task that asks for one.  Whoever reads it back
meets two checks: that of the passes, which every resolved task stands
(`Task.iterations_le_of_resolve`), and that of the measures.  The second is made
nowhere else.  Options, settings and other share strings all let infinite and
undefined measures in, and such a measure is written as `null`.

Main result: the printed line is good for exactly the parameters of the task if their
measures are finite, and is refused if one of them is not (`Task.imports_shareLine`).
-/
import TurtleTree.Proofs.Exchange.Share
import TurtleTree.Proofs.Program.Resolve

namespace TurtleTree

/-! ### Importing a text -/

/-- A command line with nothing but a text to import.  The text must not look like an option. -/
theorem Arguments.parse_import {text : String} (h : text.toList.head? ≠ some '-') :
    parse ["--import", text] = .ok { none with importing := some text } := by
  have hdashes : text ≠ "--" := by
    rintro rfl
    exact h rfl
  have hbare : none.readOne (some (.importing, .none)) text
      = .ok (none, some (.importing, some text)) := by
    -- without a dash in front the text is the value that the option waits for
    rw [readOne]
    split
    · next heq => exact absurd (by rw [heq]; rfl) h
    · next heq => exact absurd (by rw [heq]; rfl) h
    · rfl
  have hoption : none.readOne .none "--import" = .ok (none, some (.importing, .none)) := by
    decide +kernel
  rw [parse, readAll, if_neg (by decide), hoption]
  show readAll none (some (.importing, .none)) [text] = _
  rw [readAll, if_neg hdashes, hbare]
  rfl

/-- A command line that says nothing about the parameters leaves them alone. -/
theorem Arguments.overrideParameters_import (text : String) (p : Parameters) :
    { none with importing := some text }.overrideParameters p = p := by
  simp only [overrideParameters, none, Option.map_none, Option.getD_none, Bool.or_false]

namespace Task

/-- The text is good for the parameters: it is read as them, every command line that
imports it starts from them, and the one that does nothing else ends up with them. -/
structure Imports (text : String) (p : Parameters) : Prop where
  decode_eq : Share.decode text = .ok p
  resolve_eq : ∀ {a : Arguments} {file : Option (List UInt8)} {s : Settings},
    a.importing = some text → settings? a file = .ok s →
      resolve a file = .ok ⟨a, s, a.overrideParameters p⟩
  alone : ∃ a, Arguments.parse ["--import", text] = .ok a ∧
    ∀ file, resolve a file = .ok ⟨a, Settings.standard, p⟩

/-- The text is refused for a reason, also by every command line that imports it. -/
structure Refuses (text : String) (e : ShareError) : Prop where
  decode_eq : Share.decode text = .error e
  resolve_eq : ∀ {a : Arguments} {file : Option (List UInt8)} {s : Settings},
    a.importing = some text → settings? a file = .ok s →
      resolve a file = .error (.importing e)

variable {text : String}

/-- An imported text takes the place of the parameters of the settings. -/
theorem resolve_of_importing {a : Arguments} {file : Option (List UInt8)} {s : Settings}
    (himport : a.importing = some text) (hs : settings? a file = .ok s) :
    resolve a file =
      ((Share.decode text).mapError .importing).map fun p => ⟨a, s, a.overrideParameters p⟩ := by
  have hbase : base? a s = (Share.decode text).mapError .importing := by
    simp only [base?, himport]
  have hbind : resolve a file = (settings? a file).bind fun s =>
    (base? a s).bind fun p => .ok ⟨a, s, a.overrideParameters p⟩ := rfl
  rw [hbind, hs, Except.bind, hbase]
  rfl

theorem imports_of_decode {p : Parameters} (hplain : text.toList.head? ≠ some '-')
    (h : Share.decode text = .ok p) : Imports text p := by
  have hresolve : ∀ {a : Arguments} {file : Option (List UInt8)} {s : Settings},
      a.importing = some text → settings? a file = .ok s →
        resolve a file = .ok ⟨a, s, a.overrideParameters p⟩ := by
    intro a file s himport hs
    rw [resolve_of_importing himport hs, h]
    rfl
  refine ⟨h, hresolve, _, Arguments.parse_import hplain, fun file => ?_⟩
  rw [hresolve rfl rfl, Arguments.overrideParameters_import]

theorem refuses_of_decode {e : ShareError} (h : Share.decode text = .error e) :
    Refuses text e := by
  refine ⟨h, fun himport hs => ?_⟩
  rw [resolve_of_importing himport hs, h]
  rfl

end Task

/-! ### The printed line -/

theorem Share.head?_encode (p : Parameters) : (encode p).toList.head? = some 'a' := by
  rw [encode, String.toList_ofList]
  rfl

/-- Parameters with a measure that is not finite are written, and the text is not read. -/
theorem Share.decode_encode_of_not_isFinite {p : Parameters} {x : Float32} (hx : x ∈ p.measures)
    (hinfinite : ¬ Single.IsFinite x) : decode (encode p) = .error .badPayload := by
  have hnone : p.reread? = none := by
    rcases hread : p.reread? with - | q
    · rfl
    · exact absurd (Single.reread?_of_not_isFinite hinfinite)
        ((Parameters.eq_of_reread? hread).2 x hx)
  rw [decode_encode_eq, decodePayload_payload, hnone]

namespace Task

/-- **A printed share string** is good for the parameters of its task, wherever these come
from, if their measures are finite.  If one of them is not, the string is refused.  Finite
measures have to be read as themselves. -/
theorem imports_shareLine {arguments : List String} {a : Arguments}
    {file : Option (List UInt8)} {t : Task} {line : String}
    (hparse : Arguments.parse arguments = .ok a) (hresolve : resolve a file = .ok t)
    (hline : t.shareLine? = some line)
    (hread : ∀ x ∈ t.parameters.measures, Single.IsFinite x → Single.ReadsAsItself x) :
    ((∀ x ∈ t.parameters.measures, Single.IsFinite x) → Imports line t.parameters) ∧
    ((∃ x ∈ t.parameters.measures, ¬ Single.IsFinite x) → Refuses line .badPayload) := by
  obtain rfl : Share.encode t.parameters = line := by
    rw [shareLine?] at hline
    split at hline
    · exact Option.some.inj hline
    · exact nomatch hline
  constructor
  · intro hfinite
    have hsame : t.parameters.reread? = some t.parameters :=
      Parameters.reread?_of_forall fun x hx =>
        Single.reread?_of_isFinite (hfinite x hx) (hread x hx (hfinite x hx))
    -- the check of the reader cannot fail, as the task has passed one like it
    have hfew := iterations_le_of_resolve hparse hresolve
    refine imports_of_decode (by simp [Share.head?_encode]) ?_
    rw [Share.decode_encode_eq, Share.decodePayload_payload, hsame]
    exact if_neg (UInt32.not_lt.mpr hfew)
  · rintro ⟨x, hx, hinfinite⟩
    exact refuses_of_decode (Share.decode_encode_of_not_isFinite hx hinfinite)

/-- An angle from a file and a negative zero from an option are shared and imported. -/
theorem imports_shareLine_negativeZero :
    let a := { Arguments.none with
      config := some "tree.toml", share := true, branchLength := some (Float32.ofBits 0x80000000) }
    let p := { Parameters.standard with angle := 31.5 }
    let q := a.overrideParameters p
    Arguments.parse ["--config", "tree.toml", "--share", "--branch-length=-0"] = .ok a ∧
      resolve a (some (Octets.ofChars "angle = 31.5".toList)) =
        .ok ⟨a, { Settings.standard with parameters := p }, q⟩ ∧
      Imports (Share.encode q) q := by
  intro a p q
  have hparse : Arguments.parse ["--config", "tree.toml", "--share", "--branch-length=-0"]
      = .ok a := by
    decide +kernel
  have hresolve : resolve a (some (Octets.ofChars "angle = 31.5".toList)) =
      .ok ⟨a, { Settings.standard with parameters := p }, q⟩ := by
    decide +kernel
  have hfinite : ∀ x ∈ q.measures, Single.IsFinite x := by
    unfold Single.IsFinite
    decide +kernel
  have hread : ∀ x ∈ q.measures, Single.ReadsAsItself x := by
    unfold Single.ReadsAsItself
    decide +kernel
  obtain ⟨himports, -⟩ := imports_shareLine hparse hresolve rfl fun x hx _ => hread x hx
  exact ⟨hparse, hresolve, himports hfinite⟩

/-- An infinite angle is taken from the command line, and its share string is refused. -/
theorem refuses_shareLine_infinite :
    let a := { Arguments.none with share := true, angle := some Single.infinity }
    let p := { Parameters.standard with angle := Single.infinity }
    Arguments.parse ["--share", "--angle", "inf"] = .ok a ∧
      resolve a none = .ok ⟨a, Settings.standard, p⟩ ∧
      shareLine? ⟨a, Settings.standard, p⟩ = some (Share.encode p) ∧
      Share.decode (Share.encode p) ≠ .ok p ∧ Refuses (Share.encode p) .badPayload := by
  intro a p
  have hdecode : Share.decode (Share.encode p) = .error .badPayload := by
    refine Share.decode_encode_of_not_isFinite (x := p.angle) List.mem_cons_self ?_
    unfold Single.IsFinite
    decide +kernel
  refine ⟨by decide +kernel, by decide +kernel, rfl, ?_, refuses_of_decode hdecode⟩
  rw [hdecode]
  exact nofun

end Task

end TurtleTree

/-
TurtleTree/Proofs/Exchange/Share.lean

Share strings are read back.

The parts of a share string are kept apart by colons and by blanks, and the alphabet
of the payload has neither; so the text is taken apart where it was put together
(`Share.decode_encode_between`).  What is left is the way of the payload through base64 and
JSON, and that is the way of the measures (`Share.decodePayload_payload`).

Main result: parameters with finite measures that are read as themselves and with no more
passes than are supported come back from their share string as they were, with any
blanks around it (`Share.decode_encode`).
-/
import TurtleTree.Exchange.Share
import TurtleTree.Proofs.Exchange.Parameters
import TurtleTree.Proofs.Text.Base64
import TurtleTree.Proofs.Text.Trimming
import Mathlib.Data.Bool.AllAny

namespace TurtleTree

namespace Share

/-! ### The parts of a share string -/

/-- A text up to its first colon, and from there on. -/
theorem span_colon {part : List Char} (rest : List Char) (hpart : ∀ c ∈ part, c ≠ ':') :
    (part ++ ':' :: rest).takeWhile (· ≠ ':') = part ∧
      (part ++ ':' :: rest).dropWhile (· ≠ ':') = ':' :: rest := by
  have hall : ∀ c ∈ part, decide (c ≠ ':') = true := fun c hc => decide_eq_true (hpart c hc)
  rw [List.takeWhile_append_of_pos hall, List.dropWhile_append_of_pos hall]
  simp

/-- A text is taken apart at its first two colons. -/
theorem split_append {first second : List Char} (third : List Char)
    (hfirst : ∀ c ∈ first, c ≠ ':') (hsecond : ∀ c ∈ second, c ≠ ':') :
    split (first ++ ':' :: (second ++ ':' :: third)) = .ok (first, second, third) := by
  obtain ⟨htake, hdrop⟩ := span_colon (second ++ ':' :: third) hfirst
  obtain ⟨htake', hdrop'⟩ := span_colon third hsecond
  simp only [split, htake, hdrop, htake', hdrop']

/-- The payload of what was written is read as the parameters with every measure written
and read, unless the passes are too many. -/
theorem decodePayload_payload (p : Parameters) :
    decodePayload (payload p) =
      match p.reread? with
      | none => .error .badPayload
      | some q =>
        if Parameters.maxIterations < p.iterations then .error (.tooManyIterations p.iterations)
        else .ok q := by
  rw [decodePayload, payload, Base64.decode?_encode]
  simp only [Parameters.parse?_compact]
  rcases h : p.reread? with - | q
  · rfl
  · simp only [(Parameters.eq_of_reread? h).1]

/-- Blanks around a share string make no difference, and its payload is what was written. -/
theorem decode_encode_between (p : Parameters) {a z : String}
    (ha : ∀ c ∈ a.toList, isBlank c = true) (hz : ∀ c ∈ z.toList, isBlank c = true) :
    decode (a ++ encode p ++ z) = decodePayload (payload p) := by
  have hname : ∀ c ∈ name, c ≠ ':' ∧ isBlank c = false :=
    List.all_iff_forall_prop.mp (by decide)
  have hversion : ∀ c ∈ version, c ≠ ':' ∧ isBlank c = false :=
    List.all_iff_forall_prop.mp (by decide)
  have hplain : ∀ c ∈ name ++ ':' :: (version ++ ':' :: payload p), isBlank c = false := by
    simp only [List.forall_mem_append, List.forall_mem_cons]
    exact ⟨fun c hc => (hname c hc).2, rfl, fun c hc => (hversion c hc).2, rfl,
      fun c hc => (Base64.plain_of_mem_encode hc).2.2⟩
  -- blanks end where the name begins, and begin where the payload ends
  have htext : (a ++ encode p ++ z).toList
      = a.toList ++ (name ++ ':' :: (version ++ ':' :: payload p)) ++ z.toList := by
    rw [String.toList_append, String.toList_append, encode, String.toList_ofList]
  have hparts := split_append (payload p) (fun c hc => (hname c hc).1)
    fun c hc => (hversion c hc).1
  have htrim : trim (a ++ encode p ++ z).toList
      = name ++ ':' :: (version ++ ':' :: payload p) :=
    trim_eq_iff.mpr ⟨⟨a.toList, z.toList, htext, ha, hz⟩,
      fun c hc => hplain c (List.mem_of_mem_head? hc),
      fun c hc => hplain c (List.mem_of_getLast? hc)⟩
  rw [decode, htrim, decodeTrimmed]
  simp only [hparts]
  rfl

theorem decode_encode_eq (p : Parameters) : decode (encode p) = decodePayload (payload p) := by
  simpa only [String.append_empty, String.empty_append] using
    decode_encode_between p (a := "") (z := "") (by simp) (by simp)

/-- **Share strings are read back.**  Parameters with finite measures, each of which is read
as itself, are written on one line with nothing in the payload that could end it.  Up to the
passes that are supported, reading the line with any blanks around it gives the same
parameters, bit for bit; with more, the refusal tells their number. -/
theorem decode_encode (p : Parameters) (hfinite : ∀ x ∈ p.measures, Single.IsFinite x)
    (hread : ∀ x ∈ p.measures, Single.ReadsAsItself x) :
    (∃ text : String, encode p = "arbor:v1:" ++ text ∧
      ∀ c ∈ text.toList, c ≠ ':' ∧ c ≠ '=' ∧ isBlank c = false) ∧
    (p.iterations ≤ Parameters.maxIterations → ∀ a z : String,
      (∀ c ∈ a.toList, isBlank c = true) → (∀ c ∈ z.toList, isBlank c = true) →
        decode (a ++ encode p ++ z) = .ok p) ∧
    (Parameters.maxIterations < p.iterations →
      decode (encode p) = .error (.tooManyIterations p.iterations)) := by
  have hsame : p.reread? = some p := Parameters.reread?_of_forall fun x hx =>
    Single.reread?_of_isFinite (hfinite x hx) (hread x hx)
  have hpayload := decodePayload_payload p
  simp only [hsame] at hpayload
  refine ⟨⟨String.ofList (payload p), ?_, ?_⟩, ?_, ?_⟩
  · show String.ofList (name ++ ':' :: (version ++ [':']) ++ payload p) = _
    exact String.ofList_append
  · rw [String.toList_ofList]
    exact fun c hc => Base64.plain_of_mem_encode hc
  · intro hfew a z ha hz
    rw [decode_encode_between p ha hz, hpayload, if_neg (UInt32.not_lt.mpr hfew)]
  · intro hmany
    rw [decode_encode_eq, hpayload, if_pos hmany]

/-- A zero below zero and a number with an exponent come back from between blanks. -/
theorem decode_encode_negativeZero :
    let p := { Parameters.standard with
      angle := Float32.ofBits 0x80000000, branchLength := Float32.ofBits 0x15ae43fd }
    (∀ x ∈ p.measures, Single.IsFinite x) ∧ (∀ x ∈ p.measures, Single.ReadsAsItself x) ∧
      decode ("\t " ++ encode p ++ "\n") = .ok p := by
  intro p
  have hfinite : ∀ x ∈ p.measures, Single.IsFinite x := by
    unfold Single.IsFinite
    decide +kernel
  have hread : ∀ x ∈ p.measures, Single.ReadsAsItself x := by
    unfold Single.ReadsAsItself
    decide +kernel
  obtain ⟨-, hback, -⟩ := decode_encode p hfinite hread
  have hfront : ∀ c ∈ "\t ".toList, isBlank c = true := List.all_eq_true.mp (by decide +kernel)
  have hend : ∀ c ∈ "\n".toList, isBlank c = true := List.all_eq_true.mp (by decide +kernel)
  exact ⟨hfinite, hread, hback (by decide +kernel) "\t " "\n" hfront hend⟩

end Share

end TurtleTree

/-
TurtleTree/Proofs/Program/Resolve.lean

What a resolved task cannot ask for.

The number of passes comes from the command line, from a share string or from a
file of settings, and each of them has its own check.  On the command line
it is the check of a single option; reading the other arguments leaves the number
alone (`Arguments.Supported`), so the check holds of everything that was read.
The settings of a file are checked as a whole (`Settings.Checked`).

Main result: whatever is resolved asks for no more passes than are supported
(`Task.iterations_le_of_resolve`).
-/
import TurtleTree.Program.Task
import TurtleTree.Proofs.Exchange.Faults

namespace TurtleTree

/-- A value that was mapped was there before. -/
theorem Except.exists_of_map_eq_ok {ε α β : Type} {f : α → β} {x : Except ε α} {b : β}
    (h : x.map f = .ok b) : ∃ a, x = .ok a ∧ f a = b := by
  cases x with
  | error e => exact nomatch h
  | ok a => exact ⟨a, rfl, Except.ok.inj h⟩

theorem Except.exists_of_bind_eq_ok {ε α β : Type} {f : α → Except ε β} {x : Except ε α} {b : β}
    (h : x.bind f = .ok b) : ∃ a, x = .ok a ∧ f a = .ok b := by
  cases x with
  | error e => exact nomatch h
  | ok a => exact ⟨a, rfl, h⟩

/-- Another name for a mistake does not make a value. -/
theorem Except.eq_ok_of_mapError_eq_ok {ε ε' α : Type} {f : ε → ε'} {x : Except ε α} {a : α}
    (h : x.mapError f = .ok a) : x = .ok a := by
  cases x with
  | error e => exact nomatch h
  | ok b => exact congrArg Except.ok (Except.ok.inj h)

namespace Arguments

/-! ### The command line -/

/-- The number of passes, if one was given, is supported. -/
def Supported (a : Arguments) : Prop := ∀ n ∈ a.iterations, n ≤ Parameters.maxIterations

variable {a b : Arguments}

theorem le_of_upTo {high n : UInt32} {text : String} (h : upTo high.toNat text = .ok n) :
    n ≤ high := by
  rcases hread : ArgumentText.intWithin? 0 high.toNat text with - | i
  · rw [upTo, hread] at h
    exact nomatch h
  · rw [upTo, hread] at h
    obtain rfl := Except.ok.inj h
    obtain ⟨hlow, hhigh⟩ : 0 ≤ i ∧ i ≤ high.toNat := by
      simpa using (Option.filter_eq_some_iff.mp hread).2
    have hsmall : i.toNat < UInt32.size := by
      have := high.toNat_lt_size
      omega
    show UInt32.ofNat i.toNat ≤ high
    rw [UInt32.le_iff_toNat_le, UInt32.toNat_ofNat_of_lt' hsmall]
    omega

/-- Only the option for the number of passes sets it, and that one is checked. -/
theorem supported_give {o : ValueOption} {text : String} (ha : a.Supported)
    (h : a.give o text = .ok b) : b.Supported := by
  cases o with
  | iterations =>
    -- given twice, the option is refused, so what is there now is what was checked
    obtain ⟨iterations, honce, rfl⟩ := Except.exists_of_map_eq_ok h
    rw [once] at honce
    split at honce
    · exact nomatch honce
    · obtain ⟨n, hn, rfl⟩ := Except.exists_of_map_eq_ok honce
      rintro m ⟨⟩
      exact le_of_upTo hn
  | _ =>
    obtain ⟨x, -, rfl⟩ := Except.exists_of_map_eq_ok h
    exact ha

theorem supported_turnOn {o : SwitchOption} (ha : a.Supported) (h : a.turnOn o = .ok b) :
    b.Supported := by
  cases o <;>
  · simp only [turnOn] at h
    split at h
    · exact nomatch h
    · obtain rfl := Except.ok.inj h
      exact ha

theorem supported_settle {pending : Pending} (ha : a.Supported) (h : a.settle pending = .ok b) :
    b.Supported := by
  rcases pending with - | ⟨o, - | text⟩
  · exact Except.ok.inj h ▸ ha
  · exact nomatch h
  · exact supported_give ha h

theorem supported_readLong {pending : Pending} {s : List Char} {r : Arguments × Pending}
    (ha : a.Supported) (h : a.readLong pending s = .ok r) : r.1.Supported := by
  rw [readLong] at h
  split at h
  · exact nomatch h
  · obtain ⟨b, hb, h⟩ := Except.exists_of_bind_eq_ok h
    obtain ⟨c, hc, rfl⟩ := Except.exists_of_map_eq_ok h
    exact supported_give (supported_settle ha hb) hc
  · obtain ⟨b, hb, rfl⟩ := Except.exists_of_map_eq_ok h
    exact supported_settle ha hb
  · obtain ⟨b, hb, h⟩ := Except.exists_of_bind_eq_ok h
    obtain ⟨c, hc, rfl⟩ := Except.exists_of_map_eq_ok h
    exact supported_turnOn (supported_settle ha hb) hc
  · obtain ⟨b, -, h⟩ := Except.exists_of_bind_eq_ok h
    exact nomatch h
  · exact nomatch h

theorem supported_readShort {pending : Pending} {text : String} {s : List Char}
    {r : Arguments × Pending} (ha : a.Supported) (h : a.readShort pending text s = .ok r) :
    r.1.Supported := by
  rw [readShort] at h
  split at h
  · exact Except.ok.inj h ▸ ha
  · split at h
    · obtain ⟨b, -, h⟩ := Except.exists_of_bind_eq_ok h
      exact nomatch h
    · exact nomatch h

theorem supported_readBare {pending : Pending} {text : String} {r : Arguments × Pending}
    (ha : a.Supported) (h : a.readBare pending text = .ok r) : r.1.Supported := by
  rcases pending with - | ⟨o, - | value⟩
  · exact nomatch h
  · exact Except.ok.inj h ▸ ha
  · exact nomatch h

theorem supported_readOne {pending : Pending} {text : String} {r : Arguments × Pending}
    (ha : a.Supported) (h : a.readOne pending text = .ok r) : r.1.Supported := by
  rw [readOne] at h
  split at h
  · exact supported_readLong ha h
  · exact supported_readShort ha h
  · exact supported_readBare ha h

theorem supported_readAll {pending : Pending} {texts : List String} (ha : a.Supported)
    (h : a.readAll pending texts = .ok b) : b.Supported := by
  induction texts generalizing a pending with
  | nil => exact supported_settle ha h
  | cons text texts ih =>
    rw [readAll] at h
    split at h
    · split at h
      · exact supported_settle ha h
      · exact nomatch h
    · obtain ⟨r, hr, h⟩ := Except.exists_of_bind_eq_ok h
      exact ih (supported_readOne ha hr) h

/-- **A command line that is read** asks for no more passes than are supported. -/
theorem supported_parse {arguments : List String} (h : parse arguments = .ok a) :
    a.Supported := by
  have hnone : none.Supported := fun n hn => absurd hn (by simp [none])
  exact supported_readAll hnone h

end Arguments

/-! ### Share strings -/

namespace Share

/-- Every text that is read as a share string has gone through the check of its payload. -/
theorem iterations_le_of_decode {text : String} {p : Parameters} (h : decode text = .ok p) :
    p.iterations ≤ Parameters.maxIterations := by
  obtain ⟨octets, -, -, hfew⟩ := decode_eq_ok_iff.mp h
  exact hfew

end Share

namespace Settings

/-! ### Settings -/

/-- What every accepted file has: a colour to draw from, time between two polls, and not too
many passes. -/
structure Checked (s : Settings) : Prop where
  colors : s.leafPalette ≠ some []
  poll : s.pollMilliseconds ≠ some 0
  iterations : s.parameters.iterations ≤ Parameters.maxIterations

variable {s s' : Settings}

/-- Settings that are checked stay as they are. -/
theorem checked_of_check (h : s.check = .ok s') : s' = s ∧ s.Checked := by
  rw [check] at h
  split at h
  · exact nomatch h
  · next hcolors =>
    split at h
    · exact nomatch h
    · next hpoll =>
      split at h
      · exact nomatch h
      · next hpasses => exact ⟨(Except.ok.inj h).symm, hcolors, hpoll, UInt32.not_lt.mp hpasses⟩

/-- The settings of a file are those of its table. -/
theorem exists_table_of_load {path : String} {octets : Option (List UInt8)}
    (h : load path octets = .ok s) :
    s.Checked ∧ ∃ text table, octets.bind Octets.toText? = some text ∧
      Toml.parse? text = some table ∧ ofTable? table = some s := by
  rw [load] at h
  split at h
  · next text htext =>
    rw [parse] at h
    split at h
    · next s' hread =>
      obtain ⟨table, htable, hread⟩ := Option.bind_eq_some_iff.mp hread
      obtain ⟨rfl, hchecked⟩ := checked_of_check h
      exact ⟨hchecked, text, table, htext, htable, hread⟩
    · exact nomatch h
  · exact nomatch h

theorem checked_standard : standard.Checked where
  colors := nofun
  poll := nofun
  iterations := by decide

end Settings

namespace Task

/-! ### Resolved tasks -/

variable {a : Arguments} {file : Option (List UInt8)}

/-- With a file or without, settings are as if checked. -/
theorem checked_of_settings? {s : Settings} (h : settings? a file = .ok s) : s.Checked := by
  rw [settings?] at h
  split at h
  · exact (Settings.exists_table_of_load (Except.eq_ok_of_mapError_eq_ok h)).1
  · obtain rfl := Except.ok.inj h
    exact Settings.checked_standard

theorem iterations_le_of_base? {s : Settings} {p : Parameters}
    (hs : s.parameters.iterations ≤ Parameters.maxIterations) (h : base? a s = .ok p) :
    p.iterations ≤ Parameters.maxIterations := by
  rw [base?] at h
  split at h
  · exact Share.iterations_le_of_decode (Except.eq_ok_of_mapError_eq_ok h)
  · exact Except.ok.inj h ▸ hs

/-- The settings are read first, then the parameters that the options replace. -/
theorem resolve_eq_ok_iff {t : Task} :
    resolve a file = .ok t ↔
      ∃ s p, settings? a file = .ok s ∧ base? a s = .ok p ∧ ⟨a, s, a.overrideParameters p⟩ = t := by
  constructor
  · intro h
    obtain ⟨s, hs, h⟩ := Except.exists_of_bind_eq_ok h
    obtain ⟨p, hp, h⟩ := Except.exists_of_bind_eq_ok h
    exact ⟨s, p, hs, hp, Except.ok.inj h⟩
  · rintro ⟨s, p, hs, hp, rfl⟩
    have hbind : resolve a file = (settings? a file).bind fun s =>
        (base? a s).bind fun p => .ok ⟨a, s, a.overrideParameters p⟩ := rfl
    simp only [hbind, hs, hp, Except.bind]

/-- **A task that is resolved** asks for no more passes than are supported, wherever their
number comes from. -/
theorem iterations_le_of_resolve {arguments : List String} {t : Task}
    (hparse : Arguments.parse arguments = .ok a) (hresolve : resolve a file = .ok t) :
    t.parameters.iterations ≤ Parameters.maxIterations := by
  obtain ⟨s, p, hs, hp, rfl⟩ := resolve_eq_ok_iff.mp hresolve
  -- the number is that of the command line, or it was checked where it was read
  show a.iterations.getD p.iterations ≤ Parameters.maxIterations
  rcases hgiven : a.iterations with - | n
  · exact iterations_le_of_base? (checked_of_settings? hs).iterations hp
  · exact Arguments.supported_parse hparse n hgiven

end Task

end TurtleTree

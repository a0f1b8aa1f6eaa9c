/-
TurtleTree/Program/Arguments.lean

The command line: options with a value, switches, and nothing else.

An option is given as `--name value` or `--name=value`, at most once.  A value
that is an argument of its own is looked at only when the option is complete,
that is when the next option is recognised or the arguments end; so a mistake in
what follows is reported before a mistake in the value.

Design.  Reading is a fold over the arguments with two pieces of state: what was
given so far, and the option that still waits for its value or has one waiting
to be looked at.
-/
import TurtleTree.Number.Numeral
import TurtleTree.Parameters

namespace TurtleTree

/-- What a command line asks for. -/
structure Arguments where
  /-- File with settings. -/
  config : Option String
  seed : Option UInt64
  ruleSet : Option UInt32
  iterations : Option UInt32
  angle : Option Float32
  branchLength : Option Float32
  branchWidth : Option Float32
  leafLength : Option Float32
  leafStartWidth : Option Float32
  leafEndWidth : Option Float32
  angleVariance : Option Int32
  randomMode : Bool
  randomLeafColor : Bool
  growthObserved : Bool
  /-- Share string to start from. -/
  importing : Option String
  /-- Print a share string. -/
  share : Bool
  /-- File to write the tree to. -/
  exporting : Option String
  /-- Open the viewer. -/
  view : Bool
deriving DecidableEq

/-- An option with a value. -/
inductive ValueOption where
  | config
  | seed
  | ruleSet
  | iterations
  | angle
  | branchLength
  | branchWidth
  | leafLength
  | leafStartWidth
  | leafEndWidth
  | angleVariance
  | importing
  | exporting
deriving DecidableEq, Repr

/-- An option without a value. -/
inductive SwitchOption where
  | randomMode
  | randomLeafColor
  | growthObserved
  | share
  | view
deriving DecidableEq, Repr

/-- What an option name stands for. -/
inductive OptionKind where
  | value (o : ValueOption)
  | switch (o : SwitchOption)
  | help
deriving DecidableEq, Repr

/-- Why a command line is not carried out. -/
inductive ArgumentError where
  /-- There is no such option, or an argument belongs to none. -/
  | unknown
  /-- An option was given twice. -/
  | repeated
  /-- An option has no value, or an empty one where there has to be a path. -/
  | missingValue
  /-- A switch was given a value. -/
  | unexpectedValue
  /-- A value is not a number in range. -/
  | invalidValue
  /-- Help was asked for. -/
  | help
deriving DecidableEq, Repr

/-! ### Numbers -/

namespace ArgumentText

/-- The sign in front of a number, and the rest. -/
def splitSign : List Char → Bool × List Char
  | '-' :: rest => (true, rest)
  | '+' :: rest => (false, rest)
  | s => (false, s)

/-- A whole number with an optional sign. -/
def int? (s : String) : Option Int :=
  let (negative, digits) := splitSign s.toList
  if digits.isEmpty || !digits.all Char.isDigit then none
  else
    let n : Int := Numeral.valueOf digits
    some (if negative then -n else n)

/-- A whole number between two bounds. -/
def intWithin? (low high : Int) (s : String) : Option Int :=
  (int? s).filter fun n => low ≤ n && n ≤ high

/-- A whole number without a minus sign that fits into 64 bits. -/
def word? (s : String) : Option UInt64 :=
  if s.toList.head? = some '-' then none
  else (intWithin? 0 (2 ^ 64 - 1) s).map fun n => UInt64.ofNat n.toNat

/-- Are two texts of ASCII letters the same up to case? -/
def sameWord (s : List Char) (word : String) : Bool := s.map Char.toLower == word.toList

/-- The number of an exponent behind its letter. -/
def power? (s : List Char) : Option Int :=
  let (negative, digits) := splitSign s
  if digits.isEmpty || !digits.all Char.isDigit then none
  else
    let n : Int := Numeral.valueOf digits
    some (if negative then -n else n)

/-- A decimal number without its sign.  One side of the point may be empty. -/
def decimal? (negative : Bool) (s : List Char) : Option Numeral :=
  let (whole, rest) := s.span Char.isDigit
  let (fraction, rest) :=
    match rest with
    | '.' :: rest => rest.span Char.isDigit
    | rest => ([], rest)
  if whole.isEmpty && fraction.isEmpty then none
  else
    match rest with
    | [] => some (Numeral.ofParts negative whole fraction 0)
    | c :: rest =>
      if c == 'e' || c == 'E' then (power? rest).map (Numeral.ofParts negative whole fraction)
      else none

/-- A number, rounded to the nearest single, or the name of an infinity or of what
is not a number. -/
def single? (s : String) : Option Float32 :=
  let (negative, rest) := splitSign s.toList
  if sameWord rest "inf" || sameWord rest "infinity" then
    some (Single.withSign negative Single.infinity)
  else if sameWord rest "nan" then some Single.notANumber
  else (decimal? negative rest).map Numeral.toSingle

/-- The text behind a minus sign looks like a number: digits, a point that is not
the first character, and an exponent without a sign. -/
def looksNumeric (s : List Char) : Bool :=
  let tail := (s.dropWhile Char.isDigit)
  let afterPoint :=
    match tail with
    | '.' :: rest => if s.head? = some '.' then tail else rest.dropWhile Char.isDigit
    | rest => rest
  match afterPoint with
  | [] => true
  | [_] => false
  | c :: rest => (c == 'e' || c == 'E') && s.head? ≠ some c && rest.all Char.isDigit

end ArgumentText

namespace Arguments

/-- Nothing is asked for. -/
def none : Arguments where
  config := .none
  seed := .none
  ruleSet := .none
  iterations := .none
  angle := .none
  branchLength := .none
  branchWidth := .none
  leafLength := .none
  leafStartWidth := .none
  leafEndWidth := .none
  angleVariance := .none
  randomMode := false
  randomLeafColor := false
  growthObserved := false
  importing := .none
  share := false
  exporting := .none
  view := false

instance : Inhabited Arguments := ⟨none⟩

/-! ### Options -/

/-- All options, with their names behind the two dashes. -/
def options : List (String × OptionKind) := [
  ("config", .value .config),
  ("seed", .value .seed),
  ("rule-set", .value .ruleSet),
  ("iterations", .value .iterations),
  ("angle", .value .angle),
  ("branch-length", .value .branchLength),
  ("branch-width", .value .branchWidth),
  ("leaf-length", .value .leafLength),
  ("leaf-start-width", .value .leafStartWidth),
  ("leaf-end-width", .value .leafEndWidth),
  ("angle-variance", .value .angleVariance),
  ("random-mode", .switch .randomMode),
  ("random-leaf-color", .switch .randomLeafColor),
  ("growth-observed", .switch .growthObserved),
  ("import", .value .importing),
  ("share", .switch .share),
  ("export", .value .exporting),
  ("view", .switch .view),
  ("help", .help)]

/-- The value of an option that may be given once. -/
def once {α : Type} (current : Option α) (value : Except ArgumentError α) :
    Except ArgumentError (Option α) :=
  if current.isSome then .error .repeated else value.map some

/-- A value that has to be one of a kind. -/
def valid {α : Type} : Option α → Except ArgumentError α
  | some x => .ok x
  | .none => .error .invalidValue

/-- A path is not empty. -/
def path (text : String) : Except ArgumentError String :=
  if text.isEmpty then .error .missingValue else .ok text

/-- A number of 32 bits up to a bound. -/
def upTo (high : Nat) (text : String) : Except ArgumentError UInt32 :=
  valid ((ArgumentText.intWithin? 0 high text).map fun n => UInt32.ofNat n.toNat)

/-- A single. -/
def measure (text : String) : Except ArgumentError Float32 := valid (ArgumentText.single? text)

/-- Give an option its value. -/
def give (a : Arguments) (o : ValueOption) (text : String) : Except ArgumentError Arguments :=
  match o with
  | .config => (once a.config (path text)).map fun config => { a with config }
  | .seed => (once a.seed (valid (ArgumentText.word? text))).map fun seed => { a with seed }
  | .ruleSet => (once a.ruleSet (upTo (2 ^ 32 - 1) text)).map fun ruleSet => { a with ruleSet }
  | .iterations =>
    (once a.iterations (upTo Parameters.maxIterations.toNat text)).map fun iterations =>
      { a with iterations }
  | .angle => (once a.angle (measure text)).map fun angle => { a with angle }
  | .branchLength =>
    (once a.branchLength (measure text)).map fun branchLength => { a with branchLength }
  | .branchWidth =>
    (once a.branchWidth (measure text)).map fun branchWidth => { a with branchWidth }
  | .leafLength => (once a.leafLength (measure text)).map fun leafLength => { a with leafLength }
  | .leafStartWidth =>
    (once a.leafStartWidth (measure text)).map fun leafStartWidth => { a with leafStartWidth }
  | .leafEndWidth =>
    (once a.leafEndWidth (measure text)).map fun leafEndWidth => { a with leafEndWidth }
  | .angleVariance =>
    (once a.angleVariance
      (valid ((ArgumentText.intWithin? (-(2 ^ 31)) (2 ^ 31 - 1) text).map Int32.ofInt))).map
        fun angleVariance => { a with angleVariance }
  | .importing => (once a.importing (.ok text)).map fun importing => { a with importing }
  | .exporting => (once a.exporting (path text)).map fun exporting => { a with exporting }

/-- Turn a switch on. -/
def turnOn (a : Arguments) : SwitchOption → Except ArgumentError Arguments
  | .randomMode =>
    if a.randomMode then .error .repeated else .ok { a with randomMode := true }
  | .randomLeafColor =>
    if a.randomLeafColor then .error .repeated else .ok { a with randomLeafColor := true }
  | .growthObserved =>
    if a.growthObserved then .error .repeated else .ok { a with growthObserved := true }
  | .share => if a.share then .error .repeated else .ok { a with share := true }
  | .view => if a.view then .error .repeated else .ok { a with view := true }

/-! ### Reading -/

/-- The option that is not complete yet, with its value if it has come. -/
abbrev Pending := Option (ValueOption × Option String)

/-- Complete the pending option. -/
def settle (a : Arguments) : Pending → Except ArgumentError Arguments
  | .none => .ok a
  | some (_, .none) => .error .missingValue
  | some (o, some text) => a.give o text

/-- The name of an option and the value attached to it. -/
def splitLong (s : List Char) : String × Option String :=
  let name := String.ofList (s.takeWhile (· ≠ '='))
  match s.dropWhile (· ≠ '=') with
  | [] => (name, .none)
  | _ :: value => (name, some (String.ofList value))

/-- An argument that starts with two dashes. -/
def readLong (a : Arguments) (pending : Pending) (s : List Char) :
    Except ArgumentError (Arguments × Pending) :=
  match options.lookup (splitLong s).1, (splitLong s).2 with
  | .none, _ => .error .unknown
  | some (.value o), some text =>
    (a.settle pending).bind fun a => (a.give o text).map (·, .none)
  | some (.value o), .none => (a.settle pending).map (·, some (o, .none))
  | some (.switch o), .none =>
    (a.settle pending).bind fun a => (a.turnOn o).map (·, .none)
  | some .help, .none => (a.settle pending).bind fun _ => .error .help
  | some _, some _ => .error .unexpectedValue

/-- An argument that starts with a single dash: a negative number for the option
that takes one, or the short form of help. -/
def readShort (a : Arguments) (pending : Pending) (text : String) (s : List Char) :
    Except ArgumentError (Arguments × Pending) :=
  if pending = some (.angleVariance, .none) && ArgumentText.looksNumeric s then
    .ok (a, some (.angleVariance, some text))
  else if s.head? = some 'h' then (a.settle pending).bind fun _ => .error .help
  else .error .unknown

/-- An argument that is no option: the value an option waits for. -/
def readBare (a : Arguments) (pending : Pending) (text : String) :
    Except ArgumentError (Arguments × Pending) :=
  match pending with
  | some (o, .none) => .ok (a, some (o, some text))
  | _ => .error .unknown

/-- One argument. -/
def readOne (a : Arguments) (pending : Pending) (text : String) :
    Except ArgumentError (Arguments × Pending) :=
  match text.toList with
  | '-' :: '-' :: s => a.readLong pending s
  | '-' :: c :: s => a.readShort pending text (c :: s)
  | _ => a.readBare pending text

/-- All arguments.  Behind two lone dashes nothing may follow. -/
def readAll (a : Arguments) (pending : Pending) : List String → Except ArgumentError Arguments
  | [] => a.settle pending
  | text :: rest =>
    if text = "--" then if rest.isEmpty then a.settle pending else .error .unknown
    else (a.readOne pending text).bind fun (a, pending) => readAll a pending rest

/-- The arguments of a command line. -/
def parse (arguments : List String) : Except ArgumentError Arguments :=
  none.readAll .none arguments

/-! ### Use -/

/-- The parameters with everything replaced that the command line gives.  A switch
can only be turned on. -/
def overrideParameters (a : Arguments) (p : Parameters) : Parameters where
  ruleSet := (a.ruleSet.map RuleSetId.mk).getD p.ruleSet
  iterations := a.iterations.getD p.iterations
  angle := a.angle.getD p.angle
  branchLength := a.branchLength.getD p.branchLength
  branchWidth := a.branchWidth.getD p.branchWidth
  leafLength := a.leafLength.getD p.leafLength
  leafStartWidth := a.leafStartWidth.getD p.leafStartWidth
  leafEndWidth := a.leafEndWidth.getD p.leafEndWidth
  randomMode := p.randomMode || a.randomMode
  angleVariance := a.angleVariance.getD p.angleVariance
  randomLeafColor := p.randomLeafColor || a.randomLeafColor
  growthObserved := p.growthObserved || a.growthObserved

end Arguments

end TurtleTree

/-
TurtleTree/Exchange/Share.lean

Share strings: a set of parameters on one line of text.

A share string has three parts with colons between them: a name, a version, and
the compact JSON text of the parameters in base64.  Blanks around it are ignored
on reading, and a payload may leave parameters out.

Design.  The steps of reading are tried in a fixed order, and the first that
fails is the reason given.  Everything behind the second colon is payload, so a
third colon is a character that base64 does not have.
-/
import TurtleTree.Exchange.Records
import TurtleTree.Text.Base64
import TurtleTree.Text.Blank

namespace TurtleTree

/-- Why a text is not a share string that can be used. -/
inductive ShareError where
  /-- There is nothing but blanks. -/
  | empty
  | missingVersion
  | missingPayload
  /-- The name is another one. -/
  | unknownName (name : String)
  | unknownVersion (version : String)
  /-- The payload is not base64. -/
  | badEncoding
  /-- The payload does not hold parameters. -/
  | badPayload
  /-- The parameters ask for too many passes. -/
  | tooManyIterations (iterations : UInt32)
deriving DecidableEq, Repr

namespace ShareError

/-- The reason in words. -/
def message : ShareError → String
  | empty => "share string was empty"
  | missingVersion => "share string is missing the version"
  | missingPayload => "share string is missing the payload"
  | unknownName name => "share prefix '" ++ name ++ "' is not supported"
  | unknownVersion version => "share version '" ++ version ++ "' is not supported"
  | badEncoding => "could not decode share payload"
  | badPayload => "could not parse share payload"
  | tooManyIterations iterations =>
    "share payload requests " ++ toString iterations.toNat ++ " iterations, at most "
      ++ toString Parameters.maxIterations.toNat ++ " are supported"

end ShareError

namespace Share

/-- Name in front of a share string. -/
def name : List Char := ['a', 'r', 'b', 'o', 'r']

/-- Version of the format. -/
def version : List Char := ['v', '1']

/-- The payload of a set of parameters. -/
def payload (p : Parameters) : List Char := Base64.encode (Octets.ofChars p.toJson.compact)

/-- The share string of a set of parameters. -/
def encode (p : Parameters) : String :=
  String.ofList (name ++ ':' :: (version ++ ':' :: payload p))

/-- The parts of a text between its first two colons; everything behind the second
one is the third part. -/
def split (s : List Char) : Except ShareError (List Char × List Char × List Char) :=
  let first := s.takeWhile (· ≠ ':')
  match s.dropWhile (· ≠ ':') with
  | [] => .error .missingVersion
  | _ :: rest =>
    let second := rest.takeWhile (· ≠ ':')
    match rest.dropWhile (· ≠ ':') with
    | [] => .error .missingPayload
    | _ :: third => .ok (first, second, third)

/-- The parameters of a payload. -/
def decodePayload (symbols : List Char) : Except ShareError Parameters :=
  match Base64.decode? symbols with
  | none => .error .badEncoding
  | some octets =>
    match Parameters.parse? octets with
    | none => .error .badPayload
    | some p =>
      if Parameters.maxIterations < p.iterations then .error (.tooManyIterations p.iterations)
      else .ok p

/-- The parameters of a share string without blanks around it. -/
def decodeTrimmed (s : List Char) : Except ShareError Parameters :=
  if s.isEmpty then .error .empty
  else
    match split s with
    | .error e => .error e
    | .ok (first, second, third) =>
      if first ≠ name then .error (.unknownName (String.ofList first))
      else if second ≠ version then .error (.unknownVersion (String.ofList second))
      else decodePayload third

/-- The parameters of a share string. -/
def decode (text : String) : Except ShareError Parameters := decodeTrimmed (trim text.toList)

end Share

end TurtleTree

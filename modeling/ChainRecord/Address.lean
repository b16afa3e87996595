import ChainRecord.Address.Checksum
import ChainRecord.Text.Quoted

/-!
# Addresses

An address text is a human readable part, the separator `1`, the data in symbols of five bits, and
six check symbols. The human readable part names what the bytes are the address of: accounts and
validators of a chain have parts of their own, and the same bytes under both name one key.

Reading takes texts in one case, upper or lower, and reports the human readable part in lower case.
It takes both generations of the checksum and drops surplus bits of the last symbol, so several
texts can denote one address. Writing is canonical: lower case, first generation, zero fill.
-/

namespace ChainRecord

/-- What a text that is an address denotes. -/
structure Address where
  /-- The part in front of the separator, in lower case. -/
  humanPart : String
  /-- The bytes. -/
  bytes : Bytes
  deriving DecidableEq, Repr

namespace Address

/-- Why a text is no human readable part. -/
inductive HumanPartFault where
  /-- It is empty. -/
  | empty
  /-- It has too many bytes. -/
  | tooLong (byteCount : Nat)
  /-- A character is not ASCII. -/
  | notAscii (c : Char)
  /-- A character is a space or a control. -/
  | notVisible (c : Char)
  /-- It has letters of both cases. -/
  | mixedCase
  deriving DecidableEq, Repr

/-- Why bytes have no address text. -/
inductive WriteError where
  /-- The human readable part is none. -/
  | humanPart (fault : HumanPartFault)
  /-- The text would be too long. -/
  | tooLong
  deriving DecidableEq, Repr

/-- The text of a fault. -/
def HumanPartFault.message : HumanPartFault → String
  | .empty => "hrp is empty, must have at least 1 character"
  | .tooLong n => "hrp is too long, found " ++ toString n ++ " characters, must be <= 126"
  | .notAscii c => "found non-ASCII character: " ++ String.singleton c
  | .notVisible c => "byte value is not valid US-ASCII: '" ++ Text.hexNumeral c.toNat ++ "'"
  | .mixedCase => "hrp cannot mix upper and lower case"

/-- The text of an error. -/
def WriteError.message : WriteError → String
  | .humanPart fault => "invalid address prefix: " ++ fault.message
  | .tooLong => "address encoding failed: encode error"

/-- The greatest number of bytes in a human readable part. -/
def maxHumanPart : Nat := 83

/-- The greatest number of characters in an address. -/
def maxLength : Nat := 1023

/-- The number of check symbols. -/
def checkLength : Nat := 6

/-- Checks the characters of a human readable part from the left. The flags say which cases have
been met. -/
def checkHumanChars : (upper lower : Bool) → List Char → Except HumanPartFault Unit
  | _, _, [] => .ok ()
  | upper, lower, c :: cs =>
    if 127 < c.toNat then .error (.notAscii c)
    else if c.toNat < 33 ∨ 126 < c.toNat then .error (.notVisible c)
    else if c.isLower then
      if upper then .error .mixedCase else checkHumanChars upper true cs
    else if c.isUpper then
      if lower then .error .mixedCase else checkHumanChars true lower cs
    else checkHumanChars upper lower cs

/-- Checks a human readable part. -/
def checkHumanPart (humanPart : String) : Except HumanPartFault Unit :=
  if humanPart.isEmpty then .error .empty
  else if maxHumanPart < humanPart.utf8ByteSize then .error (.tooLong humanPart.utf8ByteSize)
  else checkHumanChars false false humanPart.toList

/-- Lower case of ASCII letters. -/
def lowerChars (cs : List Char) : List Char :=
  cs.map Char.toLower

/-- The text before the last separator and the text behind it. -/
def splitAtSeparator? (cs : List Char) : Option (List Char × List Char) :=
  match cs.reverse.span (· ≠ '1') with
  | (_, []) => none
  | (data, _ :: humanPart) => some (humanPart.reverse, data.reverse)

/-- Whether a text has letters of both cases. -/
def hasMixedCase (cs : List Char) : Bool :=
  cs.any Char.isLower && cs.any Char.isUpper

/-- What an address text denotes, if it is one. -/
def ofText? (text : String) : Option Address := do
  let cs := text.toList
  let (humanPart, dataChars) ← splitAtSeparator? cs
  let data ← dataChars.mapM charSymbol?
  if hasMixedCase cs ∨ maxLength < cs.length ∨ data.length < checkLength then none
  else
    match checkHumanPart (String.ofList humanPart) with
    | .error _ => none
    | .ok () =>
      if isIntact (lowerChars humanPart) data then
        some ⟨String.ofList (lowerChars humanPart),
          bytesOfSymbols (data.take (data.length - checkLength))⟩
      else none

/-- The text of an address, without its limits. -/
def textChars (humanPart : List Char) (bytes : Bytes) : List Char :=
  let data := symbolsOfBytes bytes
  humanPart ++ '1' :: (data ++ checkSymbols humanPart data).map symbolChar

/-- The address text of bytes under a human readable part. -/
def toText (humanPart : String) (bytes : Bytes) : Except WriteError String :=
  match checkHumanPart humanPart with
  | .error fault => .error (.humanPart fault)
  | .ok () =>
    let cs := textChars (lowerChars humanPart.toList) bytes
    if maxLength < cs.length then .error .tooLong else .ok (String.ofList cs)

end Address

end ChainRecord

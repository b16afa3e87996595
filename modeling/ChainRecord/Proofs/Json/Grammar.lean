import ChainRecord.Json.Reader
import ChainRecord.Proofs.NumeralValue

/-!
# The grammar of JSON

Which texts are written for which values, said without reading them. One value has many texts:
blanks may stand between tokens, a character of a string may be written as it is, by a letter or by
its number, and members may be written in any order. A text is written for one value all the same,
which is shown by reading it.

Nesting is said by levels, so that the number of containers that are open at once is part of the
grammar: a value of level zero is no container, and one of the next level may contain values of the
level before. Integers of sixty-four bits are said in base ten. For other numbers the grammar says
which texts are numbers, and leaves it to the reader of numbers to which double they are rounded.
-/

namespace ChainRecord.Json

open Numeral

/-- Characters that may stand between tokens. -/
def IsBlanks (cs : List Char) : Prop :=
  ∀ c ∈ cs, c = ' ' ∨ c = '\t' ∨ c = '\n' ∨ c = '\r'

/-! ### Strings -/

/-- A hexadecimal digit of either case is written for a number. -/
def IsHexDigit (n : Nat) (c : Char) : Prop :=
  n < 16 ∧ (c = Hex.digit n ∨ c = (Hex.digit n).toUpper)

/-- Four hexadecimal digits are written for a number. -/
inductive HexForm : Nat → List Char → Prop
  /-- The first digit counts most. -/
  | mk {p q r s : Nat} {a b c d : Char} : IsHexDigit p a → IsHexDigit q b → IsHexDigit r c →
      IsHexDigit s d → HexForm (4096 * p + 256 * q + 16 * r + s) [a, b, c, d]

/-- A letter stands for a character behind a backslash. -/
inductive LetterForm : Char → Char → Prop
  /-- A quote stands for itself. -/
  | quote : LetterForm '"' '"'
  /-- A backslash stands for itself. -/
  | backslash : LetterForm '\\' '\\'
  /-- A slash stands for itself. -/
  | solidus : LetterForm '/' '/'
  /-- One step back. -/
  | backspace : LetterForm '\x08' 'b'
  /-- A new page. -/
  | formFeed : LetterForm '\x0c' 'f'
  /-- A new line. -/
  | lineFeed : LetterForm '\n' 'n'
  /-- Back to the beginning of the line. -/
  | carriageReturn : LetterForm '\r' 'r'
  /-- A tab. -/
  | tab : LetterForm '\t' 't'

/-- A character inside a string is written in one of four ways. -/
inductive CharForm (c : Char) : List Char → Prop
  /-- As it is, unless it is a control, a quote or a backslash. -/
  | plain : 32 ≤ c.toNat → c ≠ '"' → c ≠ '\\' → CharForm c [c]
  /-- By a letter. -/
  | letter {letter : Char} : LetterForm c letter → CharForm c ['\\', letter]
  /-- By its number. -/
  | number {digits : List Char} : HexForm c.toNat digits → CharForm c ('\\' :: 'u' :: digits)
  /-- By the two halves of a surrogate pair, if its number has more than sixteen bits. -/
  | pair {high low : Nat} {digits digits' : List Char} : HexForm high digits →
      HexForm low digits' → 0xd800 ≤ high → high ≤ 0xdbff → 0xdc00 ≤ low → low ≤ 0xdfff →
      c.toNat = 0x10000 + 0x400 * (high - 0xd800) + (low - 0xdc00) →
      CharForm c ('\\' :: 'u' :: digits ++ '\\' :: 'u' :: digits')

/-- Characters inside a string are written one after the other, each in its own way. -/
inductive CharsForm : List Char → List Char → Prop
  /-- No character. -/
  | nil : CharsForm [] []
  /-- A character and further ones. -/
  | cons {c : Char} {cs form text : List Char} : CharForm c form → CharsForm cs text →
      CharsForm (c :: cs) (form ++ text)

/-- A string is written in quotes. -/
inductive StringForm : String → List Char → Prop
  /-- The characters between the quotes are those of the string. -/
  | mk {s : String} {body : List Char} : CharsForm s.toList body →
      StringForm s ('"' :: body ++ ['"'])

/-! ### Numbers -/

/-- Digits of which the first one is no zero, or a single zero. -/
def IsPlainDigits (cs : List Char) : Prop :=
  IsDigits cs ∧ (cs.head? = some '0' → cs = ['0'])

/-- Digits behind the point, if there are any. -/
inductive FractionForm : List Char → List Char → Prop
  /-- No point. -/
  | none : FractionForm [] []
  /-- A point and digits. -/
  | some {digits : List Char} : IsDigits digits → FractionForm digits ('.' :: digits)

/-- An exponent, if there is one. -/
inductive ExponentForm : Option Int → List Char → Prop
  /-- No exponent. -/
  | none : ExponentForm none []
  /-- A mark and an integer, which may have a sign. -/
  | some {mark : Char} {n : Int} {cs : List Char} : mark = 'e' ∨ mark = 'E' → IsWritten cs n →
      ExponentForm (some n) (mark :: cs)

/-- A number text, by its parts. -/
inductive NumberTextForm : NumberText → List Char → Prop
  /-- Only a minus may stand in front. -/
  | mk {negative : Bool} {whole fraction fractionText exponentText : List Char}
      {exponent : Option Int} : IsPlainDigits whole → FractionForm fraction fractionText →
      ExponentForm exponent exponentText →
      NumberTextForm ⟨negative, whole, fraction, exponent⟩
        ((if negative then ['-'] else []) ++ whole ++ fractionText ++ exponentText)

/-- A number is written in digits. -/
inductive NumberForm : Number → List Char → Prop
  /-- A number that is not negative and has sixty-four bits. -/
  | natural {digits : List Char} : IsPlainDigits digits → numberOf digits < 2 ^ 64 →
      NumberForm (.int (numberOf digits)) digits
  /-- A negative number of sixty-four bits. -/
  | negative {digits : List Char} : IsPlainDigits digits → 0 < numberOf digits →
      numberOf digits ≤ 2 ^ 63 → NumberForm (.int (-numberOf digits)) ('-' :: digits)
  /-- Any other number within the range of doubles. -/
  | double {t : NumberText} {negative : Bool} {magnitude : Binary64} {cs : List Char} :
      NumberTextForm t cs → t.value? = some (.double negative magnitude) →
      NumberForm (.double negative magnitude) cs

/-! ### Values -/

/-- A value that is no container. -/
inductive ScalarForm : Json → List Char → Prop
  /-- Null is written by name. -/
  | null : ScalarForm .null ['n', 'u', 'l', 'l']
  /-- Truth is written by name. -/
  | truth : ScalarForm (.bool true) ['t', 'r', 'u', 'e']
  /-- Untruth is written by name. -/
  | untruth : ScalarForm (.bool false) ['f', 'a', 'l', 's', 'e']
  /-- A number. -/
  | number {n : Number} {cs : List Char} : NumberForm n cs → ScalarForm (.number n) cs
  /-- A string. -/
  | string {s : String} {cs : List Char} : StringForm s cs → ScalarForm (.string s) cs

/-- Things with commas between them. Blanks may stand before and behind each comma and at the
end. -/
inductive SeriesForm {α : Type} (form : α → List Char → Prop) : List α → List Char → Prop
  /-- The last one. -/
  | last {a : α} {cs blanks : List Char} : form a cs → IsBlanks blanks →
      SeriesForm form [a] (cs ++ blanks)
  /-- One in front of others. -/
  | cons {a : α} {rest : List α} {cs blanks blanks' text : List Char} : form a cs →
      IsBlanks blanks → IsBlanks blanks' → SeriesForm form rest text →
      SeriesForm form (a :: rest) (cs ++ blanks ++ ',' :: blanks' ++ text)

/-- What stands between the brackets of a container. -/
inductive BodyForm {α : Type} (form : α → List Char → Prop) : List α → List Char → Prop
  /-- Blanks, if it is empty. -/
  | empty {blanks : List Char} : IsBlanks blanks → BodyForm form [] blanks
  /-- A series, if it is not. -/
  | series {items : List α} {blanks text : List Char} : IsBlanks blanks →
      SeriesForm form items text → BodyForm form items (blanks ++ text)

/-- A member of an object. -/
inductive MemberForm (form : Json → List Char → Prop) : String × Json → List Char → Prop
  /-- A key, a colon and a value, with blanks on either side of the colon. -/
  | mk {key : String} {value : Json} {keyText blanks blanks' text : List Char} :
      StringForm key keyText → IsBlanks blanks → IsBlanks blanks' → form value text →
      MemberForm form (key, value) (keyText ++ blanks ++ ':' :: blanks' ++ text)

/-- A value that may contain values of the level before. -/
inductive LevelForm (form : Json → List Char → Prop) : Json → List Char → Prop
  /-- A value that is no container. -/
  | scalar {value : Json} {cs : List Char} : ScalarForm value cs → LevelForm form value cs
  /-- An array. -/
  | array {items : List Json} {body : List Char} : BodyForm form items body →
      LevelForm form (.array items) ('[' :: body ++ [']'])
  /-- An object. -/
  | object {members : Members} {body : List Char} : BodyForm (MemberForm form) members body →
      LevelForm form (.object members) ('\x7b' :: body ++ ['\x7d'])

/-- A value in which at most so many containers are open at once. -/
def ValueForm : Nat → Json → List Char → Prop
  | 0 => ScalarForm
  | depth + 1 => LevelForm (ValueForm depth)

/-- A text of one value, between blanks, in which no more containers are open at once than may
be. -/
inductive TextForm : Json → String → Prop
  /-- The value and the blanks are all there is. -/
  | mk {value : Json} {blanks cs blanks' : List Char} : IsBlanks blanks →
      ValueForm maxOpen value cs → IsBlanks blanks' →
      TextForm value (String.ofList (blanks ++ cs ++ blanks'))

/-! ### Objects -/

/-- An object binds a key to a value: of the members with that key, the last one has it. -/
def Binds (members : Members) (key : String) (value : Json) : Prop :=
  ∃ before after, members = before ++ (key, value) :: after ∧ ∀ member ∈ after, member.1 ≠ key

end ChainRecord.Json

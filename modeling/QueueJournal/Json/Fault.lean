import QueueJournal.Decimal.Format
import QueueJournal.Json.Value
import QueueJournal.Text.Bytes
import QueueJournal.Text.Quoted

/-!
# Faults in a JSON text

What can be wrong with a text that is read, and where. A reader holds the part of the text that is
still to be read, so a place in the text is given by the number of bytes from it to the end;
`Fault.column` turns that into the number of bytes before it.

A fault of the content, such as a field that occurs twice, has no place of its own. It travels with
the text that was unread when it was found, until a reader of an enclosing value places it.
-/

namespace QueueJournal.Json

/-- How numbers are written: positionally from `0.00001` up to sixteen digits before the point, and
with a sign in front of every other exponent. -/
def numberFormat : Decimal.Format where
  leastPositional := -5
  greatestPositional := 15
  positiveExponent := ['+']

/-- What was found where something else was expected. -/
inductive Unexpected where
  /-- An integer. -/
  | integer (n : Int)
  /-- A floating-point number. -/
  | floating (x : Binary64)
  /-- A truth value. -/
  | bool (b : Bool)
  /-- A text. -/
  | string (s : List Char)
  /-- The word `null`. -/
  | null
  /-- An array. -/
  | array
  /-- An object. -/
  | object
deriving DecidableEq, Repr

/-- A number in the place of something else. -/
def Unexpected.ofNumber : Number → Unexpected
  | .integer n => .integer n
  | .floating x => .floating x

/-- How messages name what was found. -/
def Unexpected.describe : Unexpected → List Char
  | .integer n => "integer \x60".toList ++ Text.signedDecimal n ++ ['\x60']
  | .floating x => "floating point \x60".toList ++ x.render numberFormat ++ ['\x60']
  | .bool b => "boolean \x60".toList ++ (if b then "true" else "false").toList ++ ['\x60']
  | .string s => "string ".toList ++ Text.quoted s
  | .null => "null".toList
  | .array => "sequence".toList
  | .object => "map".toList

/-- What is wrong with a text. -/
inductive Cause where
  /-- The text ends where a value should begin or go on. -/
  | endInValue
  /-- The text ends inside a string. -/
  | endInString
  /-- The text ends inside an array. -/
  | endInArray
  /-- The text ends inside an object. -/
  | endInObject
  /-- A key is not followed by a colon. -/
  | noColon
  /-- An element is followed neither by a comma nor by the end of the array. -/
  | noArraySeparator
  /-- A member is followed neither by a comma nor by the end of the object. -/
  | noObjectSeparator
  /-- One of the words `null`, `true` and `false` is misspelt. -/
  | badWord
  /-- There is no value where one should be. -/
  | noValue
  /-- A backslash is not followed by an escape. -/
  | badEscape
  /-- A number is malformed. -/
  | badNumber
  /-- A number is greater than every finite number. -/
  | numberTooGreat
  /-- An escape names one half of a surrogate pair in the place of the other. -/
  | loneSurrogate
  /-- The first half of a surrogate pair is not followed by an escape. -/
  | halfSurrogatePair
  /-- A control character stands unescaped in a string. -/
  | controlCharacter
  /-- Something other than a string stands in the place of a key. -/
  | keyNotString
  /-- A comma is followed by the end of its array or object. -/
  | trailingComma
  /-- The text goes on behind its value. -/
  | trailingCharacters
  /-- Too many arrays and objects lie inside one another. -/
  | tooDeep
  /-- A value of one kind stands in the place of another. -/
  | wrongKind (found : Unexpected) (expected : String)
  /-- An integer is outside the range of its place. -/
  | outOfRange (n : Int) (expected : String)
  /-- A required field is missing. -/
  | missingField (name : String)
  /-- A field occurs twice. -/
  | repeatedField (name : String)
  /-- A name is not one of the known ones. -/
  | unknownName (name : List Char) (known : List String)
  /-- A record given as an array has too few elements. -/
  | tooFewElements (count : Nat) (expected : String)
  /-- The kind of item refuses the text. -/
  | refused (reason : String)
deriving DecidableEq, Repr

/-- A name between backticks. -/
def ticked (name : List Char) : List Char :=
  '\x60' :: name ++ ['\x60']

/-- The wording of a cause. -/
def Cause.message : Cause → List Char
  | .endInValue => "EOF while parsing a value".toList
  | .endInString => "EOF while parsing a string".toList
  | .endInArray => "EOF while parsing a list".toList
  | .endInObject => "EOF while parsing an object".toList
  | .noColon => "expected \x60:\x60".toList
  | .noArraySeparator => "expected \x60,\x60 or \x60]\x60".toList
  | .noObjectSeparator => "expected \x60,\x60 or \x60\x7d\x60".toList
  | .badWord => "expected ident".toList
  | .noValue => "expected value".toList
  | .badEscape => "invalid escape".toList
  | .badNumber => "invalid number".toList
  | .numberTooGreat => "number out of range".toList
  | .loneSurrogate => "lone leading surrogate in hex escape".toList
  | .halfSurrogatePair => "unexpected end of hex escape".toList
  | .controlCharacter =>
    "control character (\\u0000-\\u001F) found while parsing a string".toList
  | .keyNotString => "key must be a string".toList
  | .trailingComma => "trailing comma".toList
  | .trailingCharacters => "trailing characters".toList
  | .tooDeep => "recursion limit exceeded".toList
  | .wrongKind found expected =>
    "invalid type: ".toList ++ found.describe ++ ", expected ".toList ++ expected.toList
  | .outOfRange n expected =>
    "invalid value: ".toList ++ (Unexpected.integer n).describe ++ ", expected ".toList ++
      expected.toList
  | .missingField name => "missing field ".toList ++ ticked name.toList
  | .repeatedField name => "duplicate field ".toList ++ ticked name.toList
  | .unknownName name known =>
    "unknown variant ".toList ++ ticked name ++ ", expected one of ".toList ++
      [',', ' '].intercalate (known.map fun k ↦ ticked k.toList)
  | .tooFewElements count expected =>
    "invalid length ".toList ++ Text.decimal count ++ ", expected ".toList ++ expected.toList
  | .refused reason => reason.toList

/-- Something wrong with a text, and where. -/
inductive Fault where
  /-- A fault with a place: so many bytes before the end of the text. -/
  | placed (cause : Cause) (unread : Nat)
  /-- A fault without a place yet, and the text that was unread when it was found. -/
  | unplaced (cause : Cause) (rest : List Char)
deriving DecidableEq, Repr

namespace Fault

/-- A fault at the beginning of the unread text. -/
def here (cause : Cause) (rest : List Char) : Fault :=
  .placed cause (Text.byteCount rest)

/-- A fault one byte into the unread text: of the byte that was taken or looked at last. At the end
of the text, a fault at the end. -/
def onNext (cause : Cause) (rest : List Char) : Fault :=
  .placed cause (Text.byteCount rest - 1)

/-- A fault at the end of the text. -/
def atEnd (cause : Cause) : Fault :=
  .placed cause 0

/-- What is wrong. -/
def cause : Fault → Cause
  | .placed cause _ => cause
  | .unplaced cause _ => cause

/-- The number of bytes before the fault in a text of `total` bytes. -/
def column (total : Nat) : Fault → Nat
  | .placed _ unread => total - unread
  | .unplaced _ rest => total - Text.byteCount rest

end Fault

end QueueJournal.Json

import MinuteBook.Text.Quoted

/-!
# Faults of data

What goes wrong when a value is used as something that it is not. Each fault belongs to a kind. How
a message shows a fault is left to the surroundings, but for an absent key, which is shown itself.
Errors of what is not part of this library are told by their family and by what they say.
-/

namespace MinuteBook

inductive Fault where
  /-- A mapping lacks a key that it must have. -/
  | absentKey (key : String)
  /-- A key that must be there is asked of a value that is no mapping. -/
  | notKeyed
  /-- An optional key is asked of a value that is no mapping. -/
  | notRecord
  /-- A value is gone through that has no items. -/
  | notIterable
  /-- A value that may change is used as a key. -/
  | notHashable
  /-- Two values without an order are to be sorted. -/
  | incomparable
  /-- A value that is neither number nor text is read as a whole number. -/
  | notNumeric
  /-- A text does not spell a whole number. -/
  | badNumeral
  /-- NaN is read as a whole number. -/
  | notANumber
  /-- An infinity is read as a whole number. -/
  | infinite
  /-- A number is out of all range. -/
  | outOfRange
  /-- An item that should be a pair has another length. -/
  | notPair
  /-- A template or pattern is not text. -/
  | notTemplateText
  /-- A path or a text to be converted is not text. -/
  | notPath
  /-- A path is bytes, which no text splits. -/
  | bytesPath
  /-- A value without a year is used as a date. -/
  | notDate
  /-- A value that counts nothing is used as a count. -/
  | notCount
  /-- A value that has no text as a key is to be written as one. -/
  | notKeyText
  /-- A value that no response can hold is to be sent. -/
  | notSendable
  /-- A binding takes the name that a store keeps for itself. -/
  | reservedBinding
  /-- A whole number is too long to be written. -/
  | tooManyDigits
  /-- A path holds a character that no path may hold. -/
  | badPath
  /-- A text that holds half of a pair is to be encoded. -/
  | loneHalf
  /-- The address of a request is none. -/
  | badAddress
  /-- A part of the name of a host is empty or too long. -/
  | badHostName
  deriving DecidableEq

namespace Fault

inductive Kind where
  | key
  | type
  | member
  | value
  | overflow
  | text
  | encoding
  deriving DecidableEq

def Kind.name : Kind → String
  | .key => "KeyError"
  | .type => "TypeError"
  | .member => "AttributeError"
  | .value => "ValueError"
  | .overflow => "OverflowError"
  | .text => "UnicodeError"
  | .encoding => "UnicodeEncodeError"

def kind : Fault → Kind
  | .absentKey _ => .key
  | .notKeyed | .notIterable | .notHashable | .incomparable | .notNumeric | .notTemplateText
  | .bytesPath | .notCount | .notKeyText | .notSendable | .reservedBinding => .type
  | .notRecord | .notPath | .notDate => .member
  | .badNumeral | .notANumber | .notPair | .tooManyDigits | .badPath | .badAddress => .value
  | .infinite | .outOfRange => .overflow
  | .badHostName => .text
  | .loneHalf => .encoding

/-- The fault as the cause of another error: the absent key in quotes, or the words for it. -/
def cause (words : Fault → String) : Fault → String
  | .absentKey key => Text.quoted key
  | f => words f

/-- The fault as it is written out: the kind with the absent key, or the words for it. -/
def labelled (words : Fault → String) : Fault → String
  | .absentKey key => Kind.name .key ++ "(" ++ Text.quoted key ++ ")"
  | f => words f

end Fault

/-- The families of errors that are told apart. An error of another family is looked out for
nowhere. -/
inductive Foreign.Family where
  | key
  | type
  | value
  | system
  | other
  deriving DecidableEq

/-- An error that comes from outside, from what is a parameter here. -/
structure Foreign where
  family : Foreign.Family
  /-- The name of its kind. -/
  kind : String
  /-- What it says. -/
  text : String
  /-- The error as it is written out. -/
  shown : String
  deriving DecidableEq

end MinuteBook

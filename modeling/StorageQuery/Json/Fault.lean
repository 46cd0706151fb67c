set_option autoImplicit false

namespace StorageQuery

inductive ReadFault where
  | endInValue
  | endInList
  | endInObject
  | endInString
  | noColon
  | noListSeparator
  | noMemberSeparator
  | noWord
  | noValue
  | invalidEscape
  | invalidNumber
  | numberOutOfRange
  | invalidCodePoint
  | controlCharacter
  | nameNotString
  | loneSurrogate
  | unfinishedPair
  | trailingComma
  | trailingText
  | tooDeep
  deriving DecidableEq, Repr

namespace ReadFault

def atEnd : ReadFault → Bool
  | endInValue | endInList | endInObject | endInString => true
  | _ => false

def message : ReadFault → String
  | endInValue => "EOF while parsing a value"
  | endInList => "EOF while parsing a list"
  | endInObject => "EOF while parsing an object"
  | endInString => "EOF while parsing a string"
  | noColon => "expected `:`"
  | noListSeparator => "expected `,` or `]`"
  | noMemberSeparator => "expected `,` or `\x7d`"
  | noWord => "expected ident"
  | noValue => "expected value"
  | invalidEscape => "invalid escape"
  | invalidNumber => "invalid number"
  | numberOutOfRange => "number out of range"
  | invalidCodePoint => "invalid unicode code point"
  | controlCharacter => "control character (\\u0000-\\u001F) found while parsing a string"
  | nameNotString => "key must be a string"
  | loneSurrogate => "lone leading surrogate in hex escape"
  | unfinishedPair => "unexpected end of hex escape"
  | trailingComma => "trailing comma"
  | trailingText => "trailing characters"
  | tooDeep => "recursion limit exceeded"

end ReadFault

end StorageQuery

import Tombstone.Documents

/-!
# The grammar of JSON texts

What a JSON text is, said without reading it. Blanks may stand around every value and every name. A
string that is read spells characters; a string that is skipped only has to be well formed, so that
its escapes may be halves of surrogate pairs. An object is described by its members in order, each
with its name and the text of its value.
-/

namespace Tombstone.Json

def IsBlanks (text : List Char) : Prop := ∀ char ∈ text, char ∈ [' ', '\t', '\n', '\r']

/-- A text with blanks before and behind it. -/
inductive Padded (text : List Char) : List Char → Prop where
  | intro {before behind : List Char} (before_blank : IsBlanks before)
      (behind_blank : IsBlanks behind) : Padded text (before ++ text ++ behind)

/-! ## Numbers -/

/-- At least one digit, and nothing else. -/
structure IsDigits (text : List Char) : Prop where
  ne_nil : text ≠ []
  isDigit : ∀ char ∈ text, char.isDigit = true

/-- Digits of which only a lone zero starts with a zero. -/
structure IsWhole (text : List Char) : Prop extends IsDigits text where
  lone_zero : text.head? = some '0' → text = ['0']

inductive IsFraction : List Char → Prop where
  | absent : IsFraction []
  | present {digits : List Char} (isDigits : IsDigits digits) : IsFraction ('.' :: digits)

inductive IsExponent : List Char → Prop where
  | absent : IsExponent []
  | present {letter : Char} {sign digits : List Char} (letter_mem : letter ∈ ['e', 'E'])
      (sign_mem : sign ∈ [[], ['+'], ['-']]) (isDigits : IsDigits digits) :
      IsExponent (letter :: (sign ++ digits))

inductive IsNumber : List Char → Prop where
  | intro {sign whole fraction exponent : List Char} (sign_mem : sign ∈ [[], ['-']])
      (isWhole : IsWhole whole) (isFraction : IsFraction fraction)
      (isExponent : IsExponent exponent) : IsNumber (sign ++ (whole ++ (fraction ++ exponent)))

/-! ## Strings -/

/-- The letters of short escapes, each with the character that it stands for. -/
def shortEscapes : List (Char × Char) :=
  [('"', '"'), ('\\', '\\'), ('/', '/'), ('b', '\x08'), ('f', '\x0c'), ('n', '\n'), ('r', '\r'),
    ('t', '\t')]

/-- A character that may stand in a string as it is. -/
structure IsPlain (char : Char) : Prop where
  not_quote : char ≠ '"'
  not_backslash : char ≠ '\\'
  not_control : 0x20 ≤ char.toNat

/-- A digit to base 16, in either case. -/
structure IsHexDigit (char : Char) (value : Nat) : Prop where
  value_lt : value < 16
  char_eq : char = Nat.digitChar value ∨ char = (Nat.digitChar value).toUpper

/-- Four digits to base 16 and the number that they denote. -/
inductive IsHexUnit : List Char → Nat → Prop where
  | intro {first second third fourth : Char} {a b c d : Nat} (isFirst : IsHexDigit first a)
      (isSecond : IsHexDigit second b) (isThird : IsHexDigit third c)
      (isFourth : IsHexDigit fourth d) :
      IsHexUnit [first, second, third, fourth] (((a * 16 + b) * 16 + c) * 16 + d)

/-- A text between quotes spells characters. Those beyond 16 bits are escaped as surrogate pairs. -/
inductive Spells : List Char → List Char → Prop where
  | nil : Spells [] []
  | plain {char : Char} {text chars : List Char} (isPlain : IsPlain char)
      (more : Spells text chars) : Spells (char :: text) (char :: chars)
  | short {letter char : Char} {text chars : List Char} (escapes : (letter, char) ∈ shortEscapes)
      (more : Spells text chars) : Spells ('\\' :: letter :: text) (char :: chars)
  | unit {digits text chars : List Char} {number : Nat} (isUnit : IsHexUnit digits number)
      (not_surrogate : number < 0xD800 ∨ 0xDFFF < number) (more : Spells text chars) :
      Spells ('\\' :: 'u' :: (digits ++ text)) (Char.ofNat number :: chars)
  | pair {highDigits lowDigits text chars : List Char} {high low : Nat}
      (isHigh : IsHexUnit highDigits (0xD800 + high)) (high_lt : high < 0x400)
      (isLow : IsHexUnit lowDigits (0xDC00 + low)) (low_lt : low < 0x400)
      (more : Spells text chars) :
      Spells ('\\' :: 'u' :: (highDigits ++ '\\' :: 'u' :: (lowDigits ++ text)))
        (Char.ofNat (0x10000 + high * 0x400 + low) :: chars)

/-- A text that may stand between quotes where it does not matter what it spells. -/
inductive IsContent : List Char → Prop where
  | nil : IsContent []
  | plain {char : Char} {text : List Char} (isPlain : IsPlain char) (more : IsContent text) :
      IsContent (char :: text)
  | short {letter char : Char} {text : List Char} (escapes : (letter, char) ∈ shortEscapes)
      (more : IsContent text) : IsContent ('\\' :: letter :: text)
  | unit {digits text : List Char} {number : Nat} (isUnit : IsHexUnit digits number)
      (more : IsContent text) : IsContent ('\\' :: 'u' :: (digits ++ text))

def quoted (content : List Char) : List Char := '"' :: (content ++ ['"'])

/-! ## Values -/

/-- What a part of a text is. -/
inductive Part where
  | value
  /-- The items of a list, with the commas between them. -/
  | items
  /-- A name and a value, with the colon between them. -/
  | member
  /-- The members of an object, with the commas between them. -/
  | members

inductive Written : Part → List Char → Prop where
  | null : Written .value ['n', 'u', 'l', 'l']
  | true : Written .value ['t', 'r', 'u', 'e']
  | false : Written .value ['f', 'a', 'l', 's', 'e']
  | number {text : List Char} (isNumber : IsNumber text) : Written .value text
  | string {content : List Char} (isContent : IsContent content) : Written .value (quoted content)
  | emptyList {blanks : List Char} (isBlanks : IsBlanks blanks) :
      Written .value ('[' :: (blanks ++ [']']))
  | list {text : List Char} (items : Written .items text) : Written .value ('[' :: (text ++ [']']))
  | emptyObject {blanks : List Char} (isBlanks : IsBlanks blanks) :
      Written .value ('\x7b' :: (blanks ++ ['\x7d']))
  | object {text : List Char} (members : Written .members text) :
      Written .value ('\x7b' :: (text ++ ['\x7d']))
  | lastItem {value text : List Char} (written : Written .value value) (padded : Padded value text) :
      Written .items text
  | moreItems {value text texts : List Char} (written : Written .value value)
      (padded : Padded value text) (more : Written .items texts) :
      Written .items (text ++ ',' :: texts)
  | member {name value left right : List Char} (isContent : IsContent name)
      (padded_name : Padded (quoted name) left) (written : Written .value value)
      (padded_value : Padded value right) : Written .member (left ++ ':' :: right)
  | lastMember {text : List Char} (member : Written .member text) : Written .members text
  | moreMembers {text texts : List Char} (member : Written .member text)
      (more : Written .members texts) : Written .members (text ++ ',' :: texts)

/-! ## Objects -/

/-- A member of an object, with its name and the text of its value. -/
abbrev Entry := String × List Char

inductive MemberText : List Char → Entry → Prop where
  | intro {name : String} {content value left right : List Char}
      (spells : Spells content name.toList) (padded_name : Padded (quoted content) left)
      (written : Written .value value) (padded_value : Padded value right) :
      MemberText (left ++ ':' :: right) (name, value)

inductive MemberTexts : List Char → List Entry → Prop where
  | last {text : List Char} {entry : Entry} (member : MemberText text entry) :
      MemberTexts text [entry]
  | more {text texts : List Char} {entry : Entry} {entries : List Entry}
      (member : MemberText text entry) (more : MemberTexts texts entries) :
      MemberTexts (text ++ ',' :: texts) (entry :: entries)

/-- The text of an object with these members in order. -/
inductive ObjectText : List Char → List Entry → Prop where
  | empty {blanks : List Char} (isBlanks : IsBlanks blanks) :
      ObjectText ('\x7b' :: (blanks ++ ['\x7d'])) []
  | members {text : List Char} {entries : List Entry} (members : MemberTexts text entries) :
      ObjectText ('\x7b' :: (text ++ ['\x7d'])) entries

/-- A name that is chosen, written as a string, or as the only name in an object, with null. -/
inductive ChoiceText (name : String) : List Char → Prop where
  | string {content : List Char} (spells : Spells content name.toList) :
      ChoiceText name (quoted content)
  | object {text : List Char} (object : ObjectText text [(name, ['n', 'u', 'l', 'l'])]) :
      ChoiceText name text

end Tombstone.Json

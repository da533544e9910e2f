import ChatAssistant.Decimal.FloatText

/-!
JSON values and their compact text.
-/

namespace ChatAssistant

/-- A number is an integer or a finite floating-point number. The members of an object stand in
the order in which they are written. -/
inductive Json where
  | null
  | bool (value : Bool)
  | integer (value : Int)
  | real (value : Float)
  | string (value : String)
  | array (items : List Json)
  | object (members : List (String × Json))

namespace Json

def ofTexts (texts : List String) : Json :=
  .array (texts.map .string)

/-- A number that is not finite has no form of its own. -/
def ofFloat (number : Float) : Json :=
  if number.isFinite then .real number else .null

def hexDigit (digit : Nat) : Char :=
  if digit < 10 then Char.ofNat ('0'.toNat + digit) else Char.ofNat ('a'.toNat + (digit - 10))

/-- Quotes, backslashes and control characters are escaped, and nothing else. -/
def escaped (char : Char) : List Char :=
  if char = '\"' then ['\\', '\"']
  else if char = '\\' then ['\\', '\\']
  else if char = '\x08' then ['\\', 'b']
  else if char = '\t' then ['\\', 't']
  else if char = '\n' then ['\\', 'n']
  else if char = '\x0c' then ['\\', 'f']
  else if char = '\r' then ['\\', 'r']
  else if char.toNat < 0x20 then
    ['\\', 'u', '0', '0', hexDigit (char.toNat / 16), hexDigit (char.toNat % 16)]
  else [char]

def stringText (text : String) : List Char :=
  '\"' :: text.toList.flatMap escaped ++ ['\"']

def integerText : Int → List Char
  | .ofNat number => Decimal.digits number
  | .negSucc number => '-' :: Decimal.digits (number + 1)

/-- Decimals from `10 ^ -5` up to `10 ^ 16` are written without an exponent. -/
def isPositional (decimal : Decimal) : Bool :=
  -5 ≤ decimal.leadingExponent && decimal.leadingExponent < 16

/-- A number without an exponent always shows a fraction. -/
def decimalText (decimal : Decimal) : List Char :=
  if isPositional decimal then
    if decimal.exponent < 0 then decimal.plain else decimal.plain ++ ['.', '0']
  else decimal.scientific

/-- The fewest digits that read back; of two equally near decimals the even one is taken. -/
def realText (number : Float) : List Char :=
  match number.toModel.unpack with
  | .zero sign => Decimal.signed sign ['0', '.', '0']
  | .finite sign significand exponent _ =>
      Decimal.signed sign (decimalText (Decimal.Double.shortest ⟨significand, exponent⟩ .even))
  | _ => ['n', 'u', 'l', 'l']

mutual

def compact : Json → List Char
  | .null => ['n', 'u', 'l', 'l']
  | .bool true => ['t', 'r', 'u', 'e']
  | .bool false => ['f', 'a', 'l', 's', 'e']
  | .integer value => integerText value
  | .real value => realText value
  | .string value => stringText value
  | .array [] => ['[', ']']
  | .array (item :: items) => '[' :: item.compact ++ compactItems items ++ [']']
  | .object [] => ['\x7b', '\x7d']
  | .object ((name, value) :: members) =>
      '\x7b' :: stringText name ++ ':' :: value.compact ++ compactMembers members ++ ['\x7d']

def compactItems : List Json → List Char
  | [] => []
  | item :: items => ',' :: item.compact ++ compactItems items

def compactMembers : List (String × Json) → List Char
  | [] => []
  | (name, value) :: members =>
      ',' :: stringText name ++ ':' :: value.compact ++ compactMembers members

end

def text (json : Json) : String :=
  String.ofList json.compact

end Json

end ChatAssistant

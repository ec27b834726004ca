import Intercept.EventLog.Expression.Reading

/-!
# Patterns for the value of a field

A value that is looked for is a number, or an expression.
-/

namespace Intercept.EventLog.ValuePattern

/-- The text behind its digits, and whether there were any. -/
def afterDigits (text : List Char) : Bool × List Char :=
  (text.head?.any Char.isDigit, text.dropWhile Char.isDigit)

/-- The text without the sign before it. -/
def afterSign : List Char → List Char
  | '+' :: rest => rest
  | '-' :: rest => rest
  | rest => rest

/-- Whether a text is empty or the exponent of a number. -/
def isExponent : List Char → Bool
  | [] => true
  | c :: rest => (c = 'e' || c = 'E') && afterDigits (afterSign rest) = (true, [])

/-- Whether a text is a decimal number with or without a sign, a fraction and an exponent, or the
name of a number that has no digits. -/
def isNumber (text : List Char) : Bool :=
  let unsigned := afterSign text
  let (hasWhole, rest) := afterDigits unsigned
  let (hasFraction, rest) := match rest with
    | '.' :: rest => afterDigits rest
    | rest => (false, rest)
  (hasWhole || hasFraction) && isExponent rest ||
    ["inf", "infinity", "nan"].contains (String.ofList unsigned).toLower

/-- Whether a value can be looked for. -/
def isValid (value : List Char) : Bool := isNumber value || Expression.isExpression value

end Intercept.EventLog.ValuePattern

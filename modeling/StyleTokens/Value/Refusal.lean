import StyleTokens.Time.Calendar

/-!
# Refused documents

A text may break the grammar of its format. It may also be well formed and hold something that
cannot be converted to a value, which is told apart, since a broken document is reported by the
one who reads it and a failed conversion is not. A value may fail to be converted back to a text.
-/

namespace StyleTokens

/-- What is done with lists and maps that stand in each other, one call for each. -/
inductive NestedTask where
  /-- They are read. -/
  | reading
  /-- They are shown as literals. -/
  | showing
  /-- They are written as JSON. -/
  | encoding
  deriving DecidableEq, Repr

/-- What a message says of a task. -/
def NestedTask.phrase : NestedTask → String
  | .reading => ""
  | .showing => " while getting the repr of an object"
  | .encoding => " while encoding a JSON object"

/-- Why a part of a document cannot be converted to a value. -/
inductive ConversionProblem where
  /-- A whole number has more digits than the limit. -/
  | tooManyDigits (count : Nat)
  /-- Lists or maps stand in each other more deeply than can be followed. -/
  | tooDeep (isMap : Bool)
  /-- There is no such day or time. -/
  | calendar (problem : CalendarProblem)
  /-- A whole number has too many digits to be written. -/
  | unwritable
  /-- Reading or writing a value takes more calls in each other than there may be. -/
  | tooManyCalls (task : NestedTask)
  deriving DecidableEq, Repr

/-- The wording of a problem. -/
def ConversionProblem.message : ConversionProblem → String
  | tooManyDigits count =>
    "Exceeds the limit (4300 digits) for integer string conversion: value has " ++
      toString count ++ " digits; use sys.set_int_max_str_digits() to increase the limit"
  | tooDeep isMap =>
    "maximum recursion depth exceeded while decoding a JSON " ++
      (if isMap then "object" else "array") ++ " from a unicode string"
  | calendar problem => problem.message
  | unwritable =>
    "Exceeds the limit (4300 digits) for integer string conversion; " ++
      "use sys.set_int_max_str_digits() to increase the limit"
  | tooManyCalls task => "maximum recursion depth exceeded" ++ task.phrase

/-- Why a text is no document. -/
inductive Refusal where
  /-- The text breaks the grammar. -/
  | malformed
  /-- A part of the text cannot be converted to a value. -/
  | unconvertible (problem : ConversionProblem)
  deriving DecidableEq, Repr

/-- The most digits that a whole number may have. -/
def digitLimit : Nat := 4300

/-- How many calls of a reader or a writer may stand in each other. -/
def callLimit : Nat := 980

end StyleTokens

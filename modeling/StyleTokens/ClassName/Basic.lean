import StyleTokens.Token.Entry

/-!
# Class names

A class name is a breakpoint's slug and a colon, unless the breakpoint is the base, then the
category's stem with the side's suffix, a hyphen and the value: `md:pt-4`, `gap-2`, `mx-0`.
-/

namespace StyleTokens

/-- What a class name begins with at a breakpoint. -/
def breakpointQualifier (slug : String) : String :=
  if slug = baseBreakpoint then "" else slug ++ ":"

/-- The class name of a value for a side at a breakpoint. -/
def className (stem slug : String) (side : Side) (value : String) : String :=
  breakpointQualifier slug ++ stem ++ side.suffix ++ "-" ++ value

/-- The class name of unchecked parts; the side has to be one of the seven names. -/
def classNameOfValues (stem slug side value : Value) : Except Fault String :=
  match side with
  | .scalar key =>
    match side.text?.bind Side.ofName? with
    | some known => .ok (className stem.display slug.display known value.display)
    | none => .error (.unknownSide key)
  | other => .error (.unhashable other.kind)

end StyleTokens

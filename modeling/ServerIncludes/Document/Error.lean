import ServerIncludes.Condition.Token
import ServerIncludes.Tag

/-!
What can be wrong with a document, and the words for it. Every fault belongs to a tag, and the
octet at which that tag starts is part of the error.
-/

namespace ServerIncludes

/-- The constructs that hold other nodes. -/
inductive FrameKind where
  | conditional
  | block
  deriving DecidableEq, Repr

/-- The name of the directive that opens a construct. -/
def FrameKind.directive : FrameKind → String
  | conditional => "if"
  | block => "block"

/-- What is wrong with a document. Directives and attributes are given by their names. -/
inductive ParseFault where
  | unterminated
  | notText
  | noName
  | malformedAttribute (directive : String) (fault : AttributeFault)
  | missingAttribute (directive name : String)
  /-- Neither of the two attributes that give a target. -/
  | missingTarget (directive : String)
  | invalidValue (directive name value : String)
  | duplicateAttribute (directive name : String)
  | unknownAttribute (directive name : String)
  | conflictingTargets (directive : String)
  | malformedMarker (directive : String) (fault : MarkerFault)
  | malformedCondition (directive : String) (column : Nat) (fault : ConditionFault)
  | invalidPattern (directive source : String)
  /-- Nothing is open that the directive could go on with or close. -/
  | unmatched (directive : String) (expected : FrameKind)
  /-- What is open is of the other kind. -/
  | mismatched (directive : String) (opener : FrameKind) (start : Nat)
  | afterElse (directive : String) (start : Nat)
  | unclosed (opener : FrameKind)
  deriving DecidableEq, Repr

/-- A fault and the octet at which its tag starts. -/
structure ParseError where
  offset : Nat
  fault : ParseFault
  deriving DecidableEq, Repr

namespace ParseError

/-- A name as messages show it. -/
def ticked (name : String) : String := "`" ++ name ++ "`"

def message (error : ParseError) : String :=
  let place := " at byte " ++ toString error.offset
  match error.fault with
  | .unterminated => "unterminated directive opened" ++ place
  | .notText => "malformed directive" ++ place ++ ": directive is not valid UTF-8"
  | .noName => "malformed directive" ++ place ++ ": missing directive name"
  | .malformedAttribute directive fault =>
    "malformed attribute in " ++ ticked directive ++ place ++ ": " ++ fault.message
  | .missingAttribute directive name =>
    ticked directive ++ place ++ " is missing required attribute " ++ ticked name
  | .missingTarget directive =>
    ticked directive ++ place ++ " is missing required attribute " ++ ticked "virtual` or `file"
  | .invalidValue directive name value =>
    ticked directive ++ place ++ ": invalid value " ++ Quoted.quote value ++ " for " ++ ticked name
  | .duplicateAttribute directive name =>
    ticked directive ++ place ++ " repeats attribute " ++ ticked name
  | .unknownAttribute directive name =>
    ticked directive ++ place ++ " does not accept attribute " ++ ticked name
  | .conflictingTargets directive =>
    ticked directive ++ place ++ ": `virtual` and `file` are mutually exclusive"
  | .malformedMarker directive fault => fault.message ++ " in " ++ ticked directive ++ place
  | .malformedCondition directive column fault =>
    "malformed expression in " ++ ticked directive ++ place ++ " (column " ++ toString column ++
      "): " ++ fault.message
  | .invalidPattern directive source =>
    "invalid regular expression /" ++ source ++ "/ in " ++ ticked directive ++ place
  | .unmatched directive expected =>
    ticked directive ++ place ++ " has no matching " ++ ticked expected.directive
  | .mismatched directive opener start =>
    ticked directive ++ place ++ " cannot close " ++ ticked opener.directive ++
      " opened at byte " ++ toString start
  | .afterElse directive start =>
    ticked directive ++ place ++ " follows `else` of the `if` opened at byte " ++ toString start
  | .unclosed opener => ticked opener.directive ++ " opened" ++ place ++ " is never closed"

end ParseError

end ServerIncludes

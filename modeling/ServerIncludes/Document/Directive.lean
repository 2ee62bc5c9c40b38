import ServerIncludes.Condition.Parser
import ServerIncludes.Document.Error
import ServerIncludes.Document.Node
import ServerIncludes.Time.Format

/-!
Directives by themselves: which attributes each takes, and what the tag then stands for. Whether it
may stand where it does is not asked here.
-/

namespace ServerIncludes

/-- The tag whose inside some octets spell. -/
def Tag.ofBody (body : Bytes) : Except ParseFault Tag :=
  match Bytes.text? body with
  | none => .error .notText
  | some text =>
    match Tag.read text.toList with
    | .error .noName => .error .noName
    | .error (.malformed directive fault) => .error (.malformedAttribute directive fault)
    | .ok tag => .ok tag

/-- What to do with attributes that a directive does not take, or that are given twice. -/
inductive AttributePolicy where
  /-- The former are left out, and of the latter the last one counts. -/
  | lenient
  /-- Both are faults. -/
  | strict
  deriving DecidableEq, Repr, Inhabited

namespace AttributePolicy

def ofName? (name : String) : Option AttributePolicy :=
  if name = "lenient" then some .lenient
  else if name = "strict" then some .strict
  else none

def name : AttributePolicy → String
  | lenient => "lenient"
  | strict => "strict"

end AttributePolicy

/-- What a tag stands for. -/
inductive Directive where
  | startIf (condition : Condition)
  | elif (condition : Condition)
  | otherwise
  | endIf
  | startBlock (name : String)
  | endBlock
  | leaf (content : Leaf)
  deriving DecidableEq

/-- The attributes that a directive takes, each at most once. -/
structure AcceptedAttributes where
  directive : String
  items : List Attribute

namespace AcceptedAttributes

/-- Gives an attribute its value, in place of the one it has. -/
def put (item : Attribute) : List Attribute → List Attribute
  | [] => [item]
  | first :: rest => if first.name = item.name then item :: rest else first :: put item rest

/-- Adds an attribute to those accepted so far. -/
def accept (policy : AttributePolicy) (directive : String) (allowed : List String)
    (items : List Attribute) (item : Attribute) : Except ParseFault (List Attribute) :=
  if item.name ∉ allowed then
    match policy with
    | .strict => .error (.unknownAttribute directive item.name)
    | .lenient => .ok items
  else if policy = .strict ∧ items.any fun held => held.name == item.name then
    .error (.duplicateAttribute directive item.name)
  else .ok (put item items)

/-- The attributes of a tag that are among those allowed. -/
def ofTag (policy : AttributePolicy) (tag : Tag) (allowed : List String) :
    Except ParseFault AcceptedAttributes :=
  (tag.attributes.foldlM (accept policy tag.name allowed) []).map fun items => ⟨tag.name, items⟩

def get? (attributes : AcceptedAttributes) (name : String) : Option String :=
  (attributes.items.find? fun item => item.name == name).map (·.value)

def require (attributes : AcceptedAttributes) (name : String) : Except ParseFault String :=
  match attributes.get? name with
  | some value => .ok value
  | none => .error (.missingAttribute attributes.directive name)

/-- A value with markers. -/
def template (attributes : AcceptedAttributes) (value : String) : Except ParseFault Template :=
  (Template.parse value).mapError fun error => .malformedMarker attributes.directive error.fault

/-- The value of an attribute with markers, if it is given. -/
def template? (attributes : AcceptedAttributes) (name : String) :
    Except ParseFault (Option Template) :=
  match attributes.get? name with
  | none => .ok none
  | some value => (attributes.template value).map some

/-- The value of an attribute that is one of several names, if it is given. -/
def named? (attributes : AcceptedAttributes) (name : String) (ofName? : String → Option α) :
    Except ParseFault (Option α) :=
  match attributes.get? name with
  | none => .ok none
  | some value =>
    match ofName? value with
    | some found => .ok (some found)
    | none => .error (.invalidValue attributes.directive name value)

/-- The target, which is given by exactly one of two attributes. -/
def target (attributes : AcceptedAttributes) : Except ParseFault (Target Template) :=
  match attributes.get? "virtual", attributes.get? "file" with
  | some path, none => (attributes.template path).map .virtual
  | none, some path => (attributes.template path).map .file
  | some _, some _ => .error (.conflictingTargets attributes.directive)
  | none, none => .error (.missingTarget attributes.directive)

/-- The condition in the attribute `expr`. -/
def condition (attributes : AcceptedAttributes) : Except ParseFault Condition := do
  let text ← attributes.require "expr"
  (Condition.parse text).mapError fun
    | .malformed column fault => .malformedCondition attributes.directive column fault
    | .invalidPattern source => .invalidPattern attributes.directive source

end AcceptedAttributes

namespace Directive

/-- The attributes that each directive takes. A comment and a directive of an unknown name take
any. -/
def allowed? (name : String) : Option (List String) :=
  if name = "if" ∨ name = "elif" then some ["expr"]
  else if name = "else" ∨ name = "endif" ∨ name = "endblock" ∨ name = "printenv" then some []
  else if name = "block" then some ["name"]
  else if name = "echo" then some ["var", "encoding", "default"]
  else if name = "set" then some ["var", "value"]
  else if name = "include" then some ["virtual", "file", "onerror", "set", "stub", "wait"]
  else if name = "config" then some ["errmsg", "echomsg", "sizefmt", "timefmt"]
  else if name = "flastmod" ∨ name = "fsize" then some ["virtual", "file"]
  else none

/-- The directive of a name with the attributes it takes. -/
def ofAttributes (attributes : AcceptedAttributes) : Except ParseFault Directive := do
  let name := attributes.directive
  if name = "if" then return .startIf (← attributes.condition)
  else if name = "elif" then return .elif (← attributes.condition)
  else if name = "else" then return .otherwise
  else if name = "endif" then return .endIf
  else if name = "block" then return .startBlock (← attributes.require "name")
  else if name = "endblock" then return .endBlock
  else if name = "echo" then
    let variableName ← attributes.require "var"
    let encoding ← attributes.named? "encoding" Encoding.ofName?
    let default ← attributes.template? "default"
    return .leaf (.echo variableName encoding default)
  else if name = "set" then
    let variableName ← attributes.require "var"
    let value ← attributes.require "value"
    return .leaf (.assign variableName (← attributes.template value))
  else if name = "include" then
    let target ← attributes.target
    let onError ← attributes.template? "onerror"
    return .leaf (.inclusion target onError (attributes.get? "set") (attributes.get? "stub"))
  else if name = "config" then
    let errorMessage ← attributes.template? "errmsg"
    let missingMessage ← attributes.template? "echomsg"
    let sizeFormat ← attributes.named? "sizefmt" SizeFormat.ofName?
    let timeFormat ← attributes.named? "timefmt" fun text =>
      if TimeFormat.isValid text then some text else none
    return .leaf (.configure errorMessage missingMessage sizeFormat timeFormat)
  else if name = "flastmod" then return .leaf (.lastModified (← attributes.target))
  else if name = "fsize" then return .leaf (.fileSize (← attributes.target))
  else if name = "printenv" then return .leaf .listVariables
  else if name = "comment" then return .leaf .comment
  else return .leaf (.unknown name)

/-- What a tag stands for. -/
def ofTag (policy : AttributePolicy) (tag : Tag) : Except ParseFault Directive :=
  match allowed? tag.name with
  | none => ofAttributes ⟨tag.name, []⟩
  | some allowed => do ofAttributes (← AcceptedAttributes.ofTag policy tag allowed)

end Directive

end ServerIncludes

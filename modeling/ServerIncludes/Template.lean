import ServerIncludes.Text.Utf8

/-!
Attribute values with variable markers. A value is read once, into text and the names of variables,
and filled in as often as it is rendered; what is filled in is never read for markers again.
-/

namespace ServerIncludes

/-- A part of a value: text as it is, or a variable by name. -/
inductive Segment where
  | text (content : String)
  | marker (name : String)
  deriving DecidableEq, Repr

/-- A value that is filled in when it is rendered. -/
structure Template where
  segments : List Segment
  deriving DecidableEq, Repr

/-- What is wrong with a marker that cannot be read. -/
inductive MarkerFault where
  | unclosed
  | empty
  deriving DecidableEq, Repr

/-- A marker that cannot be read, and the octet of the value at which it starts. -/
structure MarkerError where
  fault : MarkerFault
  position : Nat
  deriving DecidableEq, Repr

def MarkerFault.message : MarkerFault → String
  | .unclosed => "unclosed `$\x7b` marker"
  | .empty => "empty `$\x7b\x7d` marker"

namespace Template

/-- Characters of a name that is written without braces. -/
def isNameChar (c : Char) : Bool := c.isAlphanum || c == '_'

/-- What a value is read into before text is gathered: single characters and markers. -/
inductive Piece where
  | char (c : Char)
  | marker (name : List Char)
  deriving DecidableEq

/-- Reads a value that starts at an octet. A backslash before a dollar sign makes it stand for
itself, and so does the lack of a name after it. -/
def pieces (position : Nat) (value : List Char) : Except MarkerError (List Piece) :=
  match value with
  | [] => .ok []
  | '\\' :: '$' :: rest => (pieces (position + 2) rest).map (.char '$' :: ·)
  | '$' :: '{' :: rest =>
    let name := rest.takeWhile (· != '}')
    match found : rest.dropWhile (· != '}') with
    | [] => .error ⟨.unclosed, position⟩
    | _ :: after =>
      have : after.length < rest.length := by
        have := (List.dropWhile_sublist (· != '}') (l := rest)).length_le
        rw [found] at this
        exact this
      if name.isEmpty then .error ⟨.empty, position⟩
      else (pieces (position + 3 + utf8Length name) after).map (.marker name :: ·)
  | '$' :: c :: rest =>
    if isNameChar c then
      let name := c :: rest.takeWhile isNameChar
      have := (List.dropWhile_sublist isNameChar (l := rest)).length_le
      (pieces (position + 1 + utf8Length name) (rest.dropWhile isNameChar)).map (.marker name :: ·)
    else (pieces (position + 1) (c :: rest)).map (.char '$' :: ·)
  | c :: rest => (pieces (position + c.utf8Size) rest).map (.char c :: ·)
termination_by value.length
decreasing_by all_goals simp only [List.length_cons]; omega

/-- Adds a run of text in front of segments, unless it is empty. -/
def pushText (run : List Char) (segments : List Segment) : List Segment :=
  if run.isEmpty then segments else .text (String.ofList run) :: segments

/-- Gathers characters that follow one another: gives the text at the front, and the segments after
it, which do not start with text. -/
def gather : List Piece → List Char × List Segment
  | [] => ([], [])
  | .char c :: rest => let (run, segments) := gather rest; (c :: run, segments)
  | .marker name :: rest =>
    let (run, segments) := gather rest
    ([], .marker (String.ofList name) :: pushText run segments)

/-- The template of what was read. -/
def ofPieces (pieces : List Piece) : Template :=
  let (run, segments) := gather pieces
  ⟨pushText run segments⟩

/-- Reads a value. -/
def parse (value : String) : Except MarkerError Template :=
  (pieces 0 value.toList).map ofPieces

/-- A value without markers, whatever characters it holds. -/
def literal (value : String) : Template := ⟨pushText value.toList []⟩

def isEmpty (template : Template) : Bool := template.segments.isEmpty

/-- The value of a template without markers. -/
def asLiteral? (template : Template) : Option String :=
  match template.segments with
  | [] => some ""
  | [.text content] => some content
  | _ => none

/-- The names of the variables, in the order in which they are filled in. -/
def markers (template : Template) : List String :=
  template.segments.filterMap fun
    | .text _ => none
    | .marker name => some name

/-- Fills in a segment; an unknown variable is empty. -/
def renderSegment (lookup : String → Option String) : Segment → String
  | .text content => content
  | .marker name => (lookup name).getD ""

/-- Fills in every marker. -/
def render (template : Template) (lookup : String → Option String) : String :=
  String.join (template.segments.map (renderSegment lookup))

/-- A segment as it is written: dollar signs of the text escaped, names in braces. -/
def writeSegment : Segment → List Char
  | .text content => content.toList.flatMap fun c => if c = '$' then ['\\', '$'] else [c]
  | .marker name => '$' :: '{' :: name.toList ++ ['}']

/-- The written form of a template, from which it can be read again. -/
def write (template : Template) : String :=
  String.ofList (template.segments.flatMap writeSegment)

end Template

end ServerIncludes

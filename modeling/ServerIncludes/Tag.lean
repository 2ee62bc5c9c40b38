import ServerIncludes.Unicode.Property

/-!
The inside of a tag: the name of a directive and its attributes, each a name and a double-quoted
value, with blanks wherever the parts allow them. Names do not depend on case.
-/

namespace ServerIncludes

/-- An attribute: its name in lower case, and its value with quotes unescaped. -/
structure Attribute where
  name : String
  value : String
  deriving DecidableEq, Repr

/-- A tag: the name of its directive in lower case, and its attributes in order. -/
structure Tag where
  name : String
  attributes : List Attribute
  deriving DecidableEq, Repr

/-- What is wrong with an attribute; names are given as they are written. -/
inductive AttributeFault where
  | unexpected (found : Char)
  | noEquals (name : String)
  | notQuoted (name : String)
  | noValue (name : String)
  | unterminated (name : String)
  deriving DecidableEq, Repr

def AttributeFault.message : AttributeFault → String
  | .unexpected found => "unexpected character `" ++ String.singleton found ++ "`"
  | .noEquals name => "expected `=` after `" ++ name ++ "`"
  | .notQuoted name => "value of `" ++ name ++ "` must be double-quoted"
  | .noValue name => "missing value for `" ++ name ++ "`"
  | .unterminated name => "unterminated value for `" ++ name ++ "`"

/-- What is wrong with a tag: it names no directive, or the directive named has an attribute that
cannot be read. -/
inductive TagFault where
  | noName
  | malformed (directive : String) (fault : AttributeFault)
  deriving DecidableEq, Repr

namespace Tag

open Unicode (isBlank)

/-- Text in lower case, as far as it is ASCII. -/
def lower (text : List Char) : String := String.ofList (text.map Char.toLower)

def isAttributeChar (c : Char) : Bool := c.isAlphanum || c == '_' || c == '-'

/-- Reads a value whose opening quote is taken already, up to the closing one. A backslash before a
quote is left out; before any other character it stays, and that character with it. -/
def readValue : List Char → Option (List Char × List Char)
  | [] => none
  | c :: rest =>
    if c = '"' then some ([], rest)
    else if c = '\\' then
      match rest with
      | [] => none
      | next :: rest =>
        (readValue rest).map fun (value, after) =>
          (if next = '"' then '"' :: value else '\\' :: next :: value, after)
    else (readValue rest).map fun (value, after) => (c :: value, after)

theorem length_of_readValue {text value after : List Char}
    (read : readValue text = some (value, after)) : after.length < text.length := by
  fun_induction readValue text generalizing value after with
  | case1 => cases read
  | case2 =>
    cases read
    simp
  | case3 => cases read
  | case4 next rest _ ih =>
    obtain ⟨⟨_, _⟩, found, same⟩ := Option.map_eq_some_iff.1 read
    cases same
    have := ih found
    simp only [List.length_cons]
    omega
  | case5 c rest _ _ ih =>
    obtain ⟨⟨_, _⟩, found, same⟩ := Option.map_eq_some_iff.1 read
    cases same
    exact Nat.lt_succ_of_lt (ih found)

/-- Reads an attribute at the front of a text that does not start with a blank. -/
def readAttribute (text : List Char) : Except AttributeFault (Attribute × List Char) :=
  let name := text.takeWhile isAttributeChar
  if name.isEmpty then .error (.unexpected (text.headD ' '))
  else
    match (text.dropWhile isAttributeChar).dropWhile isBlank with
    | '=' :: rest =>
      match rest.dropWhile isBlank with
      | [] => .error (.noValue (String.ofList name))
      | '"' :: rest =>
        match readValue rest with
        | none => .error (.unterminated (String.ofList name))
        | some (value, after) => .ok (⟨lower name, String.ofList value⟩, after)
      | _ => .error (.notQuoted (String.ofList name))
    | _ => .error (.noEquals (String.ofList name))

theorem length_of_readAttribute {text after : List Char} {item : Attribute}
    (read : readAttribute text = .ok (item, after)) : after.length < text.length := by
  unfold readAttribute at read
  simp only at read
  split at read
  · cases read
  · split at read
    · next rest equals =>
      split at read
      · cases read
      · next body quoted =>
        split at read
        · cases read
        · next value after' found =>
          cases read
          have := length_of_readValue found
          have first := (List.dropWhile_sublist isAttributeChar (l := text)).length_le
          have second :=
            (List.dropWhile_sublist isBlank (l := text.dropWhile isAttributeChar)).length_le
          have third := (List.dropWhile_sublist isBlank (l := rest)).length_le
          rw [equals] at second
          rw [quoted] at third
          simp only [List.length_cons] at second third
          omega
      · cases read
    · cases read

/-- Reads attributes to the end of a tag. -/
def readAttributes (text : List Char) : Except AttributeFault (List Attribute) :=
  match trimmed : text.dropWhile isBlank with
  | [] => .ok []
  | first :: others =>
    match found : readAttribute (first :: others) with
    | .error fault => .error fault
    | .ok (item, after) =>
      have : after.length < text.length := by
        have shorter := length_of_readAttribute found
        have within := (List.dropWhile_sublist isBlank (l := text)).length_le
        rw [trimmed] at within
        exact Nat.lt_of_lt_of_le shorter within
      (readAttributes after).map (item :: ·)
termination_by text.length

/-- Reads the inside of a tag. -/
def read (text : List Char) : Except TagFault Tag :=
  let body := text.dropWhile isBlank
  let name := body.takeWhile Char.isAlpha
  if name.isEmpty then .error .noName
  else
    match readAttributes (body.dropWhile Char.isAlpha) with
    | .error fault => .error (.malformed (lower name) fault)
    | .ok attributes => .ok ⟨lower name, attributes⟩

end Tag

end ServerIncludes

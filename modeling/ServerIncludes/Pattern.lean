import ServerIncludes.Pattern.Reader
import ServerIncludes.Pattern.Search

/-!
Patterns as conditions hold them: a compiled regular expression together with the text it was read
from. Patterns are equal when their texts are.
-/

namespace ServerIncludes

/-- What a pattern text compiles to: the program, the number of groups and the named groups. -/
structure CompiledPattern where
  program : Program
  groups : Nat
  names : List (Nat × String)

namespace CompiledPattern

/-- Compiles a text; nothing if it is not a pattern. -/
def ofText? (source : String) : Option CompiledPattern :=
  (PatternReader.parse? source.toList).map fun (regex, groups, names) =>
    ⟨Program.ofRegex regex, groups, names⟩

end CompiledPattern

/-- A pattern and what its text compiles to. -/
structure Pattern where
  source : String
  compiled : CompiledPattern
  compiles : CompiledPattern.ofText? source = some compiled

/-- The groups of a match: texts by number, and the names of some of them. -/
structure Captures where
  groups : List (Option String)
  names : List (Nat × String)

namespace Captures

/-- The text of a group, if there is such a group and it took part in the match. -/
def group? (captures : Captures) (index : Nat) : Option String := (captures.groups[index]?).join

/-- What a match binds: groups zero to nine under their numbers, then named groups, each group only
if it took part. -/
def bindings (captures : Captures) : List (String × String) :=
  ((List.range 10).filterMap fun index =>
    (captures.group? index).map fun text => (toString index, text)) ++
  captures.names.filterMap fun (index, name) =>
    (captures.group? index).map fun text => (name, text)

end Captures

namespace Pattern

/-- The pattern that a text spells. -/
def ofText? (source : String) : Option Pattern :=
  match found : CompiledPattern.ofText? source with
  | none => none
  | some compiled => some ⟨source, compiled, found⟩

theorem eq_of_source_eq {a b : Pattern} (same : a.source = b.source) : a = b := by
  obtain ⟨source, compiled, compiles⟩ := a
  obtain ⟨source', compiled', compiles'⟩ := b
  cases same
  cases compiles.symm.trans compiles'
  rfl

instance : DecidableEq Pattern := fun a b =>
  if same : a.source = b.source then isTrue (eq_of_source_eq same)
  else isFalse fun equal => same (congrArg source equal)

theorem source_of_ofText? {source : String} {pattern : Pattern}
    (read : ofText? source = some pattern) : pattern.source = source := by
  unfold ofText? at read
  split at read
  · cases read
  · cases read
    rfl

theorem ofText?_source (pattern : Pattern) : ofText? pattern.source = some pattern := by
  unfold ofText?
  split
  · next missing => rw [pattern.compiles] at missing; cases missing
  · next compiled found => exact congrArg some (eq_of_source_eq rfl)

/-- The preferred match in a subject. -/
def search (pattern : Pattern) (subject : String) : Option Captures :=
  (pattern.compiled.program.search pattern.compiled.groups subject).map fun groups =>
    ⟨groups, pattern.compiled.names⟩

end Pattern

end ServerIncludes

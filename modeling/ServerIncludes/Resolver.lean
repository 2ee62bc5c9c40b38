import ServerIncludes.Text.Utf8
import ServerIncludes.Time.Calendar

/-!
Resolvers give the content of targets and what is known about them. What they answer may depend on
what they were asked before; a fatal answer ends the evaluation that asked.
-/

namespace ServerIncludes

/-- What an inclusion points at: a path within the site or the path of a file. -/
inductive Target (α : Type) where
  | virtual (path : α)
  | file (path : α)
  deriving DecidableEq, Repr

namespace Target

def path : Target α → α
  | virtual path => path
  | file path => path

def map (f : α → β) : Target α → Target β
  | virtual path => virtual (f path)
  | file path => file (f path)

/-- A target as messages show it. -/
def describe : Target String → String
  | virtual path => "virtual \"" ++ path ++ "\""
  | file path => "file \"" ++ path ++ "\""

end Target

/-- What is known about a target besides its content. -/
structure Metadata where
  modified : Instant
  size : UInt64
  deriving DecidableEq, Repr

/-- Why a resolver gives no answer. -/
inductive ResolveError where
  | notFound (target : Target String)
  | denied (target : Target String)
  | failed (message : String)
  | fatal (message : String)
  deriving DecidableEq, Repr

namespace ResolveError

def isFatal : ResolveError → Bool
  | fatal _ => true
  | _ => false

def message : ResolveError → String
  | notFound target => target.describe ++ " not found"
  | denied target => "access to " ++ target.describe ++ " denied"
  | failed message => message
  | fatal message => message

end ResolveError

/-- A question that a resolver was asked. -/
inductive ResolverCall where
  | resolve (target : Target String)
  | metadata (target : Target String)
  deriving DecidableEq, Repr

/-- A source of contents and metadata. Its answers are given for the questions asked before, the
first of them first. -/
structure Resolver where
  content : List ResolverCall → Target String → Except ResolveError Bytes
  facts : List ResolverCall → Target String → Except ResolveError Metadata

namespace Resolver

/-- A resolver that answers in the same way however often it is asked. -/
def steady (content : Target String → Except ResolveError Bytes)
    (facts : Target String → Except ResolveError Metadata) : Resolver :=
  ⟨fun _ => content, fun _ => facts⟩

/-- The content of a target that is asked for before anything else. -/
def resolve (resolver : Resolver) (target : Target String) : Except ResolveError Bytes :=
  resolver.content [] target

/-- What is known about a target that is asked about before anything else. -/
def metadata (resolver : Resolver) (target : Target String) : Except ResolveError Metadata :=
  resolver.facts [] target

end Resolver

/-- What is held under a target. -/
structure StoredFile where
  bytes : Bytes
  modified : Instant
  deriving DecidableEq, Repr

/-- Files held in memory. For trying things out, a target can be made to fail, and a size other than
that of its content can be reported. -/
structure FileStore where
  files : List (Target String × StoredFile)
  failures : List (Target String × ResolveError)
  sizes : List (Target String × UInt64)

namespace FileStore

def empty : FileStore := ⟨[], [], []⟩

/-- Puts an entry in place of any with the same target. -/
def put (entries : List (Target String × α)) (target : Target String) (value : α) :
    List (Target String × α) :=
  (target, value) :: entries.filter fun entry => entry.1 != target

def find? (entries : List (Target String × α)) (target : Target String) : Option α :=
  (entries.find? fun entry => entry.1 == target).map (·.2)

/-- Holds a file under a target, in place of any held there before. -/
def insert (store : FileStore) (target : Target String) (file : StoredFile) : FileStore :=
  { store with files := put store.files target file }

/-- Makes every question about a target fail. -/
def fail (store : FileStore) (target : Target String) (error : ResolveError) : FileStore :=
  { store with failures := put store.failures target error }

/-- Sets the size that is reported for a target. -/
def reportSize (store : FileStore) (target : Target String) (size : UInt64) : FileStore :=
  { store with sizes := put store.sizes target size }

/-- Changes the time of a file, if there is one under the target. -/
def touch (store : FileStore) (target : Target String) (modified : Instant) : FileStore :=
  { store with files := store.files.map fun entry =>
      if entry.1 = target then (entry.1, { entry.2 with modified := modified }) else entry }

/-- The file under a target. -/
def file (store : FileStore) (target : Target String) : Except ResolveError StoredFile :=
  match find? store.failures target with
  | some error => .error error
  | none =>
    match find? store.files target with
    | some file => .ok file
    | none => .error (.notFound target)

/-- The resolver that answers from the files held. -/
def resolver (store : FileStore) : Resolver :=
  .steady (fun target => (store.file target).map (·.bytes)) fun target =>
    (store.file target).map fun file =>
      ⟨file.modified, (find? store.sizes target).getD (UInt64.ofNat file.bytes.length)⟩

end FileStore

end ServerIncludes

import ServerIncludes.Condition
import ServerIncludes.Document.Fragment
import ServerIncludes.Encoding
import ServerIncludes.Resolver
import ServerIncludes.Size

/-!
Documents as trees: literal text and directives in order, conditionals and blocks holding what
stands between their tags.
-/

namespace ServerIncludes

/-- Text, or a directive that holds no others. -/
inductive Leaf where
  | literal (bytes : Bytes)
  /-- Writes a variable; without an encoding, in that of the settings. -/
  | echo (name : String) (encoding : Option Encoding) (default : Option Template)
  | assign (name : String) (value : Template)
  /-- Writes the content of a target, or stores it under a name. -/
  | inclusion (target : Target Template) (onError : Option Template) (store : Option String)
      (stub : Option String)
  | configure (errorMessage : Option Template) (missingMessage : Option Template)
      (sizeFormat : Option SizeFormat) (timeFormat : Option String)
  | lastModified (target : Target Template)
  | fileSize (target : Target Template)
  | listVariables
  | comment
  /-- A directive of another name, which does nothing. -/
  | unknown (name : String)
  deriving DecidableEq

namespace Leaf

/-- The name of the directive, as tags spell it. -/
def directive : Leaf → String
  | literal _ => "text"
  | echo _ _ _ => "echo"
  | assign _ _ => "set"
  | inclusion _ _ _ _ => "include"
  | configure _ _ _ _ => "config"
  | lastModified _ => "flastmod"
  | fileSize _ => "fsize"
  | listVariables => "printenv"
  | comment => "comment"
  | unknown name => name

end Leaf

mutual

/-- A part of a document, with its place in it. -/
inductive Node where
  | leaf (span : Span) (content : Leaf)
  /-- The nodes of the first branch whose condition holds; `rest` are the branches after the
  first. -/
  | conditional (span : Span) (condition : Condition) (body : List Node) (rest : Branches)
  /-- Nodes that are rendered where the name is echoed or is the stub of an inclusion. -/
  | block (span : Span) (name : String) (body : List Node)

/-- The branches of a conditional after the first one. -/
inductive Branches where
  | done
  | otherwise (body : List Node)
  | elif (condition : Condition) (body : List Node) (rest : Branches)

end

namespace Node

def span : Node → Span
  | leaf span _ => span
  | conditional span _ _ _ => span
  | block span _ _ => span

/-- The name of the directive that the node starts with. -/
def directive : Node → String
  | leaf _ content => content.directive
  | conditional _ _ _ _ => "if"
  | block _ _ _ => "block"

end Node

namespace Branches

/-- The conditions tried after the first one, each with its nodes. -/
def elifs : Branches → List (Condition × List Node)
  | done => []
  | otherwise _ => []
  | elif condition body rest => (condition, body) :: elifs rest

/-- The nodes to take when no condition holds. -/
def otherwise? : Branches → Option (List Node)
  | done => none
  | otherwise body => some body
  | elif _ _ rest => otherwise? rest

/-- Branches in order: conditions with their nodes, then the nodes to take otherwise. -/
def ofList (elifs : List (Condition × List Node)) (last : Option (List Node)) : Branches :=
  match elifs with
  | [] =>
    match last with
    | none => done
    | some body => otherwise body
  | (condition, body) :: rest => elif condition body (ofList rest last)

end Branches

mutual

/-- Decides whether two nodes are the same, places included. -/
def Node.decideEq : (a b : Node) → Decidable (a = b)
  | .leaf span content, .leaf span' content' =>
    decidable_of_iff (span = span' ∧ content = content') (by simp)
  | .conditional span condition body rest, .conditional span' condition' body' rest' =>
    have := Node.decideListEq body body'
    have := Branches.decideEq rest rest'
    decidable_of_iff (span = span' ∧ condition = condition' ∧ body = body' ∧ rest = rest') (by simp)
  | .block span name body, .block span' name' body' =>
    have := Node.decideListEq body body'
    decidable_of_iff (span = span' ∧ name = name' ∧ body = body') (by simp)
  | .leaf _ _, .conditional _ _ _ _ => isFalse (by simp)
  | .leaf _ _, .block _ _ _ => isFalse (by simp)
  | .conditional _ _ _ _, .leaf _ _ => isFalse (by simp)
  | .conditional _ _ _ _, .block _ _ _ => isFalse (by simp)
  | .block _ _ _, .leaf _ _ => isFalse (by simp)
  | .block _ _ _, .conditional _ _ _ _ => isFalse (by simp)

def Branches.decideEq : (a b : Branches) → Decidable (a = b)
  | .done, .done => isTrue rfl
  | .otherwise body, .otherwise body' =>
    have := Node.decideListEq body body'
    decidable_of_iff (body = body') (by simp)
  | .elif condition body rest, .elif condition' body' rest' =>
    have := Node.decideListEq body body'
    have := Branches.decideEq rest rest'
    decidable_of_iff (condition = condition' ∧ body = body' ∧ rest = rest') (by simp)
  | .done, .otherwise _ => isFalse (by simp)
  | .done, .elif _ _ _ => isFalse (by simp)
  | .otherwise _, .done => isFalse (by simp)
  | .otherwise _, .elif _ _ _ => isFalse (by simp)
  | .elif _ _ _, .done => isFalse (by simp)
  | .elif _ _ _, .otherwise _ => isFalse (by simp)

def Node.decideListEq : (a b : List Node) → Decidable (a = b)
  | [], [] => isTrue rfl
  | node :: rest, node' :: rest' =>
    have := Node.decideEq node node'
    have := Node.decideListEq rest rest'
    decidable_of_iff (node = node' ∧ rest = rest') (by simp)
  | [], _ :: _ => isFalse (by simp)
  | _ :: _, [] => isFalse (by simp)

end

instance : DecidableEq Node := Node.decideEq

instance : DecidableEq Branches := Branches.decideEq

end ServerIncludes

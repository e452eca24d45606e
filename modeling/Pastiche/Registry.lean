import Pastiche.Name
import Pastiche.Operation.Plan

/-! Operations by name, in namespaces. -/

namespace Pastiche

/-- A group of operations. The data of its members stands under its base. -/
structure Namespace where
  name : String
  /-- Where the keys of the data begin; none at the root. -/
  base : Option String
  /-- The operations by the usual form of their names. -/
  operations : List (String × Operation)

namespace Namespace

/-- A namespace without operations whose data stands under its name. -/
def named (name : String) : Namespace := ⟨name, some (Name.snake name), []⟩

/-- The namespace of members without a namespace. -/
def root : Namespace := ⟨"Faker", none, []⟩

def withBase (space : Namespace) (base : String) : Namespace := { space with base := some base }

/-- Adds an operation, in the place of one with the same name. -/
def register (space : Namespace) (name : String) (operation : Operation) : Namespace :=
  { space with operations := Dictionary.insert (Name.snake name) operation space.operations }

/-- The operation with exactly this name, or else with its usual form. -/
def get? (space : Namespace) (name : String) : Option Operation :=
  Dictionary.find? name space.operations <|> Dictionary.find? (Name.snake name) space.operations

def operationNames (space : Namespace) : List String := Dictionary.keys space.operations

def scope (space : Namespace) : Scope := ⟨space.name, space.base, space.operationNames⟩

def dataKey (space : Namespace) (member : String) : String := space.scope.dataKey member

end Namespace

structure Registry where
  root : Namespace
  /-- The namespaces by the usual form of their names. -/
  namespaces : List (String × Namespace)

namespace Registry

def register (registry : Registry) (space : Namespace) : Registry :=
  { registry with
    namespaces := Dictionary.insert (Name.snake space.name) space registry.namespaces }

def registerRoot (registry : Registry) (name : String) (operation : Operation) : Registry :=
  { registry with root := registry.root.register name operation }

def namespace? (registry : Registry) (name : String) : Option Namespace :=
  Dictionary.find? (Name.snake name) registry.namespaces

end Registry

end Pastiche

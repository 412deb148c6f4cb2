/-! Violations of the style guide, and the record that a run keeps of them. -/
namespace HouseStyle

inductive Severity where
  | error
  | warning
  deriving DecidableEq, Repr

def Severity.label : Severity → String
  | .error => "error"
  | .warning => "warning"

structure Violation where
  check : String
  file : String
  message : String
  severity : Severity
  deriving DecidableEq, Repr

def Violation.isError (violation : Violation) : Bool := violation.severity == .error

structure Record where
  entries : Array Violation := #[]
  deriving DecidableEq, Repr, Inhabited

namespace Record

def empty : Record := {}

def push (record : Record) (violation : Violation) : Record := ⟨record.entries.push violation⟩

def toList (record : Record) : List Violation := record.entries.toList

def size (record : Record) : Nat := record.entries.size

def isEmpty (record : Record) : Bool := record.entries.isEmpty

def errorCount (record : Record) : Nat := record.toList.countP Violation.isError

@[simp] theorem toListEmpty : empty.toList = [] := rfl

@[simp] theorem toListPush (record : Record) (violation : Violation) :
    (record.push violation).toList = record.toList ++ [violation] := by
  simp [toList, push]

@[simp] theorem lengthToList (record : Record) : record.toList.length = record.size := by
  simp [toList, size]

end Record

end HouseStyle

import EntityMapper.Json.Printer
import EntityMapper.Keyed
import EntityMapper.Text.Word

set_option autoImplicit false

/-! Why fields fail validation. -/

namespace EntityMapper

/-- Why a field failed validation. -/
inductive Reason where
  | required
  | invalidType
  | invalidValue
  | minValue
  | maxValue
  | minLength
  | maxLength
  | unique
deriving DecidableEq, Repr

namespace Reason

def text : Reason → String
  | .required => "REQUIRED"
  | .invalidType => "INVALID_TYPE"
  | .invalidValue => "INVALID_VALUE"
  | .minValue => "MIN_VALUE"
  | .maxValue => "MAX_VALUE"
  | .minLength => "MIN_LENGTH"
  | .maxLength => "MAX_LENGTH"
  | .unique => "UNIQUE"

instance : Worded Reason where
  word := text
  all := [.required, .invalidType, .invalidValue, .minValue, .maxValue, .minLength, .maxLength,
    .unique]
  complete reason := by cases reason <;> decide
  apart := by decide

/-- The reason that a word names. -/
def ofText? : String → Option Reason := Worded.read?

end Reason

/-- Fields that failed, each with its first reason, in the order of their names. -/
structure FieldErrors where
  fields : Keyed Reason

namespace FieldErrors

def empty : FieldErrors := ⟨Keyed.empty⟩

instance : Inhabited FieldErrors := ⟨empty⟩

/-- Records a failure; a field keeps its first reason. -/
def add (field : String) (reason : Reason) (errors : FieldErrors) : FieldErrors :=
  ⟨errors.fields.insertNew field reason⟩

def ofList (failures : List (String × Reason)) : FieldErrors :=
  failures.foldl (fun errors failure => errors.add failure.1 failure.2) empty

def get? (field : String) (errors : FieldErrors) : Option Reason := errors.fields.get? field

def contains (field : String) (errors : FieldErrors) : Bool := errors.fields.contains field

def isEmpty (errors : FieldErrors) : Bool := errors.fields.isEmpty

def size (errors : FieldErrors) : Nat := errors.fields.size

def toList (errors : FieldErrors) : List (String × Reason) := errors.fields.entries

/-- Fields and reasons, with commas between. -/
def text (errors : FieldErrors) : String :=
  ", ".intercalate (errors.toList.map fun entry => entry.1 ++ ": " ++ entry.2.text)

/-- The document that maps each field to its reason. -/
def toJson (errors : FieldErrors) : Json :=
  .object (errors.toList.map fun entry => (entry.1, .text entry.2.text))

end FieldErrors

end EntityMapper

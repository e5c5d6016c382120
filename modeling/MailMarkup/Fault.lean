namespace MailMarkup

inductive PathStep where
  | key (name : String)
  | index (i : Nat)
  deriving DecidableEq, Repr

inductive Cause where
  | missing
  | notRecord (name : String)
  | notFields
  | notText
  | notInteger
  | notIntegerText
  | tooManyDigits
  | fraction
  | notFinite
  | notNumber
  | notNumberText
  | notBoolean
  | notBooleanText
  | notList
  | notAmong (names : List String)
  | notOption (names : List String)
  | atLeast (bound : Int)
  | frozen
  | notJson
  deriving DecidableEq, Repr

def alternatives (names : List String) : String :=
  match (names.map fun n => s!"'{n}'").reverse with
  | [] => ""
  | [n] => n
  | n :: before => ", ".intercalate before.reverse ++ " or " ++ n

namespace Cause

def label : Cause → String
  | missing => "missing"
  | notRecord _ => "model_type"
  | notFields => "model_attributes_type"
  | notText => "string_type"
  | notInteger => "int_type"
  | notIntegerText => "int_parsing"
  | tooManyDigits => "int_parsing_size"
  | fraction => "int_from_float"
  | notFinite => "finite_number"
  | notNumber => "float_type"
  | notNumberText => "float_parsing"
  | notBoolean => "bool_type"
  | notBooleanText => "bool_parsing"
  | notList => "list_type"
  | notAmong _ => "enum"
  | notOption _ => "literal_error"
  | atLeast _ => "greater_than_equal"
  | frozen => "frozen_instance"
  | notJson => "json_invalid"

def message : Cause → String
  | missing => "Field required"
  | notRecord name => s!"Input should be a valid dictionary or instance of {name}"
  | notFields => "Input should be a valid dictionary or object to extract fields from"
  | notText => "Input should be a valid string"
  | notInteger => "Input should be a valid integer"
  | notIntegerText => "Input should be a valid integer, unable to parse string as an integer"
  | tooManyDigits => "Unable to parse input string as an integer, exceeded maximum size"
  | fraction => "Input should be a valid integer, got a number with a fractional part"
  | notFinite => "Input should be a finite number"
  | notNumber => "Input should be a valid number"
  | notNumberText => "Input should be a valid number, unable to parse string as a number"
  | notBoolean => "Input should be a valid boolean"
  | notBooleanText => "Input should be a valid boolean, unable to interpret input"
  | notList => "Input should be a valid list"
  | notAmong names => "Input should be " ++ alternatives names
  | notOption names => "Input should be " ++ alternatives names
  | atLeast bound => s!"Input should be greater than or equal to {bound}"
  | frozen => "Instance is frozen"
  | notJson => "JSON decode error"

end Cause

structure Fault where
  path : List PathStep
  cause : Cause
  deriving DecidableEq, Repr

def Fault.within (step : PathStep) (fault : Fault) : Fault := { fault with path := step :: fault.path }

end MailMarkup

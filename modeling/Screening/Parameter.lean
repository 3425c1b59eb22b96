import Screening.Operator
import Screening.Schema.Day

/-!
# Parameters and their values

A parameter is a named figure that companies report, each value of it dated. `Parameter.accepts`
says which values fit the parameter's type.
-/

namespace Screening

inductive DataType where
  | number
  | boolean
  | text
  deriving DecidableEq

namespace DataType

def name : DataType → String
  | number => "number"
  | boolean => "boolean"
  | text => "string"

def ofName? (s : String) : Option DataType :=
  [number, boolean, text].find? fun t => t.name == s

def accepts : DataType → Data → Bool
  | number, d => d.number?.isSome
  | boolean, .atom (.scalar (.bool _)) => true
  | boolean, _ => false
  | text, d => d.text?.isSome

end DataType

/-- Who may see and use a parameter. -/
inductive OwnerScope where
  | global
  | client
  deriving DecidableEq

namespace OwnerScope

def name : OwnerScope → String
  | global => "global"
  | client => "client"

def ofName? (s : String) : Option OwnerScope :=
  [global, client].find? fun o => o.name == s

end OwnerScope

structure Parameter where
  id : Text
  name : Text
  dataType : DataType
  unit : Option Text
  description : Option Text
  ownerScope : OwnerScope
  ownerId : Option Text
  named : name.IsName

/-- One dated value of a parameter for a company. -/
structure ParameterValue where
  companyId : Text
  parameterId : Text
  parameterName : Text
  value : Scalar
  effective : Date
  source : Option Text
  deriving DecidableEq

namespace Parameter

def accepts (p : Parameter) (d : Data) : Bool := p.dataType.accepts d

def check : Check Parameter :=
  Check.record fun entries =>
    (fun id ⟨name, named⟩ dataType unit description ownerScope ownerId =>
      ⟨id, name, dataType, unit, description, ownerScope, ownerId, named⟩)
      <$> Check.required entries "id" Check.text
      <*> Check.required entries "name" Check.name
      <*> Check.required entries "data_type" (Check.oneOf DataType.ofName?)
      <*> Check.nullable entries "unit" Check.text
      <*> Check.nullable entries "description" Check.text
      <*> Check.optional entries "owner_scope" .global (Check.oneOf OwnerScope.ofName?)
      <*> Check.nullable entries "owner_id" Check.text

def toData (p : Parameter) : Data :=
  .object [("id", .text p.id), ("name", .text p.name), ("data_type", .text p.dataType.name),
    ("unit", .option .text p.unit), ("description", .option .text p.description),
    ("owner_scope", .text p.ownerScope.name), ("owner_id", .option .text p.ownerId)]

end Parameter

namespace ParameterValue

def check : Check ParameterValue :=
  Check.record fun entries =>
    ParameterValue.mk
      <$> Check.required entries "company_id" Check.text
      <*> Check.required entries "parameter_id" Check.text
      <*> Check.required entries "parameter_name" Check.text
      <*> Check.required entries "value" Check.scalar
      <*> Check.required entries "effective_date" Check.date
      <*> Check.nullable entries "source" Check.text

def toData (v : ParameterValue) : Data :=
  .object [("company_id", .text v.companyId), ("parameter_id", .text v.parameterId),
    ("parameter_name", .text v.parameterName), ("value", .scalar v.value),
    ("effective_date", .date v.effective), ("source", .option .text v.source)]

end ParameterValue

end Screening

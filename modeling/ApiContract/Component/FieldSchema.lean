import ApiContract.Schema
/-!
# Directives on schemas

The directives of a field or a parameter refine the schema of its type. Each directive writes some
attributes, if the schema is of a kind that has them; of several writes the last one counts.
-/

namespace ApiContract

/-- Sets the minimum of a number. -/
def Schema.setMinimum (value : Binary64) (s : Schema) : Schema :=
  match s.shape with
  | .number n => { s with shape := .number { n with minimum := some value } }
  | _ => s

/-- Sets the maximum of a number. -/
def Schema.setMaximum (value : Binary64) (s : Schema) : Schema :=
  match s.shape with
  | .number n => { s with shape := .number { n with maximum := some value } }
  | _ => s

/-- Sets the bounds of the length of a text or of the size of an array. -/
def Schema.setSize (least greatest : Option UInt64) (s : Schema) : Schema :=
  match s.shape with
  | .string t => { s with shape := .string { t with minLength := least, maxLength := greatest } }
  | .array a => { s with shape := .array { a with minItems := least, maxItems := greatest } }
  | _ => s

/-- Sets the pattern of a text. -/
def Schema.setPattern (regex : String) (s : Schema) : Schema :=
  match s.shape with
  | .string t => { s with shape := .string { t with pattern := some regex } }
  | _ => s

/-- Adds what a description says. -/
def Schema.addDescription (d : Description) (s : Schema) : Schema :=
  { s with
    description := d.description.or s.description
    access := d.access.or s.access
    deprecated := s.deprecated || d.deprecated }

/-- Applies a directive of a field or a parameter. -/
def Directive.applyTo (s : Schema) : Directive → Schema
  | .min value => s.setMinimum value
  | .max value => s.setMaximum value
  | .size least greatest => s.setSize least greatest
  | .pattern regex => s.setPattern regex
  | .describe d => s.addDescription d
  | .deprecated => { s with deprecated := true }
  | _ => s

/-- Applies the directives of a field or a parameter in order. -/
def Directives.applyTo (ds : Directives) (s : Schema) : Schema := ds.foldl Directive.applyTo s

/-- Applies the directives of a type: its first description, and whether it is deprecated. -/
def Directives.applyToType (ds : Directives) (s : Schema) : Schema :=
  { s with
    description := (ds.description?.bind (·.description)).or s.description
    deprecated := s.deprecated || ds.isDeprecated }

end ApiContract

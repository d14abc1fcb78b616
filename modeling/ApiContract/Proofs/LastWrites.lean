import Mathlib.Data.List.Basic
import ApiContract.Proofs.Contents
/-!
# The last write counts

The directives of a field or a parameter are applied one after the other, and each writes some
attributes of the schema, those that its kind has. What comes out is known without the order of
application: each attribute has the value of the last directive that writes it. So directives that
write different attributes may change places, and a second application changes nothing.

* `Directive.minimum?`, `Directive.sizes?`, … : what a directive gives for an attribute.
* `Directive.writes` : whether it writes an attribute of schemas of a kind.
* `Directives.last?` : what the last directive that gives something gives.
* `Directives.applyTo_eq` : the schema that comes out, attribute by attribute.
* `last_writes_count` : the statement with its consequences.
-/

namespace ApiContract

/-! ## What one directive writes -/

/-- The attributes of a schema that directives of a field write. -/
inductive Attribute where
  | minimum
  | maximum
  | minLength
  | maxLength
  | minItems
  | maxItems
  | pattern
  | description
  | deprecated
  | access
deriving DecidableEq, Repr

namespace Directive

/-- The least number. -/
def minimum? : Directive → Option Binary64
  | .min value => some value
  | _ => none

/-- The greatest number. -/
def maximum? : Directive → Option Binary64
  | .max value => some value
  | _ => none

/-- The bounds of a length or a size; a bound that is left out is given as absent. -/
def sizes? : Directive → Option (Option UInt64 × Option UInt64)
  | .size least greatest => some (least, greatest)
  | _ => none

/-- The pattern of a text. -/
def pattern? : Directive → Option String
  | .pattern regex => some regex
  | _ => none

/-- The text of a description. -/
def text? : Directive → Option String
  | .describe d => d.description
  | _ => none

/-- Whether a value is only read or only written. -/
def access? : Directive → Option Access
  | .describe d => d.access
  | _ => none

/-- Whether the element is called deprecated. -/
def deprecates : Directive → Bool
  | .deprecated => true
  | .describe d => d.deprecated
  | _ => false

/-- Whether a directive writes an attribute of the schemas of a kind. -/
def writes (shape : Shape Schema) (a : Attribute) (d : Directive) : Bool :=
  match a, shape with
  | .minimum, .number _ => d.minimum?.isSome
  | .maximum, .number _ => d.maximum?.isSome
  | .minLength, .string _ => d.sizes?.isSome
  | .maxLength, .string _ => d.sizes?.isSome
  | .minItems, .array _ => d.sizes?.isSome
  | .maxItems, .array _ => d.sizes?.isSome
  | .pattern, .string _ => d.pattern?.isSome
  | .description, _ => d.text?.isSome
  | .deprecated, _ => d.deprecates
  | .access, _ => d.access?.isSome
  | _, _ => false

end Directive

/-! ## What the last of several directives writes -/

namespace Directives

variable {α : Type} {ds ds' : Directives} {f : Directive → Option α}

/-- What the last directive that gives something gives. -/
def last? (f : Directive → Option α) (ds : Directives) : Option α := (ds.filterMap f).getLast?

theorem last?_append (f : Directive → Option α) (ds ds' : Directives) :
    last? f (ds ++ ds') = (last? f ds').or (last? f ds) := by
  rw [last?, List.filterMap_append, List.getLast?_append]
  rfl

/-- Only the directives that give something matter. -/
theorem last?_congr
    (h : ds'.filter (fun d => (f d).isSome) = ds.filter fun d => (f d).isSome) :
    last? f ds' = last? f ds := by
  have hgiven : ∀ ds : Directives,
      ds.filterMap f = (ds.filter fun d => (f d).isSome).filterMap f := by
    intro ds
    rw [List.filterMap_filter]
    refine List.filterMap_congr fun d _ => ?_
    cases f d <;> rfl
  rw [last?, last?, hgiven, h, ← hgiven]

theorem isDeprecated_eq (ds : Directives) : ds.isDeprecated = ds.any Directive.deprecates := by
  rfl

theorem isDeprecated_congr
    (h : ds'.filter Directive.deprecates = ds.filter Directive.deprecates) :
    isDeprecated ds' = isDeprecated ds := by
  have hgiven : ∀ ds : Directives, ds.any Directive.deprecates =
      (ds.filter Directive.deprecates).any Directive.deprecates := by
    intro ds
    simp [List.any_filter]
  rw [isDeprecated_eq, isDeprecated_eq, hgiven, h, ← hgiven]

/-- A shape with the bounds and the pattern that the last directives write. -/
def writeShape (ds : Directives) : Shape Schema → Shape Schema
  | .number n => .number { n with
      minimum := (last? Directive.minimum? ds).or n.minimum
      maximum := (last? Directive.maximum? ds).or n.maximum }
  | .string t => .string { t with
      pattern := (last? Directive.pattern? ds).or t.pattern
      minLength := ((last? Directive.sizes? ds).map Prod.fst).getD t.minLength
      maxLength := ((last? Directive.sizes? ds).map Prod.snd).getD t.maxLength }
  | .array a => .array { a with
      minItems := ((last? Directive.sizes? ds).map Prod.fst).getD a.minItems
      maxItems := ((last? Directive.sizes? ds).map Prod.snd).getD a.maxItems }
  | shape => shape

theorem writeShape_append (ds ds' : Directives) (shape : Shape Schema) :
    writeShape (ds ++ ds') shape = writeShape ds' (writeShape ds shape) := by
  cases shape with
  | number n => simp [writeShape, last?_append, Option.or_assoc]
  | string t =>
    cases h : last? Directive.sizes? ds' <;>
      simp [writeShape, last?_append, Option.or_assoc, h]
  | array a =>
    cases h : last? Directive.sizes? ds' <;> simp [writeShape, last?_append, h]
  | _ => rfl

theorem last?_cons (f : Directive → Option α) (d : Directive) (rest : Directives) :
    last? f (d :: rest) = (last? f rest).or (f d) := by
  have hsingle : last? f [d] = f d := by cases h : f d <;> simp [last?, h]
  rw [← hsingle, ← last?_append]
  rfl

/-- What one directive makes of a schema. -/
theorem applyTo_singleton (d : Directive) (s : Schema) :
    d.applyTo s = {
      shape := writeShape [d] s.shape
      description := d.text?.or s.description
      deprecated := s.deprecated || d.deprecates
      access := d.access?.or s.access } := by
  obtain ⟨shape, description, deprecated, access⟩ := s
  cases d <;> cases shape <;> cases deprecated <;> rfl

/-- Each attribute has the value of the last directive that writes it. -/
theorem applyTo_eq (ds : Directives) (s : Schema) :
    ds.applyTo s = {
      shape := ds.writeShape s.shape
      description := (last? Directive.text? ds).or s.description
      deprecated := s.deprecated || ds.isDeprecated
      access := (last? Directive.access? ds).or s.access } := by
  induction ds generalizing s with
  | nil =>
    obtain ⟨shape, description, deprecated, access⟩ := s
    cases shape <;> simp [applyTo, writeShape, last?, isDeprecated]
  | cons d rest ih =>
    have hshape : writeShape (d :: rest) s.shape = writeShape rest (writeShape [d] s.shape) :=
      writeShape_append [d] rest s.shape
    show applyTo rest (d.applyTo s) = _
    rw [ih, applyTo_singleton, hshape, last?_cons, last?_cons, Option.or_assoc, Option.or_assoc,
      isDeprecated_eq, isDeprecated_eq, List.any_cons, Bool.or_assoc]

/-! ## Order and repetition -/

/-- Directives that, for each attribute, are the same ones in the same order do the same to a
shape. -/
theorem writeShape_congr {shape : Shape Schema}
    (h : ∀ a, ds'.filter (Directive.writes shape a) = ds.filter (Directive.writes shape a)) :
    ds'.writeShape shape = ds.writeShape shape := by
  cases shape with
  | number n => rw [writeShape, writeShape, last?_congr (h .minimum), last?_congr (h .maximum)]
  | string t => rw [writeShape, writeShape, last?_congr (h .pattern), last?_congr (h .minLength)]
  | array a => rw [writeShape, writeShape, last?_congr (h .minItems)]
  | _ => rfl

theorem applyTo_congr {s : Schema}
    (h : ∀ a, ds'.filter (Directive.writes s.shape a) = ds.filter (Directive.writes s.shape a)) :
    ds'.applyTo s = ds.applyTo s := by
  rw [applyTo_eq, applyTo_eq, writeShape_congr h, last?_congr (h .description),
    isDeprecated_congr (h .deprecated), last?_congr (h .access)]

theorem last?_append_self (f : Directive → Option α) (ds : Directives) :
    last? f (ds ++ ds) = last? f ds := by
  rw [last?_append, Option.or_self]

theorem applyTo_append_self (ds : Directives) (s : Schema) :
    applyTo (ds ++ ds) s = ds.applyTo s := by
  have hshape : writeShape (ds ++ ds) s.shape = writeShape ds s.shape := by
    cases s.shape <;> simp [writeShape, last?_append_self]
  rw [applyTo_eq, applyTo_eq, hshape, last?_append_self, last?_append_self, isDeprecated_eq,
    isDeprecated_eq, List.any_append, Bool.or_self]

end Directives

/-- Directives leave the kind of a schema and everything nested in it as they are. Of the other
attributes, the bounds of a number are those that the last directives for them give, those of a text
or an array are both bounds of the last directive on sizes, and the pattern of a text is the last
one; description and access are the last ones that are given, and the schema is deprecated if it was
or some directive says so. Without a directive for it, an attribute is kept. Only the order of
directives that write the same attribute matters, and a second application changes nothing. -/
theorem last_writes_count (ds : Directives) (s : Schema) :
    (ds.applyTo s).contents = s.contents ∧
    (∀ n, s.shape = .number n → (ds.applyTo s).shape = .number { n with
      minimum := (ds.last? Directive.minimum?).or n.minimum
      maximum := (ds.last? Directive.maximum?).or n.maximum }) ∧
    (∀ t, s.shape = .string t → (ds.applyTo s).shape = .string { t with
      pattern := (ds.last? Directive.pattern?).or t.pattern
      minLength := ((ds.last? Directive.sizes?).map Prod.fst).getD t.minLength
      maxLength := ((ds.last? Directive.sizes?).map Prod.snd).getD t.maxLength }) ∧
    (∀ a, s.shape = .array a → (ds.applyTo s).shape = .array { a with
      minItems := ((ds.last? Directive.sizes?).map Prod.fst).getD a.minItems
      maxItems := ((ds.last? Directive.sizes?).map Prod.snd).getD a.maxItems }) ∧
    ((∀ n, s.shape ≠ .number n) → (∀ t, s.shape ≠ .string t) → (∀ a, s.shape ≠ .array a) →
      (ds.applyTo s).shape = s.shape) ∧
    (ds.applyTo s).description = (ds.last? Directive.text?).or s.description ∧
    (ds.applyTo s).access = (ds.last? Directive.access?).or s.access ∧
    ((ds.applyTo s).deprecated = true ↔
      s.deprecated = true ∨ ∃ d ∈ ds, d.deprecates = true) ∧
    (∀ ds' : Directives, (∀ a, ds'.filter (Directive.writes s.shape a) =
      ds.filter (Directive.writes s.shape a)) → ds'.applyTo s = ds.applyTo s) ∧
    ds.applyTo (ds.applyTo s) = ds.applyTo s := by
  have heq := ds.applyTo_eq s
  have hshape : (ds.applyTo s).shape = ds.writeShape s.shape := congrArg Schema.shape heq
  refine ⟨s.contents_applyTo ds, fun n hn => ?_, fun t ht => ?_, fun a ha => ?_,
    fun hn ht ha => ?_, congrArg Schema.description heq, congrArg Schema.access heq, ?_,
    fun ds' h => Directives.applyTo_congr h, ?_⟩
  · rw [hshape, hn, Directives.writeShape]
  · rw [hshape, ht, Directives.writeShape]
  · rw [hshape, ha, Directives.writeShape]
  · rw [hshape]
    cases hs : s.shape with
    | number n => exact absurd hs (hn n)
    | string t => exact absurd hs (ht t)
    | array a => exact absurd hs (ha a)
    | _ => rfl
  · rw [heq, Bool.or_eq_true, Directives.isDeprecated_eq, List.any_eq_true]
  · exact List.foldl_append.symm.trans (Directives.applyTo_append_self ds s)

/-- The directives of a label: two sizes, two least numbers, and a description between them. -/
def labelDirectives : Directives :=
  [.size (some 1) (some 9), .min (.ofInt 1), .describe { description := some "A label" },
    .size none (some 4), .min (.ofInt 2), .pattern "[a-z]*"]

/-- The same directives with those that write the same attribute in the same order. -/
def sortedLabelDirectives : Directives :=
  [.min (.ofInt 1), .min (.ofInt 2), .pattern "[a-z]*", .size (some 1) (some 9),
    .size none (some 4), .describe { description := some "A label" }]

theorem last_writes_count_label :
    (labelDirectives.applyTo .text).shape =
      .string { pattern := some "[a-z]*", minLength := none, maxLength := some 4 } ∧
    (labelDirectives.applyTo (.integer "int32")).shape =
      .number { numericType := .integer, format := some "int32", minimum := some (.ofInt 2) } ∧
    (labelDirectives.applyTo (.array .text)).shape =
      .array { items := .text, minItems := none, maxItems := some 4 } ∧
    (labelDirectives.applyTo .boolean).shape = .boolean ∧
    sortedLabelDirectives.applyTo .text = labelDirectives.applyTo .text := by
  obtain ⟨-, -, htext, -, -, -, -, -, horder, -⟩ := last_writes_count labelDirectives .text
  obtain ⟨-, hnumber, -⟩ := last_writes_count labelDirectives (.integer "int32")
  obtain ⟨-, -, -, harray, -⟩ := last_writes_count labelDirectives (.array .text)
  obtain ⟨-, -, -, -, hother, -⟩ := last_writes_count labelDirectives .boolean
  refine ⟨htext _ rfl, hnumber _ rfl, harray _ rfl, hother nofun nofun nofun, horder _ fun a => ?_⟩
  cases a <;> rfl

end ApiContract

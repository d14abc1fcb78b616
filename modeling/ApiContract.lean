import ApiContract.Text.Digit
import ApiContract.Text.Blank
import ApiContract.Text.Split
import ApiContract.Text.LetterCase
import ApiContract.Assoc
import ApiContract.Decimal.Shortest
import ApiContract.Json.Basic
import ApiContract.Json.Writer
import ApiContract.Source.Tree
import ApiContract.Json.Reader
import ApiContract.TypeRef
import ApiContract.Text.Quoted
import ApiContract.Names
import ApiContract.Verb
import ApiContract.Directive.Basic
import ApiContract.Descriptor
import ApiContract.Fault
import ApiContract.Graph.Basic
import ApiContract.Source.PlainScalar
import ApiContract.Source.Decode
import ApiContract.Directive.Record
import ApiContract.Graph.Record
import ApiContract.Endpoint.Path
import ApiContract.Endpoint.TagName
import ApiContract.Endpoint.OperationId
import ApiContract.NamespacePattern
import ApiContract.Trace
import ApiContract.Schema
import ApiContract.Document
import ApiContract.Polymorphism
import ApiContract.Scope
import ApiContract.Hooks
import ApiContract.Component.ValueSchema
import ApiContract.Component.Ancestry
import ApiContract.Component.FieldSchema
import ApiContract.Component.Component
import ApiContract.Endpoint.Parameters
import ApiContract.Endpoint.Responses
import ApiContract.Endpoint.Operations
import ApiContract.Config
import ApiContract.Generator
import ApiContract.OpenApi.Schema
import ApiContract.OpenApi.Specification
import ApiContract.OpenApi.SchemaRecord
import ApiContract.OpenApi.Record
import ApiContract.Config.Record
import ApiContract.Format
import ApiContract.Yaml.Character
import ApiContract.Yaml.Notation
import ApiContract.Yaml.Writer
import ApiContract.Yaml.Cursor
import ApiContract.Yaml.Token
import ApiContract.Yaml.Token.Scalar
import ApiContract.Yaml.Token.Mark
import ApiContract.Yaml.Token.Scanner
import ApiContract.Yaml.Reader
import ApiContract.OpenApi.Text
import ApiContract.Toml.Text
import ApiContract.Toml.Number
import ApiContract.Toml.Table
import ApiContract.Toml.Reader
import ApiContract.Config.Text
import ApiContract.Files
import ApiContract.Storage
import ApiContract.LogFilter
import ApiContract.Command.Arguments
import ApiContract.Command.Basic
import ApiContract.Command.Session
import ApiContract.Command.Generate
import ApiContract.Command.Inspect
import ApiContract.Command.Run
import ApiContract.Main
import ApiContract.Proofs.Outcome
import ApiContract.Proofs.Table
import ApiContract.Proofs.Candidates
import ApiContract.Proofs.Contents
import ApiContract.Proofs.ValueSchema
import ApiContract.Proofs.Bases
import ApiContract.Proofs.ClassObject
import ApiContract.Proofs.Generation
import ApiContract.Proofs.SuperclassChains
import ApiContract.Proofs.OperationSources
import ApiContract.Proofs.Origins
import ApiContract.Proofs.ReferenceClosure
import ApiContract.Proofs.SuperclassCycles
import ApiContract.Proofs.Discriminators
import ApiContract.Proofs.SubclassTags
import ApiContract.Proofs.OperationValues
import ApiContract.Proofs.Filing
import ApiContract.Proofs.OperationPlaces
import ApiContract.Proofs.EffectiveNames
import ApiContract.Proofs.NestedArrays
import ApiContract.Proofs.FaultyDeclarations
import ApiContract.Proofs.TypeGrammar
import ApiContract.Proofs.CanonicalTypes
import ApiContract.Proofs.PairedRuns
import ApiContract.Proofs.PairedWalks
import ApiContract.Proofs.MatchedGraphs
import ApiContract.Proofs.MatchedComponents
import ApiContract.Proofs.MatchedOperations
import ApiContract.Proofs.Exclusion
import ApiContract.Proofs.SpecificationReferences
import ApiContract.Proofs.AgreeingScopes
import ApiContract.Proofs.DeclarationOrder
import ApiContract.Proofs.UnrelatedTypes
import ApiContract.Proofs.ComponentSteps
import ApiContract.Proofs.HookIsolation
import ApiContract.Proofs.FreeSuffixes
import ApiContract.Proofs.ReferenceStyles
import ApiContract.Proofs.Decoding
import ApiContract.Proofs.DistinctNames
import ApiContract.Proofs.Rereading
import ApiContract.Proofs.WrittenDirectives
import ApiContract.Proofs.WrittenTypes
import ApiContract.Proofs.CanonicalPaths
import ApiContract.Proofs.JoinedPaths
import ApiContract.Proofs.PathVariables
import ApiContract.Proofs.UnboundVariables
import ApiContract.Proofs.PathTemplates
import ApiContract.Proofs.PatternExpressions
import ApiContract.Proofs.NamespacePatterns
import ApiContract.Proofs.TypeOutcomes
import ApiContract.Proofs.PolymorphicDeclarations
import ApiContract.Proofs.ParameterPlaces
import ApiContract.Proofs.ShadowedFields
import ApiContract.Proofs.LastWrites
import ApiContract.Proofs.StatedSchemas
import ApiContract.Proofs.StatedDocuments
import ApiContract.Proofs.SavedFiles
import ApiContract.Proofs.ShownValues
import ApiContract.Proofs.WrittenSpecifications
import ApiContract.Proofs.SuperclassWalk
import ApiContract.Proofs.HyphenatedNames

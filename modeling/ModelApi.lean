import ModelApi.Compile.Api
import ModelApi.Compile.Basic
import ModelApi.Compile.Keys
import ModelApi.Compile.Models
import ModelApi.Compile.Statements
import ModelApi.Config.Basic
import ModelApi.Config.Decode
import ModelApi.Config.Encode
import ModelApi.Config.Tables
import ModelApi.Decimal.Binary64
import ModelApi.Decimal.Shortest
import ModelApi.Directive.Arguments
import ModelApi.Directive.Basic
import ModelApi.Directive.Collect
import ModelApi.Directive.Misuse
import ModelApi.Directive.Rules
import ModelApi.Directive.Unsupported
import ModelApi.Json.Basic
import ModelApi.Json.Decode
import ModelApi.Json.Draft
import ModelApi.Json.Number
import ModelApi.Json.Scanner
import ModelApi.Json.Writer
import ModelApi.Key.Basic
import ModelApi.OrderedMap
import ModelApi.Proofs.OrderedMap
import ModelApi.Proofs.Table.Overrides
import ModelApi.Proofs.Text.Join
import ModelApi.Proofs.Text.Camel
import ModelApi.Renames
import ModelApi.Resolver.ArgumentError
import ModelApi.Resolver.Basic
import ModelApi.Resolver.Stages
import ModelApi.Resolver.FunctionRequest
import ModelApi.Resolver.ItemRequest
import ModelApi.Resolver.KeyTemplate
import ModelApi.Resolver.SyncQuery
import ModelApi.Schema.Basic
import ModelApi.Schema.Grammar
import ModelApi.Schema.Lookup
import ModelApi.Schema.Reader
import ModelApi.Stack
import ModelApi.Table.Basic
import ModelApi.Table.Resource
import ModelApi.Template.Basic
import ModelApi.Template.Printer
import ModelApi.Text.Classes
import ModelApi.Text.Camel
import ModelApi.Text.Join
import ModelApi.Text.LetterCase
import ModelApi.Text.Plural
import ModelApi.Text.Quoted
import ModelApi.Text.Reader
import ModelApi.Toml.Basic
import ModelApi.Toml.Grammar
import ModelApi.Proofs.Table.Provisioning
import ModelApi.Proofs.Table.Consistency
import ModelApi.Proofs.Table.Mirror
import ModelApi.Proofs.Json.Decoding
import ModelApi.Proofs.Config.RoundTrip
import ModelApi.Proofs.Directive.Collect
import ModelApi.Proofs.Compile.Actions
import ModelApi.Proofs.Compile.Steps
import ModelApi.Proofs.Compile.Plan
import ModelApi.Proofs.Compile.Build
import ModelApi.Proofs.Compile.RootFields
import ModelApi.Proofs.Compile.Tables
import ModelApi.Proofs.Compile.Ownership
import ModelApi.Proofs.Directive.WellFormed
import ModelApi.Proofs.Compile.Failures
import ModelApi.Proofs.Compile.Slots
import ModelApi.Proofs.Compile.PreAuth
import ModelApi.Proofs.Schema.Names
import ModelApi.Proofs.Compile.KeyTypes
import ModelApi.Proofs.Directive.Run
import ModelApi.Proofs.Compile.Placement
import ModelApi.Proofs.Compile.Resolvers
import ModelApi.Proofs.Compile.Gate
import ModelApi.Proofs.Directive.FieldRenames
import ModelApi.Proofs.Compile.FieldMaps
import ModelApi.Proofs.Compile.DataSources
import ModelApi.Proofs.Compile.Placeholders
import ModelApi.Proofs.Schema.Rearranged
import ModelApi.Proofs.Directive.Locality
import ModelApi.Proofs.Compile.OrderIndependence
import ModelApi.Proofs.Compile.SyncKeys
import ModelApi.Proofs.Resolver.Files
import ModelApi.Proofs.Resolver.KeyQuery
import ModelApi.Proofs.Directive.RuleOrder
import ModelApi.Proofs.Directive.Unsupported
import ModelApi.Proofs.Compile.Commits
import ModelApi.Proofs.Template.Blocks
import ModelApi.Proofs.Text.Lines
import ModelApi.Proofs.Template.Indentation
import ModelApi.Proofs.Compile.Statements

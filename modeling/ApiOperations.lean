import ApiOperations.CommandLine.Arguments
import ApiOperations.CommandLine.Command
import ApiOperations.CommandLine.Failure
import ApiOperations.CommandLine.Help
import ApiOperations.CommandLine.Run
import ApiOperations.Decimal.Binary64
import ApiOperations.Decimal.Layout
import ApiOperations.Decimal.Shortest
import ApiOperations.Description.Basic
import ApiOperations.Description.Fault
import ApiOperations.Description.Reading
import ApiOperations.Description.Shape
import ApiOperations.Description.Source
import ApiOperations.Description.Writing
import ApiOperations.Files
import ApiOperations.Json.Leaf
import ApiOperations.Json.Number
import ApiOperations.Json.Reader
import ApiOperations.Json.Value
import ApiOperations.Json.Writer
import ApiOperations.Main
import ApiOperations.Model.Api
import ApiOperations.Model.DataType
import ApiOperations.Model.DataType.OfSchema
import ApiOperations.Model.Grouping
import ApiOperations.Model.Method
import ApiOperations.Model.Name
import ApiOperations.Model.Operation
import ApiOperations.Model.Parameter.Resolution
import ApiOperations.Model.Parameter.Table
import ApiOperations.Model.Response.Classification
import ApiOperations.Model.Route
import ApiOperations.Model.Settings
import ApiOperations.Model.Settings.Source
import ApiOperations.Model.Source
import ApiOperations.Model.Status
import ApiOperations.Model.Summary
import ApiOperations.Reference.Chain
import ApiOperations.Reference.Fault
import ApiOperations.Reference.Pointer
import ApiOperations.Table
import ApiOperations.Text.Blank
import ApiOperations.Text.Casing
import ApiOperations.Text.CodePoints
import ApiOperations.Text.Documentation
import ApiOperations.Text.Letters
import ApiOperations.Text.Quoted
import ApiOperations.Text.Replace
import ApiOperations.Text.Table.Alphabetic
import ApiOperations.Text.Table.Casing
import ApiOperations.Text.Table.Unprintable
import ApiOperations.Text.Words
import ApiOperations.Tree.Atom
import ApiOperations.Tree.Basic
import ApiOperations.Tree.Reading
import ApiOperations.Tree.Shape
import ApiOperations.Yaml.Cursor
import ApiOperations.Yaml.Node
import ApiOperations.Yaml.Reader
import ApiOperations.Yaml.Resolution
import ApiOperations.Yaml.Scalar.Block
import ApiOperations.Yaml.Scalar.Gap
import ApiOperations.Yaml.Scalar.Plain
import ApiOperations.Yaml.Scalar.Presentation
import ApiOperations.Yaml.Scalar.Quoted
import ApiOperations.Yaml.Token
import ApiOperations.Yaml.Token.Directive
import ApiOperations.Yaml.Token.Scanner
import ApiOperations.Yaml.Token.Tag
import ApiOperations.Yaml.Writer
import ApiOperations.Proofs.Parameter.Table
import ApiOperations.Proofs.Operation.Definitions
import ApiOperations.Proofs.Operation.Override
import ApiOperations.Proofs.Api.Policy
import ApiOperations.Proofs.Api.Tables
import ApiOperations.Proofs.Reference.Chain
import ApiOperations.Proofs.Response.Partition
import ApiOperations.Proofs.DataType.Formed
import ApiOperations.Proofs.Operation.Dependencies
import ApiOperations.Proofs.Description.Upgrade
import ApiOperations.Proofs.Reference.Upgrade
import ApiOperations.Proofs.DataType.Upgrade
import ApiOperations.Proofs.Operation.Upgrade
import ApiOperations.Proofs.Api.Upgrade
import ApiOperations.Proofs.Operation.Checks
import ApiOperations.Proofs.Operation.ResponseOrder
import ApiOperations.Proofs.Reference.Location
import ApiOperations.Proofs.Description.RoundTrip
import ApiOperations.Proofs.Operation.Header
import ApiOperations.Proofs.DataType.Related
import ApiOperations.Proofs.Reference.Extension
import ApiOperations.Proofs.Operation.Extension
import ApiOperations.Proofs.Text.Spelling
import ApiOperations.Proofs.Route.Placeholders
import ApiOperations.Proofs.Api.Ignored
import ApiOperations.Proofs.Api.Routes
import ApiOperations.Proofs.Parameter.Declarations
import ApiOperations.Proofs.DataType.Composition
import ApiOperations.Proofs.DataType.References
import ApiOperations.Proofs.DataType.Keywords
import ApiOperations.Proofs.DataType.Proper
import ApiOperations.Proofs.Api.Groups
import ApiOperations.Proofs.CommandLine.Agreement
import ApiOperations.Proofs.Name.Ascii
import ApiOperations.Proofs.Operation.Naming
import ApiOperations.Proofs.Route.Renaming
import ApiOperations.Proofs.Reference.Escaping
import ApiOperations.Proofs.Status.Keys
import ApiOperations.Proofs.Response.Threshold
import ApiOperations.Proofs.Operation.Aliases
import ApiOperations.Proofs.Text.Documentation
import ApiOperations.Proofs.DataType.Label
import ApiOperations.Proofs.Route.Naming

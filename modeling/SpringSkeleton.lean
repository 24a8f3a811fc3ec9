import SpringSkeleton.Artifact
import SpringSkeleton.ClassModel.Basic
import SpringSkeleton.ClassModel.Extraction
import SpringSkeleton.ClassModel.Request
import SpringSkeleton.ClassModel.TestSource
import SpringSkeleton.CommandLine.Invocation
import SpringSkeleton.CommandLine.Option
import SpringSkeleton.CommandLine.Report
import SpringSkeleton.CommandLine.Run
import SpringSkeleton.Decimal.Shortest
import SpringSkeleton.Extractor
import SpringSkeleton.FeatureModule.Basic
import SpringSkeleton.FeatureModule.Rendering
import SpringSkeleton.FeatureModule.Request
import SpringSkeleton.FeatureModule.Writing
import SpringSkeleton.Java.Declaration
import SpringSkeleton.Java.Expression
import SpringSkeleton.Java.Failure
import SpringSkeleton.Java.Grammar
import SpringSkeleton.Java.Lexeme
import SpringSkeleton.Java.Modifier
import SpringSkeleton.Java.Number
import SpringSkeleton.Java.Pattern
import SpringSkeleton.Java.Program
import SpringSkeleton.Java.Quoted
import SpringSkeleton.Java.Statement
import SpringSkeleton.Java.Switch
import SpringSkeleton.Java.Token
import SpringSkeleton.Java.Type
import SpringSkeleton.Java.Word
import SpringSkeleton.Json.Cursor
import SpringSkeleton.Json.NumberText
import SpringSkeleton.Json.Problem
import SpringSkeleton.Json.Reader
import SpringSkeleton.Json.Record
import SpringSkeleton.Json.Schema
import SpringSkeleton.Json.Text
import SpringSkeleton.Json.Value
import SpringSkeleton.Json.Written
import SpringSkeleton.Keyed
import SpringSkeleton.Main
import SpringSkeleton.Name.Basic
import SpringSkeleton.Name.Problem
import SpringSkeleton.Operation
import SpringSkeleton.Path
import SpringSkeleton.Problem
import SpringSkeleton.Project.BasePackage
import SpringSkeleton.Project.Basic
import SpringSkeleton.Project.Creation
import SpringSkeleton.Project.Files
import SpringSkeleton.Rpc.Basic
import SpringSkeleton.Settings
import SpringSkeleton.SettingsFile
import SpringSkeleton.Status
import SpringSkeleton.Text.Alphabetic
import SpringSkeleton.Text.Blank
import SpringSkeleton.Text.Case
import SpringSkeleton.Text.CaseIgnorable
import SpringSkeleton.Text.CaseRun
import SpringSkeleton.Text.Cased
import SpringSkeleton.Text.CodeRanges
import SpringSkeleton.Text.Hidden
import SpringSkeleton.Text.LowerTable
import SpringSkeleton.Text.Numeric
import SpringSkeleton.Text.Pieces
import SpringSkeleton.Text.Quoted
import SpringSkeleton.Text.UpperTable
import SpringSkeleton.Text.WordPart
import SpringSkeleton.Text.WordStart
import SpringSkeleton.Toml.Cursor
import SpringSkeleton.Toml.Document
import SpringSkeleton.Toml.NumberText
import SpringSkeleton.Toml.Problem
import SpringSkeleton.Toml.Table
import SpringSkeleton.Toml.Text
import SpringSkeleton.Tool.Basic
import SpringSkeleton.Tool.Session
import SpringSkeleton.Tree.Basic
import SpringSkeleton.Tree.Changes
import SpringSkeleton.Tree.Disk
import SpringSkeleton.Tree.FileProblem
import SpringSkeleton.Tree.Location
import SpringSkeleton.Tree.Route
import SpringSkeleton.Tree.Writing
import SpringSkeleton.Proofs.Path.Steps
import SpringSkeleton.Proofs.Path.Parent
import SpringSkeleton.Proofs.Tree.Walk
import SpringSkeleton.Proofs.Tree.Reach
import SpringSkeleton.Proofs.Tree.Growth
import SpringSkeleton.Proofs.Tree.Target
import SpringSkeleton.Proofs.Tree.Overlay
import SpringSkeleton.Proofs.Tree.Staging
import SpringSkeleton.Proofs.Name.Steps
import SpringSkeleton.Proofs.Tree.Confined
import SpringSkeleton.Proofs.Project.Confinement
import SpringSkeleton.Proofs.Text.Casing
import SpringSkeleton.Proofs.Tree.Direct
import SpringSkeleton.Proofs.FeatureModule.Sound
import SpringSkeleton.Proofs.FeatureModule.Confinement
import SpringSkeleton.Proofs.FeatureModule.Delimiters
import SpringSkeleton.Proofs.Text.Lines
import SpringSkeleton.Proofs.FeatureModule.Reading
import SpringSkeleton.Proofs.FeatureModule.Members
import SpringSkeleton.Proofs.Json.Record
import SpringSkeleton.Proofs.Tool.Answers
import SpringSkeleton.Proofs.Project.Skeleton
import SpringSkeleton.Proofs.Path.Join
import SpringSkeleton.Proofs.Name.Packages
import SpringSkeleton.Proofs.Tree.Inside
import SpringSkeleton.Proofs.Tree.Revision
import SpringSkeleton.Proofs.Tree.Way
import SpringSkeleton.Proofs.Tree.Housed
import SpringSkeleton.Proofs.Project.Anchor
import SpringSkeleton.Proofs.FeatureModule.Course
import SpringSkeleton.Proofs.FeatureModule.Sequel
import SpringSkeleton.Proofs.FeatureModule.Order
import SpringSkeleton.Proofs.Project.Classes
import SpringSkeleton.Proofs.Project.Listing
import SpringSkeleton.Proofs.Project.Resolution
import SpringSkeleton.Proofs.FeatureModule.Placement
import SpringSkeleton.Proofs.Json.Written
import SpringSkeleton.Proofs.Tool.Stream
import SpringSkeleton.Proofs.ClassModel.Confinement
import SpringSkeleton.Proofs.FeatureModule.Anchorage
import SpringSkeleton.Proofs.Java.Scanning
import SpringSkeleton.Proofs.Java.Reading
import SpringSkeleton.Proofs.Java.Members
import SpringSkeleton.Proofs.Java.Casing
import SpringSkeleton.Proofs.Java.Strays
import SpringSkeleton.Proofs.FeatureModule.Sources
import SpringSkeleton.Proofs.FeatureModule.Declarations
import SpringSkeleton.Proofs.FeatureModule.Extraction
import SpringSkeleton.Proofs.FeatureModule.Refusal
import SpringSkeleton.Proofs.FeatureModule.Acceptance
import SpringSkeleton.Proofs.Tool.Failure
import SpringSkeleton.Proofs.Keyed
import SpringSkeleton.Proofs.CommandLine.Fields
import SpringSkeleton.Proofs.Json.Reading
import SpringSkeleton.Proofs.Json.RoundTrip
import SpringSkeleton.Proofs.Tool.Requests
import SpringSkeleton.Proofs.Tree.Agreement
import SpringSkeleton.Proofs.Tree.Refinement
import SpringSkeleton.Proofs.Tree.Stopped
import SpringSkeleton.Proofs.Tree.Modes
import SpringSkeleton.Proofs.Name.Normal
import SpringSkeleton.Proofs.FeatureModule.Admission
import SpringSkeleton.Proofs.Text.Bytes
import SpringSkeleton.Proofs.Project.Least
import SpringSkeleton.Proofs.Name.Casing
import SpringSkeleton.Proofs.FeatureModule.Derived
import SpringSkeleton.Proofs.Tree.Lasting
import SpringSkeleton.Proofs.Project.Title
import SpringSkeleton.Proofs.ClassModel.Blocks
import SpringSkeleton.Proofs.ClassModel.Mocks
import SpringSkeleton.Proofs.Java.Leaving.Types
import SpringSkeleton.Proofs.Java.Leaving.Expressions
import SpringSkeleton.Proofs.Java.Leaving.Items
import SpringSkeleton.Proofs.Java.Spelling
import SpringSkeleton.Proofs.Java.Naming
import SpringSkeleton.Proofs.ClassModel.Spacing
import SpringSkeleton.Proofs.Java.Declarators
import SpringSkeleton.Proofs.Java.Sites
import SpringSkeleton.Proofs.ClassModel.FieldTypes
